-- Files of assignments. A line gives a value to a name. The value may stand in quotes, and then it
-- may have several lines. References in a value are replaced by what was assigned before, or else by
-- what the environment holds. A line that is no assignment is skipped.
import DesktopPolicy.Environment
import DesktopPolicy.Text.Blank
import DesktopPolicy.Text.Breaks

namespace DesktopPolicy

/-- A name with its value. A name that stands alone has none. -/
structure Assignment where
  name : String
  value : Option String
  deriving DecidableEq, Repr

namespace Assignment

/-! ## Parts of lines -/

/-- A blank that ends no line. -/
def isGap (c : Char) : Bool := Text.isBlank c && c != '\n'

def dropGaps (cs : List Char) : List Char := cs.dropWhile isGap

def atLineEnd : List Char → Bool
  | [] => true
  | c :: _ => c == '\n'

def line (cs : List Char) : List Char × List Char := cs.span (· != '\n')

/-- What stands behind a word for export, if the word and a blank are here. -/
def behindExport (cs : List Char) : List Char :=
  let word := "export".toList
  let rest := cs.drop word.length
  if word.isPrefixOf cs && rest.head?.any isGap then dropGaps rest else cs

/-- A name in single quotes, or a row of characters other than blanks, equals signs and number
signs. A comment has no name. -/
def name? (cs : List Char) : Option (Option (List Char) × List Char) :=
  match cs with
  | '#' :: _ => some (none, cs)
  | '\'' :: rest =>
    match rest.span (· != '\'') with
    | (name, _ :: behind) => if name.isEmpty then none else some (some name, behind)
    | (_, []) => none
  | cs =>
    match cs.span fun c => c != '=' && c != '#' && !Text.isBlank c with
    | ([], _) => none
    | (name, behind) => some (some name, behind)

/-! ## Values in quotes -/

def closingAt (quote : Char) : Nat → List Char → Option Nat
  | _, [] => none
  | place, '\\' :: c :: rest =>
    if c == quote then closingAt quote (place + 2) rest
    else closingAt quote (place + 1) (c :: rest)
  | place, c :: rest => if c == quote then some place else closingAt quote (place + 1) rest

def lastAt (quote : Char) (cs : List Char) : Option Nat :=
  let behind := cs.reverse.takeWhile (· != quote)
  if behind.length < cs.length then some (cs.length - behind.length - 1) else none

/-- The text up to the closing quote, and what follows the quote. When every quote has a backslash
before it, the last one closes. -/
def quoted? (quote : Char) (cs : List Char) : Option (List Char × List Char) :=
  ((closingAt quote 0 cs).or (lastAt quote cs)).map fun place =>
    (cs.take place, cs.drop (place + 1))

/-- What letters behind a backslash stand for, inside double quotes. -/
def doubleEscapes : List (Char × Char) := [
  ('\\', '\\'), ('\'', '\''), ('"', '"'), ('a', '\x07'), ('b', '\x08'), ('f', '\x0c'),
  ('n', '\n'), ('r', '\r'), ('t', '\t'), ('v', '\x0b')]

/-- What letters behind a backslash stand for, inside single quotes. -/
def singleEscapes : List (Char × Char) := [('\\', '\\'), ('\'', '\'')]

def unescaped (escapes : List (Char × Char)) : List Char → List Char
  | [] => []
  | '\\' :: c :: rest =>
    match escapes.lookup c with
    | some stands => stands :: unescaped escapes rest
    | none => '\\' :: unescaped escapes (c :: rest)
  | c :: rest => c :: unescaped escapes rest

/-! ## Bare values -/

def beforeComment (behindBlank : Bool) : List Char → List Char
  | [] => []
  | c :: rest =>
    if c == '#' && behindBlank then [] else c :: beforeComment (Text.isBlank c) rest

/-- A value without quotes: the line without its comment and the blanks at its end. -/
def bare (cs : List Char) : List Char × List Char :=
  let (content, rest) := line cs
  (Text.trimEnd (beforeComment false content), rest)

/-- A value, and what follows it. -/
def value? (cs : List Char) : Option (List Char × List Char) :=
  match cs with
  | '\'' :: rest => (quoted? '\'' rest).map fun (text, rest) => (unescaped singleEscapes text, rest)
  | '"' :: rest => (quoted? '"' rest).map fun (text, rest) => (unescaped doubleEscapes text, rest)
  | cs => some (bare cs)

/-! ## Lines -/

/-! A part is read with what follows it, or it goes wrong somewhere. -/

/-- A reading that goes wrong at `cs`. -/
def orAt {α : Type} (cs : List Char) (reading : Option (α × List Char)) :
    Except (List Char) (α × List Char) :=
  match reading with
  | some found => .ok found
  | none => .error cs

def optionalValue (cs : List Char) :
    Except (List Char) (Option (List Char) × List Char) :=
  match cs with
  | '=' :: rest =>
    let rest := dropGaps rest
    (orAt rest (value? rest)).map fun (text, rest) => (some text, rest)
  | cs => .ok (none, cs)

/-- What stands behind a comment, if there is one, and the end of the line. -/
def lineRest (cs : List Char) : Except (List Char) (List Char) :=
  let behind := match dropGaps cs with
    | '#' :: rest => (line rest).2
    | _ => cs
  let rest := dropGaps behind
  if atLineEnd rest then .ok (rest.drop 1) else .error behind

def one (cs : List Char) : Except (List Char) (Option Assignment × List Char) := do
  let start := behindExport cs
  let (name, rest) ← orAt start (name? start)
  let (value, rest) ← optionalValue (dropGaps rest)
  let rest ← lineRest rest
  .ok (name.map fun name => ⟨String.ofList name, value.map String.ofList⟩, rest)

/-- The assignments of a text. A line that goes wrong is skipped from there to its end. -/
def allFrom : Nat → List Char → List Assignment
  | 0, _ => []
  | turns + 1, cs =>
    match cs.dropWhile Text.isBlank with
    | [] => []
    | start =>
      match one start with
      | .ok (some found, rest) => found :: allFrom turns rest
      | .ok (none, rest) => allFrom turns rest
      | .error stop => allFrom turns ((line stop).2.drop 1)

def ofText (text : String) : List Assignment := allFrom (text.length + 1) (Text.uniformBreaks text.toList)

/-! ## References -/

/-- What a reference is replaced by, and how many characters it takes behind its dollar sign. A
reference is a name in braces; behind a colon and a dash it may tell a text for when the name has no
value. -/
def reference? (value : String → Option String) (cs : List Char) : Option (List Char × Nat) :=
  match cs with
  | '\x7b' :: rest =>
    let name := rest.takeWhile fun c => c != '\x7d' && c != ':'
    let found (absent : List Char) : List Char :=
      match value (String.ofList name) with
      | some text => text.toList
      | none => absent
    match rest.drop name.length with
    | '\x7d' :: _ => some (found [], name.length + 2)
    | ':' :: '-' :: more =>
      let absent := more.takeWhile (· != '\x7d')
      if absent.length < more.length then some (found absent, name.length + absent.length + 4)
      else none
    | _ => none
  | _ => none

def replaced (value : String → Option String) : List Char → List Char
  | [] => []
  | c :: rest =>
    if c == '$' then
      match reference? value rest with
      | some (content, width) => content ++ replaced value (rest.drop width)
      | none => c :: replaced value rest
    else c :: replaced value rest
termination_by cs => cs.length
decreasing_by all_goals simp; try omega

abbrev Values := List (String × Option String)

/-- The values with one more: in the place of the name if it is there, or at the end. -/
def assign (name : String) (value : Option String) : Values → Values
  | [] => [(name, value)]
  | (other, old) :: rest =>
    if other == name then (name, value) :: rest else (other, old) :: assign name value rest

/-- The value that a reference finds: what was assigned before, or what the environment holds. A
name that was assigned nothing has an empty value, even if the environment has one. -/
def find (env : Environment) (before : Values) (name : String) : Option String :=
  match before.lookup name with
  | some value => some (value.getD "")
  | none => env.lookup name

/-- The values that the assignments give to names, one after the other. -/
def values (env : Environment) (assignments : List Assignment) : Values :=
  assignments.foldl (fun before assignment =>
    let text := assignment.value.map fun text =>
      String.ofList (replaced (find env before) text.toList)
    assign assignment.name text before) []

end Assignment

end DesktopPolicy
