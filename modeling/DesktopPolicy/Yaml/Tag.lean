-- Tags: what kind of value a node stands for. A node without a tag gets one from its form; for a
-- plain scalar the text decides, and a text that has no other form is a text.
import DesktopPolicy.Decimal.Numeral

namespace DesktopPolicy.Yaml

/-- The kind of value that a node stands for. -/
inductive Tag where
  | null
  | bool
  | int
  | float
  | binary
  | time
  | orderedMap
  | pairs
  | set
  | text
  | sequence
  | map
  /-- The key whose value is merged into the map around it. -/
  | merge
  /-- The key whose value stands for the whole map. -/
  | value
  | unknown (tag : String)
  deriving DecidableEq, Repr

namespace Tag

/-- How the full tags of the language start. -/
def start : String := "tag:yaml.org,2002:"

def named : List (String × Tag) := [
  ("null", null), ("bool", bool), ("int", int), ("float", float), ("binary", binary),
  ("timestamp", time), ("omap", orderedMap), ("pairs", pairs), ("set", set), ("str", text),
  ("seq", sequence), ("map", map)]

/-- The tag that a full tag names. Nothing can be made of the tags of special keys when they stand
in front of a node. -/
def ofFull (full : String) : Tag :=
  match named.find? fun entry => start ++ entry.1 == full with
  | some entry => entry.2
  | none =>
    if full == start ++ "merge" then merge
    else if full == start ++ "value" then value
    else unknown full

/-! ## Forms of plain scalars -/

/-- A text without the line end at its end, if there is one. Forms do not look at it. -/
def withoutLastBreak (cs : List Char) : List Char :=
  if cs.getLast? == some '\n' then cs.dropLast else cs

def isDigit (c : Char) : Bool := '0' ≤ c && c ≤ '9'

/-- A digit, or a line between digits. -/
def isSpacedDigit (c : Char) : Bool := isDigit c || c == '_'

def dropSign : List Char → List Char
  | '-' :: rest => rest
  | '+' :: rest => rest
  | rest => rest

def truths : List (String × Bool) := [
  ("yes", true), ("no", false), ("true", true), ("false", false), ("on", true), ("off", false)]

def spellings (word : String) : List (List Char) :=
  let cs := word.toList
  let upper := cs.map Char.toUpper
  [cs, upper.take 1 ++ cs.drop 1, upper]

def isSpelled (words : List String) (cs : List Char) : Bool :=
  words.any fun word => (spellings word).contains cs

def isTruth (cs : List Char) : Bool := isSpelled (truths.map (·.1)) cs

def isPower : List Char → Bool
  | [] => true
  | mark :: sign :: digits =>
    (mark == 'e' || mark == 'E') && (sign == '-' || sign == '+') && !digits.isEmpty &&
      digits.all isDigit
  | _ => false

/-- Sixtieths behind colons: one digit, or two of which the first is at most five. -/
def isSixtieth : List Char → Bool
  | [d] => isDigit d
  | [d, e] => '0' ≤ d && d ≤ '5' && isDigit e
  | _ => false

def colonParts (cs : List Char) : List (List Char) :=
  cs.splitOn ':'

def isPointed (cs : List Char) : Bool :=
  match cs.span isSpacedDigit with
  | (before, '.' :: rest) =>
    match before with
    | d :: _ => isDigit d && isPower (rest.dropWhile isSpacedDigit)
    | [] => false
  | _ => false

def isFraction : List Char → Bool
  | '.' :: d :: rest => isDigit d && isPower (rest.dropWhile isSpacedDigit)
  | _ => false

/-- A number in parts of sixty with a point behind. -/
def isSixtiethsPoint (cs : List Char) : Bool :=
  match cs.span (· != '.') with
  | (before, '.' :: rest) =>
    rest.all isSpacedDigit &&
      match colonParts before with
      | first :: sixtieth :: more =>
        first.all isSpacedDigit && (first.head?.any isDigit) && (sixtieth :: more).all isSixtieth
      | _ => false
  | _ => false

def isPointWord (words : List String) : List Char → Bool
  | '.' :: word => isSpelled words word
  | _ => false

/-- The spellings of "nan" have capitals at both ends or none. -/
def isUndefined (cs : List Char) : Bool :=
  [".nan".toList, ".NaN".toList, ".NAN".toList].contains cs

def isFloat (cs : List Char) : Bool :=
  isPointed (dropSign cs) || isFraction cs || isSixtiethsPoint (dropSign cs) ||
    isPointWord ["inf"] (dropSign cs) || isUndefined cs

/-- A row of digits that pass, and at least one of them. -/
def isRow (p : Char → Bool) (cs : List Char) : Bool := !cs.isEmpty && cs.all p

/-- A whole number without its sign: binary, with a zero in front, decimal, hexadecimal, or in parts
of sixty. -/
def isUnsigned (cs : List Char) : Bool :=
  match cs with
  | ['0'] => true
  | '0' :: 'b' :: rest => isRow (fun c => c == '0' || c == '1' || c == '_') rest
  | '0' :: 'x' :: rest => isRow (fun c => Decimal.digitValue c < 16 || c == '_') rest
  | '0' :: rest => isRow (fun c => ('0' ≤ c && c ≤ '7') || c == '_') rest
  | c :: _ =>
    '1' ≤ c && c ≤ '9' &&
      match colonParts cs with
      | first :: rest => first.all isSpacedDigit && rest.all isSixtieth
      | [] => false
  | [] => false

def isInt (cs : List Char) : Bool := isUnsigned (dropSign cs)

def isNull (cs : List Char) : Bool := cs == ['~'] || isSpelled ["null"] cs

/-! ## Points in time -/

/-- The parts of a point in time, in digits. -/
structure TimeText where
  year : List Char
  month : List Char
  day : List Char
  /-- Hour, minute, second and fraction of the second. -/
  clock : Option (List Char × List Char × List Char × List Char) := none
  /-- Whether the zone is behind universal time, and its hours and minutes. -/
  zone : Option (Bool × List Char × List Char) := none

/-- Digits at the start of a text: as many as there are, but at least `least` and at most `most`. -/
def takeDigits (least most : Nat) (cs : List Char) : Option (List Char × List Char) :=
  let digits := (cs.take most).takeWhile isDigit
  if digits.length < least then none else some (digits, cs.drop digits.length)

def behind (c : Char) : List Char → Option (List Char)
  | d :: rest => if d == c then some rest else none
  | [] => none

def isSpaceOrTab (c : Char) : Bool := c == ' ' || c == '\t'

/-- What stands behind the mark between a date and a time of day. -/
def behindDateMark : List Char → Option (List Char)
  | 'T' :: rest => some rest
  | 't' :: rest => some rest
  | cs =>
    let rest := cs.dropWhile isSpaceOrTab
    if rest.length < cs.length then some rest else none

def zoneText (cs : List Char) : Option (Option (Bool × List Char × List Char)) :=
  match cs with
  | [] => some none
  | _ =>
    match cs.dropWhile isSpaceOrTab with
    | ['Z'] => some (some (false, ['0'], []))
    | sign :: rest => do
      let (hours, rest) ← takeDigits 1 2 rest
      let (minutes, rest) ← match rest with
        | ':' :: more => takeDigits 2 2 more
        | rest => some ([], rest)
      if (sign == '-' || sign == '+') && rest.isEmpty then some (some (sign == '-', hours, minutes))
      else none
    | [] => none

/-- A point in time. A day alone, or a day and a time with a fraction of the second and a zone. -/
def timeText? (cs : List Char) : Option TimeText := do
  let (year, rest) ← takeDigits 4 4 cs
  let rest ← behind '-' rest
  let (month, rest) ← takeDigits 1 2 rest
  let rest ← behind '-' rest
  let (day, rest) ← takeDigits 1 2 rest
  if rest.isEmpty then some { year, month, day }
  else
    let rest ← behindDateMark rest
    let (hour, rest) ← takeDigits 1 2 rest
    let rest ← behind ':' rest
    let (minute, rest) ← takeDigits 2 2 rest
    let rest ← behind ':' rest
    let (second, rest) ← takeDigits 2 2 rest
    let (fraction, rest) := Decimal.fractionDigits rest
    let zone ← zoneText rest
    some { year, month, day, clock := some (hour, minute, second, fraction), zone }

/-- A point in time that needs no tag. A day alone needs two digits for month and day. -/
def isTime (cs : List Char) : Bool :=
  match timeText? cs with
  | some t => t.clock.isSome || (t.month.length == 2 && t.day.length == 2)
  | none => false

/-! ## Tags without a mark -/

/-- The tag of a plain scalar with a text. -/
def ofPlain (text : String) : Tag :=
  if text.isEmpty then null
  else
    let cs := withoutLastBreak text.toList
    if isTruth cs then bool
    else if isFloat cs then float
    else if isInt cs then int
    else if cs == ['<', '<'] then merge
    else if isNull cs then null
    else if isTime cs then time
    else if cs == ['='] then value
    else Tag.text

end Tag

end DesktopPolicy.Yaml
