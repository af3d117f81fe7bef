-- Scalars without quotes. They end where something follows that could not be told from their text:
-- a comment, a colon with a blank behind it, or a mark of a flow collection inside one. They may go
-- on in the next line if that is further in than the collection around them.
import DesktopPolicy.Yaml.Cursor

namespace DesktopPolicy.Yaml

/-- A character that ends a plain scalar inside a flow collection. -/
def endsPlainInFlow (c : Char) : Bool :=
  c == ',' || c == '?' || c == '[' || c == ']' || c == '\x7b' || c == '\x7d'

/-- What follows a colon makes it the mark of a value. -/
def atValueEnd (inFlow : Bool) (cs : List Char) : Bool :=
  atBlank cs || (inFlow && match cs with
    | c :: _ => c == ',' || c == '[' || c == ']' || c == '\x7b' || c == '\x7d'
    | [] => false)

/-- The text up to the first blank or the end of the scalar. -/
def plainWord (inFlow : Bool) : List Char → List Char
  | [] => []
  | c :: rest =>
    if atBlank (c :: rest) || (c == ':' && atValueEnd inFlow rest) ||
        (inFlow && endsPlainInFlow c) then []
    else c :: plainWord inFlow rest

/-- What lies between two words: the text it stands for, and whether a line ended in it. Nothing is
told about what lies before the boundary of a document. -/
structure Gap where
  text : List Char
  broken : Bool
  after : Cursor

/-- The ends of the lines that follow, with spaces between. There are none before the boundary of a
document. -/
def lineEnds : Nat → List Char → Cursor → Option (List Char) × Cursor
  | 0, done, c => (some done.reverse, c)
  | turns + 1, done, c =>
    match c.lineBreak? with
    | some (b, after) =>
      if atBoundary after.rest then (none, after) else lineEnds turns (b :: done) after
    | none =>
      match c.rest with
      | ' ' :: _ => lineEnds turns done c.step
      | _ => (some done.reverse, c)

/-- The end of a line and the ends of the empty lines behind it, folded: the first end of a line
becomes a space, or nothing when more follow. -/
def folded (first : Char) (more : List Char) : List Char :=
  (if first != '\n' then [first] else if more.isEmpty then [' '] else []) ++ more

def plainGap (c : Cursor) : Gap :=
  let (spaces, behind) := c.takeWhile (· == ' ')
  match behind.lineBreak? with
  | none => ⟨spaces, false, behind⟩
  | some (b, after) =>
    if atBoundary after.rest then ⟨[], true, after⟩
    else
      match lineEnds (after.rest.length + 1) [] after with
      | (none, place) => ⟨[], true, place⟩
      | (some more, place) => ⟨folded b more, true, place⟩

/-- A plain scalar, whether a line ended behind its last word, and the place behind it. -/
structure PlainScalar where
  text : String
  broken : Bool
  after : Cursor

def atComment : List Char → Bool
  | '#' :: _ => true
  | _ => false

/-- Reads words and gaps. A scalar goes on only at `indent` or further in, unless it is in a flow
collection. -/
def plainFrom (inFlow : Bool) (indent : Nat) : Nat → List Char → Gap → PlainScalar
  | 0, done, gap => ⟨String.ofList done, gap.broken, gap.after⟩
  | turns + 1, done, gap =>
    let word := if atComment gap.after.rest then [] else plainWord inFlow gap.after.rest
    if word.isEmpty then ⟨String.ofList done, gap.broken, gap.after⟩
    else
      let done := done ++ gap.text ++ word
      let next := plainGap (gap.after.skip word.length)
      if next.text.isEmpty || (!inFlow && next.after.column < indent) then
        ⟨String.ofList done, next.broken, next.after⟩
      else plainFrom inFlow indent turns done next

def plainScalar (inFlow : Bool) (indent : Nat) (c : Cursor) : PlainScalar :=
  plainFrom inFlow indent (c.rest.length + 1) [] ⟨[], false, c⟩

end DesktopPolicy.Yaml
