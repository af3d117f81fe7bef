-- A place in the text of a document: what follows it, and where it is.
namespace DesktopPolicy.Yaml

def isBreak (c : Char) : Bool := c == '\n' || c == '\u0085' || c == '\u2028' || c == '\u2029'

/-- A place in a text. Columns and lines count from zero. -/
structure Cursor where
  rest : List Char
  index : Nat := 0
  line : Nat := 0
  column : Nat := 0

def atSpace : List Char → Bool
  | [] => true
  | c :: _ => c == ' ' || isBreak c

def atBlank : List Char → Bool
  | [] => true
  | c :: _ => c == ' ' || c == '\t' || isBreak c

def atLineEnd : List Char → Bool
  | [] => true
  | c :: _ => isBreak c

/-- A character that names, handles and words of directives are made of. -/
def isWordChar (c : Char) : Bool :=
  ('0' ≤ c && c ≤ '9') || ('A' ≤ c && c ≤ 'Z') || ('a' ≤ c && c ≤ 'z') || c == '-' || c == '_'

/-- The mark that starts a document or ends one, between blanks. Marks stand at the starts of
lines. -/
def atMark (mark : Char) : List Char → Bool
  | a :: b :: c :: rest => a == mark && b == mark && c == mark && atBlank rest
  | _ => false

/-- The mark between two documents, of either kind. -/
def atBoundary (cs : List Char) : Bool := atMark '-' cs || atMark '.' cs

namespace Cursor

/-- One character on. The mark of the byte order takes no column. -/
def step (c : Cursor) : Cursor :=
  match c.rest with
  | [] => c
  | ch :: rest =>
    if isBreak ch then ⟨rest, c.index + 1, c.line + 1, 0⟩
    else ⟨rest, c.index + 1, c.line, if ch == '\uFEFF' then c.column else c.column + 1⟩

def skip : Nat → Cursor → Cursor
  | 0, c => c
  | n + 1, c => skip n c.step

/-- The characters up to the first that fails the test, and the place behind them. -/
def takeWhile (p : Char → Bool) (c : Cursor) : List Char × Cursor :=
  let taken := c.rest.takeWhile p
  (taken, c.skip taken.length)

def dropWhile (p : Char → Bool) (c : Cursor) : Cursor := (c.takeWhile p).2

/-- The end of a line if it is here, as the text takes it over. -/
def lineBreak? (c : Cursor) : Option (Char × Cursor) :=
  match c.rest with
  | ch :: _ => if isBreak ch then some (if ch == '\u0085' then '\n' else ch, c.step) else none
  | [] => none

def skipSpaces (c : Cursor) : Cursor := c.dropWhile (· == ' ')

def skipLine (c : Cursor) : Cursor := c.dropWhile fun ch => !isBreak ch

def skipComment (c : Cursor) : Cursor :=
  match c.rest with
  | '#' :: _ => c.skipLine
  | _ => c

def skipBreak (c : Cursor) : Cursor :=
  match c.lineBreak? with
  | some (_, after) => after
  | none => c

end Cursor

end DesktopPolicy.Yaml
