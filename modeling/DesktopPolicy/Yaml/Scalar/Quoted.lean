-- Scalars in quotes. Inside single quotes only a doubled quote stands for another character; inside
-- double quotes a backslash starts an escape. Lines are folded, and a scalar never goes on beyond
-- the boundary of a document.
import DesktopPolicy.Text.Utf8
import DesktopPolicy.Yaml.Fault
import DesktopPolicy.Yaml.Scalar.Plain

namespace DesktopPolicy.Yaml

/-- The characters that single letters behind a backslash stand for. -/
def letterEscapes : List (Char × Char) := [
  ('0', '\x00'), ('a', '\x07'), ('b', '\x08'), ('t', '\t'), ('\t', '\t'), ('n', '\n'),
  ('v', '\x0b'), ('f', '\x0c'), ('r', '\r'), ('e', '\x1b'), (' ', ' '), ('"', '"'), ('\\', '\\'),
  ('/', '/'), ('N', '\u0085'), ('_', '\u00a0'), ('L', '\u2028'), ('P', '\u2029')]

/-- How many hexadecimal digits follow a letter behind a backslash. -/
def hexWidths : List (Char × Nat) := [('x', 2), ('u', 4), ('U', 8)]

def isHexDigit (c : Char) : Bool := Decimal.digitValue c < 16

def hexEscape (width : Nat) (c : Cursor) : Except Fault (Char × Cursor) :=
  let digits := c.rest.take width
  if digits.length < width || !digits.all isHexDigit then .error .malformed
  else
    let n := Decimal.digitsNumber 16 digits
    if 0x10FFFF < n then .error (.codePoint n)
    else if Text.isHalf n then .error (.loneHalf n)
    else .ok (Char.ofNat n, c.skip width)

/-- The ends of the empty lines that follow, with blanks between. -/
def emptyLines : Nat → List Char → Cursor → Except Fault (List Char × Cursor)
  | 0, done, c => .ok (done.reverse, c)
  | turns + 1, done, c =>
    if atBoundary c.rest then .error .malformed
    else
      let behind := c.dropWhile fun ch => ch == ' ' || ch == '\t'
      match behind.lineBreak? with
      | some (b, after) => emptyLines turns (b :: done) after
      | none => .ok (done.reverse, behind)

/-- Blanks inside a scalar, folded if a line ends in them. -/
def quotedGap (c : Cursor) : Except Fault (List Char × Cursor) :=
  let (blanks, behind) := c.takeWhile fun ch => ch == ' ' || ch == '\t'
  match behind.lineBreak? with
  | some (b, after) =>
    (emptyLines (after.rest.length + 1) [] after).map fun (more, place) => (folded b more, place)
  | none => .ok (blanks, behind)

/-- What an escape stands for, from behind its backslash. An escaped end of a line stands for
nothing. -/
def escape (c : Cursor) : Except Fault (List Char × Cursor) :=
  match c.rest with
  | [] => .error .malformed
  | ch :: _ =>
    match letterEscapes.lookup ch, hexWidths.lookup ch with
    | some stands, _ => .ok ([stands], c.step)
    | none, some width => (hexEscape width c.step).map fun (stands, place) => ([stands], place)
    | none, none =>
      match c.lineBreak? with
      | some (_, after) => emptyLines (after.rest.length + 1) [] after
      | none => .error .malformed

/-- What the next characters inside quotes stand for, or `none` at the closing quote. -/
def quotedPart (double : Bool) (c : Cursor) : Except Fault (Option (List Char) × Cursor) :=
  match c.rest with
  | [] => .error .malformed
  | ch :: rest =>
    if atBlank (ch :: rest) then (quotedGap c).map fun (part, place) => (some part, place)
    else if !double && ch == '\'' then
      match rest with
      | '\'' :: _ => .ok (some ['\''], c.skip 2)
      | _ => .ok (none, c.step)
    else if double && ch == '"' then .ok (none, c.step)
    else if double && ch == '\\' then
      (escape c.step).map fun (part, place) => (some part, place)
    else .ok (some [ch], c.step)

def quotedFrom (double : Bool) : Nat → List Char → Cursor → Except Fault (String × Cursor)
  | 0, _, _ => .error .malformed
  | turns + 1, done, c =>
    match quotedPart double c with
    | .error fault => .error fault
    | .ok (none, place) => .ok (String.ofList done.reverse, place)
    | .ok (some part, place) => quotedFrom double turns (part.reverse ++ done) place

def quotedScalar (double : Bool) (c : Cursor) : Except Fault (String × Cursor) :=
  quotedFrom double (c.rest.length + 1) [] c.step

end DesktopPolicy.Yaml
