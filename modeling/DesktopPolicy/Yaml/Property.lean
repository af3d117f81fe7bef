-- What is said about nodes and documents: names of nodes, tags, and directives.
import DesktopPolicy.Yaml.Fault
import DesktopPolicy.Yaml.Scalar.Block
import DesktopPolicy.Yaml.Scalar.Quoted

namespace DesktopPolicy.Yaml

/-- A tag as it is written: a handle that stands for the start of a tag, and the rest of it. Without
a handle the rest is the whole tag. -/
structure TagMark where
  handle : Option String
  suffix : String
  deriving DecidableEq, Repr

inductive Directive where
  | version (major : Nat)
  | handle (handle start : String)
  | other
  deriving DecidableEq, Repr

/-! ## Names of nodes -/

/-- What may follow the name of a node. -/
def endsName : List Char → Bool
  | [] => true
  | c :: rest => atBlank (c :: rest) || "?:,]\x7d%@`".toList.contains c

def nodeName (c : Cursor) : Except Fault (String × Cursor) :=
  let (name, behind) := c.step.takeWhile isWordChar
  if name.isEmpty || !endsName behind.rest then .error .malformed
  else .ok (String.ofList name, behind)

/-! ## Tags -/

def isTagChar (c : Char) : Bool :=
  ('0' ≤ c && c ≤ '9') || ('A' ≤ c && c ≤ 'Z') || ('a' ≤ c && c ≤ 'z') ||
    "-;/?:@&=+$,_.!~*'()[]%".toList.contains c

def escapedBytes : Nat → List UInt8 → Cursor → Except Fault (List UInt8 × Cursor)
  | 0, done, c => .ok (done.reverse, c)
  | turns + 1, done, c =>
    match c.rest with
    | '%' :: a :: b :: _ =>
      if isHexDigit a && isHexDigit b then
        escapedBytes turns (UInt8.ofNat (Decimal.digitsNumber 16 [a, b]) :: done) (c.skip 3)
      else .error .malformed
    | '%' :: _ => .error .malformed
    | _ => .ok (done.reverse, c)

def escapedText (c : Cursor) : Except Fault (List Char × Cursor) := do
  let (bytes, place) ← escapedBytes (c.rest.length + 1) [] c
  match String.fromUTF8? bytes.toByteArray with
  | some text => .ok (text.toList, place)
  | none => .error .malformed

/-- Reads the characters of a tag. -/
def tagFrom : Nat → List Char → Cursor → Except Fault (String × Cursor)
  | 0, _, _ => .error .malformed
  | turns + 1, done, c =>
    match c.rest with
    | '%' :: _ =>
      match escapedText c with
      | .ok (part, place) => tagFrom turns (done ++ part) place
      | .error fault => .error fault
    | ch :: _ =>
      if isTagChar ch then tagFrom turns (done ++ [ch]) c.step
      else if done.isEmpty then .error .malformed
      else .ok (String.ofList done, c)
    | [] => if done.isEmpty then .error .malformed else .ok (String.ofList done, c)

def tagText (c : Cursor) : Except Fault (String × Cursor) := tagFrom (c.rest.length + 1) [] c

/-- A handle: an exclamation mark, or a word between two. -/
def tagHandle (c : Cursor) : Except Fault (String × Cursor) :=
  match c.rest with
  | '!' :: ' ' :: _ => .ok ("!", c.step)
  | '!' :: _ =>
    let (word, behind) := c.step.takeWhile isWordChar
    match behind.rest with
    | '!' :: _ => .ok (String.ofList ('!' :: word ++ ['!']), behind.step)
    | _ => .error .malformed
  | _ => .error .malformed

/-- A tag in angle brackets, from behind the opening one. -/
def wholeTag (c : Cursor) : Except Fault (TagMark × Cursor) := do
  let (suffix, behind) ← tagText c
  match behind.rest with
  | '>' :: _ => .ok (⟨none, suffix⟩, behind.step)
  | _ => .error .malformed

/-- A tag with its handle. A second exclamation mark ends a handle. -/
def shortTag (c : Cursor) : Except Fault (TagMark × Cursor) := do
  let marked := (c.step.rest.takeWhile fun ch => ch != ' ' && !isBreak ch).contains '!'
  let (handle, behind) ← if marked then tagHandle c else .ok ("!", c.step)
  let (suffix, place) ← tagText behind
  .ok (⟨some handle, suffix⟩, place)

def tagMark (c : Cursor) : Except Fault (TagMark × Cursor) := do
  let (tag, place) ←
    match c.step.rest with
    | '<' :: _ => wholeTag (c.skip 2)
    | rest => if atBlank rest then .ok (⟨none, "!"⟩, c.step) else shortTag c
  if atSpace place.rest then .ok (tag, place) else .error .malformed

/-! ## Directives -/

def versionNumber (c : Cursor) : Except Fault (Nat × Cursor) :=
  let (digits, behind) := c.takeWhile Decimal.isDigit
  if digits.isEmpty then .error .malformed
  else .ok (Decimal.digitsNumber 10 digits, behind)

def version (c : Cursor) : Except Fault (Directive × Cursor) := do
  let (major, behind) ← versionNumber c.skipSpaces
  match behind.rest with
  | '.' :: _ =>
    let (_, place) ← versionNumber behind.step
    if atSpace place.rest then .ok (.version major, place) else .error .malformed
  | _ => .error .malformed

/-- A handle, and behind spaces what it stands for. -/
def handleMeaning (c : Cursor) : Except Fault (Directive × Cursor) := do
  let (handle, behind) ← tagHandle c.skipSpaces
  match behind.rest with
  | ' ' :: _ =>
    let (start, place) ← tagText behind.skipSpaces
    if atSpace place.rest then .ok (.handle handle start, place) else .error .malformed
  | _ => .error .malformed

def directive (c : Cursor) : Except Fault (Directive × Cursor) := do
  let (name, behind) := c.step.takeWhile isWordChar
  if name.isEmpty || !atSpace behind.rest then .error .malformed
  else
    let (directive, place) ←
      match String.ofList name with
      | "YAML" => version behind
      | "TAG" => handleMeaning behind
      | _ => .ok (.other, behind.skipLine)
    let place ← ignoredLine place
    .ok (directive, place)

end DesktopPolicy.Yaml
