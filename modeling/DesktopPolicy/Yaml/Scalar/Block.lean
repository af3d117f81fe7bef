-- Scalars in blocks of lines. Every line of a block starts at one column, found from its first line
-- or told in its header. A literal block keeps its lines, a folded one joins those that do not start
-- with blanks. The header also tells what becomes of the line ends behind the last line.
import DesktopPolicy.Yaml.Fault
import DesktopPolicy.Yaml.Cursor

namespace DesktopPolicy.Yaml

/-- What becomes of the line ends behind the last line of a block. -/
inductive Chomping where
  | clip
  | strip
  | keep
  deriving DecidableEq, Repr

structure BlockHeader where
  chomping : Chomping := .clip
  /-- How much further in than the collection around it the block is. -/
  indent : Option Nat := none

/-- A mark of chomping, if it is here. -/
def chompingMark? (c : Cursor) : Option (Chomping × Cursor) :=
  match c.rest with
  | '+' :: _ => some (.keep, c.step)
  | '-' :: _ => some (.strip, c.step)
  | _ => none

/-- A digit for the indent, if it is here. Zero is none. -/
def indentMark? (c : Cursor) : Except Fault (Option (Nat × Cursor)) :=
  match c.rest with
  | ch :: _ =>
    if ch == '0' then .error .malformed
    else if '1' ≤ ch && ch ≤ '9' then .ok (some (ch.toNat - 48, c.step))
    else .ok none
  | [] => .ok none

/-- The header with the mark of chomping first, or the indent. -/
def blockMarks (c : Cursor) : Except Fault (BlockHeader × Cursor) :=
  match chompingMark? c with
  | some (chomping, after) => do
    match ← indentMark? after with
    | some (indent, place) => .ok (⟨chomping, some indent⟩, place)
    | none => .ok (⟨chomping, none⟩, after)
  | none => do
    match ← indentMark? c with
    | none => .ok ({}, c)
    | some (indent, after) =>
      match chompingMark? after with
      | some (chomping, place) => .ok (⟨chomping, some indent⟩, place)
      | none => .ok (⟨.clip, some indent⟩, after)

def ignoredLine (c : Cursor) : Except Fault Cursor :=
  let behind := c.skipSpaces.skipComment
  if atLineEnd behind.rest then .ok behind.skipBreak else .error .malformed

def blockHeader (c : Cursor) : Except Fault (BlockHeader × Cursor) := do
  let (header, behind) ← blockMarks c
  if atSpace behind.rest then do
    let place ← ignoredLine behind
    .ok (header, place)
  else .error .malformed

/-- The ends of the lines before the first with text, and the widest column reached on the way. -/
def leadingLines : Nat → List Char → Nat → Cursor → List Char × Nat × Cursor
  | 0, done, widest, c => (done.reverse, widest, c)
  | turns + 1, done, widest, c =>
    match c.lineBreak? with
    | some (b, after) => leadingLines turns (b :: done) widest after
    | none =>
      match c.rest with
      | ' ' :: _ => leadingLines turns done (max widest c.step.column) c.step
      | _ => (done.reverse, widest, c)

def skipIndent (indent : Nat) (c : Cursor) : Cursor :=
  c.skip (min (indent - c.column) (c.rest.takeWhile (· == ' ')).length)

/-- The ends of the empty lines that follow, and the place in the next line where the block is. -/
def blockBreaks (indent : Nat) : Nat → List Char → Cursor → List Char × Cursor
  | 0, done, c => (done.reverse, c)
  | turns + 1, done, c =>
    let behind := skipIndent indent c
    match behind.lineBreak? with
    | some (b, after) => blockBreaks indent turns (b :: done) after
    | none => (done.reverse, behind)

def startsFlush : List Char → Bool
  | c :: _ => c != ' ' && c != '\t'
  | [] => true

def inBlock (indent : Nat) (c : Cursor) : Bool := c.column == indent && !c.rest.isEmpty

def joint (fold : Bool) (lineEnd : List Char) (bothFlush : Bool) (breaks : List Char) : List Char :=
  if fold && lineEnd == ['\n'] && bothFlush then (if breaks.isEmpty then [' '] else []) ++ breaks
  else lineEnd ++ breaks

/-- Reads the lines of a block. The end of the last line and the ends of the empty lines behind it
are left to the chomping. -/
def blockLines (fold : Bool) (indent : Nat) :
    Nat → List Char → Cursor → List Char × List Char × List Char × Cursor
  | 0, done, c => (done, [], [], c)
  | turns + 1, done, c =>
    let (line, behind) := c.takeWhile fun ch => !isBreak ch
    let (lineEnd, after) : List Char × Cursor := match behind.lineBreak? with
      | some (b, after) => ([b], after)
      | none => ([], behind)
    let (breaks, place) := blockBreaks indent (after.rest.length + 1) [] after
    let done := done ++ line
    if inBlock indent place then
      let bothFlush := startsFlush c.rest && startsFlush place.rest
      blockLines fold indent turns (done ++ joint fold lineEnd bothFlush breaks) place
    else (done, lineEnd, breaks, place)

/-- Where the lines of a block start, the ends of the empty lines before the first, and the place
behind them. -/
def blockStart (outer : Nat) (indent : Option Nat) (c : Cursor) : Nat × List Char × Cursor :=
  match indent with
  | some more =>
    let indent := outer + more - 1
    let (breaks, place) := blockBreaks indent (c.rest.length + 1) [] c
    (indent, breaks, place)
  | none =>
    let (breaks, widest, place) := leadingLines (c.rest.length + 1) [] 0 c
    (max outer widest, breaks, place)

/-- A block, from its mark. The collection around it allows it from the column `outer` on. -/
def blockScalar (fold : Bool) (outer : Nat) (c : Cursor) : Except Fault (String × Cursor) := do
  let (header, place) ← blockHeader c.step
  let (indent, leading, place) := blockStart outer header.indent place
  let (text, lineEnd, breaks, place) : List Char × List Char × List Char × Cursor :=
    if inBlock indent place then blockLines fold indent (place.rest.length + 1) leading place
    else ([], [], leading, place)
  let tail := match header.chomping with
    | .strip => []
    | .clip => lineEnd
    | .keep => lineEnd ++ breaks
  .ok (String.ofList (text ++ tail), place)

end DesktopPolicy.Yaml
