-- Tokens: the marks and scalars of a document in their order. Blocks are opened and closed by
-- tokens of their own, found from the columns. What turns out to be a key only at the colon behind
-- it gets its mark afterwards, in the place where it started.
import DesktopPolicy.Yaml.Property

namespace DesktopPolicy.Yaml

/-- A mark or a scalar. -/
inductive Token where
  | directive (directive : Directive)
  | documentStart
  | documentEnd
  | blockSequence
  | blockMapping
  | blockEnd
  | flowSequence
  | flowSequenceEnd
  | flowMapping
  | flowMappingEnd
  | item
  | comma
  | key
  | value
  | alias (name : String)
  | anchor (name : String)
  | tag (tag : TagMark)
  | scalar (text : String) (plain : Bool)
  deriving DecidableEq, Repr

/-- A place where a key may have started. -/
structure PendingKey where
  /-- How many tokens stand before it. -/
  number : Nat
  required : Bool
  index : Nat
  line : Nat
  column : Nat

/-- The most characters of a key that gets its mark afterwards. -/
def longestKey : Nat := 1024

/-- The key can no longer be one when it is over there. -/
def PendingKey.isStale (key : PendingKey) (c : Cursor) : Bool :=
  key.line != c.line || longestKey < c.index - key.index

/-- How far a document has been taken apart. -/
structure Progress where
  cursor : Cursor
  tokens : List Token := []
  /-- The columns of the open blocks, innermost first. -/
  columns : List Nat := []
  /-- Where a key may have started, in the innermost flow collection. -/
  pending : Option PendingKey := none
  /-- Where keys may have started around the open flow collections, innermost first. -/
  outer : List (Option PendingKey) := []
  keyAllowed : Bool := true

namespace Progress

def inFlow (p : Progress) : Bool := !p.outer.isEmpty

def indent (p : Progress) : Nat :=
  match p.columns with
  | [] => 0
  | column :: _ => column + 1

def column (p : Progress) : Nat := p.cursor.column

def push (token : Token) (p : Progress) : Progress := { p with tokens := token :: p.tokens }

/-- One mark, so many characters long. -/
def mark (token : Token) (width : Nat) (p : Progress) : Progress :=
  { p with tokens := token :: p.tokens, cursor := p.cursor.skip width }

def insert (number : Nat) (token : Token) (p : Progress) : Progress :=
  { p with tokens := p.tokens.insertIdx (p.tokens.length - number) token }

def allowKey (allowed : Bool) (p : Progress) : Progress := { p with keyAllowed := allowed }

/-! ## Blocks -/

def closeBlocks (isOpen : Nat → Bool) : List Nat → List Token → List Nat × List Token
  | [], tokens => ([], tokens)
  | column :: rest, tokens =>
    if isOpen column then (column :: rest, tokens) else closeBlocks isOpen rest (.blockEnd :: tokens)

/-- Closes the blocks that end before this column. Inside flow collections columns do not count. -/
def unwind (p : Progress) : Progress :=
  if p.inFlow then p
  else
    let (columns, tokens) := closeBlocks (· ≤ p.column) p.columns p.tokens
    { p with columns, tokens }

def unwindAll (p : Progress) : Progress :=
  if p.inFlow then p
  else
    let (columns, tokens) := closeBlocks (fun _ => false) p.columns p.tokens
    { p with columns, tokens }

/-- A block starts at a column that is further in than the block around it. -/
def startsBlock (column : Nat) (p : Progress) : Bool := p.indent ≤ column

/-- Opens a block at this column, if it starts one. -/
def openBlock (token : Token) (p : Progress) : Progress :=
  if p.startsBlock p.column then { p.push token with columns := p.column :: p.columns } else p

/-! ## Keys -/

def dropKey (p : Progress) : Except Fault Progress :=
  match p.pending with
  | none => .ok p
  | some key => if key.required then .error .malformed else .ok { p with pending := none }

def noteKey (p : Progress) : Except Fault Progress :=
  if p.keyAllowed then do
    let p ← p.dropKey
    let required := !p.inFlow && p.columns.head? == some p.column
    .ok { p with
      pending := some ⟨p.tokens.length, required, p.cursor.index, p.cursor.line, p.column⟩ }
  else .ok p

/-- A place for a key, unless it is too far back by now. -/
def fresh (c : Cursor) (key : Option PendingKey) : Except Fault (Option PendingKey) :=
  match key with
  | none => .ok none
  | some key =>
    if !key.isStale c then .ok (some key)
    else if key.required then .error .malformed
    else .ok none

def dropStale (p : Progress) : Except Fault Progress := do
  let pending ← fresh p.cursor p.pending
  let outer ← p.outer.mapM (fresh p.cursor)
  .ok { p with pending, outer }

/-! ## Marks -/

/-- The place of the next token. Where a line ends outside of flow collections, a key may start. -/
def skipBlanks : Nat → Progress → Progress
  | 0, p => p
  | turns + 1, p =>
    let place := p.cursor.skipSpaces.skipComment
    match place.lineBreak? with
    | some (_, after) =>
      skipBlanks turns { p with cursor := after, keyAllowed := p.keyAllowed || !p.inFlow }
    | none => { p with cursor := place }

/-- The place of the first token. The mark of the byte order may stand before it. -/
def toNextToken (p : Progress) : Progress :=
  let start := match p.cursor.rest with
    | '\uFEFF' :: _ => if p.cursor.index == 0 then p.cursor.step else p.cursor
    | _ => p.cursor
  skipBlanks (start.rest.length + 1) { p with cursor := start }

/-- A token that ends all blocks and starts a line. -/
def atMargin (p : Progress) : Except Fault Progress := do
  let p ← p.unwindAll.dropKey
  .ok (p.allowKey false)

def readDirective (p : Progress) : Except Fault Progress := do
  let p ← p.atMargin
  let (directive, place) ← directive p.cursor
  .ok { p.push (.directive directive) with cursor := place }

def boundary (token : Token) (p : Progress) : Except Fault Progress := do
  let p ← p.atMargin
  .ok (p.mark token 3)

def openFlow (token : Token) (p : Progress) : Except Fault Progress := do
  let p ← p.noteKey
  .ok ({ p with outer := p.pending :: p.outer, pending := none, keyAllowed := true }.mark token 1)

def closeFlow (token : Token) (p : Progress) : Except Fault Progress := do
  let p ← p.dropKey
  match p.outer with
  | [] => .error .malformed
  | pending :: outer => .ok ({ p with outer, pending, keyAllowed := false }.mark token 1)

def comma (p : Progress) : Except Fault Progress := do
  let p ← (p.allowKey true).dropKey
  .ok (p.mark .comma 1)

/-- Opens the block that a mark starts outside of flow collections. The mark has to stand where a
key may start. -/
def openAround (block : Token) (p : Progress) : Except Fault Progress :=
  if p.inFlow then .ok p
  else if !p.keyAllowed then .error .malformed
  else .ok (p.openBlock block)

def item (p : Progress) : Except Fault Progress := do
  let p ← p.openAround .blockSequence
  let p ← (p.allowKey true).dropKey
  .ok (p.mark .item 1)

def explicitKey (p : Progress) : Except Fault Progress := do
  let p ← p.openAround .blockMapping
  let p ← (p.allowKey !p.inFlow).dropKey
  .ok (p.mark .key 1)

/-- Marks the key behind which the colon of its value stands. The first key of a block opens it. -/
def markKey (key : PendingKey) (p : Progress) : Progress :=
  let p := { p with pending := none, keyAllowed := false }
  let opens := !p.inFlow && p.startsBlock key.column
  let p := p.insert key.number .key
  if opens then { p.insert key.number .blockMapping with columns := key.column :: p.columns } else p

def value (p : Progress) : Except Fault Progress :=
  match p.pending with
  | some key => .ok ((p.markKey key).mark .value 1)
  | none => do
    let p ← p.openAround .blockMapping
    let p ← (p.allowKey !p.inFlow).dropKey
    .ok (p.mark .value 1)

/-- A token that may start a key and stands behind nothing that could be one. -/
def property {α : Type} (read : Cursor → Except Fault (α × Cursor)) (token : α → Token)
    (p : Progress) : Except Fault Progress := do
  let p ← p.noteKey
  let (content, place) ← read p.cursor
  .ok { (p.allowKey false).push (token content) with cursor := place }

def block (fold : Bool) (p : Progress) : Except Fault Progress := do
  let p ← (p.allowKey true).dropKey
  let (text, place) ← blockScalar fold (max p.indent 1) p.cursor
  .ok { p.push (.scalar text false) with cursor := place }

def quoted (double : Bool) : Progress → Except Fault Progress :=
  property (quotedScalar double) fun text => .scalar text false

def plain (p : Progress) : Except Fault Progress := do
  let p ← p.noteKey
  let scalar := plainScalar p.inFlow p.indent p.cursor
  .ok { (p.allowKey scalar.broken).push (.scalar scalar.text true) with cursor := scalar.after }

/-- A plain scalar may start here. -/
def atPlain (p : Progress) : Bool :=
  match p.cursor.rest with
  | [] => false
  | c :: rest =>
    !(atBlank (c :: rest) || "-?:,[]\x7b\x7d#&*!|>'\"%@`".toList.contains c) ||
      (!atBlank rest && (c == '-' || (!p.inFlow && (c == '?' || c == ':'))))

/-- The token that starts with a character. -/
def next (c : Char) (rest : List Char) (p : Progress) : Except Fault Progress :=
  let margin := p.column == 0
  if c == '%' && margin then p.readDirective
  else if margin && atMark '-' (c :: rest) then p.boundary .documentStart
  else if margin && atMark '.' (c :: rest) then p.boundary .documentEnd
  else if c == '[' then p.openFlow .flowSequence
  else if c == '\x7b' then p.openFlow .flowMapping
  else if c == ']' then p.closeFlow .flowSequenceEnd
  else if c == '\x7d' then p.closeFlow .flowMappingEnd
  else if c == ',' then p.comma
  else if c == '-' && atBlank rest then p.item
  else if c == '?' && (p.inFlow || atBlank rest) then p.explicitKey
  else if c == ':' && (p.inFlow || atBlank rest) then p.value
  else if c == '*' then p.property nodeName .alias
  else if c == '&' then p.property nodeName .anchor
  else if c == '!' then p.property tagMark .tag
  else if c == '|' && !p.inFlow then p.block false
  else if c == '>' && !p.inFlow then p.block true
  else if c == '\'' then p.quoted false
  else if c == '"' then p.quoted true
  else if p.atPlain then p.plain
  else .error .malformed

/-- One more token, or the marks at the end of the text. The second part says whether the end was
reached. -/
def advance (p : Progress) : Except Fault (Progress × Bool) := do
  let p ← p.toNextToken.dropStale
  let p := p.unwind
  match p.cursor.rest with
  | [] =>
    let p ← p.unwindAll.dropKey
    .ok (p, true)
  | c :: rest =>
    let p ← p.next c rest
    .ok (p, false)

/-- How many tokens are settled: those before the first that a key may still be put in front of. -/
def settled (p : Progress) : Nat :=
  let keys := (p.pending :: p.outer).filterMap fun key => key
  let numbers := (keys.filter fun key => !key.isStale p.cursor).map PendingKey.number
  numbers.foldl min p.tokens.length

end Progress

/-- The tokens of a text, and what is wrong with the text behind them, if anything is. -/
structure Tokens where
  items : List Token
  fault : Option Fault := none

def Tokens.collect : Nat → Progress → Tokens
  | 0, p => ⟨p.tokens.reverse, some .malformed⟩
  | turns + 1, p =>
    match p.advance with
    | .error fault => ⟨p.tokens.reverse.take p.settled, some fault⟩
    | .ok (next, true) => ⟨next.tokens.reverse, none⟩
    | .ok (next, false) => Tokens.collect turns next

/-- The tokens of a text. -/
def Tokens.ofText (cs : List Char) : Tokens := Tokens.collect (cs.length + 1) { cursor := ⟨cs, 0, 0, 0⟩ }

end DesktopPolicy.Yaml
