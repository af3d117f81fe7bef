-- Nodes: the tree that the tokens of a document describe. Names of nodes are replaced by the nodes
-- that have them.
import DesktopPolicy.Yaml.Tag
import DesktopPolicy.Yaml.Token

namespace DesktopPolicy.Yaml

/-- A scalar or a collection with its tag. -/
inductive Node where
  | scalar (tag : Tag) (text : String)
  | sequence (tag : Tag) (items : List Node)
  | mapping (tag : Tag) (entries : List (Node × Node))
  | loop
  deriving Inhabited

namespace Node

/-- The scalar in a place where nothing stands. -/
def nothing : Node := .scalar .null ""

def tag : Node → Tag
  | scalar tag _ => tag
  | sequence tag _ => tag
  | mapping tag _ => tag
  | loop => .null

mutual

/-- How deeply collections are nested in the node. -/
def depth : Node → Nat
  | scalar _ _ => 0
  | sequence _ items => depthOfItems items + 1
  | mapping _ entries => depthOfEntries entries + 1
  | loop => 0

def depthOfItems : List Node → Nat
  | [] => 0
  | item :: rest => max (depth item) (depthOfItems rest)

def depthOfEntries : List (Node × Node) → Nat
  | [] => 0
  | (key, value) :: rest => max (max (depth key) (depth value)) (depthOfEntries rest)

end

mutual

/-- Some collection refers to itself from within. -/
def hasLoop : Node → Bool
  | scalar _ _ => false
  | sequence _ items => itemsHaveLoop items
  | mapping _ entries => entriesHaveLoop entries
  | loop => true

/-- Some item refers to a collection around it. -/
def itemsHaveLoop : List Node → Bool
  | [] => false
  | item :: rest => hasLoop item || itemsHaveLoop rest

/-- Some key or value refers to a collection around it. -/
def entriesHaveLoop : List (Node × Node) → Bool
  | [] => false
  | (key, value) :: rest => hasLoop key || hasLoop value || entriesHaveLoop rest

end

end Node

/-! ## Reading tokens -/

/-- The tokens that are left, and what is known of the document. -/
structure Reading where
  tokens : List Token
  fault : Option Fault
  handles : List (String × String) := []
  /-- The nodes with names. A collection gets its node when it is complete. -/
  nodes : List (String × Option Node) := []

/-- A step of reading. -/
abbrev Reader := StateT Reading (Except Fault)

namespace Reader

def fail {α : Type} (fault : Fault) : Reader α := fun _ => .error fault

def peek : Reader (Option Token) := do
  let reading ← get
  match reading.tokens, reading.fault with
  | token :: _, _ => pure (some token)
  | [], some fault => fail fault
  | [], none => pure none

/-- Lays the token in hand aside. -/
def drop : Reader Unit := modify fun reading => { reading with tokens := reading.tokens.drop 1 }

def sees (tokens : List Token) : Reader Bool := do
  match ← peek with
  | some token => pure (tokens.contains token)
  | none => pure false

def accept (token : Token) : Reader Bool := do
  if ← sees [token] then
    drop
    pure true
  else pure false

def expect (token : Token) : Reader Unit := do
  if ← accept token then pure () else fail .malformed

/-! ## Properties of nodes -/

def nodeName? : Reader (Option String) := do
  match ← peek with
  | some (.anchor name) =>
    drop
    pure (some name)
  | _ => pure none

/-- A tag in front of a node, in full. -/
def nodeTag? : Reader (Option String) := do
  match ← peek with
  | some (.tag ⟨none, suffix⟩) =>
    drop
    pure (some suffix)
  | some (.tag ⟨some handle, suffix⟩) =>
    drop
    match (← get).handles.lookup handle with
    | some start => pure (some (start ++ suffix))
    | none => fail .malformed
  | _ => pure none

/-- The name and the tag in front of a node, in either order. -/
def properties : Reader (Option String × Option String) := do
  match ← nodeName? with
  | some name => pure (some name, ← nodeTag?)
  | none =>
    let tag ← nodeTag?
    pure (← nodeName?, tag)

/-- The tag says nothing about the kind of value. -/
def isOpenTag (tag : Option String) : Bool := tag == none || tag == some "!"

def collectionTag (tag : Option String) (absent : Tag) : Tag :=
  match tag with
  | some full => if isOpenTag tag then absent else Tag.ofFull full
  | none => absent

/-- The tag of a scalar. Quoted scalars are texts. -/
def scalarTag (tag : Option String) (text : String) (plain : Bool) : Tag :=
  match tag with
  | none => if plain then Tag.ofPlain text else .text
  | some full => if isOpenTag tag then Tag.ofPlain text else Tag.ofFull full

/-- Gives a name to a node that is about to be read. No name is given twice. -/
def announce (name : Option String) : Reader Unit := do
  match name with
  | none => pure ()
  | some name =>
    if ((← get).nodes.lookup name).isSome then fail (.anchor name)
    else modify fun reading => { reading with nodes := (name, none) :: reading.nodes }

/-- Puts a node where its name is. -/
def settle (name : Option String) (node : Node) : Reader Node := do
  match name with
  | none => pure node
  | some name =>
    modify fun reading => { reading with nodes := (name, some node) :: reading.nodes }
    pure node

def named (name : String) : Reader Node := do
  match (← get).nodes.lookup name with
  | none => fail (.anchor name)
  | some none => pure .loop
  | some (some node) => pure node

/-! ## Nodes -/

/-- A name or a tag with nothing behind it. -/
def emptyNode (name tag : Option String) : Reader Node := do
  if name.isNone && tag.isNone then fail .malformed
  else
    announce name
    settle name (.scalar (scalarTag tag "" true) "")

inductive Place where
  | block
  /-- In a block, where items may stand as far out as the map around them. -/
  | blockEntry
  | flow
  deriving DecidableEq

mutual

def node (place : Place) : Nat → Reader Node
  | 0 => fail .malformed
  | turns + 1 => do
    match ← peek with
    | some (.alias name) =>
      drop
      named name
    | _ =>
      let (name, tag) ← properties
      let token ← peek
      match place, token with
      | .blockEntry, some .item =>
        announce name
        settle name (.sequence (collectionTag tag .sequence) (← looseItems turns))
      | _, some (.scalar text plain) =>
        drop
        announce name
        settle name (.scalar (scalarTag tag text plain) text)
      | _, some .flowSequence =>
        drop
        announce name
        settle name (.sequence (collectionTag tag .sequence) (← flowItems true turns))
      | _, some .flowMapping =>
        drop
        announce name
        settle name (.mapping (collectionTag tag .map) (← flowEntries true turns))
      | .flow, _ => emptyNode name tag
      | _, some .blockSequence =>
        drop
        announce name
        settle name (.sequence (collectionTag tag .sequence) (← blockItems turns))
      | _, some .blockMapping =>
        drop
        announce name
        settle name (.mapping (collectionTag tag .map) (← blockEntries turns))
      | _, _ => emptyNode name tag

/-- A node, or nothing where one of these tokens follows. -/
def nodeBefore (place : Place) (ends : List Token) : Nat → Reader Node
  | 0 => fail .malformed
  | turns + 1 => do
    if ← sees ends then pure .nothing else node place turns

/-- A node behind a token that leads to it, or nothing. -/
def nodeBehind (token : Token) (place : Place) (ends : List Token) : Nat → Reader Node
  | 0 => fail .malformed
  | turns + 1 => do
    if ← accept token then nodeBefore place ends turns else pure .nothing

def blockItems : Nat → Reader (List Node)
  | 0 => fail .malformed
  | turns + 1 => do
    if ← accept .item then
      let first ← nodeBefore .block [.item, .blockEnd] turns
      pure (first :: (← blockItems turns))
    else
      expect .blockEnd
      pure []

/-- Items as far out as the map around them. -/
def looseItems : Nat → Reader (List Node)
  | 0 => fail .malformed
  | turns + 1 => do
    if ← accept .item then
      let first ← nodeBefore .block [.item, .key, .value, .blockEnd] turns
      pure (first :: (← looseItems turns))
    else pure []

def blockEntries : Nat → Reader (List (Node × Node))
  | 0 => fail .malformed
  | turns + 1 => do
    let ends : List Token := [.key, .value, .blockEnd]
    if ← accept .key then
      let key ← nodeBefore .blockEntry ends turns
      let value ← nodeBehind .value .blockEntry ends turns
      pure ((key, value) :: (← blockEntries turns))
    else
      expect .blockEnd
      pure []

/-- The items of a flow sequence. A key among them makes a map with one entry. -/
def flowItems (first : Bool) : Nat → Reader (List Node)
  | 0 => fail .malformed
  | turns + 1 => do
    if ← accept .flowSequenceEnd then pure []
    else
      if !first then expect .comma
      if ← accept .flowSequenceEnd then pure []
      else if ← accept .key then
        let key ← nodeBefore .flow [.value, .comma, .flowSequenceEnd] turns
        let value ← nodeBehind .value .flow [.comma, .flowSequenceEnd] turns
        pure (.mapping .map [(key, value)] :: (← flowItems false turns))
      else
        let item ← node .flow turns
        pure (item :: (← flowItems false turns))

/-- The entries of a flow map. A node without the mark of a key is a key without a value. -/
def flowEntries (first : Bool) : Nat → Reader (List (Node × Node))
  | 0 => fail .malformed
  | turns + 1 => do
    if ← accept .flowMappingEnd then pure []
    else
      if !first then expect .comma
      if ← accept .flowMappingEnd then pure []
      else if ← accept .key then
        let key ← nodeBefore .flow [.value, .comma, .flowMappingEnd] turns
        let value ← nodeBehind .value .flow [.comma, .flowMappingEnd] turns
        pure ((key, value) :: (← flowEntries false turns))
      else
        let key ← node .flow turns
        pure ((key, .nothing) :: (← flowEntries false turns))

end

/-! ## Documents -/

/-- What handles stand for unless a directive says otherwise. -/
def usualHandles : List (String × String) := [("!", "!"), ("!!", Tag.start)]

/-- Reads the directives of a document. Nothing is said twice, and the version is one that is
known. -/
def directives (versioned : Bool) : Nat → Reader Unit
  | 0 => fail .malformed
  | turns + 1 => do
    match ← peek with
    | some (.directive (.version major)) =>
      if versioned || major != 1 then fail .malformed
      else
        drop
        directives true turns
    | some (.directive (.handle handle start)) =>
      if ((← get).handles.lookup handle).isSome then fail .malformed
      else
        modify fun reading => { reading with handles := (handle, start) :: reading.handles }
        drop
        directives versioned turns
    | some (.directive .other) =>
      drop
      directives versioned turns
    | _ => pure ()

/-- Lays aside the marks for the end of a document. -/
def dropEnds : Nat → Reader Unit
  | 0 => pure ()
  | turns + 1 => do
    if ← accept .documentEnd then dropEnds turns

/-- The root of a document behind its mark. -/
def markedRoot (turns : Nat) : Reader Node := do
  match ← peek with
  | none => pure .nothing
  | some (.directive _) => pure .nothing
  | some .documentStart => pure .nothing
  | some .documentEnd => pure .nothing
  | some _ => node .block turns

def root (turns : Nat) : Reader (Option Node) := do
  let usual : Reader Unit := modify fun reading =>
    { reading with handles := reading.handles ++ usualHandles }
  match ← peek with
  | none => pure none
  | some token =>
    let marked := match token with
      | .directive _ => true
      | .documentStart => true
      | _ => false
    if marked then
      directives false turns
      expect .documentStart
      usual
      pure (some (← markedRoot turns))
    else
      usual
      pure (some (← node .block turns))

/-- The only document of a text. -/
def document (turns : Nat) : Reader (Option Node) := do
  let found ← root turns
  dropEnds turns
  match ← peek with
  | none => pure found
  | some _ => fail .malformed

end Reader

/-- The root of the only document of a text, unless the text is empty. -/
def Node.ofTokens (tokens : Tokens) : Except Fault (Option Node) :=
  let turns := 4 * tokens.items.length + 8
  (Reader.document turns { tokens := tokens.items, fault := tokens.fault }).map Prod.fst

end DesktopPolicy.Yaml
