-- The values of nodes. A collection is filled after it has been made, so what is wrong with a node
-- further out is found before what is wrong further in: of several faults the one nearest to the
-- root counts, and of those the first. In which order the items of a set are gone through is not told
-- by the document.
import DesktopPolicy.Yaml.Node
import DesktopPolicy.Yaml.Scalar.Value

namespace DesktopPolicy.Yaml

/-- What is wrong with a node, and how many turns were left where it was found: the more turns, the
nearer to the root. -/
structure BuildFault where
  turns : Nat
  fault : Fault

abbrev Built (α : Type) := Except BuildFault α

namespace Built

def here {α : Type} (turns : Nat) (reading : Except Fault α) : Built α :=
  reading.mapError (BuildFault.mk turns)

/-- Two parts. Of their faults the nearer to the root counts. -/
def both {α β : Type} (first : Built α) (second : Built β) : Built (α × β) :=
  match first, second with
  | .ok a, .ok b => .ok (a, b)
  | .error f, .ok _ => .error f
  | .ok _, .error g => .error g
  | .error f, .error g => .error (if f.turns < g.turns then g else f)

def all {α : Type} : List (Built α) → Built (List α)
  | [] => .ok []
  | part :: rest => (both part (all rest)).map fun (a, as) => a :: as

end Built

/-! ## Merged maps -/

mutual

/-- The entries of a map. The entries of the maps that it merges come before its own. -/
def spread : Node → Except Fault (List (Node × Node))
  | .mapping _ entries => do
    let (merged, own) ← spreadEntries entries
    .ok (merged ++ own)
  | .loop => .ok []
  | _ => .error .unfit

/-- The entries merged into a map, and its own. -/
def spreadEntries : List (Node × Node) → Except Fault (List (Node × Node) × List (Node × Node))
  | [] => .ok ([], [])
  | (key, value) :: rest =>
    if key.tag == .merge then do
      let first ← spreadMerged value
      let (merged, own) ← spreadEntries rest
      .ok (first ++ merged, own)
    else do
      let (merged, own) ← spreadEntries rest
      .ok (merged, (key, value) :: own)

/-- The entries of the map or the maps under a merge key. Of several maps the last comes first. -/
def spreadMerged : Node → Except Fault (List (Node × Node))
  | .sequence _ items => spreadItems items
  | .mapping _ entries => do
    let (merged, own) ← spreadEntries entries
    .ok (merged ++ own)
  | .loop => .ok []
  | .scalar _ _ => .error .unfit

def spreadItems : List Node → Except Fault (List (Node × Node))
  | [] => .ok []
  | item :: rest => do
    let first ← spread item
    let later ← spreadItems rest
    .ok (later ++ first)

end

/-! ## Values -/

mutual

/-- The text of a scalar, or of the value that stands for a whole map. -/
def scalarText : Node → Except Fault String
  | .scalar _ text => .ok text
  | .mapping _ entries => standInText entries
  | _ => .error .unfit

/-- The text of the first value that stands for its map. -/
def standInText : List (Node × Node) → Except Fault String
  | [] => .error .unfit
  | (key, value) :: rest => if key.tag == .value then scalarText value else standInText rest

end

/-- A point in time cannot be read from a map, whatever the map holds. -/
def timeNode (node : Node) (text : String) : Except Fault Value :=
  match node with
  | .scalar _ _ => scalarValue .time text
  | _ => .error .timeMap

def scalarNode (node : Node) : Except Fault Value := do
  let text ← scalarText node
  if node.tag == .time then timeNode node text else scalarValue node.tag text

def itemsOf : Node → Except Fault (List Node)
  | .sequence _ items => .ok items
  | _ => .error .unfit

def onlyEntry : Node → Except Fault (Node × Node)
  | .mapping _ [entry] => .ok entry
  | _ => .error .unfit

/-- The key that stands for its whole map is a text where it stands for nothing. -/
def asKey : Node → Node
  | .scalar .value text => .scalar .text text
  | node => node

def refuseCollection (node : Node) (key : Value) : Except Fault Value :=
  match node, key with
  | .loop, _ => .error .key
  | _, .list _ => .error .key
  | _, .map _ => .error .key
  | _, .set _ => .error .key
  | _, key => .ok key

/-! ## Collections

What is wrong with a collection itself is found with so many turns left as its parts get. -/

def buildEntry (turns : Nat) (part : Node → Built Value) (entry : Node × Node) :
    Built (Value × Value) :=
  let key := (part (asKey entry.1)).bind fun key =>
    Built.here turns (refuseCollection entry.1 key)
  Built.both key (part entry.2)

/-- The entries of a map. Of several values for one key the last counts. -/
def buildEntries (turns : Nat) (part : Node → Built Value) (node : Node) :
    Built (List (Value × Value)) :=
  (Built.here turns (spread node)).bind fun entries =>
    (Built.all (entries.map (buildEntry turns part))).map fun built =>
      built.foldl (fun before entry => put before entry.1 entry.2) []

def buildItems (turns : Nat) (part : Node → Built Value) (node : Node) : Built (List Value) :=
  (Built.here turns (itemsOf node)).bind fun items => Built.all (items.map part)

def buildPair (turns : Nat) (part : Node → Built Value) (node : Node) : Built Value :=
  (Built.here turns (onlyEntry node)).bind fun (key, value) =>
    (Built.both (part key) (part value)).map fun (k, v) => .pair k v

/-- A collection, or a scalar that is found with one more turn left. -/
def buildNode (order : List Value → List Value) (turns : Nat) (part : Node → Built Value)
    (node : Node) : Built Value :=
  match node.tag with
  | .sequence => (buildItems turns part node).map Value.list
  | .map => (buildEntries turns part node).map Value.map
  | .set => (buildEntries turns part node).map fun entries =>
    .set (order (entries.map Prod.fst))
  | .pairs => (buildItems turns (buildPair turns part) node).map Value.list
  | .orderedMap => (buildItems turns (buildPair turns part) node).map Value.list
  | _ => Built.here (turns + 1) (scalarNode node)

/-- The value of a node. Each turn goes one collection further in. -/
def build (order : List Value → List Value) : Nat → Node → Built Value
  | _, .loop => .ok .null
  | 0, node => Built.here 0 (scalarNode node)
  | turns + 1, node => buildNode order turns (build order turns) node

end DesktopPolicy.Yaml
