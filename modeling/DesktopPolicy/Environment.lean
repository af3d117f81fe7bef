-- Environments: named texts, and values in which references to them are replaced. A reference is a
-- dollar sign with a name behind it, bare or in braces. References to what is not there stay, and
-- what has been put in is not looked through again. A text without a dollar sign does not change.
import DesktopPolicy.Value

namespace DesktopPolicy

abbrev Environment := List (String × String)

namespace Environment

/-- The environment with a text for a name: in the place of the name if it is there, or at the end. -/
def assign (name content : String) : Environment → Environment
  | [] => [(name, content)]
  | (other, old) :: rest =>
    if other == name then (name, content) :: rest else (other, old) :: assign name content rest

def isNameChar (c : Char) : Bool :=
  ('a' ≤ c && c ≤ 'z') || ('A' ≤ c && c ≤ 'Z') || ('0' ≤ c && c ≤ '9') || c == '_'

/-- The name behind a dollar sign, and how many characters it takes with its braces. -/
def reference? (cs : List Char) : Option (List Char × Nat) :=
  match cs with
  | '\x7b' :: rest =>
    let name := rest.takeWhile (· != '\x7d')
    if name.length < rest.length then some (name, name.length + 2) else none
  | _ =>
    let name := cs.takeWhile isNameChar
    if name.isEmpty then none else some (name, name.length)

/-- What stands for a reference: the text that the environment has for its name, or the reference as
it is written. -/
def standsFor (env : Environment) (name written : List Char) : List Char :=
  match env.lookup (String.ofList name) with
  | some content => content.toList
  | none => written

/-- The text with its references replaced. Inside a reference no other is looked for. -/
def expandChars (env : Environment) : List Char → List Char
  | [] => []
  | c :: rest =>
    if c == '$' then
      match reference? rest with
      | some (name, width) =>
        env.standsFor name (c :: rest.take width) ++ expandChars env (rest.drop width)
      | none => c :: expandChars env rest
    else c :: expandChars env rest
termination_by cs => cs.length
decreasing_by all_goals simp; try omega

/-- The text with its references replaced. -/
def expandText (env : Environment) (s : String) : String :=
  String.ofList (expandChars env s.toList)

mutual

/-- `_expand_env_vars`: the value with the references in all its texts replaced. The keys of maps
stay as they are. -/
def expand (env : Environment) : Value → Value
  | .text s => .text (expandText env s)
  | .list items => .list (expandItems env items)
  | .map entries => .map (expandEntries env entries)
  | v => v

def expandItems (env : Environment) : List Value → List Value
  | [] => []
  | item :: rest => expand env item :: expandItems env rest

def expandEntries (env : Environment) : List (Value × Value) → List (Value × Value)
  | [] => []
  | (key, value) :: rest => (key, expand env value) :: expandEntries env rest

end

end Environment

end DesktopPolicy
