-- Configurations: documents that define roles. References to the environment are replaced in them
-- before the roles are read.
import DesktopPolicy.Environment
import DesktopPolicy.Log.Record
import DesktopPolicy.Role.Definition
import DesktopPolicy.Yaml

namespace DesktopPolicy.Configuration

/-- Why a file holds no configuration. -/
inductive Fault where
  | absent (path : String)
  | encoding
  | document (fault : Yaml.Fault)
  | root (kind : String)
  | endless
  | definition (fault : DefinitionFault)
  deriving DecidableEq, Repr

/-- What is in a file: nothing when the file is not there. -/
abbrev File := Option (List UInt8)

def textOf (path : String) : File → Except Fault String
  | none => .error (.absent path)
  | some bytes =>
    match String.fromUTF8? bytes.toByteArray with
    | some text => .ok text
    | none => .error .encoding

/-- The entries of a document. An empty document has none. -/
def entriesOf (document : Yaml.Document) : Except Fault (List (Value × Value)) :=
  match document.root with
  | .null => .ok []
  | .map entries => if document.endless then .error .endless else .ok entries
  | v => .error (.root v.kind)

/-- `load_config`: the entries of the configuration in a file. -/
def load (env : Environment) (order : List Value → List Value) (path : String) (file : File) :
    Except Fault (List (Value × Value)) := do
  let text ← textOf path file
  let document ← (Yaml.read order text).mapError Fault.document
  let entries ← entriesOf document
  .ok (env.expandEntries entries)

def loadedRecord (path : String) (roles : List Role) : Log.Record :=
  ⟨.info, Log.qualified "config",
    "Loaded " ++ toString roles.length ++ " role(s) from " ++ path⟩

/-- `load_roles`: the roles that a file defines. -/
def loadRoles (env : Environment) (order : List Value → List Value) (path : String) (file : File) :
    Noted Log.Record Fault (List Role) :=
  let outcome := (load env order path file).bind fun entries =>
    (Role.ofConfiguration entries).mapError Fault.definition
  match outcome with
  | .error fault => .fail fault
  | .ok roles => ⟨[loadedRecord path roles], .ok roles⟩

def Fault.message : Fault → String
  | absent path => "Configuration file not found: " ++ path
  | root kind => "Configuration root must be a mapping, got " ++ kind
  | definition fault => fault.message
  | encoding => "The configuration is not a text"
  | document fault => fault.message
  | endless => "The configuration has no end"

end DesktopPolicy.Configuration
