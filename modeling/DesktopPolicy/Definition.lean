-- What can be wrong with the definition of a rule, of a role, or of a list of roles.
import DesktopPolicy.Value

namespace DesktopPolicy

/-- Why a value defines nothing. -/
inductive DefinitionFault where
  | ruleKind (kind : String)
  | ruleField (name kind : String)
  | roleKind (kind : String)
  | unnamed
  | roleField (role name : String)
  | unknownGrant (name : String)
  | grantNames (kind : String)
  | roleList (kind : String)
  | duplicateRole (name : String)
  | unknownBuiltin (key : String)
  deriving DecidableEq, Repr

def DefinitionFault.message : DefinitionFault → String
  | ruleKind kind => "Rule must be a mapping, got " ++ kind
  | ruleField name kind => "Rule field " ++ name ++ " must be a list, got " ++ kind
  | roleKind kind => "Role must be a mapping, got " ++ kind
  | unnamed => "Role definition is missing a name"
  | roleField role name => "Role " ++ role ++ ": " ++ name ++ " must be a list"
  | unknownGrant name => "Unknown grant: " ++ name
  | grantNames kind => "'" ++ kind ++ "' object is not iterable"
  | roleList kind => "roles must be a list, got " ++ kind
  | duplicateRole name => "Duplicate role name: " ++ name
  | unknownBuiltin key => "Unknown default role: " ++ key

end DesktopPolicy
