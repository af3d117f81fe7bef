-- Permissions: the rules and grants of a principal, asked about actions.
import DesktopPolicy.Role
import DesktopPolicy.Rule.Decision

namespace DesktopPolicy

variable [Dialect]

/-- The union of what the roles of a principal allow. -/
structure Permissions where
  rules : List Rule := []
  grants : Grants := Grants.empty

namespace Permissions

/-- `from_roles`: what the roles allow together. -/
def ofRoles (roles : List Role) (skipEmpty : Bool := true) : Permissions :=
  ⟨Role.unionRules roles skipEmpty, Role.unionGrants roles⟩

def isAllowed (permissions : Permissions) (action : Action) : Trial Bool :=
  Noted.any (fun rule => rule.authorizes action) permissions.rules

/-- `filter_allowed`: the names for which the action is allowed, in their order. -/
def filterAllowed (permissions : Permissions) (verb : Verb) (resource : Resource)
    (names : List String) (inNamespace : Option String := none) : Trial (List String) :=
  Noted.keep (fun name => permissions.isAllowed ⟨verb, resource, some name, inNamespace⟩) names

/-- `get_accessible_resources`: the resource types on which the verb is allowed for some name. -/
def accessibleResources (permissions : Permissions) (verb : Verb) : Trial (List Resource) :=
  Noted.keep (fun resource => permissions.isAllowed ⟨verb, resource, none, none⟩) Resource.concrete

end Permissions

end DesktopPolicy
