-- Roles: named bundles of rules and grants. What several roles allow together is the union of
-- their rules, each kept once, and the union of their grants.
import DesktopPolicy.Definition
import DesktopPolicy.Grant
import DesktopPolicy.Rule
import DesktopPolicy.Text.Utf8

namespace DesktopPolicy

/-- What is said about a role, which may be any value, and any text. -/
inductive Description where
  | value (v : Value)
  | torn (text : Text.Torn)
  deriving Repr

@[match_pattern]
abbrev Description.text (s : String) : Description := .value (.text s)

/-- A named set of rules and grants. -/
structure Role where
  name : String
  rules : List Rule := []
  grants : Grants := Grants.empty
  description : Description := .text ""

namespace Role

/-- `Role.rules_equal`: the roles hold the same rules, in any order. -/
def sameRules (a b : Role) : Bool := Rule.sameRules a.rules b.rules

def allRules (roles : List Role) (skipEmpty : Bool) : List Rule :=
  (roles.flatMap Role.rules).filter fun rule => !(skipEmpty && rule.isEmpty)

/-- `aggregate_rules`: the union of the rules of several roles. -/
def unionRules (roles : List Role) (skipEmpty : Bool := true) : List Rule :=
  Rule.dedupe (allRules roles skipEmpty)

/-- `aggregate_role_grants`: the union of the grants of several roles. -/
def unionGrants (roles : List Role) : Grants := Grants.unions (roles.map Role.grants)

/-- `find_role`: the first role with a name. -/
def find? (roles : List Role) (name : String) : Option Role :=
  roles.find? fun role => role.name == name

/-! ## Built-in roles -/

/-- `ADMIN_ROLE`: everything, everywhere. -/
def admin : Role :=
  { name := "desktop-admin"
    description := .text "Full access to all resources in all namespaces"
    rules := [
      { verbs := [.all], resources := [.all], patterns := [".*"], namespaces := [wildcard] }]
    grants := Grants.all }

/-- `LAUNCH_TEMPLATES_ROLE`: look at templates and launch them, in one namespace. -/
def launchTemplates : Role :=
  { name := "desktop-launch-templates"
    description := .text "Can view and launch templates in the default namespace"
    rules := [
      { verbs := [.read, .launch], resources := [.templates], patterns := [".*"]
        namespaces := ["default"] }]
    grants := (Grants.single .readTemplates).union (Grants.single .launchTemplates) }

/-- The built-in roles by their keys. -/
def builtins : List (String × Role) := [("admin", admin), ("launch_templates", launchTemplates)]

/-- `get_default_role`: the built-in role with a key. -/
def builtin (key : String) : Except DefinitionFault Role :=
  match builtins.lookup key with
  | some role => .ok role
  | none => .error (.unknownBuiltin key)

end Role

end DesktopPolicy
