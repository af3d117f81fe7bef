-- Gates: what stands between a request and the service. A gate lets a principal with enough
-- permissions through, and denies all others without telling them why.
import DesktopPolicy.Permissions
import DesktopPolicy.Principal
import DesktopPolicy.Roster
import DesktopPolicy.Text.Blank

namespace DesktopPolicy

variable [Dialect]

inductive Denial where
  | unauthenticated
  | missingGrant (grants : Grants)
  | forbidden
  deriving DecidableEq, Repr

namespace Denial

def status : Denial → Nat
  | unauthenticated => 401
  | missingGrant _ => 403
  | forbidden => 403

def grantNames (grants : Grants) : String := ", ".intercalate grants.names

def detail : Denial → String
  | unauthenticated => "Authentication required"
  | missingGrant grants => "User does not have " ++ grantNames grants ++ " grant"
  | forbidden => "Forbidden"

end Denial

/-- Why a gate gives no answer. -/
inductive Halt where
  | denied (denial : Denial)
  /-- A pattern was refused while a rule was evaluated. -/
  | failed (refusal : Pattern.Refusal)
  deriving DecidableEq, Repr

/-- A way through gates, with the records written on it. -/
abbrev Passage := Noted Log.Record Halt

namespace Gate

def logger : String := Log.qualified "api.deps"

/-- The trial of patterns as a part of the way. -/
def tried {α : Type} (trial : Trial α) : Passage α := trial.retell Log.ofSkipped .failed

/-- `get_current_user`: the principal who asks. -/
def authenticate (credential : Credential) : Passage Principal :=
  match credential.principal? with
  | none => .fail (.denied .unauthenticated)
  | some (.ok principal) => .answer principal
  | some (.error _) =>
    ⟨[⟨.warning, logger, "Rejected malformed principal on request state"⟩],
      .error (.denied .unauthenticated)⟩

/-- `get_permission_checker`: what the roles bound to the principal allow. Names without a role
allow nothing. -/
def permissionsOf (roster : Roster) (skipEmpty : Bool) (principal : Principal) :
    Passage Permissions :=
  ⟨(roster.missing principal.roles).map Roster.missingRecord,
    .ok (Permissions.ofRoles (roster.resolve principal.roles) skipEmpty)⟩

/-- A gate asks for something. -/
inductive Demand where
  | grants (grants : Grants)
  /-- A rule for the action. The name and the namespace come from parameters of the path. -/
  | action (verb : Verb) (resource : Resource) (nameParameter namespaceParameter : Option String)

/-- The parameter of the path with a name, if the gate reads one. -/
def parameter (parameters : List (String × String)) (name : Option String) : Option String :=
  match name with
  | none => none
  | some name => if name.isEmpty then none else parameters.lookup name

def deniedRecord (principal : Principal) (action : Action) : Log.Record :=
  let text := "Denied " ++ principal.name ++ ": " ++ action.verb.word ++ " " ++
    action.resource.word ++ " " ++ action.name.getD ""
  ⟨.info, logger, String.ofList (Text.trimEnd text.toList)⟩

/-- `GrantDependency`: lets through who has one of the grants. -/
def requireGrant (grants : Grants) (principal : Principal) (permissions : Permissions) :
    Passage Unit :=
  if permissions.grants.has grants.mask then .answer ()
  else
    ⟨[⟨.info, logger, "Denied " ++ principal.name ++ ": missing " ++ Denial.grantNames grants ++
      " grant"⟩], .error (.denied (.missingGrant grants))⟩

/-- `ActionDependency`: lets through who is allowed the action. -/
def requireAction (action : Action) (principal : Principal) (permissions : Permissions) :
    Passage Unit :=
  (tried (permissions.isAllowed action)).next fun allowed =>
    if allowed then .answer ()
    else ⟨[deniedRecord principal action], .error (.denied .forbidden)⟩

def require (demand : Demand) (parameters : List (String × String)) (principal : Principal)
    (permissions : Permissions) : Passage Unit :=
  match demand with
  | .grants grants => requireGrant grants principal permissions
  | .action verb resource name space =>
    requireAction ⟨verb, resource, parameter parameters name, parameter parameters space⟩
      principal permissions

/-- The whole way from a credential to permissions that meet the demand. -/
def pass (roster : Roster) (skipEmpty : Bool) (demand : Demand)
    (parameters : List (String × String)) (credential : Credential) : Passage Permissions :=
  (authenticate credential).next fun principal =>
    (permissionsOf roster skipEmpty principal).next fun permissions =>
      (require demand parameters principal permissions).next fun _ => .answer permissions

end Gate

end DesktopPolicy
