-- Rosters: the roles that are served, one for each name. Of several definitions with one name the
-- last counts. Roles are listed by their names.
import DesktopPolicy.Log.Record
import DesktopPolicy.Role

namespace DesktopPolicy

/-- `RoleStore`: the roles that are served. -/
structure Roster where
  roles : List Role

namespace Roster

/-- The roles with one more. It takes the place of the role with its name. -/
def put (role : Role) : List Role → List Role
  | [] => [role]
  | other :: rest => if other.name == role.name then role :: rest else other :: put role rest

/-- The roster of these definitions. -/
def ofRoles (roles : List Role) : Roster :=
  ⟨roles.foldl (fun before role => put role before) []⟩

def get? (roster : Roster) (name : String) : Option Role := Role.find? roster.roles name

def listed (roster : Roster) : List Role :=
  roster.roles.mergeSort fun a b => a.name ≤ b.name

/-- `resolve`: the roles with these names, as often as they are named. Names without a role are left
out. -/
def resolve (roster : Roster) (names : List String) : List Role := names.filterMap roster.get?

def missing (roster : Roster) (names : List String) : List String :=
  names.filter fun name => (roster.get? name).isNone

def missingRecord (name : String) : Log.Record :=
  ⟨.warning, Log.qualified "api.deps", "Bound role not found: " ++ name⟩

end Roster

end DesktopPolicy
