-- Principals: who asks. The layer in front of the service says so with any value; only what has the
-- form of a principal is believed.
import DesktopPolicy.Schema

namespace DesktopPolicy

/-- Someone with a name and the names of the roles bound to them. -/
structure Principal where
  name : String
  roles : List String := []
  deriving DecidableEq, Repr

/-- What the layer in front says about who asks. -/
inductive Credential where
  | absent
  | value (v : Value)
  | object (attributes : Schema.Fields)
  /-- A principal, already checked. -/
  | principal (principal : Principal)

namespace Principal

def ofFields (fields : Schema.Fields) : Schema.Checked Principal :=
  Schema.both ((Schema.required fields "name" Schema.text).map Principal.mk)
    (Schema.optional fields "roles" [] Schema.texts)

/-- `CurrentUser`: the principal that a value describes. -/
def ofValue : Value → Schema.Checked Principal
  | .map entries => ofFields entries
  | _ => Schema.reject .notObject

end Principal

/-- The principal of a credential, if anything was said. -/
def Credential.principal? : Credential → Option (Schema.Checked Principal)
  | absent => none
  | value .null => none
  | value v => some (Principal.ofValue v)
  | object attributes => some (Principal.ofFields attributes)
  | principal p => some (.ok p)

end DesktopPolicy
