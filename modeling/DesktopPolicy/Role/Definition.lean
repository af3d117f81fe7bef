-- Roles read from values and written as values, and the roles of a whole configuration.
import DesktopPolicy.Role
import DesktopPolicy.Rule.Definition

namespace DesktopPolicy

/-! ## Grants by name -/

/-- `Grant.from_name`: the grants that a name stands for. Only a text is a name. -/
def Grants.ofNameValue (v : Value) : Except DefinitionFault Grants :=
  match v with
  | .text name =>
    match Grants.ofName? name with
    | some grants => .ok grants
    | none => .error (.unknownGrant name)
  | v => .error (.unknownGrant v.toText)

/-- `Grant.from_names`: the grants that the names stand for together. The first unknown name is
refused. -/
def Grants.ofNames (names : List Value) : Except DefinitionFault Grants :=
  names.foldlM (fun grants name => (Grants.ofNameValue name).map grants.union) Grants.empty

/-- The names that a value lists: the items of a list, the keys of a map, the letters of a text. -/
def Grants.listedNames (v : Value) : Except DefinitionFault (List Value) :=
  match v with
  | .list items => .ok items
  | .set items => .ok items
  | .map entries => .ok (entries.map (·.1))
  | .text s => .ok (s.toList.map fun c => .text c.toString)
  | v => .error (.grantNames v.kind)

namespace Role

/-! ## Fields -/

def nameField : String := "name"

def rulesField : String := "rules"

def grantsField : String := "grants"

def descriptionField : String := "description"

def rolesField : String := "roles"

/-! ## Reading -/

/-- The items of a list. A value that says nothing has no items. -/
def itemsOr (fault : DefinitionFault) (v : Value) : Except DefinitionFault (List Value) :=
  if !v.isFilled then .ok []
  else
    match v with
    | .list items => .ok items
    | _ => .error fault

/-- The role that the entries of a map define. -/
def ofEntries (entries : List (Value × Value)) : Except DefinitionFault Role := do
  let name := field entries nameField
  if !name.isFilled then .error .unnamed
  else
    let rules ← itemsOr (.roleField name.toText rulesField) (field entries rulesField)
    let grants ← itemsOr (.roleField name.toText grantsField) (field entries grantsField)
    let rules ← rules.mapM Rule.ofValue
    let grants ← Grants.ofNames grants
    let description := field entries descriptionField
    pure
      { name := name.toText
        rules
        grants
        description := .value (if description.isFilled then description else .text "") }

/-- `Role.from_dict`: the role that a value defines. -/
def ofValue (v : Value) : Except DefinitionFault Role :=
  match v with
  | .map entries => ofEntries entries
  | v => .error (.roleKind v.kind)

/-- What defines a role: a value, or a map of these entries and of a description that is torn. -/
inductive Definition where
  | value (v : Value)
  | torn (entries : List (Value × Value)) (description : Text.Torn)

def ofDefinition : Definition → Except DefinitionFault Role
  | .value v => ofValue v
  | .torn entries description =>
    (ofEntries entries).map fun role => { role with description := .torn description }

/-- The defined roles, behind roles that were read before. No two have one name. -/
def ofDefinitions (before : List Role) : List Definition → Except DefinitionFault (List Role)
  | [] => .ok before
  | definition :: rest => do
    let role ← ofDefinition definition
    if before.any fun earlier => earlier.name == role.name then .error (.duplicateRole role.name)
    else ofDefinitions (before ++ [role]) rest

/-- `parse_roles`: the roles of a configuration. -/
def ofConfiguration (entries : List (Value × Value)) : Except DefinitionFault (List Role) := do
  let listed := field entries rolesField
  let items ← itemsOr (.roleList listed.kind) listed
  ofDefinitions [] (items.map Definition.value)

/-! ## Writing -/

/-- The entries with the name, the rules and the grants of the role. -/
def written (role : Role) : List (Value × Value) := [
  (.text nameField, .text role.name),
  (.text rulesField, .list (role.rules.map Rule.toValue)),
  (.text grantsField, Rule.textList role.grants.names)]

/-- `Role.to_dict`: the definition of the role. A description that says nothing is left out. -/
def toDefinition (role : Role) : Definition :=
  match role.description with
  | .value v =>
    .value (.map (role.written ++ if v.isFilled then [(.text descriptionField, v)] else []))
  | .torn text => .torn role.written text

end Role

end DesktopPolicy
