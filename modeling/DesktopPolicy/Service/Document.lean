-- Documents: the form in which rules, roles and actions go over the wire. A document has all its
-- fields, and each is checked: there are texts where texts belong, and nothing is read as a text
-- that is none.
import DesktopPolicy.Action
import DesktopPolicy.Role.Definition
import DesktopPolicy.Schema

namespace DesktopPolicy

open Schema (Checked Fields both)

/-! ## Rules -/

/-- `RuleSchema`: the rule as a document, with the name under which its patterns are written. -/
def Rule.document (rule : Rule) (patternsName : String := Rule.patternsField) : Value :=
  .map [
    (.text Rule.verbsField, Rule.textList rule.verbWords),
    (.text Rule.resourcesField, Rule.textList rule.resourceWords),
    (.text patternsName, Rule.textList rule.patterns),
    (.text Rule.namespacesField, Rule.textList rule.namespaces)]

/-- The name under which a document has its patterns: the written name before the other. -/
def Rule.documentPatternsName (fields : Fields) : String :=
  if (lookup fields (.text Rule.patternsField)).isSome then Rule.patternsField
  else Rule.patternsOtherField

/-- The rule that a document with these fields describes. -/
def Rule.ofDocumentFields (fields : Fields) : Checked Rule :=
  let words (name : String) : Checked (List String) := Schema.optional fields name [] Schema.texts
  let make (verbs resources patterns namespaces : List String) : Rule :=
    ⟨verbs.map Verb.ofWord, resources.map Resource.ofWord, patterns, namespaces⟩
  both (both (both ((words Rule.verbsField).map make) (words Rule.resourcesField))
    (words (Rule.documentPatternsName fields))) (words Rule.namespacesField)

def Rule.ofDocument : Value → Checked Rule
  | .map fields => Rule.ofDocumentFields fields
  | _ => Schema.reject .notMap

/-! ## Roles -/

/-- The text of a description in a document. A torn text has no bytes to go over the wire. -/
def Description.checked : Description → Checked String
  | value v => Schema.text v
  | torn _ => Schema.reject .notUnicode

/-- `RoleResponse`: the role as a document. A role whose description is no text has none. -/
def Role.document (role : Role) (patternsName : String := Rule.patternsField) : Checked Value :=
  (Schema.within (.field Role.descriptionField) role.description.checked).map fun description =>
    .map [
      (.text Role.nameField, .text role.name),
      (.text Role.descriptionField, .text description),
      (.text Role.rulesField, .list (role.rules.map fun rule => rule.document patternsName)),
      (.text Role.grantsField, Rule.textList role.grants.names)]

/-! ## Actions -/

namespace Action

def verbField : String := "verb"

def resourceField : String := "resource"

def nameField : String := "name"

def namespaceField : String := "namespace"

def textOrNull : Option String → Value
  | some s => .text s
  | none => .null

def document (action : Action) : Value :=
  .map [
    (.text verbField, .text action.verb.word),
    (.text resourceField, .text action.resource.word),
    (.text nameField, textOrNull action.name),
    (.text namespaceField, textOrNull action.inNamespace)]

/-- `ActionRequest`: the action that a document with these fields describes. Verb and resource have
to say something. -/
def ofDocumentFields (fields : Fields) : Checked Action :=
  let make (verb resource : String) (name space : Option String) : Action :=
    ⟨Verb.ofWord verb, Resource.ofWord resource, name, space⟩
  both (both (both ((Schema.required fields verbField Schema.filledText).map make)
    (Schema.required fields resourceField Schema.filledText))
    (Schema.optional fields nameField none Schema.textOrNull))
    (Schema.optional fields namespaceField none Schema.textOrNull)

def ofDocument : Value → Checked Action
  | .map fields => ofDocumentFields fields
  | _ => Schema.reject .notMap

end Action

end DesktopPolicy
