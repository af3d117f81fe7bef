-- Rules read from values and written as values. A field that is null or absent is empty, and an
-- empty field is not written. The patterns are read from their written name, or, when that is null
-- or absent, from their second name.
import DesktopPolicy.Definition
import DesktopPolicy.Rule

namespace DesktopPolicy.Rule

/-! ## Fields -/

def verbsField : String := "verbs"

def resourcesField : String := "resources"

def patternsField : String := "resourcePatterns"

/-- The other name of the patterns. -/
def patternsOtherField : String := "resource_patterns"

def namespacesField : String := "namespaces"

/-! ## Reading -/

def listField (entries : List (Value × Value)) (name : String) :
    Except DefinitionFault (List Value) :=
  match field entries name with
  | .null => .ok []
  | .list items => .ok items
  | v => .error (.ruleField name v.kind)

/-- `_get_patterns`: the name under which the patterns are read. -/
def patternsName (entries : List (Value × Value)) : String :=
  if (field entries patternsField).isNull then patternsOtherField else patternsField

/-- The rule that the entries of a map define. -/
def ofEntries (entries : List (Value × Value)) : Except DefinitionFault Rule := do
  let verbs ← listField entries verbsField
  let resources ← listField entries resourcesField
  let patterns ← listField entries (patternsName entries)
  let namespaces ← listField entries namespacesField
  pure
    { verbs := verbs.map fun v => Verb.ofWord v.toText
      resources := resources.map fun v => Resource.ofWord v.toText
      patterns := patterns.map Value.toText
      namespaces := namespaces.map Value.toText }

/-- `Rule.from_dict`: the rule that a value defines. Null defines the empty rule. -/
def ofValue (v : Value) : Except DefinitionFault Rule :=
  match v with
  | .null => ofEntries []
  | .map entries => ofEntries entries
  | v => .error (.ruleKind v.kind)

/-! ## Writing -/

def textList (words : List String) : Value := .list (words.map Value.text)

/-- The entry of a field that has something in it. -/
def filledEntry (name : String) (words : List String) : List (Value × Value) :=
  if words.isEmpty then [] else [(.text name, textList words)]

/-- `Rule.to_dict`: the value that defines the rule. -/
def toValue (rule : Rule) : Value :=
  .map (filledEntry verbsField rule.verbWords ++ filledEntry resourcesField rule.resourceWords ++
    filledEntry patternsField rule.patterns ++ filledEntry namespacesField rule.namespaces)

end DesktopPolicy.Rule
