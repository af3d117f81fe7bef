-- Drafts: rules put together from any values, before they are known to list words. A field may be
-- any collection, but a bare text is none.
import DesktopPolicy.Rule.Definition

namespace DesktopPolicy.Rule

/-- The four fields of a rule as they were given. -/
structure Draft where
  verbs : Value := .list []
  resources : Value := .list []
  patterns : Value := .list []
  namespaces : Value := .list []

inductive DraftFault where
  | bareText (name : String)
  | noItems (kind : String)
  deriving DecidableEq, Repr

def DraftFault.message : DraftFault → String
  | bareText name => "Rule field " ++ name ++ " must be a collection, not a string"
  | noItems kind => "'" ++ kind ++ "' object is not iterable"

/-- The items of a collection. Those of a map are its keys. -/
def itemsOf : Value → Except DraftFault (List Value)
  | .list items => .ok items
  | .set items => .ok items
  | .pair left right => .ok [left, right]
  | .map entries => .ok (entries.map (·.1))
  | v => .error (.noItems v.kind)

def refuseText (name : String) : Value → Except DraftFault Unit
  | .text _ => .error (.bareText name)
  | _ => .ok ()

def Draft.fields (draft : Draft) : List (String × Value) := [
  (verbsField, draft.verbs), (resourcesField, draft.resources),
  (patternsOtherField, draft.patterns), (namespacesField, draft.namespaces)]

/-- The draft as the value of a rule. Every field is looked at for bare texts before the first one
is taken apart. -/
def Draft.toValue (draft : Draft) : Except DraftFault Value := do
  draft.fields.forM fun (name, v) => refuseText name v
  let verbs ← itemsOf draft.verbs
  let resources ← itemsOf draft.resources
  let patterns ← itemsOf draft.patterns
  let namespaces ← itemsOf draft.namespaces
  let written := [(verbsField, verbs), (resourcesField, resources), (patternsField, patterns),
    (namespacesField, namespaces)]
  pure (.map ((written.filter fun entry => !entry.2.isEmpty).map fun (name, items) =>
    (.text name, .list items)))

end DesktopPolicy.Rule
