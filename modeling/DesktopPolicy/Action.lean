-- Actions: what a principal asks to do.
import DesktopPolicy.Vocabulary

namespace DesktopPolicy

/-- A requested action. The name of the resource and the namespace are optional; the namespace only
counts where sessions are launched from templates. -/
structure Action where
  verb : Verb
  resource : Resource
  name : Option String := none
  inNamespace : Option String := none
  deriving DecidableEq, Repr

namespace Action

/-- `is_namespaced`: only a launch from templates belongs to a namespace. -/
def isNamespaced (action : Action) : Bool :=
  action.verb.word == Verb.launch.word && action.resource.word == Resource.templates.word

/-- The action in words, as `launch default/templates/ubuntu`. -/
def text (action : Action) : String :=
  let target := match action.name with
    | some name => action.resource.word ++ "/" ++ name
    | none => action.resource.word
  let target := match action.inNamespace with
    | some space => if action.isNamespaced then space ++ "/" ++ target else target
    | none => target
  action.verb.word ++ " " ++ target

end Action

end DesktopPolicy
