-- Decisions of a single rule. Patterns are tried in their order until one is found in the name. A
-- malformed pattern is skipped, which is told beside the answer; a refused one ends the trial.
import DesktopPolicy.Action
import DesktopPolicy.Noted
import DesktopPolicy.Pattern
import DesktopPolicy.Rule

namespace DesktopPolicy

variable [Dialect]

/-! ## Trials -/

structure Skipped where
  pattern : String
  fault : Pattern.Malformed
  deriving DecidableEq, Repr

/-- What trying patterns came to: those skipped on the way, and the answer unless a pattern was
refused. -/
abbrev Trial := Noted Skipped Pattern.Refusal

namespace Rule

/-! ## Names -/

/-- The pattern is found in the name. -/
def patternFinds (name pattern : String) : Trial Bool :=
  match Regex.compile pattern with
  | .error (.malformed fault) => ⟨[⟨pattern, fault⟩], .ok false⟩
  | .error (.refused refusal) => ⟨[], .error refusal⟩
  | .ok regex => ⟨[], regex.search name⟩

/-- `matches_resource_name`: some pattern of the rule is found in the name. A rule without patterns
finds nothing. -/
def matchesName (rule : Rule) (name : String) : Trial Bool :=
  Noted.any (patternFinds name) rule.patterns

/-! ## Actions -/

/-- The name of the action is one that the rule is about. An action without a name is, and so is
every name for a rule without patterns. -/
def admitsName (rule : Rule) (action : Action) : Trial Bool :=
  match action.name with
  | none => .answer true
  | some name => if rule.patterns.isEmpty then .answer true else rule.matchesName name

/-- The namespace of the action is one that the rule is about. It only counts for actions that
belong to a namespace, and for rules that list some. -/
def admitsNamespace (rule : Rule) (action : Action) : Bool :=
  match action.inNamespace with
  | none => true
  | some space => !action.isNamespaced || rule.namespaces.isEmpty || rule.hasNamespace space

/-- `authorizes`: the rule alone authorizes the action. -/
def authorizes (rule : Rule) (action : Action) : Trial Bool :=
  if rule.hasVerb action.verb && rule.hasResource action.resource then
    (rule.admitsName action).next fun admitted => .answer (admitted && rule.admitsNamespace action)
  else .answer false

end Rule

end DesktopPolicy
