-- Audits: what in a rule can never match as intended. Rules are evaluated without complaint, so an
-- audit is where their authors learn of mistakes.
import DesktopPolicy.Role
import DesktopPolicy.Rule.Decision
import DesktopPolicy.Rule.Definition

namespace DesktopPolicy

variable [Dialect]

/-- A mistake in a rule. -/
inductive Mistake where
  | unknownVerb
  | unknownResource
  | malformedPattern (fault : Pattern.Malformed)
  /-- A verb for service accounts that is not evaluated for them. -/
  | unusedVerb
  deriving DecidableEq, Repr

structure Diagnostic where
  mistake : Mistake
  value : String
  deriving DecidableEq, Repr

namespace Diagnostic

/-- The field of the rule that has the mistake. -/
def field (diagnostic : Diagnostic) : String :=
  match diagnostic.mistake with
  | .unknownVerb | .unusedVerb => Rule.verbsField
  | .unknownResource => Rule.resourcesField
  | .malformedPattern _ => Rule.patternsField

def message (diagnostic : Diagnostic) : String :=
  match diagnostic.mistake with
  | .unknownVerb => "unknown verb"
  | .unknownResource => "unknown resource"
  | .malformedPattern fault => "invalid regular expression: " ++ fault.message diagnostic.value
  | .unusedVerb => "only 'use' is evaluated for serviceaccounts"

/-- Field, mistake and value in one line. -/
def text (diagnostic : Diagnostic) : String :=
  diagnostic.field ++ ": " ++ diagnostic.message ++ " (" ++ Text.quoted diagnostic.value ++ ")"

end Diagnostic

namespace Rule

def unknownVerbs (rule : Rule) : List Diagnostic :=
  (rule.verbs.filter fun verb => !verb.isKnown).map fun verb => ⟨.unknownVerb, verb.word⟩

def unknownResources (rule : Rule) : List Diagnostic :=
  (rule.resources.filter fun resource => !resource.isKnown).map fun resource =>
    ⟨.unknownResource, resource.word⟩

def malformedPatterns : List String → Except Pattern.Refusal (List Diagnostic)
  | [] => .ok []
  | pattern :: rest =>
    match Regex.compile pattern with
    | .error (.refused refusal) => .error refusal
    | .error (.malformed fault) =>
      (malformedPatterns rest).map (⟨.malformedPattern fault, pattern⟩ :: ·)
    | .ok _ => malformedPatterns rest

/-- The verbs that say nothing about service accounts, if the rule names these. -/
def unusedVerbs (rule : Rule) : List Diagnostic :=
  if rule.resourceWords.contains Resource.serviceAccounts.word then
    (rule.verbWords.filter fun word => word != Verb.use.word && word != wildcard).map fun word =>
      ⟨.unusedVerb, word⟩
  else []

/-- `validate_rule`: everything in the rule that can never match as intended. -/
def audit (rule : Rule) : Except Pattern.Refusal (List Diagnostic) := do
  let malformed ← malformedPatterns rule.patterns
  pure (rule.unknownVerbs ++ rule.unknownResources ++ malformed ++ rule.unusedVerbs)

end Rule

namespace Role

/-- The mistakes of rules, with the name of the role and the place of each rule before them. -/
def auditFrom (name : String) (index : Nat) : List Rule → Except Pattern.Refusal (List String)
  | [] => .ok []
  | rule :: rest => do
    let diagnostics ← rule.audit
    let later ← auditFrom name (index + 1) rest
    let place := name ++ ": rules[" ++ toString index ++ "]."
    pure (diagnostics.map (fun diagnostic => place ++ diagnostic.text) ++ later)

/-- `validate_role`: the mistakes in all rules of the role, in words. -/
def audit (role : Role) : Except Pattern.Refusal (List String) := auditFrom role.name 0 role.rules

end Role

end DesktopPolicy
