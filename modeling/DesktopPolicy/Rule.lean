-- Rules. A rule has four dimensions: verbs, resource types, patterns for resource names, and
-- namespaces. The order of the words in a dimension and the wildcard among them never matter to
-- what the rule has; two rules are the same when every word occurs equally often in both.
import DesktopPolicy.Vocabulary

namespace DesktopPolicy

/-- A single access rule. -/
structure Rule where
  verbs : List Verb := []
  resources : List Resource := []
  /-- Regular expressions that are searched for in the name of a resource. -/
  patterns : List String := []
  namespaces : List String := []
  deriving DecidableEq, Repr

namespace Rule

/-! ## What a rule has -/

def verbWords (rule : Rule) : List String := rule.verbs.map Verb.word

def resourceWords (rule : Rule) : List String := rule.resources.map Resource.word

/-- `is_empty`: the rule says nothing at all. -/
def isEmpty (rule : Rule) : Bool :=
  rule.verbs.isEmpty && rule.resources.isEmpty && rule.patterns.isEmpty && rule.namespaces.isEmpty

/-- The word or the wildcard is among the words. -/
def covers (words : List String) (word : String) : Bool :=
  words.any fun listed => listed == wildcard || listed == word

def hasVerb (rule : Rule) (verb : Verb) : Bool := covers rule.verbWords verb.word

def hasResource (rule : Rule) (resource : Resource) : Bool :=
  covers rule.resourceWords resource.word

def hasNamespace (rule : Rule) (space : String) : Bool := covers rule.namespaces space

/-! ## Rules compared -/

/-- `_sorted_strings`: the words in their order. -/
def sorted (words : List String) : List String := words.mergeSort fun a b => a ≤ b

/-- `deep_equal`: the rules have the same words equally often in each dimension, in any order. -/
def deepEqual (a b : Rule) : Bool :=
  sorted a.resourceWords == sorted b.resourceWords &&
    sorted a.verbWords == sorted b.verbWords &&
    sorted a.patterns == sorted b.patterns &&
    sorted a.namespaces == sorted b.namespaces

/-- The rules have the same words in the same order. -/
def sameWords (a b : Rule) : Bool :=
  a.verbWords == b.verbWords && a.resourceWords == b.resourceWords &&
    a.patterns == b.patterns && a.namespaces == b.namespaces

/-- The rules that are deep-equal to none before them, nor to one already seen. -/
def dedupeAfter (seen : List Rule) : List Rule → List Rule
  | [] => []
  | rule :: rest =>
    if seen.any fun earlier => rule.deepEqual earlier then dedupeAfter seen rest
    else rule :: dedupeAfter (seen ++ [rule]) rest

/-- `dedupe_rules`: the rules without those that are deep-equal to an earlier one. -/
def dedupe (rules : List Rule) : List Rule := dedupeAfter [] rules

/-- The rules without the first that is deep-equal to the given one, if there is one. -/
def removeEqual (rule : Rule) : List Rule → Option (List Rule)
  | [] => none
  | other :: rest =>
    if rule.deepEqual other then some rest else (removeEqual rule rest).map (other :: ·)

/-- Each rule finds a partner of its own among the others. -/
def pairsInto : List Rule → List Rule → Bool
  | [], _ => true
  | rule :: rest, others =>
    match removeEqual rule others with
    | none => false
    | some remaining => pairsInto rest remaining

/-- `rule_lists_equal`: the lists hold the same rules equally often, in any order. -/
def sameRules (a b : List Rule) : Bool := a.length == b.length && pairsInto a b

end Rule

end DesktopPolicy
