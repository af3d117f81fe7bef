-- The laws of questions with a wildcard in them. In a question the wildcard is a word like any other:
-- only rules that list the wildcard themselves have it. Such rules permit every specific question
-- too, as far as verbs, resource types and names go. Namespaces are the exception: they count for
-- launches from templates only, and a question with a wildcard is not one of these.
import DesktopPolicy.Proofs.RuleDecision

namespace DesktopPolicy

section

variable [Dialect]

/-! ## The pure model -/

/-- The first action has the wildcard in place of the verb of the second one, of its resource type,
or of both. All else is the same. -/
structure Action.Covers (wide narrow : Action) : Prop where
  verb : wide.verb.word = wildcard ∨ wide.verb.word = narrow.verb.word
  resource : wide.resource.word = wildcard ∨ wide.resource.word = narrow.resource.word
  name : wide.name = narrow.name
  space : wide.inNamespace = narrow.inNamespace

/-- The action without its namespace. -/
def Action.anywhere (action : Action) : Action := { action with inNamespace := none }

namespace Rule

/-- The rule is kept to some namespaces, and this is none of them. -/
def Excludes (rule : Rule) (space : String) : Prop :=
  rule.namespaces ≠ [] ∧ ¬ Lists rule.namespaces space

/-! ## Single rules -/

omit [Dialect] in
/-- What has the wildcard has every word. -/
theorem Lists.of_wildcard {words : List String} {wide narrow : String} (h : Lists words wide)
    (hwide : wide = wildcard ∨ wide = narrow) : Lists words narrow := by
  rcases hwide with rfl | rfl
  · exact .inr (h.elim id id)
  · exact h

/-- A rule that permits the wide question permits the narrow one, without its namespace. -/
theorem Permits.anywhere {rule : Rule} {wide narrow : Action} (hcovers : wide.Covers narrow)
    (h : rule.Permits wide.inquiry) : rule.Permits narrow.anywhere.inquiry where
  verb := h.verb.of_wildcard hcovers.verb
  resource := h.resource.of_wildcard hcovers.resource
  name := by
    intro name hname hne
    exact h.name name (hcovers.name.trans hname) hne
  space := by
    rintro space ⟨⟩

/-- Only a launch from templates can depend on the namespace, and only where the rule excludes it. -/
theorem Permits.narrow_or_excludes {rule : Rule} {wide narrow : Action}
    (hcovers : wide.Covers narrow) (h : rule.Permits wide.inquiry) :
    rule.Permits narrow.inquiry ∨ narrow.isNamespaced = true ∧
      ∃ space, narrow.inNamespace = some space ∧ rule.Excludes space := by
  have hanywhere := h.anywhere hcovers
  by_cases hexcludes : ∃ space, narrow.inNamespace = some space ∧ rule.Excludes space
  · by_cases hlaunch : narrow.isNamespaced = true
    · exact .inr ⟨hlaunch, hexcludes⟩
    · refine .inl ⟨hanywhere.verb, hanywhere.resource, hanywhere.name, ?_⟩
      intro space _ hverb hresource
      have hnamespaced : narrow.isNamespaced = true := by
        rw [Action.isNamespaced, Bool.and_eq_true, beq_iff_eq, beq_iff_eq]
        exact ⟨hverb, hresource⟩
      exact absurd hnamespaced hlaunch
  · refine .inl ⟨hanywhere.verb, hanywhere.resource, hanywhere.name, ?_⟩
    intro space hspace _ _ hne
    by_contra hnot
    exact hexcludes ⟨space, hspace, hne, hnot⟩

end Rule

/-! ## The laws -/

/-- Where a question with a wildcard is allowed, the specific question is not denied, as long as it
has no namespace. With a namespace it can only be denied when it is a launch from templates, and
every rule that permits the question with the wildcard excludes the namespace. -/
theorem a_wildcard_opens_all_but_launches_elsewhere {permissions : Permissions}
    {wide narrow : Action} (hcovers : wide.Covers narrow)
    (hwide : (permissions.isAllowed wide).outcome = .ok true) :
    (permissions.isAllowed narrow.anywhere).outcome ≠ .ok false ∧
    ((permissions.isAllowed narrow).outcome ≠ .ok false ∨
      narrow.isNamespaced = true ∧ ∃ space, narrow.inNamespace = some space ∧
        ∀ rule ∈ permissions.rules, rule.Permits wide.inquiry → rule.Excludes space) := by
  obtain ⟨first, hfirst, hpermits⟩ := (Permissions.allowed_iff hwide).mp rfl
  refine ⟨?_, ?_⟩
  · intro hdenied
    have hallowed := (Permissions.allowed_iff hdenied).mpr
      ⟨first, hfirst, hpermits.anywhere hcovers⟩
    cases hallowed
  · by_cases hdenied : (permissions.isAllowed narrow).outcome = .ok false
    · -- a denial means that every rule which permits the wide question excludes the namespace
      have hexcludes : ∀ rule ∈ permissions.rules, rule.Permits wide.inquiry →
          narrow.isNamespaced = true ∧
            ∃ space, narrow.inNamespace = some space ∧ rule.Excludes space := by
        intro rule hrule hwide
        rcases hwide.narrow_or_excludes hcovers with hnarrow | hexcludes
        · have hallowed := (Permissions.allowed_iff hdenied).mpr ⟨rule, hrule, hnarrow⟩
          cases hallowed
        · exact hexcludes
      obtain ⟨hlaunch, space, hspace, -⟩ := hexcludes first hfirst hpermits
      refine .inr ⟨hlaunch, space, hspace, ?_⟩
      intro rule hrule hwide
      obtain ⟨-, other, hother, hexcluded⟩ := hexcludes rule hrule hwide
      rw [hspace] at hother
      cases hother
      exact hexcluded
    · exact .inl hdenied

end

/-- Everything about templates in one namespace, and reading whatever starts with an a. -/
def Permissions.homebound : Permissions where
  rules := [
    { verbs := [.all], resources := [.templates], namespaces := ["home"] },
    { verbs := [.read], resources := [.all], patterns := ["(", "^a"], namespaces := ["home"] }]

/-- To do anything at all with templates is allowed elsewhere, but to launch from them is not. -/
theorem a_launch_elsewhere_is_denied_where_anything_is_allowed :
    Action.Covers ⟨.all, .templates, none, some "away"⟩ ⟨.launch, .templates, none, some "away"⟩ ∧
    (Permissions.homebound.isAllowed ⟨.all, .templates, none, some "away"⟩).outcome = .ok true ∧
    (Permissions.homebound.isAllowed ⟨.launch, .templates, none, some "away"⟩).outcome =
      .ok false := by
  refine ⟨⟨.inl rfl, .inr rfl, rfl, rfl⟩, ?_, ?_⟩ <;> decide +kernel

theorem what_is_read_anywhere_is_read_as_a_role :
    (Permissions.homebound.isAllowed ⟨.read, .all, some "ab", some "away"⟩).outcome = .ok true ∧
    (Permissions.homebound.isAllowed ⟨.read, .roles, some "ab", some "away"⟩).outcome ≠
      .ok false := by
  have hwide : (Permissions.homebound.isAllowed ⟨.read, .all, some "ab", some "away"⟩).outcome =
      .ok true := by decide +kernel
  have hcovers : Action.Covers ⟨.read, .all, some "ab", some "away"⟩
      ⟨.read, .roles, some "ab", some "away"⟩ := ⟨.inr rfl, .inl rfl, rfl, rfl⟩
  obtain ⟨-, hnarrow | ⟨hlaunch, -⟩⟩ :=
    a_wildcard_opens_all_but_launches_elsewhere hcovers hwide
  · exact ⟨hwide, hnarrow⟩
  · cases hlaunch

end DesktopPolicy
