-- The laws of listed resource types. A resource type is listed when some rule names it together
-- with the verb. The patterns of that rule are not tried, so the list can hold resource types on
-- which the verb is allowed for no name at all; what it never does is to leave one out.
import DesktopPolicy.Proofs.DroppedScopes

namespace DesktopPolicy

section

variable [Dialect]

/-! ## The pure model -/

namespace Rule

/-- The rule lists the verb and the resource type, or wildcards in their place. -/
def Mentions (rule : Rule) (verb : Verb) (resource : Resource) : Prop :=
  Lists rule.verbWords verb.word ∧ Lists rule.resourceWords resource.word

/-- The rule has no patterns, or one of them is found in the name. -/
def IsAbout (rule : Rule) (name : String) : Prop :=
  rule.patterns = [] ∨ ∃ pattern ∈ rule.patterns, Regex.IsFound name pattern

end Rule

namespace Permissions

/-- The verb is allowed on the resource of a name, wherever it is. -/
def AllowsOn (permissions : Permissions) (verb : Verb) (resource : Resource) (name : String) :
    Prop :=
  (permissions.isAllowed ⟨verb, resource, some name, none⟩).outcome = .ok true

/-- Some rule that mentions the verb and the resource type is about the name, and the question
whether it is allowed is settled. -/
def Reach (permissions : Permissions) (verb : Verb) (resource : Resource) (name : String) : Prop :=
  permissions.Settle ⟨verb.word, resource.word, some name, none⟩ ∧
    ∃ rule ∈ permissions.rules, rule.Mentions verb resource ∧ rule.IsAbout name

end Permissions

/-! ## Single rules -/

namespace Rule

variable {rule : Rule} {verb : Verb} {resource : Resource}

theorem permits_nameless_iff :
    rule.Permits ⟨verb.word, resource.word, none, none⟩ ↔ rule.Mentions verb resource := by
  constructor
  · intro h
    exact ⟨h.verb, h.resource⟩
  · rintro ⟨hverb, hresource⟩
    exact ⟨hverb, hresource, by simp, by simp⟩

theorem permits_named_iff {name : String} :
    rule.Permits ⟨verb.word, resource.word, some name, none⟩ ↔
      rule.Mentions verb resource ∧ rule.IsAbout name := by
  constructor
  · intro h
    refine ⟨⟨h.verb, h.resource⟩, ?_⟩
    by_cases hnone : rule.patterns = []
    · exact .inl hnone
    · exact .inr (h.name name rfl hnone)
  · rintro ⟨⟨hverb, hresource⟩, habout⟩
    refine ⟨hverb, hresource, ?_, by simp⟩
    rintro _ ⟨⟩ hne
    exact habout.resolve_left hne

end Rule

/-! ## Several rules -/

namespace Permissions

variable {permissions : Permissions} {verb : Verb} {resource : Resource}

theorem allowsOn_iff {name : String} :
    permissions.AllowsOn verb resource name ↔ permissions.Reach verb resource name := by
  unfold AllowsOn Reach
  rw [isAllowed_eq_true_iff]
  simp only [Action.inquiry, Rule.permits_named_iff]

/-- Listed is what some rule mentions. -/
theorem mem_accessibleResources {listed : List Resource}
    (hlisted : (permissions.accessibleResources verb).outcome = .ok listed)
    (hresource : resource ∈ Resource.concrete) :
    resource ∈ listed ↔ ∃ rule ∈ permissions.rules, rule.Mentions verb resource := by
  rw [accessibleResources_outcome] at hlisted
  cases hlisted
  have hsettle : permissions.Settle ⟨verb.word, resource.word, none, none⟩ :=
    (permissions.isAllowed_answers_iff ⟨verb, resource, none, none⟩).mp
      (permissions.isAllowed_answers_of_nameless rfl)
  rw [List.mem_filter, Noted.passes_iff, isAllowed_eq_true_iff]
  simp only [Action.inquiry, Rule.permits_nameless_iff, hresource, hsettle, true_and]

end Permissions

/-! ## The laws -/

/-- There is always a list, and it holds the resource types that some rule mentions together with
the verb. Whatever the verb is allowed on for some name is listed. The other way round holds for a
resource type exactly when no rule mentions it, or some rule that does is about some name for which
the question is settled. -/
theorem a_listed_resource_is_one_that_some_rule_mentions (permissions : Permissions) (verb : Verb) :
    ∃ listed, (permissions.accessibleResources verb).outcome = .ok listed ∧
      ∀ resource ∈ Resource.concrete,
        (resource ∈ listed ↔ ∃ rule ∈ permissions.rules, rule.Mentions verb resource) ∧
        (∀ name, permissions.AllowsOn verb resource name → resource ∈ listed) ∧
        ((resource ∈ listed ↔ ∃ name, permissions.AllowsOn verb resource name) ↔
          (∀ rule ∈ permissions.rules, ¬ rule.Mentions verb resource) ∨
            ∃ name, permissions.Reach verb resource name) := by
  refine ⟨_, permissions.accessibleResources_outcome verb, ?_⟩
  intro resource hresource
  have hlisted := Permissions.mem_accessibleResources (permissions.accessibleResources_outcome verb)
    hresource
  have hmentions : ∀ name, permissions.Reach verb resource name →
      ∃ rule ∈ permissions.rules, rule.Mentions verb resource := by
    rintro name ⟨-, rule, hrule, hmentions, -⟩
    exact ⟨rule, hrule, hmentions⟩
  refine ⟨hlisted, ?_, ?_⟩
  · intro name hallows
    exact hlisted.mpr (hmentions name (Permissions.allowsOn_iff.mp hallows))
  · simp only [hlisted, Permissions.allowsOn_iff]
    constructor
    · intro hagree
      by_cases hsome : ∃ rule ∈ permissions.rules, rule.Mentions verb resource
      · exact .inr (hagree.mp hsome)
      · exact .inl fun rule hrule hmention => hsome ⟨rule, hrule, hmention⟩
    · rintro (hnone | ⟨name, hreach⟩)
      · constructor
        · rintro ⟨rule, hrule, hmention⟩
          exact absurd hmention (hnone rule hrule)
        · rintro ⟨name, hreach⟩
          exact hmentions name hreach
      · exact ⟨fun _ => ⟨name, hreach⟩, fun _ => hmentions name hreach⟩

end

/-- Reading templates whose names are found by these patterns. -/
def Permissions.readersOf (patterns : List String) : Permissions where
  rules := [{ verbs := [.read], resources := [.templates], patterns }]

/-- Templates are listed, though a rule whose only pattern is malformed is about no name. -/
theorem an_unclosed_pattern_lists_what_no_name_is_allowed_for :
    (∀ rule ∈ (Permissions.readersOf ["["]).rules, rule.IsSound) ∧
    ((Permissions.readersOf ["["]).accessibleResources .read).outcome = .ok [.templates] ∧
    ∀ name, ¬ (Permissions.readersOf ["["]).AllowsOn .read .templates name := by
  refine ⟨by decide +kernel, by decide +kernel, ?_⟩
  intro name hallows
  obtain ⟨-, rule, hrule, -, habout⟩ := Permissions.allowsOn_iff.mp hallows
  rw [Permissions.readersOf, List.mem_singleton] at hrule
  subst hrule
  obtain ⟨fault, hfault⟩ : ∃ fault, Regex.compile "[" = .error fault := by
    rcases hc : Regex.compile "[" with fault | regex
    · exact ⟨fault, rfl⟩
    · have hreadable : (Regex.compile "[").toOption.isSome = false := by decide +kernel
      rw [hc] at hreadable
      cases hreadable
  rcases habout with hnone | ⟨pattern, hpattern, regex, hregex, -⟩
  · cases hnone
  · rw [List.mem_singleton] at hpattern
    rw [hpattern, hfault] at hregex
    cases hregex

/-- With a second pattern that is found in some name, what is listed is what is allowed. -/
theorem a_second_pattern_allows_what_is_listed :
    ∃ listed, ((Permissions.readersOf ["[", "^u"]).accessibleResources .read).outcome = .ok listed ∧
      (Resource.templates ∈ listed ↔
        ∃ name, (Permissions.readersOf ["[", "^u"]).AllowsOn .read .templates name) := by
  obtain ⟨listed, hlisted, hresources⟩ :=
    a_listed_resource_is_one_that_some_rule_mentions (Permissions.readersOf ["[", "^u"]) .read
  have hallows : (Permissions.readersOf ["[", "^u"]).AllowsOn .read .templates "ubuntu" := by
    unfold Permissions.AllowsOn
    decide +kernel
  exact ⟨listed, hlisted, (hresources .templates (by decide)).2.2.mpr
    (.inr ⟨"ubuntu", Permissions.allowsOn_iff.mp hallows⟩)⟩

end DesktopPolicy
