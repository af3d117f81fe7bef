-- The laws of questions without a scope. Who may do something to one name in one namespace may do
-- it at large: the question without the name, without the namespace, or without both is allowed too,
-- and it comes to an answer, since patterns are tried on names only. Namespaces matter to launches
-- from templates and to nothing else.
import DesktopPolicy.Proofs.PatternRefusal

namespace DesktopPolicy

section

variable [Dialect]

/-! ## The pure model -/

/-- The first action asks for the same as the second one, without its name, without its namespace, or
without both. -/
structure Action.Unscopes (wide narrow : Action) : Prop where
  verb : wide.verb.word = narrow.verb.word
  resource : wide.resource.word = narrow.resource.word
  name : wide.name = none ∨ wide.name = narrow.name
  space : wide.inNamespace = none ∨ wide.inNamespace = narrow.inNamespace

namespace Rule

/-! ## Single rules -/

theorem Permits.unscoped {rule : Rule} {wide narrow : Action} (hwide : wide.Unscopes narrow)
    (h : rule.Permits narrow.inquiry) : rule.Permits wide.inquiry where
  verb := by
    rw [Action.inquiry, hwide.verb]
    exact h.verb
  resource := by
    rw [Action.inquiry, hwide.resource]
    exact h.resource
  name := by
    intro name hname hne
    rcases hwide.name with hnone | hsame
    · cases hnone.symm.trans hname
    · exact h.name name (hsame.symm.trans hname) hne
  space := by
    intro space hspace hverb hresource hne
    rcases hwide.space with hnone | hsame
    · cases hnone.symm.trans hspace
    · exact h.space space (hsame.symm.trans hspace) (hwide.verb.symm.trans hverb)
        (hwide.resource.symm.trans hresource) hne

theorem Settles.unscoped {rule : Rule} {wide narrow : Action} (hwide : wide.Unscopes narrow)
    (h : rule.Settles narrow.inquiry) : rule.Settles wide.inquiry := by
  intro hverb hresource name hname
  rw [Action.inquiry, hwide.verb] at hverb
  rw [Action.inquiry, hwide.resource] at hresource
  rcases hwide.name with hnone | hsame
  · cases hnone.symm.trans hname
  · exact h hverb hresource name (hsame.symm.trans hname)

theorem settles_of_nameless (rule : Rule) {inquiry : Inquiry} (h : inquiry.name = none) :
    rule.Settles inquiry := by
  intro _ _ name hname
  cases h.symm.trans hname

/-! ## Namespaces elsewhere -/

omit [Dialect] in
theorem admitsNamespace_of_not_namespaced (rule : Rule) {action : Action}
    (h : action.isNamespaced = false) : rule.admitsNamespace action = true := by
  unfold admitsNamespace
  split
  · rfl
  · rw [h, Bool.not_false, Bool.true_or, Bool.true_or]

/-- Where nothing is launched from templates, namespaces do not count. -/
theorem authorizes_of_not_namespaced (rule : Rule) {action : Action}
    (h : action.isNamespaced = false) (space : Option String) :
    rule.authorizes { action with inNamespace := space } = rule.authorizes action := by
  have hthere : Action.isNamespaced { action with inNamespace := space } = false := h
  rw [authorizes, authorizes, rule.admitsNamespace_of_not_namespaced h,
    rule.admitsNamespace_of_not_namespaced hthere]
  rfl

end Rule

/-! ## Several rules -/

namespace Permissions

theorem isAllowed_unscoped {permissions : Permissions} {wide narrow : Action}
    (h : (permissions.isAllowed narrow).outcome = .ok true) (hwide : wide.Unscopes narrow) :
    (permissions.isAllowed wide).outcome = .ok true := by
  refine Noted.any_eq_true_mono ?_ ?_ h
  · intro rule _ hanswers
    rw [Rule.authorizes_answers_iff] at hanswers ⊢
    exact hanswers.unscoped hwide
  · intro rule _ hallowed
    rw [Rule.authorizes_eq_true_iff] at hallowed ⊢
    exact ⟨hallowed.1.unscoped hwide, hallowed.2.unscoped hwide⟩

theorem isAllowed_answers_of_nameless (permissions : Permissions) {action : Action}
    (h : action.name = none) : (permissions.isAllowed action).Answers := by
  rw [isAllowed_answers_iff]
  intro before rule after _ hnot
  exact absurd (rule.settles_of_nameless h) hnot

theorem isAllowed_of_not_namespaced (permissions : Permissions) {action : Action}
    (h : action.isNamespaced = false) (space : Option String) :
    permissions.isAllowed { action with inNamespace := space } = permissions.isAllowed action := by
  simp only [isAllowed, Rule.authorizes_of_not_namespaced _ h]

theorem accessibleResources_outcome (permissions : Permissions) (verb : Verb) :
    (permissions.accessibleResources verb).outcome = .ok (Resource.concrete.filter
      (Noted.passes fun resource => permissions.isAllowed ⟨verb, resource, none, none⟩)) := by
  apply Noted.keep_of_answers
  intro resource _
  exact permissions.isAllowed_answers_of_nameless rfl

end Permissions

/-! ## The laws -/

/-- What is allowed about a name in a namespace is allowed without the name, without the namespace
and without both. Unless something is launched from templates, the namespace makes no difference to
the answer, to a failure, or to the patterns that are skipped on the way. A question without a name
never fails. So every resource type on which the verb is allowed somewhere is listed, in whatever way
it was spelled in the question. -/
theorem a_question_without_its_scope_is_not_denied (permissions : Permissions) (verb : Verb) :
    (∀ resource name space,
      (permissions.isAllowed ⟨verb, resource, name, space⟩).outcome = .ok true →
        (permissions.isAllowed ⟨verb, resource, none, space⟩).outcome = .ok true ∧
        (permissions.isAllowed ⟨verb, resource, name, none⟩).outcome = .ok true ∧
        (permissions.isAllowed ⟨verb, resource, none, none⟩).outcome = .ok true) ∧
    (∀ resource : Resource,
      ¬ (verb.word = Verb.launch.word ∧ resource.word = Resource.templates.word) →
        ∀ name space other, permissions.isAllowed ⟨verb, resource, name, space⟩ =
          permissions.isAllowed ⟨verb, resource, name, other⟩) ∧
    (∀ resource space, (permissions.isAllowed ⟨verb, resource, none, space⟩).Answers) ∧
    ∃ listed, (permissions.accessibleResources verb).outcome = .ok listed ∧
      ∀ resource ∈ Resource.concrete, ∀ spelled : Resource, spelled.word = resource.word →
        ∀ name space, (permissions.isAllowed ⟨verb, spelled, name, space⟩).outcome = .ok true →
          resource ∈ listed := by
  refine ⟨?_, ?_, ?_, _, permissions.accessibleResources_outcome verb, ?_⟩
  · intro resource name space h
    refine ⟨?_, ?_, ?_⟩
    · exact Permissions.isAllowed_unscoped h ⟨rfl, rfl, .inl rfl, .inr rfl⟩
    · exact Permissions.isAllowed_unscoped h ⟨rfl, rfl, .inr rfl, .inl rfl⟩
    · exact Permissions.isAllowed_unscoped h ⟨rfl, rfl, .inl rfl, .inl rfl⟩
  · intro resource hnot name space other
    have hplain : Action.isNamespaced ⟨verb, resource, name, other⟩ = false := by
      rw [Action.isNamespaced, Bool.and_eq_false_iff, beq_eq_false_iff_ne, beq_eq_false_iff_ne]
      exact not_and_or.mp hnot
    exact permissions.isAllowed_of_not_namespaced hplain space
  · intro resource space
    exact permissions.isAllowed_answers_of_nameless rfl
  · intro resource hresource spelled hspelled name space h
    rw [List.mem_filter, Noted.passes_iff]
    exact ⟨hresource, Permissions.isAllowed_unscoped h
      ⟨rfl, hspelled.symm, .inl rfl, .inl rfl⟩⟩

end

/-- To launch at home: from templates that start with a b, and from those that start with an a. -/
def Permissions.twoWings : Permissions where
  rules := [
    { verbs := [.launch], resources := [.templates], patterns := ["^b"], namespaces := ["home"] },
    { verbs := [.launch], resources := [.templates], patterns := ["^a", "a\x7b4294967295\x7d"]
      namespaces := ["home"] }]

/-- The rule that decides about the name is not the one that decides without it, and the pattern that
is refused fails neither question. -/
theorem a_launch_at_home_is_a_launch_at_large :
    (Permissions.twoWings.isAllowed ⟨.launch, .other "templates", some "ab", some "home"⟩).outcome =
      .ok true ∧
    (Permissions.twoWings.isAllowed ⟨.launch, .other "templates", none, none⟩).outcome =
      .ok true ∧
    Permissions.twoWings.isAllowed ⟨.launch, .users, some "ab", some "home"⟩ =
      Permissions.twoWings.isAllowed ⟨.launch, .users, some "ab", none⟩ ∧
    ∃ listed, (Permissions.twoWings.accessibleResources .launch).outcome = .ok listed ∧
      Resource.templates ∈ listed := by
  have hallowed : (Permissions.twoWings.isAllowed
      ⟨.launch, .other "templates", some "ab", some "home"⟩).outcome = .ok true := by
    decide +kernel
  obtain ⟨hunscoped, helsewhere, -, listed, hlisted, hmem⟩ :=
    a_question_without_its_scope_is_not_denied Permissions.twoWings .launch
  refine ⟨hallowed, (hunscoped _ _ _ hallowed).2.2, ?_, listed, hlisted, ?_⟩
  · exact helsewhere .users (by decide) _ _ _
  · exact hmem .templates (by decide) (.other "templates") rfl _ _ hallowed

end DesktopPolicy
