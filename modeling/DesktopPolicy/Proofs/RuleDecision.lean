-- What a single rule permits, told without the order in which its words are tried. The verb and the
-- resource type have to be listed. Patterns and namespaces only narrow, and only where the rule has
-- some. A rule that comes to an answer answers exactly that.
import DesktopPolicy.Permissions
import DesktopPolicy.Proofs.RuleEquality
import DesktopPolicy.Proofs.Trial

namespace DesktopPolicy

/-- An older dialect, without names of characters. -/
instance Dialect.bare : Dialect where
  codeOf? _ := .none
  takesBack := false

variable [Dialect]

/-! ## The pure model -/

/-- What is asked for, in the words of who asks. -/
structure Inquiry where
  verb : String
  resource : String
  name : Option String := none
  space : Option String := none

/-- The words of an action. -/
def Action.inquiry (action : Action) : Inquiry :=
  ⟨action.verb.word, action.resource.word, action.name, action.inNamespace⟩

/-- The pattern is a regular expression, and it is found in the name. -/
def Regex.IsFound (name pattern : String) : Prop :=
  ∃ regex, Regex.compile pattern = .ok regex ∧ regex.search name = .ok true

namespace Rule

/-- The word or the wildcard is listed. -/
def Lists (words : List String) (word : String) : Prop := word ∈ words ∨ wildcard ∈ words

/-- The rule alone permits what is asked for. -/
structure Permits (rule : Rule) (inquiry : Inquiry) : Prop where
  verb : Lists rule.verbWords inquiry.verb
  resource : Lists rule.resourceWords inquiry.resource
  /-- Patterns count where a name is given. -/
  name : ∀ name, inquiry.name = some name → rule.patterns ≠ [] →
    ∃ pattern ∈ rule.patterns, Regex.IsFound name pattern
  /-- Namespaces count where one is given for a launch from templates. -/
  space : ∀ space, inquiry.space = some space → inquiry.verb = Verb.launch.word →
    inquiry.resource = Resource.templates.word → rule.namespaces ≠ [] → Lists rule.namespaces space

/-- Every word of the first rule is a word of the second one, dimension by dimension. Patterns narrow
both rules or neither, and so do namespaces. -/
structure Within (rule wide : Rule) : Prop where
  verbs : rule.verbWords ⊆ wide.verbWords
  resources : rule.resourceWords ⊆ wide.resourceWords
  patterns : rule.patterns ⊆ wide.patterns
  namespaces : rule.namespaces ⊆ wide.namespaces
  patternless : rule.patterns = [] ↔ wide.patterns = []
  spaceless : rule.namespaces = [] ↔ wide.namespaces = []

/-! ## Words and patterns -/

omit [Dialect] in
theorem covers_iff (words : List String) (word : String) :
    covers words word = true ↔ Lists words word := by
  simp only [covers, List.any_eq_true, Bool.or_eq_true, beq_iff_eq, Lists]
  constructor
  · rintro ⟨listed, hl, rfl | rfl⟩
    · exact Or.inr hl
    · exact Or.inl hl
  · rintro (h | h)
    · exact ⟨word, h, Or.inr rfl⟩
    · exact ⟨wildcard, h, Or.inl rfl⟩

theorem patternFinds_eq_true_iff (name pattern : String) :
    (patternFinds name pattern).outcome = .ok true ↔ Regex.IsFound name pattern := by
  unfold patternFinds Regex.IsFound
  rcases hc : Regex.compile pattern with (fault | refusal) | regex <;> simp

/-- An answer about a name says whether some pattern is found in it. -/
theorem matchesName_iff {rule : Rule} {name : String} {found : Bool}
    (h : (rule.matchesName name).outcome = .ok found) :
    found = true ↔ ∃ pattern ∈ rule.patterns, Regex.IsFound name pattern := by
  unfold matchesName at h
  cases found with
  | true =>
    obtain ⟨pattern, hfirst, ht⟩ := (Noted.any_eq_iff_firstAt (by simp)).mp h
    simp only [true_iff]
    exact ⟨pattern, hfirst.mem, (patternFinds_eq_true_iff name pattern).mp ht⟩
  | false =>
    rw [Noted.any_eq_false_iff] at h
    simp only [Bool.false_eq_true, false_iff]
    rintro ⟨pattern, hp, hfound⟩
    have ht := (patternFinds_eq_true_iff name pattern).mpr hfound
    rw [h pattern hp] at ht
    cases ht

/-! ## Dimensions that only narrow -/

theorem admitsName_iff {rule : Rule} {action : Action} {admitted : Bool}
    (h : (rule.admitsName action).outcome = .ok admitted) :
    admitted = true ↔ ∀ name, action.name = some name → rule.patterns ≠ [] →
      ∃ pattern ∈ rule.patterns, Regex.IsFound name pattern := by
  unfold admitsName at h
  rcases hn : action.name with _ | name
  · simp only [hn, Noted.answer_outcome, Except.ok.injEq] at h
    simp [← h]
  · simp only [hn] at h
    by_cases hp : rule.patterns = []
    · simp only [hp, List.isEmpty_nil, if_true, Noted.answer_outcome, Except.ok.injEq] at h
      simp [← h, hp]
    · have hne : rule.patterns.isEmpty = false := by simpa using hp
      simp only [hne, Bool.false_eq_true, if_false] at h
      rw [matchesName_iff h]
      constructor
      · rintro hfound _ ⟨⟩ _
        exact hfound
      · intro hall
        exact hall name rfl hp

omit [Dialect] in
theorem admitsNamespace_iff (rule : Rule) (action : Action) :
    rule.admitsNamespace action = true ↔ ∀ space, action.inNamespace = some space →
      action.verb.word = Verb.launch.word → action.resource.word = Resource.templates.word →
        rule.namespaces ≠ [] → Lists rule.namespaces space := by
  unfold admitsNamespace
  rcases hs : action.inNamespace with _ | space
  · simp
  · simp only [Bool.or_eq_true, Bool.not_eq_true', List.isEmpty_iff, hasNamespace, covers_iff,
      Option.some.injEq, forall_eq']
    constructor
    · rintro ((hnot | hempty) | hlists) hverb hresource hne
      · simp [Action.isNamespaced, hverb, hresource] at hnot
      · exact absurd hempty hne
      · exact hlists
    · intro hall
      by_cases hlaunch : action.isNamespaced = true
      · by_cases hne : rule.namespaces = []
        · exact Or.inl (Or.inr hne)
        · simp only [Action.isNamespaced, Bool.and_eq_true, beq_iff_eq] at hlaunch
          exact Or.inr (hall hlaunch.1 hlaunch.2 hne)
      · exact Or.inl (Or.inl (by simpa using hlaunch))

/-! ## Whole rules -/

/-- A rule that comes to an answer allows what it permits, and nothing else. -/
theorem authorizes_iff {rule : Rule} {action : Action} {allowed : Bool}
    (h : (rule.authorizes action).outcome = .ok allowed) :
    allowed = true ↔ rule.Permits action.inquiry := by
  unfold authorizes at h
  by_cases hw : (rule.hasVerb action.verb && rule.hasResource action.resource) = true
  · rw [if_pos hw] at h
    rw [Bool.and_eq_true, hasVerb, hasResource, covers_iff, covers_iff] at hw
    rcases ha : (rule.admitsName action).outcome with e | admitted
    · rw [Noted.next_of_error _ ha] at h
      cases h
    · rw [Noted.next_of_ok _ ha, Noted.answer_outcome, Except.ok.injEq] at h
      rw [← h, Bool.and_eq_true, admitsName_iff ha, admitsNamespace_iff]
      constructor
      · rintro ⟨hname, hspace⟩
        exact ⟨hw.1, hw.2, hname, hspace⟩
      · intro hp
        exact ⟨hp.name, hp.space⟩
  · rw [if_neg hw, Noted.answer_outcome, Except.ok.injEq] at h
    rw [← h]
    simp only [Bool.false_eq_true, false_iff]
    intro hp
    apply hw
    rw [Bool.and_eq_true, hasVerb, hasResource, covers_iff, covers_iff]
    exact ⟨hp.verb, hp.resource⟩

/-- What a rule comes to depends on what it has, on the name and on the namespace. -/
theorem authorizes_outcome_congr {a b : Rule} {action : Action}
    (hverb : a.hasVerb action.verb = b.hasVerb action.verb)
    (hresource : a.hasResource action.resource = b.hasResource action.resource)
    (hname : (a.admitsName action).outcome = (b.admitsName action).outcome)
    (hspace : a.admitsNamespace action = b.admitsNamespace action) :
    (a.authorizes action).outcome = (b.authorizes action).outcome := by
  rw [authorizes, authorizes, hverb, hresource, hspace]
  split
  · exact Noted.next_outcome_congr _ hname
  · rfl

/-! ## Rules with more words -/

omit [Dialect] in
theorem Lists.mono {a b : List String} (h : a ⊆ b) {word : String} (ha : Lists a word) :
    Lists b word :=
  ha.imp (fun hword => h hword) fun hwildcard => h hwildcard

theorem Within.permits {rule wide : Rule} (h : rule.Within wide) {inquiry : Inquiry}
    (hpermits : rule.Permits inquiry) : wide.Permits inquiry where
  verb := hpermits.verb.mono h.verbs
  resource := hpermits.resource.mono h.resources
  name := by
    intro name hname hne
    have hsome : rule.patterns ≠ [] := fun hnil => hne (h.patternless.mp hnil)
    obtain ⟨pattern, hpattern, hfound⟩ := hpermits.name name hname hsome
    exact ⟨pattern, h.patterns hpattern, hfound⟩
  space := by
    intro space hspace hverb hresource hne
    have hsome : rule.namespaces ≠ [] := fun hnil => hne (h.spaceless.mp hnil)
    exact (hpermits.space space hspace hverb hresource hsome).mono h.namespaces

omit [Dialect] in
theorem Alike.within {a b : Rule} (h : a.Alike b) : a.Within b where
  verbs := h.verbs.subset
  resources := h.resources.subset
  patterns := h.patterns.subset
  namespaces := h.namespaces.subset
  patternless := by rw [← List.isEmpty_iff, ← List.isEmpty_iff, h.patterns.isEmpty_eq]
  spaceless := by rw [← List.isEmpty_iff, ← List.isEmpty_iff, h.namespaces.isEmpty_eq]

theorem Alike.permits {a b : Rule} (h : a.Alike b) {inquiry : Inquiry} (ha : a.Permits inquiry) :
    b.Permits inquiry :=
  h.within.permits ha

/-! ## Empty rules -/

/-- An empty rule answers at once. -/
theorem authorizes_of_isEmpty {rule : Rule} (h : rule.isEmpty = true) (action : Action) :
    rule.authorizes action = .answer false := by
  simp only [isEmpty, Bool.and_eq_true, List.isEmpty_iff] at h
  obtain ⟨⟨⟨hv, -⟩, -⟩, -⟩ := h
  simp [authorizes, hasVerb, verbWords, hv, covers]

/-- A rule that permits something is not empty. -/
theorem Permits.isEmpty_eq {rule : Rule} {inquiry : Inquiry} (h : rule.Permits inquiry) :
    rule.isEmpty = false := by
  have hverbs : rule.verbs ≠ [] := by
    intro hnil
    simpa [Lists, verbWords, hnil] using h.verb
  simp [isEmpty, hverbs]

end Rule

/-! ## Several rules -/

/-- Permissions that come to an answer allow what some of their rules permits, and nothing else. -/
theorem Permissions.allowed_iff {permissions : Permissions} {action : Action} {allowed : Bool}
    (h : (permissions.isAllowed action).outcome = .ok allowed) :
    allowed = true ↔ ∃ rule ∈ permissions.rules, rule.Permits action.inquiry := by
  cases allowed with
  | true =>
    obtain ⟨rule, hfirst, htrue⟩ := (Noted.any_eq_iff_firstAt (by simp)).mp h
    simp only [true_iff]
    exact ⟨rule, hfirst.mem, (Rule.authorizes_iff htrue).mp rfl⟩
  | false =>
    have hfalse := Noted.any_eq_false_iff.mp h
    simp only [Bool.false_eq_true, false_iff]
    rintro ⟨rule, hrule, hpermits⟩
    have hanswer := (Rule.authorizes_iff (hfalse rule hrule)).mpr hpermits
    cases hanswer

end DesktopPolicy
