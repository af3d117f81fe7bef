-- The laws of audits of patterns. An audit tries to read every pattern of a rule, and so does every
-- question about a name, as far as it gets. What the audit tells of the patterns is what a question
-- skips. A malformed pattern is found in no name, but it is still a pattern: it keeps the rule from
-- being about every name.
import DesktopPolicy.Proofs.PatternRefusal

namespace DesktopPolicy

section

variable [Dialect]

/-! ## The pure model -/

/-- What is skipped of a pattern: the pattern itself, if it is malformed. -/
def Regex.skipped? (pattern : String) : Option Skipped :=
  match compile pattern with
  | .error (.malformed fault) => some ⟨pattern, fault⟩
  | _ => none

/-- The pattern is a regular expression, but the search for it in the name fails: some group of it
would end before it starts. -/
def Regex.FailsOn (name pattern : String) : Prop :=
  ∃ regex, compile pattern = .ok regex ∧ regex.search name = .error .span

/-- What an audit tells of a skipped pattern. -/
def Skipped.diagnostic (skipped : Skipped) : Diagnostic :=
  ⟨.malformedPattern skipped.fault, skipped.pattern⟩

/-- Those of the diagnostics that are about patterns. -/
def Diagnostic.aboutPatterns (diagnostics : List Diagnostic) : List Diagnostic :=
  diagnostics.filter fun diagnostic => diagnostic.field == Rule.patternsField

/-- The patterns with a diagnostic. -/
def Diagnostic.patterns (diagnostics : List Diagnostic) : List String :=
  (aboutPatterns diagnostics).map value

namespace Rule

/-- The rule without these patterns. -/
def withoutPatterns (rule : Rule) (patterns : List String) : Rule :=
  { rule with patterns := rule.patterns.filter fun pattern => !patterns.contains pattern }

/-- Every pattern of the rule whose search fails stands behind one that is found in the name. -/
def SearchesName (rule : Rule) (name : String) : Prop :=
  ∀ before pattern after, rule.patterns = before ++ pattern :: after → Regex.FailsOn name pattern →
    ∃ earlier ∈ before, Regex.IsFound name earlier

end Rule

end

/-! ## Fields of diagnostics -/

namespace Rule

theorem field_unknownVerbs (rule : Rule) :
    ∀ diagnostic ∈ rule.unknownVerbs, diagnostic.field = verbsField := by
  intro diagnostic hd
  obtain ⟨verb, -, rfl⟩ := List.mem_map.mp hd
  rfl

theorem field_unknownResources (rule : Rule) :
    ∀ diagnostic ∈ rule.unknownResources, diagnostic.field = resourcesField := by
  intro diagnostic hd
  obtain ⟨resource, -, rfl⟩ := List.mem_map.mp hd
  rfl

theorem field_unusedVerbs (rule : Rule) :
    ∀ diagnostic ∈ rule.unusedVerbs, diagnostic.field = verbsField := by
  intro diagnostic hd
  unfold unusedVerbs at hd
  split at hd
  · obtain ⟨word, -, rfl⟩ := List.mem_map.mp hd
    rfl
  · cases hd

theorem aboutPatterns_of_field {field : String} (hfield : field ≠ patternsField)
    {diagnostics : List Diagnostic} (h : ∀ diagnostic ∈ diagnostics, diagnostic.field = field) :
    Diagnostic.aboutPatterns diagnostics = [] := by
  rw [Diagnostic.aboutPatterns, List.filter_eq_nil_iff]
  intro diagnostic hd
  rw [h diagnostic hd, beq_iff_eq]
  exact hfield

theorem aboutPatterns_skipped (skipped : List Skipped) :
    Diagnostic.aboutPatterns (skipped.map Skipped.diagnostic) =
      skipped.map Skipped.diagnostic := by
  rw [Diagnostic.aboutPatterns, List.filter_eq_self]
  intro diagnostic hd
  obtain ⟨one, -, rfl⟩ := List.mem_map.mp hd
  exact beq_self_eq_true patternsField

end Rule

section

variable [Dialect]

/-! ## Single patterns -/

/-- A search fails in one way only. -/
theorem Regex.search_eq_error {regex : Regex} {name : String} {refusal : Pattern.Refusal}
    (h : regex.search name = .error refusal) : refusal = .span := by
  unfold search at h
  simp only at h
  split at h
  · cases h
  · split at h
    · cases h
      rfl
    · cases h

theorem Regex.breaks_iff_of_not_refused {name pattern : String} (h : ¬ IsRefused pattern) :
    Breaks name pattern ↔ FailsOn name pattern := by
  constructor
  · rintro (hrefused | ⟨regex, refusal, hcompile, hsearch⟩)
    · exact absurd hrefused h
    · exact ⟨regex, hcompile, search_eq_error hsearch ▸ hsearch⟩
  · rintro ⟨regex, hcompile, hsearch⟩
    exact .inr ⟨regex, .span, hcompile, hsearch⟩

theorem Regex.skipped?_eq_some_iff {pattern : String} {skipped : Skipped} :
    skipped? pattern = some skipped ↔
      compile pattern = .error (.malformed skipped.fault) ∧ skipped.pattern = pattern := by
  unfold skipped?
  rcases compile pattern with (fault | refusal) | regex
  · constructor
    · rintro ⟨⟩
      exact ⟨rfl, rfl⟩
    · rintro ⟨hfault, rfl⟩
      cases hfault
      rfl
  · simp
  · simp

namespace Rule

/-- What a trial of a pattern notes is that the pattern is skipped, and nothing else. -/
theorem notes_patternFinds (name pattern : String) :
    (patternFinds name pattern).notes = (Regex.skipped? pattern).toList := by
  unfold patternFinds Regex.skipped?
  rcases Regex.compile pattern with (fault | refusal) | regex <;> rfl

/-- A skipped pattern is found in no name. -/
theorem patternFinds_of_skipped {pattern : String} {skipped : Skipped}
    (h : Regex.skipped? pattern = some skipped) (name : String) :
    (patternFinds name pattern).outcome = .ok false := by
  rw [patternFinds, (Regex.skipped?_eq_some_iff.mp h).1]

/-! ## What audits and questions tell -/

theorem malformedPatterns_eq_ok {patterns : List String} {diagnostics : List Diagnostic}
    (h : malformedPatterns patterns = .ok diagnostics) :
    diagnostics = (patterns.filterMap Regex.skipped?).map Skipped.diagnostic := by
  induction patterns generalizing diagnostics with
  | nil =>
    cases h
    rfl
  | cons pattern rest ih =>
    rw [malformedPatterns] at h
    rw [List.filterMap_cons, Regex.skipped?]
    rcases hc : Regex.compile pattern with (fault | refusal) | regex
    · simp only [hc] at h
      rcases hr : malformedPatterns rest with refusal | others
      · rw [hr] at h
        cases h
      · rw [hr] at h
        cases h
        simp only [List.map_cons, ih hr]
        rfl
    · simp only [hc] at h
      cases h
    · simp only [hc] at h
      exact ih h

/-- What an audit tells of the patterns, in their order and as often as they occur. -/
theorem aboutPatterns_audit {rule : Rule} {diagnostics : List Diagnostic}
    (h : rule.audit = .ok diagnostics) :
    Diagnostic.aboutPatterns diagnostics =
      (rule.patterns.filterMap Regex.skipped?).map Skipped.diagnostic := by
  unfold audit at h
  rcases hm : malformedPatterns rule.patterns with refusal | malformed
  · rw [hm] at h
    cases h
  · rw [hm] at h
    cases h
    -- the other parts are about fields of their own
    have hverbs := aboutPatterns_of_field (by decide) rule.field_unknownVerbs
    have hresources := aboutPatterns_of_field (by decide) rule.field_unknownResources
    have hunused := aboutPatterns_of_field (by decide) rule.field_unusedVerbs
    have hmalformed := aboutPatterns_skipped (rule.patterns.filterMap Regex.skipped?)
    rw [malformedPatterns_eq_ok hm]
    rw [Diagnostic.aboutPatterns] at *
    rw [List.filter_append, List.filter_append, List.filter_append, hverbs, hresources, hunused,
      hmalformed, List.nil_append, List.nil_append, List.append_nil]

/-- The patterns with a diagnostic are those that are skipped. -/
theorem mem_patterns_audit {rule : Rule} {diagnostics : List Diagnostic}
    (h : rule.audit = .ok diagnostics) (pattern : String) :
    pattern ∈ Diagnostic.patterns diagnostics ↔
      pattern ∈ rule.patterns ∧ (Regex.skipped? pattern).isSome := by
  rw [Diagnostic.patterns, aboutPatterns_audit h, List.map_map, List.mem_map]
  simp only [List.mem_filterMap, Option.isSome_iff_exists]
  constructor
  · rintro ⟨skipped, ⟨listed, hlisted, hskipped⟩, rfl⟩
    have hpattern := (Regex.skipped?_eq_some_iff.mp hskipped).2
    rw [Function.comp_apply, Skipped.diagnostic, hpattern]
    exact ⟨hlisted, skipped, hskipped⟩
  · rintro ⟨hlisted, skipped, hskipped⟩
    exact ⟨skipped, ⟨pattern, hlisted, hskipped⟩, (Regex.skipped?_eq_some_iff.mp hskipped).2⟩

theorem notes_matchesName_prefix (rule : Rule) (name : String) :
    (rule.matchesName name).notes <+: rule.patterns.filterMap Regex.skipped? := by
  rw [List.filterMap_eq_flatMap_toList]
  simp only [← notes_patternFinds name]
  exact Noted.notes_any_prefix (patternFinds name) rule.patterns

theorem notes_matchesName_of_false {rule : Rule} {name : String}
    (h : (rule.matchesName name).outcome = .ok false) :
    (rule.matchesName name).notes = rule.patterns.filterMap Regex.skipped? := by
  rw [List.filterMap_eq_flatMap_toList]
  simp only [← notes_patternFinds name]
  exact Noted.notes_any_of_false h

/-! ## Audited rules -/

theorem settlesName_iff_of_isSound {rule : Rule} (h : rule.IsSound) (name : String) :
    rule.SettlesName name ↔ rule.SearchesName name := by
  constructor
  · intro hsettles before pattern after hrule hfails
    have hmem : pattern ∈ rule.patterns := by simp [hrule]
    exact hsettles before pattern after hrule
      ((Regex.breaks_iff_of_not_refused (h pattern hmem)).mpr hfails)
  · intro hsearches before pattern after hrule hbreaks
    have hmem : pattern ∈ rule.patterns := by simp [hrule]
    exact hsearches before pattern after hrule
      ((Regex.breaks_iff_of_not_refused (h pattern hmem)).mp hbreaks)

/-- Without the patterns that are diagnosed, a name comes to the same. -/
theorem matchesName_withoutPatterns {rule : Rule} {diagnostics : List Diagnostic}
    (h : rule.audit = .ok diagnostics) (name : String) :
    ((rule.withoutPatterns (Diagnostic.patterns diagnostics)).matchesName name).outcome =
      (rule.matchesName name).outcome := by
  apply Noted.any_filter_of_false
  intro pattern _ hdropped
  have hdiagnosed : pattern ∈ Diagnostic.patterns diagnostics := by simpa using hdropped
  obtain ⟨skipped, hskipped⟩ :=
    Option.isSome_iff_exists.mp ((mem_patterns_audit h pattern).mp hdiagnosed).2
  exact patternFinds_of_skipped hskipped name

/-- Without them, as long as others are left, an action comes to the same. -/
theorem authorizes_withoutPatterns {rule : Rule} {diagnostics : List Diagnostic}
    (h : rule.audit = .ok diagnostics)
    (hleft : (rule.withoutPatterns (Diagnostic.patterns diagnostics)).patterns ≠ [])
    (action : Action) :
    ((rule.withoutPatterns (Diagnostic.patterns diagnostics)).authorizes action).outcome =
      (rule.authorizes action).outcome := by
  have hpatterns : rule.patterns ≠ [] := by
    intro hnil
    simp [withoutPatterns, hnil] at hleft
  refine authorizes_outcome_congr ?_ ?_ ?_ ?_
  · rfl
  · rfl
  · unfold admitsName
    rcases action.name with _ | name
    · rfl
    · simp only [List.isEmpty_iff, hleft, hpatterns, if_false]
      exact matchesName_withoutPatterns h name
  · rfl

/-- A rule whose patterns are all diagnosed is about no name. -/
theorem authorizes_of_all_diagnosed {rule : Rule} {diagnostics : List Diagnostic}
    (h : rule.audit = .ok diagnostics) (hpatterns : rule.patterns ≠ [])
    (hall : ∀ pattern ∈ rule.patterns, pattern ∈ Diagnostic.patterns diagnostics)
    {action : Action} {name : String} (hname : action.name = some name) :
    (rule.authorizes action).outcome = .ok false := by
  have hmatches : (rule.matchesName name).outcome = .ok false := by
    apply Noted.any_eq_false_iff.mpr
    intro pattern hpattern
    obtain ⟨skipped, hskipped⟩ :=
      Option.isSome_iff_exists.mp ((mem_patterns_audit h pattern).mp (hall pattern hpattern)).2
    exact patternFinds_of_skipped hskipped name
  have hadmits : (rule.admitsName action).outcome = .ok false := by
    simpa [admitsName, hname, hpatterns] using hmatches
  unfold authorizes
  split
  · rw [Noted.next_of_ok _ hadmits, Bool.false_and]
    rfl
  · rfl

end Rule

/-! ## The laws -/

/-- What is known of a rule once it has been audited. Questions about names and actions only fail
where the search for a pattern fails, and no pattern before it is found. What the audit tells of the
patterns is what a question skips that finds nothing; one that ends earlier skips a first part of
it. Without the diagnosed patterns the rule answers alike, as long as there are others; with no
others it is about no name at all. -/
theorem an_audit_tells_what_questions_skip {rule : Rule} {diagnostics : List Diagnostic}
    (h : rule.audit = .ok diagnostics) :
    (∀ name, (rule.matchesName name).Answers ↔ rule.SearchesName name) ∧
    (∀ action, (rule.authorizes action).Answers ↔
      (Rule.Lists rule.verbWords action.verb.word →
        Rule.Lists rule.resourceWords action.resource.word →
          ∀ name, action.name = some name → rule.SearchesName name)) ∧
    (∀ name, (rule.matchesName name).notes.map Skipped.diagnostic <+:
      Diagnostic.aboutPatterns diagnostics) ∧
    (∀ name, (rule.matchesName name).outcome = .ok false →
      (rule.matchesName name).notes.map Skipped.diagnostic =
        Diagnostic.aboutPatterns diagnostics) ∧
    ((rule.withoutPatterns (Diagnostic.patterns diagnostics)).patterns ≠ [] → ∀ action,
      ((rule.withoutPatterns (Diagnostic.patterns diagnostics)).authorizes action).outcome =
        (rule.authorizes action).outcome) ∧
    (rule.patterns ≠ [] →
      (∀ pattern ∈ rule.patterns, pattern ∈ Diagnostic.patterns diagnostics) →
        ∀ action name, action.name = some name →
          (rule.authorizes action).outcome = .ok false) := by
  have hsound : rule.IsSound := rule.audit_ok_iff.mp ⟨diagnostics, h⟩
  refine ⟨?_, ?_, ?_, ?_, Rule.authorizes_withoutPatterns h, ?_⟩
  · intro name
    rw [rule.matchesName_answers_iff, Rule.settlesName_iff_of_isSound hsound]
  · intro action
    rw [rule.authorizes_answers_iff]
    simp only [Rule.Settles, Rule.settlesName_iff_of_isSound hsound]
    rfl
  · intro name
    rw [Rule.aboutPatterns_audit h]
    exact (rule.notes_matchesName_prefix name).map _
  · intro name hfalse
    rw [Rule.aboutPatterns_audit h, Rule.notes_matchesName_of_false hfalse]
  · intro hpatterns hall action name hname
    exact Rule.authorizes_of_all_diagnosed h hpatterns hall hname

end

/-- A rule whose pattern marks groups inside of a repetition that gives nothing back. -/
def Rule.capturing : Rule :=
  { verbs := [.read], resources := [.roles], patterns := ["((x)|y|z)*+"] }

/-- The audit has nothing to tell of that rule, and yet a question about a name comes to no answer. -/
theorem a_clean_audit_does_not_save_from_a_failing_search :
    Rule.capturing.audit = .ok [] ∧
    (Rule.capturing.matchesName "xyz").outcome = .error .span ∧
    (Rule.capturing.authorizes ⟨.read, .roles, some "xyz", none⟩).outcome = .error .span := by
  refine ⟨?_, ?_, ?_⟩ <;> decide +kernel

/-- A rule with malformed patterns around another one. -/
def Rule.patchy : Rule :=
  { verbs := [.read, .other "peek"], resources := [.roles], patterns := ["(", "^a", "[", "("] }

/-- Asked about a name that is not found, the patchy rule skips three patterns; it does not need
them. -/
theorem a_patchy_rule_skips_what_its_audit_tells :
    ∃ diagnostics, Rule.patchy.audit = .ok diagnostics ∧
      (Rule.patchy.matchesName "b").notes.map Skipped.diagnostic =
        Diagnostic.aboutPatterns diagnostics ∧
      Diagnostic.patterns diagnostics = ["(", "[", "("] ∧
      ∀ action, ((Rule.patchy.withoutPatterns ["(", "[", "("]).authorizes action).outcome =
        (Rule.patchy.authorizes action).outcome := by
  have hsound : Rule.patchy.IsSound := by decide +kernel
  obtain ⟨diagnostics, haudit⟩ := Rule.patchy.audit_ok_iff.mpr hsound
  obtain ⟨-, -, -, hskipped, hwithout, -⟩ := an_audit_tells_what_questions_skip haudit
  have hfalse : (Rule.patchy.matchesName "b").outcome = .ok false := by decide +kernel
  have hnotes : (Rule.patchy.matchesName "b").notes.map Skipped.pattern = ["(", "[", "("] := by
    decide +kernel
  have hpatterns : Diagnostic.patterns diagnostics = ["(", "[", "("] := by
    rw [Diagnostic.patterns, ← hskipped "b" hfalse, List.map_map]
    exact hnotes
  refine ⟨diagnostics, haudit, hskipped "b" hfalse, hpatterns, ?_⟩
  rw [hpatterns] at hwithout
  exact hwithout (by decide)

end DesktopPolicy
