-- Where evaluations and audits fail. A malformed pattern is passed over as one that is not found,
-- but a pattern that is refused for another reason is not: it ends the trial, unless an earlier
-- pattern was found, and it ends every audit of the rule it stands in.
import DesktopPolicy.Proofs.ServiceAnswers

namespace DesktopPolicy

section

variable [Dialect]

/-! ## The pure model -/

namespace Regex

/-- The pattern is no regular expression, for a reason that is no matter of its form. -/
def IsRefused (pattern : String) : Prop := ∃ refusal, compile pattern = .error (.refused refusal)

/-- The pattern comes to no answer about the name: it is refused, or the search for it fails. -/
def Breaks (name pattern : String) : Prop :=
  IsRefused pattern ∨
    ∃ regex refusal, compile pattern = .ok regex ∧ regex.search name = .error refusal

instance (pattern : String) : Decidable (IsRefused pattern) :=
  match h : compile pattern with
  | .error (.refused refusal) => .isTrue ⟨refusal, h⟩
  | .error (.malformed _) => .isFalse (by
      rintro ⟨refusal, hrefused⟩
      rw [h] at hrefused
      cases hrefused)
  | .ok _ => .isFalse (by
      rintro ⟨refusal, hrefused⟩
      rw [h] at hrefused
      cases hrefused)

end Regex

/-- Every pattern of the rule that breaks stands behind one that is found in the name. -/
def Rule.SettlesName (rule : Rule) (name : String) : Prop :=
  ∀ before pattern after, rule.patterns = before ++ pattern :: after → Regex.Breaks name pattern →
    ∃ earlier ∈ before, Regex.IsFound name earlier

/-- The rule does not list what is asked for, or there is no name, or the name is settled. -/
def Rule.Settles (rule : Rule) (inquiry : Inquiry) : Prop :=
  Lists rule.verbWords inquiry.verb → Lists rule.resourceWords inquiry.resource →
    ∀ name, inquiry.name = some name → rule.SettlesName name

/-- Every rule that does not settle what is asked for stands behind one that does and permits it. -/
def Permissions.Settle (permissions : Permissions) (inquiry : Inquiry) : Prop :=
  ∀ before rule after, permissions.rules = before ++ rule :: after → ¬ rule.Settles inquiry →
    ∃ earlier ∈ before, earlier.Settles inquiry ∧ earlier.Permits inquiry

/-- No pattern of the rule is refused. -/
def Rule.IsSound (rule : Rule) : Prop := ∀ pattern ∈ rule.patterns, ¬ Regex.IsRefused pattern

instance (rule : Rule) : Decidable rule.IsSound :=
  inferInstanceAs (Decidable (∀ pattern ∈ rule.patterns, ¬ Regex.IsRefused pattern))

/-- No pattern of any rule of the role is refused. -/
def Role.IsSound (role : Role) : Prop := ∀ rule ∈ role.rules, rule.IsSound

instance (role : Role) : Decidable role.IsSound :=
  inferInstanceAs (Decidable (∀ rule ∈ role.rules, rule.IsSound))

/-- Nothing in the settings keeps a service from starting: the level is one, there is a title, and no
log file is asked for. -/
structure Settings.LetStart (settings : Settings) : Prop where
  level : ∃ level, Log.Book.orderedLevel (.text settings.logLevel) = .ok level
  file : settings.logToFile = false
  title : settings.title ≠ ""

/-! ## Trials -/

theorem Rule.patternFinds_answers_iff (name pattern : String) :
    (patternFinds name pattern).Answers ↔ ¬ Regex.Breaks name pattern := by
  unfold Noted.Answers patternFinds Regex.Breaks Regex.IsRefused
  rcases hc : Regex.compile pattern with (fault | refusal) | regex
  · simp
  · simp
  · rcases hs : regex.search name with refusal | found <;> simp [hs]

theorem Rule.matchesName_answers_iff (rule : Rule) (name : String) :
    (rule.matchesName name).Answers ↔ rule.SettlesName name := by
  rw [matchesName, Noted.any_answers_iff]
  simp only [patternFinds_answers_iff, patternFinds_eq_true_iff, not_not, SettlesName]

theorem Rule.settlesName_of_patternless {rule : Rule} (h : rule.patterns = []) (name : String) :
    rule.SettlesName name := by
  intro before pattern after hrule
  simp [h] at hrule

theorem Rule.admitsName_answers_iff (rule : Rule) (action : Action) :
    (rule.admitsName action).Answers ↔
      ∀ name, action.name = some name → rule.SettlesName name := by
  unfold admitsName
  rcases hn : action.name with _ | name
  · simp [Noted.Answers]
  · simp only [Option.some.injEq, forall_eq']
    by_cases hp : rule.patterns = []
    · simp [hp, settlesName_of_patternless hp, Noted.Answers]
    · have hne : rule.patterns.isEmpty = false := by simpa using hp
      simp [hne, matchesName_answers_iff]

theorem Rule.settles_iff (rule : Rule) (action : Action) :
    rule.Settles action.inquiry ↔ (rule.hasVerb action.verb = true →
      rule.hasResource action.resource = true → (rule.admitsName action).Answers) := by
  rw [hasVerb, hasResource, covers_iff, covers_iff, admitsName_answers_iff]
  rfl

theorem Rule.authorizes_answers_iff (rule : Rule) (action : Action) :
    (rule.authorizes action).Answers ↔ rule.Settles action.inquiry := by
  rw [settles_iff, authorizes]
  by_cases hv : rule.hasVerb action.verb = true
  · by_cases hr : rule.hasResource action.resource = true
    · simp only [hv, hr, Bool.and_self, if_true, true_implies]
      rcases ha : (rule.admitsName action).outcome with e | admitted
      · simp [Noted.Answers, Noted.next_of_error _ ha, ha]
      · simp [Noted.Answers, Noted.next_of_ok _ ha, ha]
    · simp [hr, Noted.Answers]
  · simp [hv, Noted.Answers]

theorem Rule.authorizes_eq_true_iff (rule : Rule) (action : Action) :
    (rule.authorizes action).outcome = .ok true ↔
      rule.Settles action.inquiry ∧ rule.Permits action.inquiry := by
  rw [← authorizes_answers_iff]
  constructor
  · intro h
    exact ⟨⟨true, h⟩, (authorizes_iff h).mp rfl⟩
  · rintro ⟨⟨allowed, h⟩, hpermits⟩
    rw [h, (authorizes_iff h).mpr hpermits]

/-- A malformed pattern is passed over: without it the rule comes to the same. -/
theorem Rule.matchesName_of_malformed {rule : Rule} {name pattern : String}
    {before after : List String} {fault : Pattern.Malformed}
    (hrule : rule.patterns = before ++ pattern :: after)
    (h : Regex.compile pattern = .error (.malformed fault)) :
    (rule.matchesName name).outcome =
      (Rule.matchesName { rule with patterns := before ++ after } name).outcome := by
  have hfalse : (patternFinds name pattern).outcome = .ok false := by
    simp [patternFinds, h]
  rw [matchesName, matchesName, hrule]
  exact Noted.any_middle_of_false before after hfalse

theorem Permissions.isAllowed_answers_iff (permissions : Permissions) (action : Action) :
    (permissions.isAllowed action).Answers ↔ permissions.Settle action.inquiry := by
  rw [isAllowed, Noted.any_answers_iff]
  simp only [Rule.authorizes_answers_iff, Rule.authorizes_eq_true_iff, Settle]

theorem Permissions.isAllowed_eq_true_iff (permissions : Permissions) (action : Action) :
    (permissions.isAllowed action).outcome = .ok true ↔
      permissions.Settle action.inquiry ∧
        ∃ rule ∈ permissions.rules, rule.Permits action.inquiry := by
  rw [← isAllowed_answers_iff]
  constructor
  · intro h
    exact ⟨⟨true, h⟩, (allowed_iff h).mp rfl⟩
  · rintro ⟨⟨allowed, h⟩, hpermits⟩
    rw [h, (allowed_iff h).mpr hpermits]

/-! ## Audits -/

theorem Rule.malformedPatterns_ok_iff (patterns : List String) :
    (∃ diagnostics, malformedPatterns patterns = .ok diagnostics) ↔
      ∀ pattern ∈ patterns, ¬ Regex.IsRefused pattern := by
  induction patterns with
  | nil => simp [malformedPatterns]
  | cons pattern rest ih =>
    rw [List.forall_mem_cons, ← ih, malformedPatterns, Regex.IsRefused]
    rcases hc : Regex.compile pattern with (fault | refusal) | regex
    · rcases malformedPatterns rest with refusal | diagnostics <;> simp [Except.map]
    · simp
    · simp

theorem Rule.audit_ok_iff (rule : Rule) :
    (∃ diagnostics, rule.audit = .ok diagnostics) ↔ rule.IsSound := by
  rw [IsSound, ← malformedPatterns_ok_iff, audit]
  rcases malformedPatterns rule.patterns with refusal | diagnostics <;>
    simp [bind, Except.bind, pure, Except.pure]

theorem Role.auditFrom_ok_iff (name : String) (index : Nat) (rules : List Rule) :
    (∃ mistakes, auditFrom name index rules = .ok mistakes) ↔ ∀ rule ∈ rules, rule.IsSound := by
  induction rules generalizing index with
  | nil => simp [auditFrom]
  | cons rule rest ih =>
    rw [List.forall_mem_cons, ← ih (index + 1), ← rule.audit_ok_iff, auditFrom]
    rcases rule.audit with refusal | diagnostics
    · simp [bind, Except.bind]
    · rcases auditFrom name (index + 1) rest with refusal | later <;>
        simp [bind, Except.bind, pure, Except.pure]

theorem Role.audit_ok_iff (role : Role) :
    (∃ mistakes, role.audit = .ok mistakes) ↔ role.IsSound :=
  auditFrom_ok_iff role.name 0 role.rules

/-! ## Starting -/

theorem Service.auditRecords_ok_iff (roles : List Role) :
    (∃ records, auditRecords roles = .ok records) ↔ ∀ role ∈ roles, role.IsSound := by
  unfold auditRecords
  generalize ([] : List Log.Record) = before
  induction roles generalizing before with
  | nil => simp [pure, Except.pure]
  | cons role rest ih =>
    rw [List.forall_mem_cons, ← role.audit_ok_iff, List.foldlM_cons]
    rcases role.audit with refusal | mistakes
    · simp [bind, Except.bind, Except.map]
    · simp only [Except.map, Except.ok.injEq, exists_eq', true_and]
      exact ih _

omit [Dialect] in
theorem Settings.letStart_default : LetStart {} :=
  ⟨⟨_, Log.Book.orderedLevel_usual⟩, rfl, by decide⟩

omit [Dialect] in
/-- Without a log file, a log book is set up at every level that there is. -/
theorem Log.Book.configureWith_ok {order : Order} {level : Level}
    (hlevel : orderedLevel order.level = .ok level) (hfile : order.toFile.isFilled = false)
    (started : Except Fault LogFile) (book : Book) :
    (book.configureWith started order).1 = .ok () := by
  simp only [configureWith, hlevel, hfile]
  split <;> rfl

omit [Dialect] in
theorem Service.exists_logBook {settings : Settings} (h : settings.LetStart) (place : Place) :
    ∃ book, logBook settings place = .ok book := by
  obtain ⟨level, hlevel⟩ := h.level
  have hordered : Log.Book.orderedLevel (logOrder settings).level = .ok level := hlevel
  have hfile : (logOrder settings).toFile.isFilled = false := by
    rw [logOrder, h.file]
    rfl
  rw [logBook, Log.Book.configureWith_ok hordered hfile]
  exact ⟨_, rfl⟩

/-- Under settings that let it start, the service starts on roles without refused patterns only. -/
theorem Service.start_ok_iff {settings : Settings} (roles : List Role) (place : Place)
    (h : settings.LetStart) :
    (∃ service, (start (some roles) settings place).outcome = .ok service) ↔
      ∀ role ∈ roles, role.IsSound := by
  obtain ⟨book, hbook⟩ := exists_logBook h place
  have htitled : settings.title.isEmpty = false := by
    rw [Bool.eq_false_iff, Ne, String.isEmpty_iff]
    exact h.title
  rw [← auditRecords_ok_iff, start, hbook]
  simp only [definitions, Noted.next, Noted.answer, htitled]
  rcases auditRecords roles with refusal | records <;> simp [Noted.fail]

/-! ## The laws -/

/-- A malformed pattern is always passed over. What comes to no answer is a rule, or a union of
rules, that has not settled the question before it tries a pattern that breaks; and what is not
audited, and keeps the service from starting, is a role with a pattern that is refused. -/
theorem nothing_fails_but_on_patterns_that_break (rule : Rule) (role : Role)
    (permissions : Permissions) (name : String) (action : Action) :
    (∀ before pattern after fault, rule.patterns = before ++ pattern :: after →
      Regex.compile pattern = .error (.malformed fault) →
        (rule.matchesName name).outcome =
          (Rule.matchesName { rule with patterns := before ++ after } name).outcome) ∧
    ((rule.matchesName name).Answers ↔ rule.SettlesName name) ∧
    ((rule.authorizes action).Answers ↔ rule.Settles action.inquiry) ∧
    ((permissions.isAllowed action).Answers ↔ permissions.Settle action.inquiry) ∧
    ((∃ diagnostics, rule.audit = .ok diagnostics) ↔ rule.IsSound) ∧
    ((∃ mistakes, role.audit = .ok mistakes) ↔ role.IsSound) ∧
    ∀ roles settings place, settings.LetStart →
      ((∃ service, (Service.start (some roles) settings place).outcome = .ok service) ↔
        ∀ role ∈ roles, role.IsSound) := by
  refine ⟨?_, rule.matchesName_answers_iff name, rule.authorizes_answers_iff action,
    permissions.isAllowed_answers_iff action, rule.audit_ok_iff, role.audit_ok_iff, ?_⟩
  · intro before pattern after fault hrule hmalformed
    exact Rule.matchesName_of_malformed hrule hmalformed
  · intro roles settings place hsettings
    exact Service.start_ok_iff roles place hsettings

end

/-- A rule whose pattern asks for more repetitions than can be counted. -/
def Rule.overcounted : Rule :=
  { verbs := [.read], resources := [.roles], patterns := ["a\x7b4294967295\x7d"] }

/-- Asked about a name, audited, or served, such a rule is the end of it. -/
theorem an_overcounted_pattern_is_not_passed_over :
    ¬ (Rule.overcounted.matchesName "a").Answers ∧
    ¬ (Rule.overcounted.authorizes ⟨.read, .roles, some "a", none⟩).Answers ∧
    ¬ ((Permissions.mk [Rule.overcounted] Grants.empty).isAllowed
      ⟨.read, .roles, some "a", none⟩).Answers ∧
    (¬ ∃ diagnostics, Rule.overcounted.audit = .ok diagnostics) ∧
    ¬ ∃ service, (Service.start
      (some [⟨"reader", [Rule.overcounted], Grants.empty, .text ""⟩]) {}).outcome = .ok service := by
  have hrefused : Regex.IsRefused "a\x7b4294967295\x7d" := by decide +kernel
  have hname : ¬ Rule.overcounted.SettlesName "a" := by
    intro h
    obtain ⟨earlier, he, -⟩ := h [] _ [] rfl (.inl hrefused)
    cases he
  have haction : ¬ Rule.overcounted.Settles ⟨"read", "roles", some "a", none⟩ := by
    intro h
    exact hname (h (.inl (by decide)) (.inl (by decide)) "a" rfl)
  refine ⟨?_, ?_, ?_, ?_, ?_⟩
  · rwa [Rule.matchesName_answers_iff]
  · rwa [Rule.authorizes_answers_iff]
  · rw [Permissions.isAllowed_answers_iff]
    intro h
    obtain ⟨earlier, he, -⟩ := h [] _ [] rfl haction
    cases he
  · rw [Rule.audit_ok_iff]
    decide +kernel
  · rw [Service.start_ok_iff _ _ Settings.letStart_default]
    decide +kernel

/-- A rule with a malformed pattern before another one. -/
def Rule.unclosed : Rule :=
  { verbs := [.read], resources := [.roles], patterns := ["(", "^a"] }

theorem an_unclosed_pattern_breaks_nothing :
    Rule.unclosed.SettlesName "b" ∧ (∃ diagnostics, Rule.unclosed.audit = .ok diagnostics) ∧
    ∃ service, (Service.start
      (some [⟨"reader", [Rule.unclosed], Grants.empty, .text ""⟩]) {}).outcome = .ok service := by
  obtain ⟨-, hname, -, -, haudit, -, hstart⟩ := nothing_fails_but_on_patterns_that_break
    Rule.unclosed Role.admin {} "b" ⟨.read, .roles, some "b", none⟩
  refine ⟨?_, ?_, ?_⟩
  · rw [← hname]
    exact ⟨false, by decide +kernel⟩
  · rw [haudit]
    decide +kernel
  · rw [hstart _ _ _ Settings.letStart_default]
    decide +kernel

end DesktopPolicy
