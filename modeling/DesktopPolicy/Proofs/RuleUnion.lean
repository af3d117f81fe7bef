-- The union of the rules of several roles answers as all their rules do, one after the other. A
-- rule that is left out is empty, or deep-equal to an earlier rule; so when its turn would have
-- come, a rule with the same words had been turned down.
import DesktopPolicy.Proofs.RuleDecision

namespace DesktopPolicy

section

variable [Dialect]

/-! ## The pure model -/

/-- All rules of the roles one after the other, with nothing left out, asked about an action. -/
def Role.anyAuthorizes (roles : List Role) (action : Action) : Trial Bool :=
  Noted.any (fun rule => rule.authorizes action) (roles.flatMap Role.rules)

namespace Rule

/-! ## Rules left out -/

/-- A rule with the same words as one that was turned down is not the one that authorizes. -/
theorem Alike.ne_true {earlier rule : Rule} {action : Action} (h : rule.Alike earlier)
    (hearlier : (earlier.authorizes action).outcome = .ok false) :
    (rule.authorizes action).outcome ≠ .ok true := by
  intro htrue
  have hpermits : rule.Permits action.inquiry := (authorizes_iff htrue).mp rfl
  have hfalse := (authorizes_iff hearlier).mpr (h.permits hpermits)
  cases hfalse

/-- The walk over the rules that are kept, while every rule seen so far was turned down. -/
theorem any_dedupeAfter {action : Action} {allowed : Bool} (seen rules : List Rule)
    (hseen : ∀ rule ∈ seen, (rule.authorizes action).outcome = .ok false)
    (h : (Noted.any (fun rule => rule.authorizes action) rules).outcome = .ok allowed) :
    (Noted.any (fun rule => rule.authorizes action) (dedupeAfter seen rules)).outcome =
      .ok allowed := by
  -- every rule behind the first that is not turned down is out of reach on both walks
  induction rules generalizing seen with
  | nil => exact h
  | cons rule rest ih =>
    rw [dedupeAfter]
    by_cases hrule : (rule.authorizes action).outcome = .ok false
    · rw [Noted.any_cons_of_false rule rest hrule] at h
      split
      · exact ih seen hseen h
      · rw [Noted.any_cons_of_false rule _ hrule]
        apply ih (seen ++ [rule]) _ h
        intro earlier he
        rcases List.mem_append.mp he with hs | hr
        · exact hseen earlier hs
        · rw [List.mem_singleton.mp hr, hrule]
    · rw [Noted.any_cons_of_ne rule rest hrule] at h
      have htrue : allowed = true := by
        cases allowed with
        | false => exact absurd h hrule
        | true => rfl
      subst htrue
      split
      · rename_i hdropped
        -- what is dropped is alike to a rule that was turned down, so it is not the first to pass
        obtain ⟨earlier, he, halike⟩ := (seen_iff seen rule).mp hdropped
        exact absurd h (halike.ne_true (hseen earlier he))
      · rw [Noted.any_cons_of_ne rule _ hrule, h]

/-- Empty rules never matter to a walk, not even to its notes. -/
theorem any_filter_isEmpty (action : Action) (rules : List Rule) :
    Noted.any (fun rule => rule.authorizes action) (rules.filter fun rule => !rule.isEmpty) =
      Noted.any (fun rule => rule.authorizes action) rules := by
  apply Noted.any_filter
  intro rule hrule
  exact authorizes_of_isEmpty (by simpa using hrule) action

end Rule

end

/-! ## Rules of roles -/

theorem Role.allRules_true (roles : List Role) :
    allRules roles true = (roles.flatMap Role.rules).filter fun rule => !rule.isEmpty := by
  simp [allRules]

theorem Role.allRules_false (roles : List Role) :
    allRules roles false = roles.flatMap Role.rules := by
  simp [allRules]

theorem Role.mem_allRules_iff {roles : List Role} {skipEmpty : Bool} {rule : Rule} :
    rule ∈ allRules roles skipEmpty ↔
      (∃ role ∈ roles, rule ∈ role.rules) ∧ (skipEmpty = true → rule.isEmpty = false) := by
  rw [allRules, List.mem_filter, List.mem_flatMap]
  cases skipEmpty <;> simp

/-- The union without empty rules is the union, without the empty rule. -/
theorem Role.unionRules_true (roles : List Role) :
    unionRules roles true = (unionRules roles false).filter fun rule => !rule.isEmpty := by
  rw [unionRules, unionRules, allRules_true, allRules_false]
  symm
  apply Rule.dedupe_filter
  intro a b halike
  rw [halike.isEmpty_eq]

/-- A union leaves rules out and adds none. -/
theorem Role.of_mem_unionRules {roles : List Role} {skipEmpty : Bool} {rule : Rule}
    (h : rule ∈ unionRules roles skipEmpty) :
    (∃ role ∈ roles, rule ∈ role.rules) ∧ (skipEmpty = true → rule.isEmpty = false) :=
  mem_allRules_iff.mp ((Rule.dedupe_sublist _).subset h)

section

variable [Dialect]

theorem Role.any_allRules (roles : List Role) (skipEmpty : Bool) (action : Action) :
    Noted.any (fun rule => rule.authorizes action) (allRules roles skipEmpty) =
      anyAuthorizes roles action := by
  cases skipEmpty with
  | true => rw [allRules_true, Rule.any_filter_isEmpty, anyAuthorizes]
  | false => rw [allRules_false, anyAuthorizes]

/-- A union that comes to an answer allows what some rule of some role permits, and nothing else. -/
theorem Permissions.isAllowed_iff {roles : List Role} {skipEmpty : Bool} {action : Action}
    {allowed : Bool}
    (h : ((ofRoles roles skipEmpty).isAllowed action).outcome = .ok allowed) :
    allowed = true ↔ ∃ role ∈ roles, ∃ rule ∈ role.rules, rule.Permits action.inquiry := by
  rw [allowed_iff h]
  constructor
  · rintro ⟨rule, hrule, hpermits⟩
    obtain ⟨⟨role, hrole, hrule⟩, -⟩ := Role.of_mem_unionRules hrule
    exact ⟨role, hrole, rule, hrule, hpermits⟩
  · rintro ⟨role, hrole, rule, hrule, hpermits⟩
    -- a rule that permits something is not skipped as empty, and one alike to it is kept
    have hall : rule ∈ Role.allRules roles skipEmpty :=
      Role.mem_allRules_iff.mpr ⟨⟨role, hrole, hrule⟩, fun _ => hpermits.isEmpty_eq⟩
    obtain ⟨kept, hkept, halike⟩ := Rule.exists_alike_dedupe _ rule hall
    exact ⟨kept, hkept, halike.permits hpermits⟩

/-! ## The laws -/

/-- When all rules of the roles, one after the other, come to an answer, the union of the rules
comes to the same answer. Whether the union holds the empty rule never matters: the answers, the
failures and the patterns skipped on the way are the same. -/
theorem a_union_answers_as_all_rules_in_their_order (roles : List Role) (action : Action) :
    (∀ skipEmpty allowed, (Role.anyAuthorizes roles action).outcome = .ok allowed →
      ((Permissions.ofRoles roles skipEmpty).isAllowed action).outcome = .ok allowed) ∧
    (Permissions.ofRoles roles true).isAllowed action =
      (Permissions.ofRoles roles false).isAllowed action := by
  constructor
  · intro skipEmpty allowed h
    rw [← Role.any_allRules roles skipEmpty] at h
    exact Rule.any_dedupeAfter [] _ (by simp) h
  · rw [Permissions.isAllowed, Permissions.isAllowed, Permissions.ofRoles, Permissions.ofRoles,
      Role.unionRules_true, Rule.any_filter_isEmpty]

end

/-- Two roles with one rule in two spellings: the second one tries the same patterns in another
order, and is left out of the union. -/
def Role.respelled : List Role := [
  { name := "first"
    rules := [{}, { verbs := [.read], resources := [.roles], patterns := ["(", "^b"] }] },
  { name := "second"
    rules := [
      { verbs := [.read], resources := [.roles], patterns := ["^b", "("] },
      { verbs := [.all], resources := [.roles], patterns := ["^a"] }] }]

theorem a_union_without_the_second_spelling_answers_alike :
    (Role.anyAuthorizes Role.respelled ⟨.read, .roles, some "ab", none⟩).outcome = .ok true ∧
      (Role.unionRules Role.respelled).length = 2 ∧
      ((Permissions.ofRoles Role.respelled).isAllowed ⟨.read, .roles, some "ab", none⟩).outcome =
        .ok true := by
  have hpasses : Noted.passes (Role.anyAuthorizes Role.respelled)
      ⟨.read, .roles, some "ab", none⟩ = true := by decide +kernel
  have hall := Noted.passes_iff.mp hpasses
  have hunion : (Role.unionRules Role.respelled).length = 2 := by cbv
  exact ⟨hall, hunion,
    (a_union_answers_as_all_rules_in_their_order Role.respelled _).1 true true hall⟩

end DesktopPolicy
