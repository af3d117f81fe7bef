-- The laws of lists of rules compared. Each rule of the one list takes the first partner that is
-- left for it in the other one, and no choice is ever taken back. No pairing is missed for that:
-- partners are rules of one form, and it does not matter which of several rules of one form is taken.
-- Lists that pair up allow the same.
import DesktopPolicy.Proofs.RuleUnion

namespace DesktopPolicy

/-! ## Places of lists -/

/-- Two families list the same values equally often when their places can be paired so that paired
places have the same value. -/
theorem map_univ_eq_iff {ι κ γ : Type} [Fintype ι] [Fintype κ] (f : ι → γ) (g : κ → γ) :
    Finset.univ.val.map f = Finset.univ.val.map g ↔
      ∃ partner : ι ≃ κ, ∀ place, f place = g (partner place) := by
  classical
  constructor
  · intro h
    -- a value has equally many places on both sides, so these can be paired value by value
    have hcard : ∀ value, Fintype.card { place // f place = value } =
        Fintype.card { place // g place = value } := by
      intro value
      have hcount := congrArg (Multiset.count value) h
      rw [Multiset.count_map, Multiset.count_map] at hcount
      simp only [eq_comm (a := value)] at hcount
      rw [Fintype.card_subtype, Fintype.card_subtype]
      exact hcount
    refine ⟨Equiv.ofFiberEquiv fun value => Fintype.equivOfCardEq (hcard value), ?_⟩
    intro place
    exact (Equiv.ofFiberEquiv_map _ place).symm
  · rintro ⟨partner, h⟩
    rw [← Multiset.map_univ_val_equiv partner, Multiset.map_map]
    exact Multiset.map_congr rfl fun place _ => h place

theorem coe_map_eq {α γ : Type} (f : α → γ) (items : List α) :
    (↑(items.map f) : Multiset γ) = Finset.univ.val.map fun place => f (items.get place) := by
  rw [Fin.univ_val_map, ← Function.comp_def, ← List.map_ofFn, List.ofFn_get]

theorem perm_map_iff {α γ : Type} (f : α → γ) (a b : List α) :
    (a.map f).Perm (b.map f) ↔ ∃ partner : Fin a.length ≃ Fin b.length,
      ∀ place, f (a.get place) = f (b.get (partner place)) := by
  rw [← Multiset.coe_eq_coe, coe_map_eq, coe_map_eq, map_univ_eq_iff]

namespace Rule

/-! ## The pure model -/

/-- The words of the rule in their order, dimension by dimension. -/
def form (rule : Rule) : List (List String) :=
  [sorted rule.resourceWords, sorted rule.verbWords, sorted rule.patterns, sorted rule.namespaces]

/-- The places of the two lists can be paired one to one, so that paired rules are deep-equal. -/
def PairUp (a b : List Rule) : Prop :=
  ∃ partner : Fin a.length ≃ Fin b.length,
    ∀ place, (a.get place).deepEqual (b.get (partner place)) = true

/-! ## Forms -/

theorem deepEqual_iff_form (a b : Rule) : a.deepEqual b = true ↔ a.form = b.form := by
  simp [deepEqual, form, and_assoc]

theorem alike_iff_form (a b : Rule) : a.Alike b ↔ a.form = b.form := by
  rw [← deepEqual_iff, deepEqual_iff_form]

/-! ## Partners -/

theorem removeEqual_eq_none_iff (rule : Rule) (others : List Rule) :
    removeEqual rule others = none ↔ rule.form ∉ others.map form := by
  induction others with
  | nil => simp [removeEqual]
  | cons other rest ih =>
    rw [removeEqual, List.map_cons, List.mem_cons, ← deepEqual_iff_form]
    split
    · simp [*]
    · simp [*]

/-- The rules that are left have all forms but one: that of the rule that took its partner. -/
theorem form_removeEqual {rule : Rule} {others remaining : List Rule}
    (h : removeEqual rule others = some remaining) :
    remaining.map form = (others.map form).erase rule.form := by
  induction others generalizing remaining with
  | nil => cases h
  | cons other rest ih =>
    rw [removeEqual] at h
    split at h
    · rename_i hequal
      cases h
      rw [List.map_cons, (deepEqual_iff_form rule other).mp hequal, List.erase_cons_head]
    · rename_i hother
      obtain ⟨left, hleft, rfl⟩ := Option.map_eq_some_iff.mp h
      have hne : other.form ≠ rule.form := by
        intro hform
        exact hother ((deepEqual_iff_form rule other).mpr hform.symm)
      rw [List.map_cons, List.map_cons, ih hleft, List.erase_cons_tail (by simpa using hne)]

/-- Rules find partners among as many others when these have the same forms equally often. -/
theorem pairsInto_iff {a b : List Rule} (h : a.length = b.length) :
    pairsInto a b = true ↔ (a.map form).Perm (b.map form) := by
  induction a generalizing b with
  | nil =>
    have hnil : b = [] := List.length_eq_zero_iff.mp h.symm
    simp [pairsInto, hnil]
  | cons rule rest ih =>
    rw [pairsInto, List.map_cons, List.cons_perm_iff_perm_erase]
    rcases hremove : removeEqual rule b with _ | remaining
    · have hnone := (removeEqual_eq_none_iff rule b).mp hremove
      simp [hnone]
    · have hforms := form_removeEqual hremove
      have hmem : rule.form ∈ b.map form := by
        by_contra hnone
        rw [(removeEqual_eq_none_iff rule b).mpr hnone] at hremove
        cases hremove
      have hlength : rest.length = remaining.length := by
        have hleft := congrArg List.length hforms
        rw [List.length_map, List.length_erase_of_mem hmem, List.length_map, ← h] at hleft
        simpa using hleft.symm
      rw [← hforms, ← ih hlength]
      simp [hmem]

theorem sameRules_iff_perm (a b : List Rule) :
    sameRules a b = true ↔ (a.map form).Perm (b.map form) := by
  rw [sameRules, Bool.and_eq_true, beq_iff_eq]
  constructor
  · rintro ⟨hlength, hpairs⟩
    exact (pairsInto_iff hlength).mp hpairs
  · intro hperm
    have hlength : a.length = b.length := by simpa using hperm.length_eq
    exact ⟨hlength, (pairsInto_iff hlength).mpr hperm⟩

theorem sameRules_iff_pairUp (a b : List Rule) : sameRules a b = true ↔ PairUp a b := by
  simp only [sameRules_iff_perm, perm_map_iff, PairUp, deepEqual_iff_form]

/-! ## What the same rules permit -/

theorem exists_permits_of_perm [Dialect] {a b : List Rule}
    (h : (a.map form).Perm (b.map form)) {inquiry : Inquiry} (ha : ∃ rule ∈ a, rule.Permits inquiry) :
    ∃ rule ∈ b, rule.Permits inquiry := by
  obtain ⟨rule, hrule, hpermits⟩ := ha
  obtain ⟨other, hother, hform⟩ :=
    List.mem_map.mp (h.mem_iff.mp (List.mem_map_of_mem (f := form) hrule))
  exact ⟨other, hother, ((alike_iff_form rule other).mpr hform.symm).permits hpermits⟩

theorem exists_permits_iff [Dialect] {a b : List Rule} (h : sameRules a b = true)
    (inquiry : Inquiry) :
    (∃ rule ∈ b, rule.Permits inquiry) ↔ ∃ rule ∈ a, rule.Permits inquiry := by
  have hperm := (sameRules_iff_perm a b).mp h
  exact ⟨exists_permits_of_perm hperm.symm, exists_permits_of_perm hperm⟩

end Rule

/-! ## The laws -/

/-- Two lists of rules are the same exactly when their rules can be paired, each with one of its own.
So to be the same is an equivalence, and the order of the lists is no matter. Roles with the same
rules allow the same, whether their rules are asked as they stand or as a union, with or without the
empty ones. -/
theorem lists_are_the_same_when_their_rules_pair_up [Dialect] :
    (∀ a b, Rule.sameRules a b = true ↔ Rule.PairUp a b) ∧
    (∀ a, Rule.sameRules a a = true) ∧
    (∀ a b, Rule.sameRules a b = true → Rule.sameRules b a = true) ∧
    (∀ a b c, Rule.sameRules a b = true → Rule.sameRules b c = true →
      Rule.sameRules a c = true) ∧
    (∀ a a' b b' : List Rule, a.Perm a' → b.Perm b' →
      Rule.sameRules a b = Rule.sameRules a' b') ∧
    ∀ one other : Role, one.sameRules other = true → ∀ action,
      (∀ grants grants', ((Permissions.mk one.rules grants).isAllowed action).Agree
        ((Permissions.mk other.rules grants').isAllowed action)) ∧
      ∀ skipEmpty skipEmpty', ((Permissions.ofRoles [one] skipEmpty).isAllowed action).Agree
        ((Permissions.ofRoles [other] skipEmpty').isAllowed action) := by
  refine ⟨Rule.sameRules_iff_pairUp, ?_, ?_, ?_, ?_, ?_⟩
  · intro a
    rw [Rule.sameRules_iff_perm]
  · intro a b h
    rw [Rule.sameRules_iff_perm] at h ⊢
    exact h.symm
  · intro a b c hab hbc
    rw [Rule.sameRules_iff_perm] at hab hbc ⊢
    exact hab.trans hbc
  · intro a a' b b' ha hb
    rw [Bool.eq_iff_iff, Rule.sameRules_iff_perm, Rule.sameRules_iff_perm,
      (ha.map Rule.form).congr_left, (hb.map Rule.form).congr_right]
  · intro one other h action
    have hsame := Rule.exists_permits_iff h action.inquiry
    refine ⟨?_, ?_⟩
    · intro grants grants'
      exact Noted.agree_of_iff Permissions.allowed_iff
        fun hother => (Permissions.allowed_iff hother).trans hsame
    · intro skipEmpty skipEmpty'
      have hlone : ∀ role : Role, (∃ r ∈ [role], ∃ rule ∈ r.rules, rule.Permits action.inquiry) ↔
          ∃ rule ∈ role.rules, rule.Permits action.inquiry := by simp
      refine Noted.agree_of_iff (P := ∃ rule ∈ one.rules, rule.Permits action.inquiry) ?_ ?_
      · intro allowed hone
        rw [Permissions.isAllowed_iff hone, hlone]
      · intro allowed hother
        rw [Permissions.isAllowed_iff hother, hlone, hsame]

/-- Two rules, one of them twice, in two spellings. -/
def Role.morning : Role :=
  { name := "morning"
    rules := [
      { verbs := [.read], resources := [.roles, .users], patterns := ["(", "^a"] },
      { verbs := [.launch], resources := [.templates] },
      { verbs := [.read], resources := [.users, .roles], patterns := ["^a", "("] }] }

/-- The same rules the other way round. -/
def Role.evening : Role :=
  { name := "evening"
    rules := [
      { verbs := [.other "read"], resources := [.roles, .users], patterns := ["^a", "("] },
      { verbs := [.read], resources := [.users, .roles], patterns := ["^a", "("] },
      { verbs := [.launch], resources := [.other "templates"] }] }

theorem the_morning_allows_what_the_evening_does :
    Role.morning.sameRules Role.evening = true ∧
    Rule.PairUp Role.morning.rules Role.evening.rules ∧
    ((Permissions.ofRoles [Role.morning]).isAllowed ⟨.read, .users, some "ab", none⟩).outcome =
      ((Permissions.ofRoles [Role.evening]).isAllowed ⟨.read, .users, some "ab", none⟩).outcome := by
  have hsame : Role.morning.sameRules Role.evening = true := by cbv
  obtain ⟨hpairs, -, -, -, -, hagree⟩ := lists_are_the_same_when_their_rules_pair_up
  refine ⟨hsame, (hpairs _ _).mp hsame, (hagree _ _ hsame _).2 true true ?_ ?_⟩
  · exact ⟨true, by decide +kernel⟩
  · exact ⟨true, by decide +kernel⟩

end DesktopPolicy
