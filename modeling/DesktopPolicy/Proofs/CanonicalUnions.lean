-- The laws of unions of rules. Of the rules that are deep-equal a union keeps the first, in its
-- place, and no other. So no rule is repeated in it, a union of a union is that union, and the order
-- of the roles matters for nothing but which rule of a kind comes first.
import DesktopPolicy.Proofs.RulePairing

namespace DesktopPolicy

namespace Rule

/-! ## The pure model -/

/-- Of the rules that are deep-equal to this one the first is kept, among those that are kept of the
rules before it and behind it, and none of these is deep-equal to it. -/
def IsKeptOnce (rule : Rule) (rules kept : List Rule) : Prop :=
  ∃ before first after keptBefore keptAfter,
    rules = before ++ first :: after ∧ kept = keptBefore ++ first :: keptAfter ∧
    keptBefore.Sublist before ∧ keptAfter.Sublist after ∧ rule.deepEqual first = true ∧
    (∀ earlier ∈ before, rule.deepEqual earlier = false) ∧
    ∀ other ∈ keptBefore ++ keptAfter, rule.deepEqual other = false

/-! ## Forms of kept rules -/

theorem deepEqual_eq_false_iff (a b : Rule) : a.deepEqual b = false ↔ a.form ≠ b.form := by
  rw [← Bool.not_eq_true, deepEqual_iff_form]

theorem seen_iff_form (seen : List Rule) (rule : Rule) :
    (seen.any fun earlier => rule.deepEqual earlier) = true ↔ rule.form ∈ seen.map form := by
  simp only [List.any_eq_true, deepEqual_iff_form, List.mem_map, eq_comm (a := rule.form)]

theorem form_dedupeAfter_ne (seen rules : List Rule) :
    ∀ rule ∈ dedupeAfter seen rules, rule.form ∉ seen.map form := by
  induction rules generalizing seen with
  | nil => simp [dedupeAfter]
  | cons first rest ih =>
    rw [dedupeAfter]
    split
    · exact ih seen
    · rename_i hnew
      intro rule hrule
      rcases List.mem_cons.mp hrule with rfl | hrest
      · rwa [seen_iff_form] at hnew
      · have hlater := ih (seen ++ [first]) rule hrest
        simp only [List.map_append, List.mem_append, not_or] at hlater
        exact hlater.1

theorem nodup_form_dedupeAfter (seen rules : List Rule) :
    ((dedupeAfter seen rules).map form).Nodup := by
  induction rules generalizing seen with
  | nil => exact List.nodup_nil
  | cons first rest ih =>
    rw [dedupeAfter]
    split
    · exact ih seen
    · rw [List.map_cons, List.nodup_cons]
      refine ⟨?_, ih (seen ++ [first])⟩
      -- what is kept behind a rule has another form, since the rule was seen by then
      intro hfirst
      obtain ⟨later, hlater, hform⟩ := List.mem_map.mp hfirst
      apply form_dedupeAfter_ne (seen ++ [first]) rest later hlater
      simp [hform]

theorem nodup_form_dedupe (rules : List Rule) : ((dedupe rules).map form).Nodup :=
  nodup_form_dedupeAfter [] rules

theorem mem_form_dedupe_iff (rules : List Rule) (f : List (List String)) :
    f ∈ (dedupe rules).map form ↔ f ∈ rules.map form := by
  constructor
  · intro hf
    exact ((dedupe_sublist rules).map form).subset hf
  · intro hf
    obtain ⟨rule, hrule, rfl⟩ := List.mem_map.mp hf
    obtain ⟨kept, hkept, halike⟩ := exists_alike_dedupe rules rule hrule
    exact List.mem_map.mpr ⟨kept, hkept, ((alike_iff_form rule kept).mp halike).symm⟩

/-! ## Unions in two steps -/

theorem dedupeAfter_append (seen a b : List Rule) :
    dedupeAfter seen (a ++ b) =
      dedupeAfter seen a ++ dedupeAfter (seen ++ dedupeAfter seen a) b := by
  induction a generalizing seen with
  | nil => simp [dedupeAfter]
  | cons first rest ih =>
    rw [List.cons_append, dedupeAfter, dedupeAfter]
    split
    · exact ih seen
    · simp [ih (seen ++ [first])]

theorem dedupe_append (a b : List Rule) :
    dedupe (a ++ b) = dedupe a ++ dedupeAfter (dedupe a) b := by
  simpa [dedupe] using dedupeAfter_append [] a b

theorem dedupeAfter_of_nodup {seen rules : List Rule} (hnodup : (rules.map form).Nodup)
    (hnew : ∀ rule ∈ rules, rule.form ∉ seen.map form) : dedupeAfter seen rules = rules := by
  induction rules generalizing seen with
  | nil => rfl
  | cons first rest ih =>
    rw [List.map_cons, List.nodup_cons] at hnodup
    have hfirst := hnew first List.mem_cons_self
    rw [dedupeAfter, if_neg (by rwa [seen_iff_form]), ih hnodup.2]
    intro rule hrule
    have hne : rule.form ≠ first.form := by
      intro hform
      exact hnodup.1 (List.mem_map.mpr ⟨rule, hrule, hform⟩)
    have hseen := hnew rule (List.mem_cons_of_mem _ hrule)
    simp only [List.map_append, List.map_cons, List.map_nil, List.mem_append,
      List.mem_singleton, not_or]
    exact ⟨hseen, hne⟩

theorem dedupe_of_nodup {rules : List Rule} (h : (rules.map form).Nodup) : dedupe rules = rules :=
  dedupeAfter_of_nodup h fun _ _ => List.not_mem_nil

theorem dedupe_dedupe (rules : List Rule) : dedupe (dedupe rules) = dedupe rules :=
  dedupe_of_nodup (nodup_form_dedupe rules)

theorem dedupe_dedupe_append (a b : List Rule) : dedupe (dedupe a ++ b) = dedupe (a ++ b) := by
  rw [dedupe_append, dedupe_dedupe, ← dedupe_append]

/-! ## The first of a kind -/

theorem dedupe_middle {before : List Rule} {first : Rule} (after : List Rule)
    (h : first.form ∉ before.map form) :
    dedupe (before ++ first :: after) =
      dedupe before ++ first :: dedupeAfter (dedupe before ++ [first]) after := by
  have hnew : first.form ∉ (dedupe before).map form := by rwa [mem_form_dedupe_iff]
  rw [dedupe_append, dedupeAfter, if_neg (by rwa [seen_iff_form])]

theorem exists_first_of_form {rules : List Rule} {rule : Rule} (h : rule ∈ rules) :
    ∃ before first after, rules = before ++ first :: after ∧ rule.form = first.form ∧
      rule.form ∉ before.map form := by
  obtain ⟨forms, laterForms, hsplit, hnew⟩ :=
    List.eq_append_cons_of_mem (List.mem_map_of_mem (f := form) h)
  obtain ⟨before, rest, rfl, rfl, hrest⟩ := List.map_eq_append_iff.mp hsplit
  obtain ⟨first, after, rfl, hform, -⟩ := List.map_eq_cons_iff.mp hrest
  exact ⟨before, first, after, rfl, hform.symm, hnew⟩

/-- Where classes of rules are left out as a whole, every rule of another class is kept once. -/
theorem isKeptOnce_dedupe_filter {p : Rule → Bool} (hp : ∀ a b : Rule, a.Alike b → p a = p b)
    {rules : List Rule} {rule : Rule} (hrule : rule ∈ rules) (hpasses : p rule = true) :
    rule.IsKeptOnce rules (dedupe (rules.filter p)) := by
  obtain ⟨before, first, after, rfl, hform, hnew⟩ := exists_first_of_form hrule
  have hfirst : p first = true := by
    rw [← hp _ _ ((alike_iff_form rule first).mpr hform), hpasses]
  have hnewFirst : first.form ∉ (before.filter p).map form := by
    intro hmem
    rw [hform] at hnew
    exact hnew ((List.filter_sublist.map form).subset hmem)
  have hkept : dedupe ((before ++ first :: after).filter p) = dedupe (before.filter p) ++
      first :: dedupeAfter (dedupe (before.filter p) ++ [first]) (after.filter p) := by
    rw [List.filter_append, List.filter_cons_of_pos hfirst, dedupe_middle _ hnewFirst]
  -- no form is kept twice, so nothing else that is kept has the form of the first
  have hnodup := nodup_form_dedupe ((before ++ first :: after).filter p)
  rw [hkept, List.map_append, List.map_cons, List.nodup_middle, List.nodup_cons,
    ← List.map_append] at hnodup
  refine ⟨before, first, after, _, _, rfl, hkept, ?_, ?_, ?_, ?_, ?_⟩
  · exact (dedupe_sublist _).trans List.filter_sublist
  · exact (dedupeAfter_sublist _ _).trans List.filter_sublist
  · exact (deepEqual_iff_form rule first).mpr hform
  · intro earlier he
    rw [deepEqual_eq_false_iff]
    intro hsame
    exact hnew (hsame ▸ List.mem_map_of_mem he)
  · intro other hother
    rw [deepEqual_eq_false_iff, hform]
    intro hsame
    exact hnodup.1 (hsame ▸ List.mem_map_of_mem hother)

end Rule

/-! ## Unions of roles -/

namespace Role

theorem allRules_eq_self {roles : List Role} {skipEmpty : Bool}
    (h : skipEmpty = true → ∀ rule ∈ roles.flatMap rules, rule.isEmpty = false) :
    allRules roles skipEmpty = roles.flatMap rules := by
  rw [allRules, List.filter_eq_self]
  intro rule hrule
  cases skipEmpty with
  | false => rfl
  | true => simp [h rfl rule hrule]

theorem unionRules_unionRules {roles : List Role} {skipEmpty again : Bool} {role : Role}
    (hskip : again = true → skipEmpty = true) (h : role.rules = unionRules roles skipEmpty) :
    unionRules [role] again = unionRules roles skipEmpty := by
  have hall : allRules [role] again = unionRules roles skipEmpty := by
    rw [allRules_eq_self]
    · simp [h]
    · intro hagain rule hrule
      rw [List.flatMap_cons, List.flatMap_nil, List.append_nil, h, hskip hagain] at hrule
      exact (of_mem_unionRules hrule).2 rfl
  rw [unionRules, hall, unionRules, Rule.dedupe_dedupe]

theorem mem_allRules_congr {roles others : List Role} (h : ∀ role, role ∈ others ↔ role ∈ roles)
    (skipEmpty : Bool) (rule : Rule) :
    rule ∈ allRules roles skipEmpty ↔ rule ∈ allRules others skipEmpty := by
  simp only [mem_allRules_iff, h]

theorem sameRules_unionRules {roles others : List Role}
    (h : ∀ role, role ∈ others ↔ role ∈ roles) (skipEmpty : Bool) :
    Rule.sameRules (unionRules roles skipEmpty) (unionRules others skipEmpty) = true := by
  rw [Rule.sameRules_iff_perm, unionRules, unionRules]
  -- neither union has a form twice, so it is enough that both have the same forms
  apply (List.perm_ext_iff_of_nodup (Rule.nodup_form_dedupe _) (Rule.nodup_form_dedupe _)).mpr
  intro form
  rw [Rule.mem_form_dedupe_iff, Rule.mem_form_dedupe_iff, List.mem_map, List.mem_map]
  simp only [mem_allRules_congr h]

end Role

/-! ## The laws -/

/-- A union lists rules of the roles in their order, no two of them deep-equal. Every rule, unless it
is skipped as empty, is deep-equal to one rule of the union, the first of its kind. The union of a
union is that union, and a union can be taken in two steps. Roles in another order, or repeated, have
the same rules in their union. -/
theorem a_union_keeps_the_first_rule_of_each_kind (roles : List Role) (skipEmpty : Bool) :
    (Role.unionRules roles skipEmpty).Sublist (roles.flatMap Role.rules) ∧
    ((Role.unionRules roles skipEmpty).Pairwise fun a b =>
      a.deepEqual b = false ∧ b.deepEqual a = false) ∧
    (∀ rule ∈ roles.flatMap Role.rules, (skipEmpty = true → rule.isEmpty = false) →
      rule.IsKeptOnce (roles.flatMap Role.rules) (Role.unionRules roles skipEmpty)) ∧
    (skipEmpty = true → ∀ rule ∈ Role.unionRules roles skipEmpty, rule.isEmpty = false) ∧
    (∀ (role : Role) (again : Bool), (again = true → skipEmpty = true) →
      role.rules = Role.unionRules roles skipEmpty →
        Role.unionRules [role] again = Role.unionRules roles skipEmpty) ∧
    (∀ others : List Role, (∀ role, role ∈ others ↔ role ∈ roles) →
      Rule.sameRules (Role.unionRules roles skipEmpty) (Role.unionRules others skipEmpty) =
        true) ∧
    ∀ a b, Rule.dedupe (a ++ b) = Rule.dedupe (Rule.dedupe a ++ b) := by
  refine ⟨?_, ?_, ?_, ?_, ?_, ?_, fun a b => (Rule.dedupe_dedupe_append a b).symm⟩
  · exact (Rule.dedupe_sublist _).trans List.filter_sublist
  · have hnodup := Rule.nodup_form_dedupe (Role.allRules roles skipEmpty)
    rw [List.Nodup, List.pairwise_map] at hnodup
    apply hnodup.imp
    intro a b hne
    rw [Rule.deepEqual_eq_false_iff, Rule.deepEqual_eq_false_iff]
    exact ⟨hne, hne.symm⟩
  · intro rule hrule hfilled
    apply Rule.isKeptOnce_dedupe_filter _ hrule
    · cases skipEmpty with
      | false => rfl
      | true => simp [hfilled rfl]
    · intro a b halike
      rw [halike.isEmpty_eq]
  · intro hskip rule hrule
    exact (Role.of_mem_unionRules hrule).2 hskip
  · intro role again hskip hrules
    exact Role.unionRules_unionRules hskip hrules
  · intro others hothers
    exact Role.sameRules_unionRules hothers skipEmpty

theorem the_second_spelling_of_a_rule_is_not_kept :
    Rule.IsKeptOnce { verbs := [.read], resources := [.roles], patterns := ["^b", "("] }
      (Role.respelled.flatMap Role.rules) (Role.unionRules Role.respelled) ∧
    (∀ rule ∈ Role.unionRules Role.respelled, rule.isEmpty = false) ∧
    Role.unionRules [⟨"both", Role.unionRules Role.respelled, Grants.empty, .text ""⟩] =
      Role.unionRules Role.respelled ∧
    Rule.sameRules (Role.unionRules Role.respelled)
      (Role.unionRules (Role.respelled.reverse ++ Role.respelled)) = true := by
  obtain ⟨-, -, hkept, hfilled, hagain, hothers, -⟩ :=
    a_union_keeps_the_first_rule_of_each_kind Role.respelled true
  refine ⟨hkept _ (by decide) (by decide), hfilled rfl, hagain _ _ id rfl, hothers _ ?_⟩
  simp

end DesktopPolicy
