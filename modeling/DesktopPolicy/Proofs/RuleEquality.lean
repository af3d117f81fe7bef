-- The laws of deep equality. Two rules are deep-equal when every word occurs equally often in both,
-- so deep equality is an equivalence, and the union of rules keeps one of each class: the first.
import DesktopPolicy.Role
import Mathlib

namespace DesktopPolicy

/-! ## Sorted lists -/

/-- Items sorted by a text are in the order of these texts. -/
theorem pairwise_mergeSort_by {α : Type} (key : α → String) (items : List α) :
    (items.mergeSort fun a b => key a ≤ key b).Pairwise fun a b => key a ≤ key b := by
  have h : (items.mergeSort fun a b => key a ≤ key b).Pairwise
      fun a b => decide (key a ≤ key b) = true := by
    apply List.pairwise_mergeSort
    · intro a b c hab hbc
      rw [decide_eq_true_eq] at *
      exact String.le_trans hab hbc
    · intro a b
      rw [Bool.or_eq_true, decide_eq_true_eq, decide_eq_true_eq]
      exact String.le_total (key a) (key b)
  exact h.imp of_decide_eq_true

namespace Rule

theorem sorted_perm (words : List String) : (sorted words).Perm words :=
  List.mergeSort_perm words _

theorem pairwise_sorted (words : List String) : (sorted words).Pairwise (· ≤ ·) :=
  pairwise_mergeSort_by id words

/-- The sorted words tell how often each word occurs, and nothing else. -/
theorem sorted_eq_iff (a b : List String) : sorted a = sorted b ↔ a.Perm b := by
  constructor
  · intro h
    exact (sorted_perm a).symm.trans (h ▸ sorted_perm b)
  · intro h
    have hp : (sorted a).Perm (sorted b) := (sorted_perm a).trans (h.trans (sorted_perm b).symm)
    exact hp.eq_of_pairwise (fun x y _ _ => String.le_antisymm) (pairwise_sorted a)
      (pairwise_sorted b)

/-! ## Rules with the same words -/

/-- Every word occurs equally often in both rules, dimension by dimension. -/
structure Alike (a b : Rule) : Prop where
  verbs : a.verbWords.Perm b.verbWords
  resources : a.resourceWords.Perm b.resourceWords
  patterns : a.patterns.Perm b.patterns
  namespaces : a.namespaces.Perm b.namespaces

theorem deepEqual_iff (a b : Rule) : a.deepEqual b = true ↔ a.Alike b := by
  simp only [deepEqual, Bool.and_eq_true, beq_iff_eq, sorted_eq_iff]
  constructor
  · rintro ⟨⟨⟨hr, hv⟩, hp⟩, hn⟩
    exact ⟨hv, hr, hp, hn⟩
  · rintro ⟨hv, hr, hp, hn⟩
    exact ⟨⟨⟨hr, hv⟩, hp⟩, hn⟩

theorem Alike.refl (a : Rule) : a.Alike a :=
  ⟨List.Perm.refl _, List.Perm.refl _, List.Perm.refl _, List.Perm.refl _⟩

/-- Only the empty rule is deep-equal to the empty rule. -/
theorem Alike.isEmpty_eq {a b : Rule} (h : a.Alike b) : a.isEmpty = b.isEmpty := by
  have hv : a.verbs.isEmpty = b.verbs.isEmpty := by
    simpa [verbWords] using h.verbs.isEmpty_eq
  have hr : a.resources.isEmpty = b.resources.isEmpty := by
    simpa [resourceWords] using h.resources.isEmpty_eq
  simp [isEmpty, hv, hr, h.patterns.isEmpty_eq, h.namespaces.isEmpty_eq]

/-! ## Unions of rules -/

/-- A rule that was seen before: some rule among those seen is deep-equal to it. -/
theorem seen_iff (seen : List Rule) (rule : Rule) :
    (seen.any fun earlier => rule.deepEqual earlier) = true ↔
      ∃ earlier ∈ seen, rule.Alike earlier := by
  simp only [List.any_eq_true, deepEqual_iff]

theorem dedupeAfter_sublist (seen rules : List Rule) : (dedupeAfter seen rules).Sublist rules := by
  induction rules generalizing seen with
  | nil => exact List.Sublist.refl _
  | cons rule rest ih =>
    rw [dedupeAfter]
    split
    · exact (ih seen).cons rule
    · exact (ih (seen ++ [rule])).cons_cons rule

/-- A union holds only rules that were there before. -/
theorem dedupe_sublist (rules : List Rule) : (dedupe rules).Sublist rules :=
  dedupeAfter_sublist [] rules

/-- No rule is lost: one that is deep-equal to it is seen or kept. -/
theorem exists_alike_dedupeAfter (seen rules : List Rule) :
    ∀ rule ∈ rules, ∃ kept ∈ seen ++ dedupeAfter seen rules, rule.Alike kept := by
  induction rules generalizing seen with
  | nil => simp
  | cons first rest ih =>
    intro rule hrule
    rw [dedupeAfter]
    split
    · rename_i hseen
      rcases List.mem_cons.mp hrule with rfl | hrest
      · obtain ⟨earlier, he, halike⟩ := (seen_iff seen rule).mp hseen
        exact ⟨earlier, List.mem_append_left _ he, halike⟩
      · exact ih seen rule hrest
    · rcases List.mem_cons.mp hrule with rfl | hrest
      · exact ⟨rule, by simp, Alike.refl rule⟩
      · simpa using ih (seen ++ [first]) rule hrest

theorem exists_alike_dedupe (rules : List Rule) :
    ∀ rule ∈ rules, ∃ kept ∈ dedupe rules, rule.Alike kept := by
  simpa [dedupe] using exists_alike_dedupeAfter [] rules

/-- Leaving out whole classes of rules commutes with the union. -/
theorem dedupeAfter_filter (p : Rule → Bool) (hp : ∀ a b : Rule, a.Alike b → p a = p b)
    (seen rules : List Rule) :
    (dedupeAfter seen rules).filter p = dedupeAfter (seen.filter p) (rules.filter p) := by
  induction rules generalizing seen with
  | nil => rfl
  | cons rule rest ih =>
    rw [dedupeAfter]
    cases hrule : p rule with
    | false =>
      rw [List.filter_cons_of_neg (by simp [hrule])]
      split
      · exact ih seen
      · rw [List.filter_cons_of_neg (by simp [hrule]), ih, List.filter_append]
        simp [hrule]
    | true =>
      have hseen : (seen.any fun earlier => rule.deepEqual earlier) =
          ((seen.filter p).any fun earlier => rule.deepEqual earlier) := by
        rw [Bool.eq_iff_iff, seen_iff, seen_iff]
        constructor
        · rintro ⟨earlier, he, halike⟩
          exact ⟨earlier, List.mem_filter.mpr ⟨he, by rw [← hp _ _ halike, hrule]⟩, halike⟩
        · rintro ⟨earlier, he, halike⟩
          exact ⟨earlier, (List.mem_filter.mp he).1, halike⟩
      rw [List.filter_cons_of_pos hrule, dedupeAfter, ← hseen]
      split
      · exact ih seen
      · rw [List.filter_cons_of_pos hrule, ih, List.filter_append]
        simp [hrule]

theorem dedupe_filter (p : Rule → Bool) (hp : ∀ a b : Rule, a.Alike b → p a = p b)
    (rules : List Rule) : (dedupe rules).filter p = dedupe (rules.filter p) :=
  dedupeAfter_filter p hp [] rules

end Rule

end DesktopPolicy
