-- The laws of sets of grants. A set without bits that no grant has is known by its members, and so
-- by the names of its members; the names that a definition lists never stand for other bits.
import DesktopPolicy.Role.Definition
import Mathlib

namespace DesktopPolicy

theorem Grant.mem_declared (grant : Grant) : grant ∈ declared := by
  cases grant <;> decide

/-- No two grants have one name. -/
theorem Grant.ofName?_name (grant : Grant) : ofName? grant.name = some grant := by
  cases grant <;> decide

/-- No grant is named like all of them together. -/
theorem Grant.name_ne_allName (grant : Grant) : grant.name ≠ allName := by
  cases grant <;> decide

theorem Grant.pairwise_declared : declared.Pairwise fun a b => a.bit < b.bit := by decide

namespace Grants

/-! ## Members -/

theorem mem_members (grants : Grants) (grant : Grant) :
    grant ∈ grants.members ↔ grants.contains grant = true := by
  rw [members, List.mem_filter, and_iff_right grant.mem_declared]

theorem pairwise_members (grants : Grants) : grants.members.Pairwise fun a b => a.bit < b.bit :=
  Grant.pairwise_declared.filter grants.contains

/-- Two sets with the same members list them alike. -/
theorem members_congr {a b : Grants} (h : ∀ grant, a.contains grant = b.contains grant) :
    a.members = b.members :=
  List.filter_congr fun grant _ => h grant

theorem mem_names_iff (grants : Grants) (name : String) :
    name ∈ grants.names ↔ ∃ grant, grants.contains grant = true ∧ grant.name = name := by
  simp [names, mem_members]

theorem testBit_single (grant : Grant) (i : Nat) :
    (single grant).mask.testBit i = decide (grant.bit = i) := by
  rw [single, Nat.one_shiftLeft, Nat.testBit_two_pow]

theorem contains_single (one grant : Grant) :
    (single one).contains grant = decide (one = grant) := by
  cases one <;> cases grant <;> decide

theorem contains_empty (grant : Grant) : empty.contains grant = false := by
  cases grant <;> decide

theorem contains_union (a b : Grants) (grant : Grant) :
    (a.union b).contains grant = (a.contains grant || b.contains grant) :=
  Nat.testBit_or a.mask b.mask grant.bit

theorem contains_foldl_union (start : Grants) (sets : List Grants) (grant : Grant) :
    (sets.foldl union start).contains grant =
      (start.contains grant || sets.any fun set => set.contains grant) := by
  induction sets generalizing start with
  | nil => simp
  | cons set rest ih => rw [List.foldl_cons, ih, contains_union, List.any_cons, Bool.or_assoc]

/-- A union has what one of the sets has. -/
theorem contains_unions (sets : List Grants) (grant : Grant) :
    (unions sets).contains grant = sets.any fun set => set.contains grant := by
  rw [unions, contains_foldl_union, contains_empty, Bool.false_or]

/-- To have some bit of a single grant is to have the grant. -/
theorem has_single (grants : Grants) (grant : Grant) :
    grants.has (single grant).mask = grants.contains grant := by
  have hmeet : meet grants.mask ((single grant).mask : Int) =
      grants.mask &&& Nat.pow 2 grant.bit := by
    rw [single, Nat.one_shiftLeft]
    rfl
  have hand : grants.mask &&& Nat.pow 2 grant.bit =
      (grants.mask.testBit grant.bit).toNat * 2 ^ grant.bit := Nat.and_two_pow _ _
  rw [has, hmeet, hand, contains]
  cases grants.mask.testBit grant.bit <;> simp

/-! ## Sets of named bits -/

/-- Every bit of the set is the bit of a grant. -/
def IsNamed (grants : Grants) : Prop :=
  ∀ i, grants.mask.testBit i = true → ∃ grant : Grant, grant.bit = i

/-- To have some bit of a set is to share a bit with it. -/
theorem has_iff (grants bits : Grants) :
    grants.has bits.mask = true ↔
      ∃ i, grants.mask.testBit i = true ∧ bits.mask.testBit i = true := by
  have hmeet : meet grants.mask (bits.mask : Int) = grants.mask &&& bits.mask := rfl
  rw [has, hmeet, bne_iff_ne]
  constructor
  · intro hne
    obtain ⟨i, hi⟩ := Nat.exists_testBit_of_ne_zero hne
    rw [Nat.testBit_and, Bool.and_eq_true] at hi
    exact ⟨i, hi⟩
  · rintro ⟨i, hgrants, hbits⟩ hzero
    have hi : (grants.mask &&& bits.mask).testBit i = true := by
      rw [Nat.testBit_and, hgrants, hbits, Bool.true_and]
    rw [hzero, Nat.zero_testBit] at hi
    cases hi

/-- To have some bit of a set of named bits is to have one of its grants. -/
theorem IsNamed.has_iff {bits : Grants} (h : bits.IsNamed) (grants : Grants) :
    grants.has bits.mask = true ↔
      ∃ grant, bits.contains grant = true ∧ grants.contains grant = true := by
  rw [Grants.has_iff]
  constructor
  · rintro ⟨i, hgrants, hbits⟩
    obtain ⟨grant, rfl⟩ := h i hbits
    exact ⟨grant, hbits, hgrants⟩
  · rintro ⟨grant, hbits, hgrants⟩
    exact ⟨grant.bit, hgrants, hbits⟩

theorem isNamed_empty : empty.IsNamed := by
  intro i hi
  simp [empty] at hi

theorem isNamed_single (grant : Grant) : (single grant).IsNamed := by
  intro i hi
  rw [testBit_single, decide_eq_true_eq] at hi
  exact ⟨grant, hi⟩

/-- A set that is no larger than the set of all grants, as a number, has no other bits. -/
theorem isNamed_of_le_all {grants : Grants} (h : grants.mask ≤ all.mask) : grants.IsNamed := by
  intro i hi
  have hlt : i < Grant.width := by
    by_contra hge
    have hpow : 2 ^ Grant.width ≤ 2 ^ i := Nat.pow_le_pow_right Nat.two_pos (not_lt.mp hge)
    have hbit : 2 ^ i ≤ grants.mask := Nat.ge_two_pow_of_testBit hi
    have hall : all.mask < 2 ^ Grant.width := by decide
    omega
  have hbits : ∀ j < Grant.width, ∃ grant ∈ Grant.declared, grant.bit = j := by decide
  obtain ⟨grant, -, hbit⟩ := hbits i hlt
  exact ⟨grant, hbit⟩

theorem isNamed_all : all.IsNamed := isNamed_of_le_all le_rfl

theorem IsNamed.union {a b : Grants} (ha : a.IsNamed) (hb : b.IsNamed) : (a.union b).IsNamed := by
  intro i hi
  rw [Grants.union, Nat.testBit_or, Bool.or_eq_true] at hi
  rcases hi with hi | hi
  · exact ha i hi
  · exact hb i hi

theorem IsNamed.foldl_union {start : Grants} (hstart : start.IsNamed) {sets : List Grants}
    (h : ∀ set ∈ sets, set.IsNamed) : (sets.foldl Grants.union start).IsNamed := by
  induction sets generalizing start with
  | nil => exact hstart
  | cons set rest ih =>
    rw [List.foldl_cons]
    apply ih (hstart.union (h set List.mem_cons_self))
    intro later hl
    exact h later (List.mem_cons_of_mem _ hl)

/-- Sets of named bits with the same members are one set. -/
theorem IsNamed.eq_of_contains {a b : Grants} (ha : a.IsNamed) (hb : b.IsNamed)
    (h : ∀ grant, a.contains grant = b.contains grant) : a = b := by
  have hmask : a.mask = b.mask := by
    apply Nat.eq_of_testBit_eq
    intro i
    by_cases hi : ∃ grant : Grant, grant.bit = i
    · obtain ⟨grant, rfl⟩ := hi
      exact h grant
    · have hfalse : a.mask.testBit i = false := by
        rw [Bool.eq_false_iff]
        exact fun hset => hi (ha i hset)
      have hfalse' : b.mask.testBit i = false := by
        rw [Bool.eq_false_iff]
        exact fun hset => hi (hb i hset)
      rw [hfalse, hfalse']
  cases a
  cases b
  simpa using hmask

/-! ## Names -/

theorem ofNameValue_name (grant : Grant) :
    ofNameValue (.text grant.name) = .ok (single grant) := by
  have hname : (grant.name == Grant.allName) = false := by
    simpa using grant.name_ne_allName
  simp [ofNameValue, ofName?, hname, grant.ofName?_name]

/-- A name stands for named bits. -/
theorem isNamed_of_ofNameValue {v : Value} {grants : Grants} (h : ofNameValue v = .ok grants) :
    grants.IsNamed := by
  cases v with
  | text name =>
    simp only [ofNameValue, ofName?] at h
    by_cases hall : (name == Grant.allName) = true
    · rw [if_pos hall] at h
      cases h
      exact isNamed_all
    · rw [if_neg hall] at h
      rcases hgrant : Grant.ofName? name with _ | grant
      · rw [hgrant] at h
        cases h
      · rw [hgrant] at h
        cases h
        exact isNamed_single grant
  | _ => cases h

theorem isNamed_of_foldlM {names : List Value} {start grants : Grants} (hstart : start.IsNamed)
    (h : names.foldlM (fun grants name => (ofNameValue name).map grants.union) start =
      .ok grants) : grants.IsNamed := by
  induction names generalizing start with
  | nil =>
    cases h
    exact hstart
  | cons name rest ih =>
    rw [List.foldlM_cons] at h
    rcases hname : ofNameValue name with fault | named
    · rw [hname] at h
      cases h
    · rw [hname] at h
      exact ih (hstart.union (isNamed_of_ofNameValue hname)) h

/-- Names stand for named bits. -/
theorem isNamed_of_ofNames {names : List Value} {grants : Grants}
    (h : ofNames names = .ok grants) : grants.IsNamed :=
  isNamed_of_foldlM isNamed_empty h

theorem foldlM_names (start : Grants) (listed : List Grant) :
    (listed.map fun grant => Value.text grant.name).foldlM
      (fun grants name => (ofNameValue name).map grants.union) start =
        .ok ((listed.map single).foldl union start) := by
  induction listed generalizing start with
  | nil => rfl
  | cons grant rest ih =>
    rw [List.map_cons, List.foldlM_cons, ofNameValue_name]
    exact ih (start.union (single grant))

/-- The names of a set of named bits stand for the set. -/
theorem IsNamed.ofNames_names {grants : Grants} (h : grants.IsNamed) :
    ofNames (grants.names.map Value.text) = .ok grants := by
  have hread : ofNames (grants.names.map Value.text) =
      .ok ((grants.members.map single).foldl Grants.union empty) := by
    rw [names, List.map_map, ofNames]
    exact foldlM_names empty grants.members
  rw [hread]
  apply congrArg Except.ok
  have hnamed : ((grants.members.map single).foldl Grants.union empty).IsNamed := by
    apply isNamed_empty.foldl_union
    intro set hset
    obtain ⟨grant, -, rfl⟩ := List.mem_map.mp hset
    exact isNamed_single grant
  apply hnamed.eq_of_contains h
  intro grant
  have hunion := contains_unions (grants.members.map single) grant
  rw [unions] at hunion
  rw [hunion, Bool.eq_iff_iff, List.any_eq_true, ← mem_members]
  constructor
  · rintro ⟨set, hset, hcontains⟩
    obtain ⟨member, hmember, rfl⟩ := List.mem_map.mp hset
    rw [contains_single, decide_eq_true_eq] at hcontains
    exact hcontains ▸ hmember
  · intro hmember
    exact ⟨single grant, List.mem_map_of_mem hmember, by rw [contains_single, decide_eq_true_eq]⟩

end Grants

end DesktopPolicy
