-- The laws of rosters. No two roles of a roster have one name, the last definition of a name
-- counts, and the order of the listed roles is settled by their names alone.
import DesktopPolicy.Proofs.RuleEquality
import DesktopPolicy.Roster

namespace DesktopPolicy

/-- The last of the definitions with a name. -/
def Role.lastNamed? (roles : List Role) (name : String) : Option Role :=
  roles.reverse.find? fun role => role.name == name

namespace Roster

/-- No two roles of the roster have one name. -/
def Distinct (roster : Roster) : Prop := (roster.roles.map Role.name).Nodup

/-! ## A role put among others -/

theorem find?_put (role : Role) (roles : List Role) (name : String) :
    Role.find? (put role roles) name =
      if role.name = name then some role else Role.find? roles name := by
  unfold Role.find?
  induction roles with
  | nil => by_cases hname : role.name = name <;> simp [put, hname]
  | cons other rest ih =>
    by_cases hother : other.name = role.name
    · by_cases hname : role.name = name <;> simp [put, hother, hname]
    · by_cases hname : other.name = name
      · have hne : role.name ≠ name := fun h => hother (hname.trans h.symm)
        simp [put, hname, hne, Ne.symm hne]
      · simp [put, hother, hname, ih]

theorem map_name_put (role : Role) (roles : List Role) :
    (put role roles).map Role.name =
      if role.name ∈ roles.map Role.name then roles.map Role.name
      else roles.map Role.name ++ [role.name] := by
  induction roles with
  | nil => simp [put]
  | cons other rest ih =>
    by_cases hother : other.name = role.name
    · simp [put, hother]
    · have hne : role.name ≠ other.name := fun h => hother h.symm
      simp only [put, beq_iff_eq, hother, if_false, List.map_cons, List.mem_cons, hne, false_or, ih]
      split <;> simp

theorem nodup_put {role : Role} {roles : List Role} (h : (roles.map Role.name).Nodup) :
    ((put role roles).map Role.name).Nodup := by
  rw [map_name_put]
  split
  · exact h
  · rename_i hnew
    exact List.nodup_append.mpr ⟨h, List.nodup_singleton _, by
      intro a ha b hb hab
      rw [List.mem_singleton] at hb
      exact hnew (hb ▸ hab ▸ ha)⟩

/-! ## The roster of definitions -/

theorem ofRoles_append (roles : List Role) (role : Role) :
    (ofRoles (roles ++ [role])).roles = put role (ofRoles roles).roles := by
  simp [ofRoles]

/-- Of several definitions with one name the last counts. -/
theorem get?_ofRoles (roles : List Role) (name : String) :
    (ofRoles roles).get? name = Role.lastNamed? roles name := by
  induction roles using List.reverseRecOn with
  | nil => rfl
  | append_singleton roles role ih =>
    rw [get?, ofRoles_append, find?_put, ← get?, ih]
    rw [Role.lastNamed?, Role.lastNamed?, List.reverse_append, List.reverse_singleton,
      List.singleton_append]
    by_cases hname : role.name = name <;> simp [hname]

/-- The roster has the names that are defined. -/
theorem isSome_get?_ofRoles (roles : List Role) (name : String) :
    ((ofRoles roles).get? name).isSome ↔ name ∈ roles.map Role.name := by
  rw [get?_ofRoles, Role.lastNamed?, List.find?_isSome, List.mem_map]
  simp

theorem distinct_ofRoles (roles : List Role) : (ofRoles roles).Distinct := by
  induction roles using List.reverseRecOn with
  | nil => exact List.nodup_nil
  | append_singleton roles role ih =>
    rw [Distinct, ofRoles_append]
    exact nodup_put ih

/-! ## Roles by their names -/

theorem get?_eq_some {roster : Roster} {name : String} {role : Role}
    (h : roster.get? name = some role) : role ∈ roster.roles ∧ role.name = name :=
  ⟨List.mem_of_find?_eq_some h, by simpa using List.find?_some h⟩

/-- Roles of one name are one role. -/
theorem Distinct.eq_of_name {roster : Roster} (h : roster.Distinct) {a b : Role}
    (ha : a ∈ roster.roles) (hb : b ∈ roster.roles) (hab : a.name = b.name) : a = b :=
  List.inj_on_of_nodup_map h ha hb hab

theorem Distinct.get?_iff {roster : Roster} (h : roster.Distinct) (role : Role) :
    roster.get? role.name = some role ↔ role ∈ roster.roles := by
  constructor
  · intro hget
    exact (get?_eq_some hget).1
  · intro hrole
    have hsome : (roster.get? role.name).isSome := by
      rw [get?, Role.find?, List.find?_isSome]
      exact ⟨role, hrole, by simp⟩
    obtain ⟨found, hfound⟩ := Option.isSome_iff_exists.mp hsome
    have hsame := h.eq_of_name (get?_eq_some hfound).1 hrole (get?_eq_some hfound).2
    rw [hfound, hsame]

/-! ## The listed roles -/

theorem listed_perm (roster : Roster) : roster.listed.Perm roster.roles :=
  List.mergeSort_perm roster.roles _

theorem pairwise_listed (roster : Roster) :
    roster.listed.Pairwise fun a b => a.name ≤ b.name :=
  pairwise_mergeSort_by Role.name roster.roles

theorem Distinct.nodup_listed {roster : Roster} (h : roster.Distinct) : roster.listed.Nodup :=
  roster.listed_perm.nodup_iff.mpr (List.Nodup.of_map Role.name h)

/-- The names of the listed roles are strictly rising. -/
theorem Distinct.pairwise_listed_lt {roster : Roster} (h : roster.Distinct) :
    roster.listed.Pairwise fun a b => a.name < b.name := by
  have hnames : (roster.listed.map Role.name).Nodup :=
    (roster.listed_perm.map Role.name).nodup_iff.mpr h
  apply (roster.pairwise_listed.and (List.pairwise_map.mp hnames)).imp
  rintro a b ⟨hle, hne⟩
  exact lt_of_le_of_ne hle hne

/-- Two rosters that hold the same of the roles that pass list them in the same order. -/
theorem listed_filter_eq {a b : Roster} (ha : a.Distinct) (hb : b.Distinct) {p q : Role → Bool}
    (h : ∀ role, role ∈ a.roles ∧ p role = true ↔ role ∈ b.roles ∧ q role = true) :
    a.listed.filter p = b.listed.filter q := by
  have hmem : ∀ role, role ∈ a.listed.filter p ↔ role ∈ b.listed.filter q := by
    intro role
    rw [List.mem_filter, List.mem_filter, a.listed_perm.mem_iff, b.listed_perm.mem_iff]
    exact h role
  have hperm : (a.listed.filter p).Perm (b.listed.filter q) :=
    (List.perm_ext_iff_of_nodup (ha.nodup_listed.filter p) (hb.nodup_listed.filter q)).mpr hmem
  -- two sorted lists of the same roles are equal because no name stands for two of them
  apply hperm.eq_of_pairwise _ (a.pairwise_listed.filter p) (b.pairwise_listed.filter q)
  intro x y hx hy hxy hyx
  have hxb : x ∈ b.roles := ((h x).mp (by simpa [a.listed_perm.mem_iff] using hx)).1
  have hyb : y ∈ b.roles := b.listed_perm.mem_iff.mp (List.mem_filter.mp hy).1
  exact hb.eq_of_name hxb hyb (String.le_antisymm hxy hyx)

end Roster

end DesktopPolicy
