-- The laws of looking roles up. The roles that a configuration defines have different names, so the
-- roster of them holds each of them once: none takes the place of another, the first role of a name
-- is the last, and the names of a principal are looked up one by one among what was read.
import DesktopPolicy.Proofs.RoleGrammar
import DesktopPolicy.Proofs.ServiceAnswers

namespace DesktopPolicy

/-! ## The pure model -/

/-- Names looked up one after the other: the roles that are found, and a record for each name that
no role has. -/
inductive Role.LookedUp (roles : List Role) : List String → List Role → List Log.Record → Prop
  | nil : LookedUp roles [] [] []
  | found {name : String} {names : List String} {role : Role} {found : List Role}
      {records : List Log.Record} : find? roles name = some role →
      LookedUp roles names found records → LookedUp roles (name :: names) (role :: found) records
  | missing {name : String} {names : List String} {found : List Role}
      {records : List Log.Record} : find? roles name = none →
      LookedUp roles names found records →
      LookedUp roles (name :: names) found (Roster.missingRecord name :: records)

namespace Roster

/-! ## Roles of different names -/

theorem put_of_new {role : Role} {roles : List Role} (h : role.name ∉ roles.map Role.name) :
    put role roles = roles ++ [role] := by
  induction roles with
  | nil => rfl
  | cons other rest ih =>
    rw [List.map_cons, List.mem_cons, not_or] at h
    have hother : (other.name == role.name) = false := by simpa using Ne.symm h.1
    rw [put, hother, ih h.2]
    rfl

/-- Roles of different names are all kept, in their order. -/
theorem roles_ofRoles {roles : List Role} (h : (roles.map Role.name).Nodup) :
    (ofRoles roles).roles = roles := by
  induction roles using List.reverseRecOn with
  | nil => rfl
  | append_singleton roles role ih =>
    rw [List.map_append, List.map_singleton, List.nodup_append] at h
    have hnew : role.name ∉ roles.map Role.name := by
      intro hold
      exact h.2.2 _ hold _ (List.mem_singleton_self _) rfl
    rw [ofRoles_append, ih h.1, put_of_new hnew]

/-- The roles are listed, in another order. -/
theorem listed_ofRoles_perm {roles : List Role} (h : (roles.map Role.name).Nodup) :
    (ofRoles roles).listed.Perm roles := by
  have hperm := (ofRoles roles).listed_perm
  rwa [roles_ofRoles h] at hperm

theorem get?_of_mem {roles : List Role} (h : (roles.map Role.name).Nodup) {role : Role}
    (hrole : role ∈ roles) : (ofRoles roles).get? role.name = some role := by
  rw [(distinct_ofRoles roles).get?_iff, roles_ofRoles h]
  exact hrole

/-! ## Names one by one -/

theorem resolve_cons (roster : Roster) (name : String) (names : List String) :
    roster.resolve (name :: names) = (roster.get? name).toList ++ roster.resolve names := by
  unfold resolve
  rw [List.filterMap_cons]
  rcases roster.get? name with _ | role <;> rfl

theorem missing_cons (roster : Roster) (name : String) (names : List String) :
    roster.missing (name :: names) =
      if (roster.get? name).isNone then name :: roster.missing names else roster.missing names := by
  unfold missing
  rw [List.filter_cons]

/-- What names are resolved to, and the records of those that are missing, are what comes of looking
them up one by one. -/
theorem lookedUp_iff {roster : Roster} {names : List String} {found : List Role}
    {records : List Log.Record} :
    Role.LookedUp roster.roles names found records ↔
      roster.resolve names = found ∧ (roster.missing names).map missingRecord = records := by
  constructor
  · intro h
    induction h with
    | nil => exact ⟨rfl, rfl⟩
    | @found name names role found records hrole _ ih =>
      have hget : roster.get? name = some role := hrole
      simp [resolve_cons, missing_cons, hget, ih]
    | @missing name names found records hnone _ ih =>
      have hget : roster.get? name = none := hnone
      simp [resolve_cons, missing_cons, hget, ih]
  · rintro ⟨rfl, rfl⟩
    induction names with
    | nil => exact .nil
    | cons name names ih =>
      rw [resolve_cons, missing_cons]
      rcases hget : roster.get? name with _ | role
      · exact .missing hget ih
      · exact .found hget ih

end Roster

/-! ## The laws -/

/-- The roster of the roles of a configuration lists all of them, each once and in strictly rising
order of names. A name is looked up as among the roles that were read. Several names are looked up
one by one: each that some role has gives the role, and each that none has gives a record. What
someone is allowed, and what is noted on the way, comes from looking up the names bound to them. -/
theorem a_roster_holds_the_roles_that_were_read {entries : List (Value × Value)} {roles : List Role}
    (hread : Role.ofConfiguration entries = .ok roles) :
    (Roster.ofRoles roles).listed.Perm roles ∧
    ((Roster.ofRoles roles).listed.map Role.name).Pairwise (· < ·) ∧
    (∀ name, (Roster.ofRoles roles).get? name = Role.find? roles name) ∧
    (∀ names found records, Role.LookedUp roles names found records ↔
      (Roster.ofRoles roles).resolve names = found ∧
        ((Roster.ofRoles roles).missing names).map Roster.missingRecord = records) ∧
    ∀ principal skipEmpty, ∃ found records, Role.LookedUp roles principal.roles found records ∧
      Gate.permissionsOf (Roster.ofRoles roles) skipEmpty principal =
        ⟨records, .ok (Permissions.ofRoles found skipEmpty)⟩ := by
  have hnames := (Role.ofConfiguration_eq_ok_iff.mp hread).2.2
  have hroles := Roster.roles_ofRoles hnames
  have hlooked : ∀ names found records, Role.LookedUp roles names found records ↔
      (Roster.ofRoles roles).resolve names = found ∧
        ((Roster.ofRoles roles).missing names).map Roster.missingRecord = records := by
    intro names found records
    rw [← Roster.lookedUp_iff, hroles]
  refine ⟨Roster.listed_ofRoles_perm hnames, ?_, ?_, hlooked, ?_⟩
  · exact List.pairwise_map.mpr (Roster.distinct_ofRoles roles).pairwise_listed_lt
  · intro name
    rw [Roster.get?, hroles]
  · intro principal skipEmpty
    exact ⟨_, _, (hlooked _ _ _).mpr ⟨rfl, rfl⟩, rfl⟩

/-- Two roles, the second of them named by a number. -/
def Role.numbered : List (Value × Value) :=
  [(.text "roles", .list [
    .map [(.text "name", .text "b"), (.text "grants", .list [.text "ReadRoles"])],
    .map [(.text "name", .int 1)]])]

/-- Someone is bound to the second one twice, and to a role that is not there. -/
theorem the_names_of_a_principal_are_looked_up_one_by_one :
    ∃ roles, Role.ofConfiguration Role.numbered = .ok roles ∧
      (Roster.ofRoles roles).listed.Perm roles ∧
      (Roster.ofRoles roles).resolve ["1", "ghost", "b", "1"] =
        [{ name := "1" }, { name := "b", grants := Grants.single .readRoles }, { name := "1" }] ∧
      ((Roster.ofRoles roles).missing ["1", "ghost", "b", "1"]).map Roster.missingRecord =
        [⟨.warning, "desktop_access.api.deps", "Bound role not found: ghost"⟩] := by
  have hread : Role.ofConfiguration Role.numbered =
      .ok [{ name := "b", grants := Grants.single .readRoles }, { name := "1" }] := rfl
  obtain ⟨hlisted, -, -, hlooked, -⟩ := a_roster_holds_the_roles_that_were_read hread
  refine ⟨_, hread, hlisted, (hlooked _ _ _).mp ?_⟩
  exact .found rfl (.missing rfl (.found rfl (.found rfl .nil)))

end DesktopPolicy
