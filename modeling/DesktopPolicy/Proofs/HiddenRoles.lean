-- The laws of roles that someone may not read. Every answer to a principal is made from the roles
-- that are bound to them and from those whose names they may read; so what else is served leaves no
-- trace in any response, and a role that may not be read looks like one that is not there.
import DesktopPolicy.Proofs.ServiceAnswers

namespace DesktopPolicy

section

variable [Dialect]

/-! ## The pure model -/

/-- To read the role with a name. -/
def Action.readRole (name : String) : Action := ⟨.read, .roles, some name, none⟩

/-- The services look alike to the principal: the roles bound to them are the same, and so is the
role of any name for which reading is not denied. -/
structure Service.LookAlike (principal : Principal) (a b : Service) : Prop where
  distinct : a.roster.Distinct ∧ b.roster.Distinct
  settings : a.settings = b.settings
  bound : ∀ name ∈ principal.roles, a.roster.get? name = b.roster.get? name
  readable : ∀ name,
    ((a.permissionsOf principal).isAllowed (.readRole name)).outcome ≠ .ok false →
      a.roster.get? name = b.roster.get? name

namespace Service

/-! ## Ways that end alike -/

theorem LookAlike.permissionsOf_eq {principal : Principal} {a b : Service}
    (h : LookAlike principal a b) : a.permissionsOf principal = b.permissionsOf principal := by
  have hresolve : a.roster.resolve principal.roles = b.roster.resolve principal.roles :=
    List.filterMap_congr h.bound
  rw [permissionsOf, permissionsOf, hresolve, h.settings]

theorem LookAlike.symm {principal : Principal} {a b : Service} (h : LookAlike principal a b) :
    LookAlike principal b a where
  distinct := h.distinct.symm
  settings := h.settings.symm
  bound name hname := (h.bound name hname).symm
  readable name hread := (h.readable name (h.permissionsOf_eq ▸ hread)).symm

/-- The way through a gate depends on the permissions only. -/
theorem pass_outcome (service : Service) {request : Request} {principal : Principal}
    (hprincipal : request.credential.principal? = some (.ok principal)) (demand : Gate.Demand)
    (parameters : List (String × String)) :
    (Gate.pass service.roster service.settings.skipEmptyRules demand parameters
      request.credential).outcome =
        (Gate.require demand parameters principal (service.permissionsOf principal)).outcome.map
          fun _ => service.permissionsOf principal := by
  rw [Gate.pass, Noted.next_of_ok _ (Gate.authenticate_outcome hprincipal)]
  have hpermissions : (Gate.permissionsOf service.roster service.settings.skipEmptyRules
      principal).outcome = .ok (service.permissionsOf principal) := rfl
  rw [Noted.next_of_ok _ hpermissions]
  rcases hr : (Gate.require demand parameters principal (service.permissionsOf principal)).outcome
    with halt | passed
  · rw [Noted.next_of_error _ hr]
    rfl
  · rw [Noted.next_of_ok _ hr]
    rfl

/-- Who gets through a gate for an action is allowed the action. -/
theorem isAllowed_of_requireAction {action : Action} {principal : Principal}
    {permissions : Permissions}
    (h : (Gate.requireAction action principal permissions).outcome = .ok ()) :
    (permissions.isAllowed action).outcome = .ok true := by
  unfold Gate.requireAction at h
  rcases ho : (permissions.isAllowed action).outcome with refusal | allowed
  · rw [Noted.next_of_error _ (Gate.tried_of_error ho)] at h
    cases h
  · rw [Noted.next_of_ok _ (Gate.tried_of_ok ho)] at h
    cases allowed with
    | false => cases h
    | true => rfl

/-- What follows behind the gate before the listed roles. -/
def readable (roster : Roster) (permissions : Permissions) : Passage Response :=
  (Gate.tried (permissions.filterAllowed .read .roles (roster.listed.map Role.name) none)).next
    fun names =>
      .answer (rolesResponse (roster.listed.filter fun role => names.contains role.name))

theorem listRoles_eq (service : Service) (request : Request) :
    service.listRoles request = (Gate.pass service.roster service.settings.skipEmptyRules
      (.grants (Grants.single .readRoles)) [] request.credential).next (readable service.roster) :=
  rfl

/-- When every listed name has an answer, the roles are those that pass. -/
theorem settle_readable_of_answers {roster : Roster} {permissions : Permissions}
    (h : ∀ name ∈ roster.listed.map Role.name, (permissions.isAllowed (.readRole name)).Answers) :
    settle (readable roster permissions) = rolesResponse (roster.listed.filter fun role =>
      Noted.passes (fun name => permissions.isAllowed (.readRole name)) role.name) := by
  have hkeep : (permissions.filterAllowed .read .roles (roster.listed.map Role.name) none).outcome =
      .ok ((roster.listed.map Role.name).filter
        (Noted.passes fun name => permissions.isAllowed (.readRole name))) :=
    Noted.keep_of_answers h
  rw [readable, settle_of_ok _ (Gate.tried_of_ok hkeep)]
  apply congrArg rolesResponse
  apply List.filter_congr
  intro role hrole
  have hname := List.mem_map_of_mem (f := Role.name) hrole
  rw [Bool.eq_iff_iff, List.contains_iff_mem, List.mem_filter, and_iff_right hname]

theorem settle_readable_of_not_answers {roster : Roster} {permissions : Permissions}
    (h : ∃ name ∈ roster.listed.map Role.name,
      ¬ (permissions.isAllowed (.readRole name)).Answers) :
    settle (readable roster permissions) = .failure := by
  obtain ⟨refusal, hkeep⟩ := Noted.keep_of_not_answers h
  have htried : (permissions.filterAllowed .read .roles (roster.listed.map Role.name)
      none).outcome = .error refusal := hkeep
  rw [readable, settle_of_error _ (Gate.tried_of_error htried)]
  rfl

/-! ## Single endpoints -/

section

variable {principal : Principal} {a b : Service} {request : Request}

/-- Behind one gate it is enough that what follows ends alike for those who get through. -/
theorem LookAlike.settle_pass (h : LookAlike principal a b)
    (hprincipal : request.credential.principal? = some (.ok principal)) (demand : Gate.Demand)
    (parameters : List (String × String)) {f g : Permissions → Passage Response}
    (hfg : (Gate.require demand parameters principal (a.permissionsOf principal)).outcome = .ok () →
      settle (f (a.permissionsOf principal)) = settle (g (a.permissionsOf principal))) :
    settle ((Gate.pass a.roster a.settings.skipEmptyRules demand parameters
      request.credential).next f) =
        settle ((Gate.pass b.roster b.settings.skipEmptyRules demand parameters
          request.credential).next g) := by
  have hpassA := a.pass_outcome hprincipal demand parameters
  have hpassB := b.pass_outcome hprincipal demand parameters
  rw [← h.permissionsOf_eq] at hpassB
  rcases hr : (Gate.require demand parameters principal (a.permissionsOf principal)).outcome
    with halt | _
  · rw [hr] at hpassA hpassB
    rw [settle_of_error _ hpassA, settle_of_error _ hpassB]
  · rw [hr] at hpassA hpassB
    rw [settle_of_ok _ hpassA, settle_of_ok _ hpassB, hfg hr]

theorem LookAlike.grants (h : LookAlike principal a b)
    (hprincipal : request.credential.principal? = some (.ok principal)) :
    settle (a.grants request) = settle (b.grants request) := by
  rw [Service.grants, Service.grants, settle_of_ok _ (a.asked_outcome hprincipal),
    settle_of_ok _ (b.asked_outcome hprincipal), h.permissionsOf_eq]

theorem LookAlike.check (h : LookAlike principal a b)
    (hprincipal : request.credential.principal? = some (.ok principal)) :
    settle (a.check request) = settle (b.check request) := by
  unfold Service.check
  rcases Body.ofRequest request with response | body
  · rfl
  · simp only
    rw [decide, decide, settle_of_ok _ (a.asked_outcome hprincipal),
      settle_of_ok _ (b.asked_outcome hprincipal), h.permissionsOf_eq]

/-- The reading of a role in the path is checked before the role is looked up. -/
theorem LookAlike.aboutRole (h : LookAlike principal a b)
    (hprincipal : request.credential.principal? = some (.ok principal))
    (parameters : List (String × String)) (answer : Role → Response) :
    settle (a.aboutRole request parameters answer) =
      settle (b.aboutRole request parameters answer) := by
  unfold Service.aboutRole
  apply h.settle_pass hprincipal
  intro hr
  rcases hn : parameters.lookup Route.roleParameter with _ | name
  · rfl
  · -- behind the gate the name is one for which reading is allowed
    have hparameter : Gate.parameter parameters (some Route.roleParameter) = some name := hn
    have hallowed : ((a.permissionsOf principal).isAllowed (.readRole name)).outcome =
        .ok true := by
      rw [Gate.require, hparameter] at hr
      exact isAllowed_of_requireAction hr
    rw [Option.bind_some, Option.bind_some, h.readable name (by simp [hallowed])]

/-- A name that is listed and has no answer is listed by both services. -/
theorem LookAlike.exists_not_answers (h : LookAlike principal a b)
    (hfails : ∃ name ∈ a.roster.listed.map Role.name,
      ¬ ((a.permissionsOf principal).isAllowed (.readRole name)).Answers) :
    ∃ name ∈ b.roster.listed.map Role.name,
      ¬ ((a.permissionsOf principal).isAllowed (.readRole name)).Answers := by
  obtain ⟨name, hname, hfails⟩ := hfails
  refine ⟨name, ?_, hfails⟩
  obtain ⟨role, hrole, rfl⟩ := List.mem_map.mp hname
  have hget := (h.distinct.1.get?_iff role).mpr (a.roster.listed_perm.mem_iff.mp hrole)
  have hread := h.readable role.name fun hfalse => hfails ⟨false, hfalse⟩
  rw [hread, h.distinct.2.get?_iff] at hget
  exact List.mem_map_of_mem (b.roster.listed_perm.mem_iff.mpr hget)

/-- Both services list the same of the roles that may be read. -/
theorem LookAlike.listed_filter_eq (h : LookAlike principal a b) :
    let passes := Noted.passes fun name => (a.permissionsOf principal).isAllowed (.readRole name)
    (a.roster.listed.filter fun role => passes role.name) =
      b.roster.listed.filter fun role => passes role.name := by
  intro passes
  apply Roster.listed_filter_eq h.distinct.1 h.distinct.2
  intro role
  rw [and_congr_left_iff]
  intro hpasses
  have hallowed := Noted.passes_iff.mp hpasses
  rw [← h.distinct.1.get?_iff, ← h.distinct.2.get?_iff, h.readable role.name (by simp [hallowed])]

/-- The readable roles that are listed are the same, or both services fail. -/
theorem LookAlike.listRoles (h : LookAlike principal a b)
    (hprincipal : request.credential.principal? = some (.ok principal)) :
    settle (a.listRoles request) = settle (b.listRoles request) := by
  rw [listRoles_eq, listRoles_eq]
  apply h.settle_pass hprincipal
  intro _
  -- one listed name without an answer fails the whole list, and both services list that name
  by_cases hfails : ∃ name ∈ a.roster.listed.map Role.name,
      ¬ ((a.permissionsOf principal).isAllowed (.readRole name)).Answers
  · rw [settle_readable_of_not_answers hfails,
      settle_readable_of_not_answers (h.exists_not_answers hfails)]
  · have hanswersA : ∀ name ∈ a.roster.listed.map Role.name,
        ((a.permissionsOf principal).isAllowed (.readRole name)).Answers := by
      simpa using hfails
    have hanswersB : ∀ name ∈ b.roster.listed.map Role.name,
        ((a.permissionsOf principal).isAllowed (.readRole name)).Answers := by
      intro name hname
      by_contra hnot
      rw [h.permissionsOf_eq] at hnot hfails
      exact hfails (h.symm.exists_not_answers ⟨name, hname, hnot⟩)
    rw [settle_readable_of_answers hanswersA, settle_readable_of_answers hanswersB,
      h.listed_filter_eq]

theorem LookAlike.response (h : LookAlike principal a b)
    (hprincipal : request.credential.principal? = some (.ok principal)) :
    (a.answer request).response = (b.answer request).response := by
  unfold answer
  rw [h.settings]
  simp only
  rcases Route.destination (Route.all b.settings.debug) request.method
    (Address.ofText request.address) with ⟨endpoint, parameters⟩ | _ | address | _
  · cases endpoint with
    | grants => exact h.grants hprincipal
    | check => exact h.check hprincipal
    | roles => exact h.listRoles hprincipal
    | role => exact h.aboutRole hprincipal parameters roleResponse
    | roleAudit => exact h.aboutRole hprincipal parameters auditResponse
    | health => rfl
    | description => rfl
    | page => rfl
  · rfl
  · rfl
  · rfl

end

end Service

/-! ## Definitions left out -/

omit [Dialect] in
theorem Role.lastNamed?_filter {roles : List Role} {hidden name : String} (h : name ≠ hidden) :
    lastNamed? (roles.filter fun role => role.name != hidden) name = lastNamed? roles name := by
  unfold lastNamed?
  rw [← List.filter_reverse, List.find?_filter]
  congr 1
  funext role
  by_cases hname : role.name = name
  · simp [hname, h]
  · simp [hname]

theorem Service.Serves.lookAlike {roles others : List Role} {settings : Settings}
    {principal : Principal} {service other : Service} (hserves : service.Serves roles settings)
    (hother : other.Serves others settings)
    (hbound : ∀ name ∈ principal.roles, service.roster.get? name = other.roster.get? name)
    (hread : ∀ name,
      ((service.permissionsOf principal).isAllowed (.readRole name)).outcome ≠ .ok false →
        service.roster.get? name = other.roster.get? name) :
    LookAlike principal service other where
  distinct := by
    rw [hserves.roster, hother.roster]
    exact ⟨Roster.distinct_ofRoles roles, Roster.distinct_ofRoles others⟩
  settings := hserves.settings.trans hother.settings.symm
  bound := hbound
  readable := hread

/-! ## The laws -/

/-- Two services under the same settings that agree on the roles bound to a principal, and on every
name for which reading is not denied to them, answer each of their requests alike. So a role that is
neither bound nor readable might as well not be there. -/
theorem roles_that_may_not_be_read_leave_no_trace {roles : List Role} {settings : Settings}
    {service : Service} {request : Request} {principal : Principal}
    (hserves : service.Serves roles settings)
    (hprincipal : request.credential.principal? = some (.ok principal)) :
    (∀ (others : List Role) (other : Service), other.Serves others settings →
      (∀ name ∈ principal.roles, service.roster.get? name = other.roster.get? name) →
      (∀ name,
        ((service.permissionsOf principal).isAllowed (.readRole name)).outcome ≠ .ok false →
          service.roster.get? name = other.roster.get? name) →
      (service.answer request).response = (other.answer request).response) ∧
    ∀ (hidden : String) (other : Service),
      other.Serves (roles.filter fun role => role.name != hidden) settings →
      hidden ∉ principal.roles →
      ((service.permissionsOf principal).isAllowed (.readRole hidden)).outcome = .ok false →
      (service.answer request).response = (other.answer request).response := by
  refine ⟨?_, ?_⟩
  · intro others other hother hbound hread
    exact (hserves.lookAlike hother hbound hread).response hprincipal
  intro hidden other hother hunbound hdenied
  have hsame : ∀ name, name ≠ hidden →
      service.roster.get? name = other.roster.get? name := by
    intro name hname
    rw [hserves.roster, hother.roster, Roster.get?_ofRoles, Roster.get?_ofRoles,
      Role.lastNamed?_filter hname]
  have hbound : ∀ name ∈ principal.roles,
      service.roster.get? name = other.roster.get? name := by
    intro name hname
    exact hsame name fun heq => hunbound (heq ▸ hname)
  have hread : ∀ name,
      ((service.permissionsOf principal).isAllowed (.readRole name)).outcome ≠ .ok false →
        service.roster.get? name = other.roster.get? name := by
    intro name hread
    exact hsame name fun heq => hread (heq ▸ hdenied)
  exact (hserves.lookAlike hother hbound hread).response hprincipal

end

/-- A role for those who list roles and read the ones whose names start with an a. -/
def Role.atlas : Role where
  name := "atlas"
  rules := [{ verbs := [.read], resources := [.roles], patterns := ["^a"] }]
  grants := Grants.single .readRoles

/-- A service with that role, and with a vault that holds these grants. -/
def Service.withVault (grants : Grants) : Service where
  roster := Roster.ofRoles [Role.atlas, { name := "vault", grants := grants }]
  settings := {}
  level := .info

/-- Someone with the first role asks for the vault. -/
def Request.forVault : Request where
  method := "GET"
  address := "/api/roles/vault"
  credential := .principal ⟨"ada", ["atlas"]⟩

theorem a_vault_is_answered_like_another_vault_and_like_none :
    (Service.withVault Grants.empty).roster.get? "vault" ≠
      (Service.withVault Grants.all).roster.get? "vault" ∧
    ((Service.withVault Grants.empty).answer Request.forVault).response =
      ((Service.withVault Grants.all).answer Request.forVault).response ∧
    ((Service.withVault Grants.empty).answer Request.forVault).response =
      (Service.answer ⟨Roster.ofRoles [Role.atlas], {}, .info⟩ Request.forVault).response := by
  have hserves : ∀ grants, (Service.withVault grants).Serves
      [Role.atlas, { name := "vault", grants := grants }] {} := fun _ => ⟨rfl, rfl⟩
  have hdenied : (((Service.withVault Grants.empty).permissionsOf
      ⟨"ada", ["atlas"]⟩).isAllowed (.readRole "vault")).outcome = .ok false := by
    decide +kernel
  have hsame : ∀ name, name ≠ "vault" → (Service.withVault Grants.empty).roster.get? name =
      (Service.withVault Grants.all).roster.get? name := by
    intro name hname
    have hother : ("vault" == name) = false := by simpa using Ne.symm hname
    simp [Service.withVault, Roster.ofRoles, Roster.put, Roster.get?, Role.find?, List.find?,
      Role.atlas, hother]
  have hbound : ∀ name ∈ ["atlas"], (Service.withVault Grants.empty).roster.get? name =
      (Service.withVault Grants.all).roster.get? name := by
    intro name hname
    rw [List.mem_singleton.mp hname]
    exact hsame "atlas" (by decide)
  have hread : ∀ name, (((Service.withVault Grants.empty).permissionsOf
      ⟨"ada", ["atlas"]⟩).isAllowed (.readRole name)).outcome ≠ .ok false →
        (Service.withVault Grants.empty).roster.get? name =
          (Service.withVault Grants.all).roster.get? name := by
    intro name hread
    exact hsame name fun heq => hread (heq ▸ hdenied)
  refine ⟨?_, ?_, ?_⟩
  · intro hget
    cases hget
  · exact (roles_that_may_not_be_read_leave_no_trace (hserves Grants.empty) rfl).1 _ _
      (hserves Grants.all) hbound hread
  · exact (roles_that_may_not_be_read_leave_no_trace (hserves Grants.empty) rfl).2 "vault" _
      ⟨rfl, rfl⟩ (by decide) hdenied

end DesktopPolicy
