-- How the service comes to its answers. Only the outcome of a way counts for the response at its
-- end, and for a principal who is believed the way starts with the permissions of the roles bound
-- to them.
import DesktopPolicy.Proofs.RosterNames
import DesktopPolicy.Proofs.RuleUnion
import DesktopPolicy.Service

namespace DesktopPolicy

/-- What a principal is allowed: the union of the roles that are bound to them and served. -/
def Service.permissionsOf (service : Service) (principal : Principal) : Permissions :=
  Permissions.ofRoles (service.roster.resolve principal.roles) service.settings.skipEmptyRules

/-- The service serves these definitions under these settings. -/
structure Service.Serves (service : Service) (roles : List Role) (settings : Settings) : Prop where
  roster : service.roster = Roster.ofRoles roles
  settings : service.settings = settings

/-! ## Ways through gates -/

theorem Gate.tried_of_ok {α : Type} {trial : Trial α} {a : α} (h : trial.outcome = .ok a) :
    (tried trial).outcome = .ok a := by
  simp [tried, h, Except.mapError]

theorem Gate.tried_of_error {α : Type} {trial : Trial α} {refusal : Pattern.Refusal}
    (h : trial.outcome = .error refusal) : (tried trial).outcome = .error (.failed refusal) := by
  simp [tried, h, Except.mapError]

theorem Gate.authenticate_outcome {credential : Credential} {principal : Principal}
    (h : credential.principal? = some (.ok principal)) :
    (authenticate credential).outcome = .ok principal := by
  simp [authenticate, h]

theorem Roster.mem_resolve (roster : Roster) (names : List String) (role : Role) :
    role ∈ roster.resolve names ↔ ∃ name ∈ names, roster.get? name = some role :=
  List.mem_filterMap

namespace Service

theorem asked_outcome (service : Service) {request : Request} {principal : Principal}
    (h : request.credential.principal? = some (.ok principal)) :
    (service.asked request).outcome = .ok (principal, service.permissionsOf principal) := by
  rw [asked, Noted.next_of_ok _ (Gate.authenticate_outcome h)]
  exact Noted.next_of_ok _ rfl

/-! ## Responses -/

theorem settle_of_ok {α : Type} {way : Passage α} {a : α} (f : α → Passage Response)
    (h : way.outcome = .ok a) : settle (way.next f) = settle (f a) := by
  rw [settle, settle, Noted.next_of_ok f h]

theorem settle_of_error {α : Type} {way : Passage α} {halt : Halt} (f : α → Passage Response)
    (h : way.outcome = .error halt) : settle (way.next f) = .ofHalt halt := by
  rw [settle, Noted.next_of_error f h]

variable [Dialect]

/-- The response to a request that leads to an endpoint. -/
theorem response_of_endpoint {service : Service} {request : Request} {endpoint : Endpoint}
    {parameters : List (String × String)}
    (h : Route.destination (Route.all service.settings.debug) request.method
      (Address.ofText request.address) = .endpoint endpoint parameters) :
    (service.answer request).response = settle (service.ask endpoint parameters request) := by
  simp [answer, h]

/-! ## Starting -/

/-- A service that has been started serves its definitions. -/
theorem start_eq_ok {given : Option (List Role)} {settings : Settings} {place : Place}
    {service : Service} (h : (start given settings place).outcome = .ok service) :
    ∃ roles, (definitions given settings place).outcome = .ok roles ∧
      service.Serves roles settings := by
  unfold start at h
  split at h
  · cases h
  · rcases hd : (definitions given settings place).outcome with fault | roles
    · simp [Noted.next_of_error _ hd] at h
    · simp only [Noted.next_of_ok _ hd] at h
      refine ⟨roles, rfl, ?_⟩
      split at h
      · cases h
      · split at h
        · cases h
        · cases h
          exact ⟨rfl, rfl⟩

/-- A service that has been started on given roles serves these. -/
theorem serves_of_start {roles : List Role} {settings : Settings} {place : Place}
    {service : Service} (h : (start (some roles) settings place).outcome = .ok service) :
    service.Serves roles settings := by
  obtain ⟨_, hdefinitions, hserves⟩ := start_eq_ok h
  cases hdefinitions
  exact hserves

end Service

end DesktopPolicy
