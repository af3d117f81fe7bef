-- The laws of shown grants. Someone is shown the grants of the roles that are bound to them, each
-- once and by their bits. A gate that asks for some grants opens for exactly those who are shown one
-- of these.
import DesktopPolicy.Proofs.ReadingRoles
import DesktopPolicy.Proofs.Strangers

namespace DesktopPolicy

section

variable [Dialect]

/-! ## Grants of a principal -/

omit [Dialect] in
/-- What is held depends on which roles are bound, not on their order. -/
theorem Principal.holds_congr {a b : Principal} (h : ∀ name, name ∈ a.roles ↔ name ∈ b.roles)
    (roles : List Role) (grant : Grant) : a.Holds roles grant ↔ b.Holds roles grant := by
  simp only [Holds, h]

/-! ## Answers and gates -/

/-- The path of the grants of who asks. -/
def Route.grantsPath : String := "/api/access/grants"

/-- What someone is told who holds these grants. -/
def Response.holding (name : String) (held : List Grant) : Response :=
  .found (Service.fields [
    ("user", .text name), ("grants", Service.textList (held.map Grant.name))])

theorem Service.grants_response {service : Service} {principal : Principal} {request : Request}
    (hprincipal : request.credential.principal? = some (.ok principal))
    (hgets : request.Gets Route.grantsPath) :
    (service.answer request).response =
      .holding principal.name (service.permissionsOf principal).grants.members := by
  have hendpoint := Route.endpoint?_grants service.settings.debug
  rw [← Route.grantsPath, ← hgets.path, ← hgets.method] at hendpoint
  rw [response_of_endpoint (Route.destination_of_endpoint? hendpoint), ask, grants,
    settle_of_ok _ (service.asked_outcome hprincipal)]
  rfl

/-- A gate that asks for grants opens for those who have a bit of them. -/
theorem Service.pass_grants_outcome (service : Service) {request : Request} {principal : Principal}
    (hprincipal : request.credential.principal? = some (.ok principal)) (demanded : Grants)
    (parameters : List (String × String)) :
    (Gate.pass service.roster service.settings.skipEmptyRules (.grants demanded) parameters
      request.credential).outcome =
        if (service.permissionsOf principal).grants.has demanded.mask then
          .ok (service.permissionsOf principal)
        else .error (.denied (.missingGrant demanded)) := by
  rw [service.pass_outcome hprincipal, Gate.require, Gate.requireGrant]
  split <;> rfl

/-! ## The laws -/

/-- Someone is shown, by their bits and each once, the grants of the roles that are bound to them;
the order and the repetition of the bindings do not matter. A gate that asks for grants, and for no
other bits, opens for them exactly when one of its grants is among those shown. If not, they are told
which grants it asks for, and nothing else. -/
theorem shown_grants_are_those_that_open_gates {service : Service} {roles : List Role}
    {settings : Settings} (hserves : service.Serves roles settings) {principal : Principal}
    {request : Request} (hprincipal : request.credential.principal? = some (.ok principal))
    (hgets : request.Gets Route.grantsPath) :
    ∃ shown : List Grant,
      (service.answer request).response = .holding principal.name shown ∧
      shown.Pairwise (fun a b => a.bit < b.bit) ∧
      (∀ grant, grant ∈ shown ↔ principal.Holds roles grant) ∧
      (∀ (again : Request) (bound : List String), again.Gets Route.grantsPath →
        again.credential.principal? = some (.ok ⟨principal.name, bound⟩) →
        (∀ name, name ∈ bound ↔ name ∈ principal.roles) →
        (service.answer again).response = (service.answer request).response) ∧
      ∀ (guarded : Request) (demanded : Grants) (parameters : List (String × String)),
        guarded.credential.principal? = some (.ok principal) →
        demanded.mask ≤ Grants.all.mask →
        (Gate.pass service.roster service.settings.skipEmptyRules (.grants demanded) parameters
          guarded.credential).outcome =
            (if ∃ name ∈ demanded.names, name ∈ shown.map Grant.name then
              .ok (service.permissionsOf principal)
            else .error (.denied (.missingGrant demanded))) ∧
        Response.ofHalt (.denied (.missingGrant demanded)) =
          .detail 403 ("User does not have " ++ ", ".intercalate demanded.names ++ " grant") := by
  refine ⟨(service.permissionsOf principal).grants.members, Service.grants_response hprincipal hgets,
    Grants.pairwise_members _, ?_, ?_, ?_⟩
  · intro grant
    rw [Grants.mem_members, Service.contains_permissionsOf hserves]
  · intro again bound hagain hcredential hbound
    have hmembers : (service.permissionsOf ⟨principal.name, bound⟩).grants.members =
        (service.permissionsOf principal).grants.members := by
      apply Grants.members_congr
      intro grant
      rw [Bool.eq_iff_iff, Service.contains_permissionsOf hserves,
        Service.contains_permissionsOf hserves]
      exact Principal.holds_congr hbound roles grant
    rw [Service.grants_response hcredential hagain, Service.grants_response hprincipal hgets,
      hmembers]
  · intro guarded demanded parameters hcredential hnamed
    refine ⟨?_, rfl⟩
    have hopens : (service.permissionsOf principal).grants.has demanded.mask = true ↔
        ∃ name ∈ demanded.names,
          name ∈ (service.permissionsOf principal).grants.members.map Grant.name := by
      rw [(Grants.isNamed_of_le_all hnamed).has_iff]
      constructor
      · rintro ⟨grant, hdemanded, hheld⟩
        exact ⟨grant.name, List.mem_map_of_mem ((demanded.mem_members grant).mpr hdemanded),
          List.mem_map_of_mem ((Grants.mem_members _ grant).mpr hheld)⟩
      · rintro ⟨_, hdemanded, hshown⟩
        obtain ⟨grant, hgrant, rfl⟩ := (demanded.mem_names_iff _).mp hdemanded
        obtain ⟨held, hheld, hname⟩ := (Grants.mem_names_iff _ _).mp hshown
        -- no two grants have one name
        have hsame : held = grant := by
          rw [← Option.some_inj, ← held.ofName?_name, ← grant.ofName?_name, hname]
        exact ⟨grant, hgrant, hsame ▸ hheld⟩
    rw [service.pass_grants_outcome hcredential]
    simp only [hopens]

end

/-- Roles with grants, one of them with a bit that no grant has. -/
def Role.crew : List Role := [
  { name := "lister", grants := ⟨0⟩ },
  { name := "launcher", grants := ⟨64⟩ },
  { name := "lister", grants := ⟨260⟩ }]

/-- A service with these roles. -/
def Service.withCrew : Service := ⟨Roster.ofRoles Role.crew, {}, .info⟩

/-- Someone bound to both, to one of them twice, and to a role that is not there. -/
def Principal.mate : Principal := ⟨"ada", ["launcher", "ghost", "lister", "launcher"]⟩

theorem a_mate_is_shown_what_opens_a_gate :
    (Service.withCrew.answer (.get .mate Route.grantsPath)).response =
      .holding "ada" [.readRoles, .launchTemplates] ∧
    (Gate.pass Service.withCrew.roster true (.grants ⟨12⟩) [] (.principal .mate)).outcome =
      .ok (Service.withCrew.permissionsOf .mate) ∧
    (Gate.pass Service.withCrew.roster true (.grants ⟨11⟩) [] (.principal .mate)).outcome =
      .error (.denied (.missingGrant ⟨11⟩)) := by
  have hserves : Service.withCrew.Serves Role.crew {} := ⟨rfl, rfl⟩
  have hcredential : (Request.get .mate Route.grantsPath).credential.principal? =
      some (.ok .mate) := rfl
  have hgets : (Request.get .mate Route.grantsPath).Gets Route.grantsPath := ⟨rfl, by cbv⟩
  obtain ⟨shown, hresponse, hbits, hshown, -, hgates⟩ :=
    shown_grants_are_those_that_open_gates hserves hcredential hgets
  -- what is shown is settled by its members and its order
  have hsame : shown = [.readRoles, .launchTemplates] := by
    have hmembers : ∀ grant, grant ∈ shown ↔ grant ∈ [Grant.readRoles, .launchTemplates] := by
      intro grant
      rw [hshown, ← Service.contains_permissionsOf hserves]
      cases grant <;> decide
    have : Std.Irrefl fun a b : Grant => a.bit < b.bit := ⟨fun a => Nat.lt_irrefl a.bit⟩
    have : Std.Antisymm fun a b : Grant => a.bit < b.bit :=
      ⟨fun a b hab hba => absurd hab (Nat.lt_asymm hba)⟩
    exact hbits.eq_of_mem_iff (by decide) hmembers
  rw [hsame] at hresponse hgates
  have hopen := (hgates (.get .mate "/api/roles") ⟨12⟩ [] rfl (by decide)).1
  have hshut := (hgates (.get .mate "/api/roles") ⟨11⟩ [] rfl (by decide)).1
  rw [if_pos (by decide)] at hopen
  rw [if_neg (by decide)] at hshut
  exact ⟨hresponse, hopen, hshut⟩

end DesktopPolicy
