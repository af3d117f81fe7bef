-- The laws of gates with a scope. A gate for an action reads a name and a namespace from the path and
-- asks about what it reads. Where the path lacks a parameter it asks without it, and so opens for
-- everyone who may do the action at large. The paths of the service never lack the parameter of their
-- gates.
import DesktopPolicy.Proofs.DroppedScopes
import DesktopPolicy.Proofs.ServiceFailures

namespace DesktopPolicy

section

variable [Dialect]

/-! ## The pure model -/

/-- What a gate reads from the parameters of a path, when it is configured with the name of one of
them, or with none. -/
inductive Gate.Reads (parameters : List (String × String)) : Option String → Option String → Prop
  | unconfigured : Reads parameters none none
  | nameless : Reads parameters (some "") none
  | supplied {name value : String} : name ≠ "" → parameters.lookup name = some value →
      Reads parameters (some name) (some value)
  | lacking {name : String} : name ≠ "" → parameters.lookup name = none →
      Reads parameters (some name) none

section

variable (service : Service) (request : Request) (demand : Gate.Demand)
  (parameters : List (String × String))

/-- The gate lets the request through. -/
def Service.Admits : Prop :=
  (Gate.pass service.roster service.settings.skipEmptyRules demand parameters
    request.credential).Answers

/-- The gate tells the request that it is forbidden. -/
def Service.Forbids : Prop :=
  (Gate.pass service.roster service.settings.skipEmptyRules demand parameters
    request.credential).outcome = .error (.denied .forbidden)

end

end

/-! ## What is read -/

namespace Gate

theorem reads_iff {parameters : List (String × String)} {configured read : Option String} :
    Reads parameters configured read ↔ parameter parameters configured = read := by
  constructor
  · intro h
    unfold parameter
    cases h with
    | unconfigured => rfl
    | nameless => rfl
    | supplied hname hlookup => simp [hname, hlookup]
    | lacking _ hlookup => simp [hlookup]
  · rintro rfl
    unfold parameter
    rcases configured with _ | name
    · exact .unconfigured
    · by_cases hname : name = ""
      · subst hname
        exact .nameless
      · rcases hlookup : parameters.lookup name with _ | value
        · simpa [hname, hlookup] using Reads.lacking hname hlookup
        · simpa [hname, hlookup] using Reads.supplied hname hlookup

theorem reads_parameter (parameters : List (String × String)) (configured : Option String) :
    Reads parameters configured (parameter parameters configured) :=
  reads_iff.mpr rfl

/-- A parameter that the path lacks is read like none. -/
theorem reads_lacking_iff {parameters : List (String × String)} {name : String}
    (h : parameters.lookup name = none) (read : Option String) :
    Reads parameters (some name) read ↔ Reads parameters none read := by
  rw [reads_iff, reads_iff, parameter, parameter]
  simp [h]

/-- One more parameter of a path is read under its own name, and changes nothing else. -/
theorem Reads.of_cons {parameters : List (String × String)} {name value : String}
    {configured read : Option String} (h : Reads ((name, value) :: parameters) configured read)
    (hlacking : parameters.lookup name = none) :
    Reads parameters configured none ∨ Reads parameters configured read := by
  cases h with
  | unconfigured => exact .inl .unconfigured
  | nameless => exact .inl .nameless
  | @supplied other _ hother hlookup =>
    by_cases hname : other = name
    · subst hname
      exact .inl (.lacking hother hlacking)
    · rw [List.lookup_cons, beq_false_of_ne hname] at hlookup
      exact .inr (.supplied hother hlookup)
  | @lacking other hother hlookup =>
    by_cases hname : other = name
    · subst hname
      exact .inl (.lacking hother hlacking)
    · rw [List.lookup_cons, beq_false_of_ne hname] at hlookup
      exact .inl (.lacking hother hlookup)

end Gate

section

variable [Dialect]

namespace Service

/-! ## Gates for actions -/

section

variable {service : Service} {request : Request} {principal : Principal} {verb : Verb}
  {resource : Resource} {name space asked inside : Option String}
  {parameters : List (String × String)}

/-- A gate for an action asks one question, about what it reads from the path. -/
theorem pass_action_outcome (hprincipal : request.credential.principal? = some (.ok principal))
    (hname : Gate.Reads parameters name asked) (hspace : Gate.Reads parameters space inside) :
    (Gate.pass service.roster service.settings.skipEmptyRules (.action verb resource name space)
      parameters request.credential).outcome =
        (Gate.requireAction ⟨verb, resource, asked, inside⟩ principal
          (service.permissionsOf principal)).outcome.map fun _ => service.permissionsOf principal := by
  rw [service.pass_outcome hprincipal, Gate.require, Gate.reads_iff.mp hname,
    Gate.reads_iff.mp hspace]

theorem admits_iff (hprincipal : request.credential.principal? = some (.ok principal))
    (hname : Gate.Reads parameters name asked) (hspace : Gate.Reads parameters space inside) :
    service.Admits request (.action verb resource name space) parameters ↔
      ((service.permissionsOf principal).isAllowed ⟨verb, resource, asked, inside⟩).outcome =
        .ok true := by
  unfold Admits Noted.Answers
  rw [pass_action_outcome hprincipal hname hspace]
  constructor
  · rintro ⟨granted, hgranted⟩
    obtain ⟨_, hpassed, -⟩ := map_eq_ok_iff.mp hgranted
    exact isAllowed_of_requireAction hpassed
  · intro hallowed
    refine ⟨service.permissionsOf principal, map_eq_ok_iff.mpr ⟨(), ?_, rfl⟩⟩
    unfold Gate.requireAction
    rw [Noted.next_of_ok _ (Gate.tried_of_ok hallowed)]
    rfl

theorem forbids_iff (hprincipal : request.credential.principal? = some (.ok principal))
    (hname : Gate.Reads parameters name asked) (hspace : Gate.Reads parameters space inside) :
    service.Forbids request (.action verb resource name space) parameters ↔
      ((service.permissionsOf principal).isAllowed ⟨verb, resource, asked, inside⟩).outcome =
        .ok false := by
  unfold Forbids
  rw [pass_action_outcome hprincipal hname hspace]
  unfold Gate.requireAction
  rcases ho : ((service.permissionsOf principal).isAllowed ⟨verb, resource, asked, inside⟩).outcome
    with refusal | allowed
  · rw [Noted.next_of_error _ (Gate.tried_of_error ho)]
    simp [Except.map]
  · rw [Noted.next_of_ok _ (Gate.tried_of_ok ho)]
    cases allowed <;> simp [Except.map]

theorem admits_congr (hprincipal : request.credential.principal? = some (.ok principal))
    {name' space' : Option String}
    (hname : ∀ asked, Gate.Reads parameters name asked ↔ Gate.Reads parameters name' asked)
    (hspace : ∀ inside, Gate.Reads parameters space inside ↔ Gate.Reads parameters space' inside) :
    service.Admits request (.action verb resource name space) parameters ↔
      service.Admits request (.action verb resource name' space') parameters := by
  have hasked := Gate.reads_parameter parameters name
  have hinside := Gate.reads_parameter parameters space
  rw [admits_iff hprincipal hasked hinside,
    admits_iff hprincipal ((hname _).mp hasked) ((hspace _).mp hinside)]

/-- Who gets through a gate gets through it on a path that lacks one more parameter. -/
theorem Admits.of_cons (hprincipal : request.credential.principal? = some (.ok principal))
    {missing value : String} (hlacking : parameters.lookup missing = none)
    (h : service.Admits request (.action verb resource name space)
      ((missing, value) :: parameters)) :
    service.Admits request (.action verb resource name space) parameters := by
  have hasked := Gate.reads_parameter ((missing, value) :: parameters) name
  have hinside := Gate.reads_parameter ((missing, value) :: parameters) space
  rw [admits_iff hprincipal hasked hinside] at h
  -- the name may have come from the parameter that is lacking now, and so may the namespace
  rcases hasked.of_cons hlacking with hname | hname <;>
    rcases hinside.of_cons hlacking with hspace | hspace <;> rw [admits_iff hprincipal hname hspace]
  · exact Permissions.isAllowed_unscoped h ⟨rfl, rfl, .inl rfl, .inl rfl⟩
  · exact Permissions.isAllowed_unscoped h ⟨rfl, rfl, .inl rfl, .inr rfl⟩
  · exact Permissions.isAllowed_unscoped h ⟨rfl, rfl, .inr rfl, .inl rfl⟩
  · exact h

end

/-! ## The gates of the service -/

section

variable {service : Service} {request : Request} {principal : Principal}

/-- Those who are told something about the role of a name, and are not denied it, may read it. -/
theorem mayRead_of_told {permissions : Permissions} {name : String} (answer : Role → Response)
    (h : (service.told permissions name answer).status ∉ [403, 500]) :
    permissions.MayRead name := by
  unfold told at h
  unfold Permissions.MayRead
  rcases ho : (permissions.isAllowed (.readRole name)).outcome with refusal | allowed
  · simp [ho, Response.failure] at h
  · cases allowed with
    | false => simp [ho, Response.detail] at h
    | true => rfl

/-- A path to a role supplies the name that its gate asks about. -/
theorem exists_reads_of_destination
    (hprincipal : request.credential.principal? = some (.ok principal)) {endpoint : Endpoint}
    {parameters : List (String × String)} (hendpoint : endpoint ∈ [Endpoint.role, .roleAudit])
    (hdestination : Route.destination (Route.all service.settings.debug) request.method
      (Address.ofText request.address) = .endpoint endpoint parameters) :
    ∃ name, Gate.Reads parameters (some Route.roleParameter) (some name) ∧
      ((service.answer request).response.status ∉ [403, 500] →
        (service.permissionsOf principal).MayRead name) := by
  obtain ⟨name, rfl⟩ := Route.parameters_of_role hdestination hendpoint
  refine ⟨name, .supplied (by decide) rfl, ?_⟩
  rw [response_of_endpoint hdestination]
  simp only [List.mem_cons, List.not_mem_nil, or_false] at hendpoint
  intro hstatus
  rcases hendpoint with rfl | rfl
  · apply mayRead_of_told roleResponse
    rwa [← aboutRole_response hprincipal]
  · apply mayRead_of_told auditResponse
    rwa [← aboutRole_response hprincipal]

end

end Service

/-! ## The laws -/

/-- A gate for an action lets through who is allowed the action with the name and the namespace that
the path supplies, and forbids it to who is denied that; where the question comes to no answer, nobody
gets through. What the path lacks is not asked about: the gate decides as one without that parameter,
and lets through whoever it would let through with any value in its place. The paths that lead to
roles supply the name of theirs, so what is told there is told to those who may read that name. -/
theorem a_gate_asks_about_what_the_path_supplies {service : Service} {request : Request}
    {principal : Principal} (hprincipal : request.credential.principal? = some (.ok principal)) :
    (∀ parameters configured, ∃ read, Gate.Reads parameters configured read) ∧
    (∀ verb resource name space parameters,
      (∀ asked inside, Gate.Reads parameters name asked → Gate.Reads parameters space inside →
        (service.Admits request (.action verb resource name space) parameters ↔
          ((service.permissionsOf principal).isAllowed ⟨verb, resource, asked, inside⟩).outcome =
            .ok true) ∧
        (service.Forbids request (.action verb resource name space) parameters ↔
          ((service.permissionsOf principal).isAllowed ⟨verb, resource, asked, inside⟩).outcome =
            .ok false)) ∧
      ∀ missing, parameters.lookup missing = none →
        (service.Admits request (.action verb resource (some missing) space) parameters ↔
          service.Admits request (.action verb resource none space) parameters) ∧
        (service.Admits request (.action verb resource name (some missing)) parameters ↔
          service.Admits request (.action verb resource name none) parameters) ∧
        ∀ value, service.Admits request (.action verb resource name space)
            ((missing, value) :: parameters) →
          service.Admits request (.action verb resource name space) parameters) ∧
    ∀ endpoint parameters, endpoint ∈ [Endpoint.role, .roleAudit] →
      Route.destination (Route.all service.settings.debug) request.method
        (Address.ofText request.address) = .endpoint endpoint parameters →
      ∃ name, Gate.Reads parameters (some Route.roleParameter) (some name) ∧
        ((service.answer request).response.status ∉ [403, 500] →
          (service.permissionsOf principal).MayRead name) := by
  refine ⟨?_, ?_, ?_⟩
  · intro parameters configured
    exact ⟨_, Gate.reads_parameter parameters configured⟩
  · intro verb resource name space parameters
    refine ⟨?_, ?_⟩
    · intro asked inside hname hspace
      exact ⟨Service.admits_iff hprincipal hname hspace, Service.forbids_iff hprincipal hname hspace⟩
    · intro missing hlacking
      refine ⟨?_, ?_, ?_⟩
      · apply Service.admits_congr hprincipal
        · exact Gate.reads_lacking_iff hlacking
        · exact fun _ => Iff.rfl
      · apply Service.admits_congr hprincipal
        · exact fun _ => Iff.rfl
        · exact Gate.reads_lacking_iff hlacking
      · intro value hadmits
        exact hadmits.of_cons hprincipal hlacking
  · intro endpoint parameters hendpoint hdestination
    exact Service.exists_reads_of_destination hprincipal hendpoint hdestination

end

/-- To launch at home from the templates of one family, and to read the own role. -/
def Role.homebody : Role where
  name := "homebody"
  rules := [
    { verbs := [.launch], resources := [.templates], patterns := ["^ubuntu-"]
      namespaces := ["home"] },
    { verbs := [.read], resources := [.roles], patterns := ["^homebody$"] }]

/-- Someone who is bound to that role. -/
def Principal.homebody : Principal := ⟨"ada", ["homebody"]⟩

/-- A service with that role alone. -/
def Service.withHomebody : Service := ⟨Roster.ofRoles [Role.homebody], {}, .info⟩

/-- They ask for their own role. -/
def Request.homebody : Request := .get .homebody "/api/roles/homebody"

theorem Request.principal?_homebody :
    homebody.credential.principal? = some (.ok .homebody) := rfl

/-- To launch from the template and in the namespace of the path. -/
def Gate.Demand.launch : Gate.Demand :=
  .action .launch .templates (some "template") (some "space")

/-- Who may launch from some templates in one namespace is let through on a path that lacks both
parameters, though there are templates that this gate forbids. -/
theorem a_path_without_its_parameters_opens_a_gate :
    Service.withHomebody.Forbids .homebody .launch [("template", "debian"), ("space", "home")] ∧
    Service.withHomebody.Admits .homebody .launch [] ∧
    ¬ ∀ parameters, Service.withHomebody.Admits .homebody .launch parameters →
      ∃ template space, parameters.lookup "template" = some template ∧
        parameters.lookup "space" = some space ∧
        ((Service.withHomebody.permissionsOf .homebody).isAllowed
          ⟨.launch, .templates, some template, some space⟩).outcome = .ok true := by
  have hforbids : Service.withHomebody.Forbids .homebody .launch
      [("template", "debian"), ("space", "home")] := by
    unfold Gate.Demand.launch
    rw [Service.forbids_iff Request.principal?_homebody (.supplied (by decide) rfl)
      (.supplied (by decide) rfl)]
    decide +kernel
  have hadmits : Service.withHomebody.Admits .homebody .launch [] := by
    unfold Gate.Demand.launch
    rw [Service.admits_iff Request.principal?_homebody (.lacking (by decide) rfl)
      (.lacking (by decide) rfl)]
    decide +kernel
  refine ⟨hforbids, hadmits, ?_⟩
  intro hclosed
  obtain ⟨template, -, hlookup, -⟩ := hclosed [] hadmits
  cases hlookup

theorem a_launch_at_home_passes_its_gate :
    Service.withHomebody.Admits .homebody .launch [("space", "home"), ("template", "ubuntu-x")] ∧
    Service.withHomebody.Forbids .homebody .launch [("space", "away"), ("template", "ubuntu-x")] ∧
    Service.withHomebody.Admits .homebody .launch [("template", "ubuntu-x")] ∧
    (Service.withHomebody.answer .homebody).response.status = 200 ∧
    (Service.withHomebody.permissionsOf .homebody).MayRead "homebody" := by
  obtain ⟨-, hgates, hroles⟩ :=
    @a_gate_asks_about_what_the_path_supplies _ Service.withHomebody _ _ Request.principal?_homebody
  have hasked : ∀ space, Gate.Reads [("space", space), ("template", "ubuntu-x")] (some "template")
      (some "ubuntu-x") := fun space => .supplied (by decide) rfl
  have hinside : ∀ space, Gate.Reads [("space", space), ("template", "ubuntu-x")] (some "space")
      (some space) := fun space => .supplied (by decide) rfl
  have hhome : Service.withHomebody.Admits .homebody .launch
      [("space", "home"), ("template", "ubuntu-x")] :=
    ((hgates _ _ _ _ _).1 _ _ (hasked "home") (hinside "home")).1.mpr (by decide +kernel)
  have haway : Service.withHomebody.Forbids .homebody .launch
      [("space", "away"), ("template", "ubuntu-x")] :=
    ((hgates _ _ _ _ _).1 _ _ (hasked "away") (hinside "away")).2.mpr (by decide +kernel)
  have hlacking := ((hgates _ _ _ _ [("template", "ubuntu-x")]).2 "space" rfl).2.2 "home" hhome
  have hpath : (Address.ofText "/api/roles/homebody").path = Route.rolePath "homebody" := by cbv
  have hgets : Request.homebody.Gets (Route.rolePath "homebody") := ⟨rfl, hpath⟩
  have hname : "homebody" ≠ "" := by decide
  have hslash : '/' ∉ "homebody".toList := by decide
  have hstatus : (Service.withHomebody.answer .homebody).response.status = 200 := by
    rw [hgets.role_response Request.principal?_homebody hname hslash,
      Service.told_of_readable (by decide +kernel) rfl]
    rfl
  have hfound := Route.endpoint?_role Service.withHomebody.settings.debug hname hslash
  rw [← hpath, ← hgets.method] at hfound
  obtain ⟨name, hreads, hmay⟩ := hroles _ _ (by decide) (Route.destination_of_endpoint? hfound)
  have hsame : some "homebody" = some name := Gate.reads_iff.mp hreads
  cases hsame
  exact ⟨hhome, haway, hlacking, hstatus, hmay (by rw [hstatus]; decide)⟩

end DesktopPolicy
