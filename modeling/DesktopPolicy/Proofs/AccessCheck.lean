-- The laws of access checks. The way from a request to a decision resolves the bound roles, unites
-- their rules and evaluates the union; what comes out is what some rule of some bound role permits
-- alone. So bindings to roles that are not there add nothing, and more bindings never take away.
import DesktopPolicy.Proofs.PatternRefusal

namespace DesktopPolicy

section

variable [Dialect]

/-! ## The pure model -/

/-- The action that is asked about. -/
def Inquiry.action (inquiry : Inquiry) : Action :=
  ⟨Verb.ofWord inquiry.verb, Resource.ofWord inquiry.resource, inquiry.name, inquiry.space⟩

/-- What is said by a text, or left out by null. -/
def Schema.said? : Value → Option (Option String)
  | .null => some none
  | v => (spelled? v).map some

/-- The fields of a body ask for this. Verb and resource type are texts that say something; name and
namespace are texts, or null, or absent. -/
structure Inquiry.Fits (inquiry : Inquiry) (fields : Schema.Fields) : Prop where
  verb : Schema.spelled? (field fields Action.verbField) = some inquiry.verb
  verb_ne : inquiry.verb ≠ ""
  resource : Schema.spelled? (field fields Action.resourceField) = some inquiry.resource
  resource_ne : inquiry.resource ≠ ""
  name : Schema.said? (field fields Action.nameField) = some inquiry.name
  space : Schema.said? (field fields Action.namespaceField) = some inquiry.space

/-- The request asks for a decision, with a body that can be read. -/
structure Request.Asks (request : Request) (inquiry : Inquiry) : Prop where
  method : request.method = "POST"
  path : (Address.ofText request.address).path = "/api/access/check"
  body : ∃ fields, Body.ofRequest request = .ok (.json (.map fields)) ∧ inquiry.Fits fields

/-- Some rule permits what is asked for, alone, in the last definition of a bound role. -/
def Role.Granted (roles : List Role) (bound : List String) (inquiry : Inquiry) : Prop :=
  ∃ name ∈ bound, ∃ role, lastNamed? roles name = some role ∧
    ∃ rule ∈ role.rules, rule.Permits inquiry

/-- The response that holds a decision. -/
def Service.decision (allowed : Bool) : Response := .found (fields [("allowed", .bool allowed)])

omit [Dialect] in
theorem Service.decision_inj {a b : Bool} (h : decision a = decision b) : a = b := by
  simpa [decision, Response.found, fields] using h

end

/-! ## Bodies -/

theorem Inquiry.inquiry_action (inquiry : Inquiry) : inquiry.action.inquiry = inquiry := by
  simp [Inquiry.action, Action.inquiry, Verb.word_ofWord, Resource.word_ofWord]

theorem Schema.within_eq_ok_iff {α : Type} {part : PathPart} {checked : Checked α} {a : α} :
    within part checked = .ok a ↔ checked = .ok a := by
  unfold within
  rcases checked with issues | found <;> simp [Except.mapError]

theorem Schema.both_eq_ok_iff {α β : Type} {f : Checked (α → β)} {checked : Checked α} {b : β} :
    both f checked = .ok b ↔ ∃ g a, f = .ok g ∧ checked = .ok a ∧ g a = b := by
  unfold both
  rcases f with issues | g <;> rcases checked with more | a <;> simp

theorem Schema.text_eq_ok_iff {v : Value} {s : String} : text v = .ok s ↔ spelled? v = some s := by
  unfold text
  split <;> simp_all [reject]

theorem Schema.filledText_eq_ok_iff {v : Value} {s : String} :
    filledText v = .ok s ↔ spelled? v = some s ∧ s ≠ "" := by
  rw [filledText, ← text_eq_ok_iff]
  rcases text v with issues | found
  · simp [Except.bind]
  · by_cases hfound : found = ""
    · simp +contextual [Except.bind, reject, hfound]
    · have hne : found = s → ¬ s = "" := fun heq => heq ▸ hfound
      simpa [Except.bind, hfound] using hne

theorem Schema.textOrNull_eq_ok_iff {v : Value} {text : Option String} :
    textOrNull v = .ok text ↔ said? v = some text := by
  unfold textOrNull
  split
  · simp [said?]
  · rename_i hnull
    rw [said?.eq_2 v hnull, Option.map_eq_some_iff]
    simp only [← text_eq_ok_iff]
    rcases Schema.text v with issues | s <;> simp [Except.map]

theorem Schema.required_filledText_iff {fields : Fields} {name text : String} :
    required fields name filledText = .ok text ↔
      spelled? (field fields name) = some text ∧ text ≠ "" := by
  rw [required, within_eq_ok_iff, field]
  rcases lookup fields (.text name) with _ | v
  · simp [reject, spelled?]
  · exact filledText_eq_ok_iff

theorem Schema.optional_textOrNull_iff {fields : Fields} {name : String} {text : Option String} :
    optional fields name none textOrNull = .ok text ↔ said? (field fields name) = some text := by
  unfold optional field
  rcases lookup fields (.text name) with _ | v
  · simp [said?]
  · rw [within_eq_ok_iff, textOrNull_eq_ok_iff, Option.getD_some]

/-- A body is read as an action exactly when it asks for something, and as what it asks for. -/
theorem Inquiry.read_iff {fields : Schema.Fields} {action : Action} :
    Action.ofDocumentFields fields = .ok action ↔
      ∃ inquiry : Inquiry, inquiry.Fits fields ∧ inquiry.action = action := by
  constructor
  · intro h
    simp only [Action.ofDocumentFields, Schema.both_eq_ok_iff] at h
    obtain ⟨_, space, ⟨_, name, ⟨_, resource, hverb, hresource, rfl⟩, hname, rfl⟩, hspace, rfl⟩ := h
    rcases hv : Schema.required fields Action.verbField Schema.filledText with issues | verb
    · rw [hv] at hverb
      cases hverb
    · rw [hv] at hverb
      cases hverb
      obtain ⟨hlookup, hne⟩ := Schema.required_filledText_iff.mp hv
      obtain ⟨hlookup', hne'⟩ := Schema.required_filledText_iff.mp hresource
      refine ⟨⟨verb, resource, name, space⟩, ⟨hlookup, hne, hlookup', hne', ?_, ?_⟩, rfl⟩
      · exact Schema.optional_textOrNull_iff.mp hname
      · exact Schema.optional_textOrNull_iff.mp hspace
  · rintro ⟨inquiry, h, rfl⟩
    unfold Action.ofDocumentFields
    rw [Schema.required_filledText_iff.mpr ⟨h.verb, h.verb_ne⟩,
      Schema.required_filledText_iff.mpr ⟨h.resource, h.resource_ne⟩,
      Schema.optional_textOrNull_iff.mpr h.name, Schema.optional_textOrNull_iff.mpr h.space]
    rfl

/-- What is read as an action is a document of fields that asks for something. -/
theorem Body.read_iff {body : Body} {action : Action} :
    body.fields.bind Action.ofDocumentFields = .ok action ↔
      ∃ fields inquiry, body = .json (.map fields) ∧ Inquiry.Fits inquiry fields ∧
        inquiry.action = action := by
  constructor
  · intro h
    cases body with
    | absent => cases h
    | other content => cases h
    | json v =>
      cases v with
      | map fields =>
        obtain ⟨inquiry, hfits, rfl⟩ := Inquiry.read_iff.mp h
        exact ⟨fields, inquiry, rfl, hfits, rfl⟩
      | _ => cases h
  · rintro ⟨fields, inquiry, rfl, hfits, rfl⟩
    exact Inquiry.read_iff.mpr ⟨inquiry, hfits, rfl⟩

theorem Body.status_of_error_ofText {framework : Framework} {text : String} {response : Response}
    (h : ofText framework text = .error response) :
    response.status = 400 ∨ response.status = 422 := by
  unfold ofText at h
  split at h
  · cases h
  · cases h
    exact .inl rfl
  · cases h
    exact .inr rfl

/-- A body that cannot be read is refused. -/
theorem Body.status_of_error {request : Request} {response : Response}
    (h : ofRequest request = .error response) :
    response.status = 400 ∨ response.status = 422 := by
  unfold ofRequest at h
  split at h
  · cases h
  · split at h
    · cases h
    · split at h
      · cases h
        exact .inl rfl
      · exact status_of_error_ofText h

section

variable [Dialect]

/-! ## The way to a decision -/

omit [Dialect] in
theorem Route.destination_check (debug : Bool) {address : Address}
    (h : address.path = "/api/access/check") :
    destination (all debug) "POST" address = .endpoint .check [] := by
  have hfirst : endpoint? (all debug) "POST" "/api/access/check" = some (.check, []) := by
    cases debug <;> cbv
  rw [destination, h, hfirst]

/-- The decision is the answer of the permissions; where they have none, the service fails. -/
theorem Service.check_response {service : Service} {request : Request} {principal : Principal}
    {inquiry : Inquiry} (hprincipal : request.credential.principal? = some (.ok principal))
    (hasks : request.Asks inquiry) :
    (service.answer request).response =
      match ((service.permissionsOf principal).isAllowed inquiry.action).outcome with
      | .ok allowed => decision allowed
      | .error _ => .failure := by
  obtain ⟨fields, hbody, hfits⟩ := hasks.body
  have hdestination := Route.destination_check service.settings.debug hasks.path
  rw [← hasks.method] at hdestination
  have hread := Body.read_iff.mpr ⟨fields, inquiry, rfl, hfits, rfl⟩
  rw [response_of_endpoint hdestination, ask, check, hbody]
  simp only
  rw [decide, settle_of_ok _ (service.asked_outcome hprincipal), hread]
  rcases ho : ((service.permissionsOf principal).isAllowed inquiry.action).outcome
    with refusal | allowed
  · simp only
    rw [settle_of_error _ (Gate.tried_of_error ho)]
    rfl
  · simp only
    rw [settle_of_ok _ (Gate.tried_of_ok ho)]
    rfl

omit [Dialect] in
/-- Names without a role leave no trace among the resolved roles. -/
theorem Roster.resolve_filter (roster : Roster) (names : List String) :
    roster.resolve (names.filter fun name => (roster.get? name).isSome) = roster.resolve names := by
  rw [resolve, resolve, List.filterMap_filter]
  apply List.filterMap_congr
  intro name _
  cases roster.get? name <;> simp

theorem Service.decision_of_status {service : Service} {request : Request} {principal : Principal}
    {inquiry : Inquiry} (hprincipal : request.credential.principal? = some (.ok principal))
    (hasks : request.Asks inquiry) (hstatus : (service.answer request).response.status = 200) :
    ∃ allowed, (service.answer request).response = decision allowed := by
  rw [Service.check_response hprincipal hasks] at hstatus ⊢
  rcases ho : ((service.permissionsOf principal).isAllowed inquiry.action).outcome
    with refusal | allowed
  · rw [ho] at hstatus
    cases hstatus
  · exact ⟨allowed, rfl⟩

/-- The roles that are resolved are the last definitions of the bound names. -/
theorem Role.granted_iff (roles : List Role) (bound : List String) (inquiry : Inquiry) :
    Granted roles bound inquiry ↔
      ∃ role ∈ (Roster.ofRoles roles).resolve bound, ∃ rule ∈ role.rules, rule.Permits inquiry := by
  simp only [Roster.mem_resolve, Roster.get?_ofRoles, Granted]
  constructor
  · rintro ⟨name, hname, role, hrole, hrule⟩
    exact ⟨role, ⟨name, hname, hrole⟩, hrule⟩
  · rintro ⟨role, ⟨name, hname, hrole⟩, hrule⟩
    exact ⟨name, hname, role, hrole, hrule⟩

theorem Service.decision_iff {roles : List Role} {service : Service} {request : Request}
    {principal : Principal} {inquiry : Inquiry} {allowed : Bool}
    (hroster : service.roster = Roster.ofRoles roles)
    (hprincipal : request.credential.principal? = some (.ok principal))
    (hasks : request.Asks inquiry) (h : (service.answer request).response = decision allowed) :
    allowed = true ↔ Role.Granted roles principal.roles inquiry := by
  rw [Service.check_response hprincipal hasks] at h
  rcases ho : ((service.permissionsOf principal).isAllowed inquiry.action).outcome
    with refusal | answered
  · rw [ho] at h
    cases h
  · rw [ho] at h
    rw [← decision_inj h, Permissions.isAllowed_iff ho, hroster, inquiry.inquiry_action,
      Role.granted_iff]

theorem Role.Granted.mono {roles : List Role} {bound more : List String} {inquiry : Inquiry}
    (h : Granted roles bound inquiry) (hsub : ∀ name ∈ bound, name ∈ more) :
    Granted roles more inquiry := by
  obtain ⟨name, hname, hrole⟩ := h
  exact ⟨name, hsub name hname, hrole⟩

/-! ## The laws -/

/-- Whatever is answered with status 200 on the path of decisions was asked in one of the ways that
there are to ask. -/
theorem Service.asks_of_status {service : Service} {request : Request}
    {principal : Principal} (hprincipal : request.credential.principal? = some (.ok principal))
    (hmethod : request.method = "POST")
    (hpath : (Address.ofText request.address).path = "/api/access/check")
    (hstatus : (service.answer request).response.status = 200) :
    ∃ inquiry, request.Asks inquiry := by
  have hdestination := Route.destination_check service.settings.debug hpath
  rw [← hmethod] at hdestination
  rw [Service.response_of_endpoint hdestination, Service.ask, Service.check] at hstatus
  rcases hbody : Body.ofRequest request with response | body
  · have hrefused := Body.status_of_error hbody
    rw [hbody] at hstatus
    have hfound : response.status = 200 := hstatus
    omega
  · simp only [hbody] at hstatus
    rw [Service.decide, Service.settle_of_ok _ (service.asked_outcome hprincipal)] at hstatus
    rcases hread : body.fields.bind Action.ofDocumentFields with issues | action
    · rw [hread] at hstatus
      have hrefused : (body.refusal issues).status = 200 := hstatus
      rw [Body.status_refusal] at hrefused
      split at hrefused <;> cases hrefused
    · obtain ⟨fields, inquiry, rfl, hfits, -⟩ := Body.read_iff.mp hread
      exact ⟨inquiry, hmethod, hpath, fields, hbody, hfits⟩

/-- Whatever gets status 200 on the path of decisions has asked for one, and has got one. It allows
the action exactly when one rule permits it alone, in the last definition of a role that is bound.
More bindings, in any order and as often as one likes, never turn an allowed action into a denied
one, and bindings without a role add nothing. -/
theorem an_action_is_allowed_exactly_when_one_rule_permits_it {roles : List Role}
    {settings : Settings} {place : Service.Place} {service : Service}
    {request : Request} {principal : Principal} {inquiry : Inquiry}
    (hstart : (Service.start (some roles) settings place).outcome = .ok service)
    (hprincipal : request.credential.principal? = some (.ok principal))
    (hasks : request.Asks inquiry) :
    (∀ (other : Request) (theirs : Principal),
      other.credential.principal? = some (.ok theirs) → other.method = "POST" →
      (Address.ofText other.address).path = "/api/access/check" →
      (service.answer other).response.status = 200 → ∃ asked, other.Asks asked) ∧
    ((service.answer request).response.status = 200 →
      ∃ allowed, (service.answer request).response = Service.decision allowed ∧
        (allowed = true ↔ Role.Granted roles principal.roles inquiry)) ∧
    ∀ (other : Request) (theirs : Principal),
      other.credential.principal? = some (.ok theirs) → other.Asks inquiry →
        ((∀ name ∈ principal.roles, name ∈ theirs.roles) →
          (service.answer request).response = Service.decision true →
            (service.answer other).response ≠ Service.decision false) ∧
        (theirs.roles.filter (fun name => (Role.lastNamed? roles name).isSome) =
            principal.roles.filter (fun name => (Role.lastNamed? roles name).isSome) →
          (service.answer other).response = (service.answer request).response) := by
  have hroster := (Service.serves_of_start hstart).roster
  refine ⟨?_, ?_, ?_⟩
  · intro other theirs htheirs hmethod hpath hstatus
    exact Service.asks_of_status htheirs hmethod hpath hstatus
  · intro hstatus
    obtain ⟨allowed, hallowed⟩ := Service.decision_of_status hprincipal hasks hstatus
    exact ⟨allowed, hallowed, Service.decision_iff hroster hprincipal hasks hallowed⟩
  intro other theirs htheirs hother
  refine ⟨?_, ?_⟩
  · intro hsub htrue hfalse
    have hgranted := (Service.decision_iff hroster hprincipal hasks htrue).mp rfl
    have hmore := (Service.decision_iff hroster htheirs hother hfalse).mpr (hgranted.mono hsub)
    cases hmore
  · intro hsame
    have hresolve : service.roster.resolve theirs.roles =
        service.roster.resolve principal.roles := by
      rw [← Roster.resolve_filter, ← Roster.resolve_filter _ principal.roles, hroster]
      simp only [Roster.get?_ofRoles, hsame]
    rw [Service.check_response htheirs hother, Service.check_response hprincipal hasks,
      Service.permissionsOf, Service.permissionsOf, hresolve]

end

/-! ## A check of a role that was defined twice -/

/-- Two definitions of one name. Only the last permits to read, in spite of its first pattern. -/
def Role.redefined : List Role := [
  { name := "reader", rules := [{ verbs := [.create], resources := [.all] }] },
  { name := "reader"
    rules := [{}, { verbs := [.read], resources := [.roles], patterns := ["(", "^a"] }] }]

/-- Someone who is bound to that name, and to one that is not there, asks whether they may read. -/
def Request.redefinedCheck : Request where
  method := "POST"
  address := "/api/access/check"
  credential := .principal ⟨"ada", ["gone", "reader"]⟩
  body := Text.utf8 "\x7b\"verb\":\"read\",\"resource\":\"roles\",\"name\":\"ab\"\x7d"

/-- What they ask. -/
def Inquiry.redefinedCheck : Inquiry := ⟨"read", "roles", some "ab", none⟩

theorem Inquiry.fits_redefinedCheck : redefinedCheck.Fits [(.text "verb", .text "read"),
    (.text "resource", .text "roles"), (.text "name", .text "ab")] :=
  ⟨by cbv, by decide, by cbv, by decide, by cbv, by cbv⟩

theorem Request.asks_redefinedCheck : redefinedCheck.Asks Inquiry.redefinedCheck := by
  have hread : Json.read "\x7b\"verb\":\"read\",\"resource\":\"roles\",\"name\":\"ab\"\x7d" =
      .ok (.map [(.text "verb", .text "read"), (.text "resource", .text "roles"),
        (.text "name", .text "ab")]) := by cbv
  have hbody := @Body.ofRequest_of_utf8 redefinedCheck _ rfl (by decide) (by decide)
    (Body.isJson_of_isJsonType (by cbv))
  refine ⟨rfl, by cbv, _, ?_, Inquiry.fits_redefinedCheck⟩
  rw [hbody, Body.ofText, hread]
  rfl

theorem the_last_definition_of_a_role_is_asked :
    ∃ service, (Service.start (some Role.redefined) {}).outcome = .ok service ∧
      (service.answer Request.redefinedCheck).response.status = 200 ∧
      ∃ allowed, (service.answer Request.redefinedCheck).response = Service.decision allowed ∧
        (allowed = true ↔
          Role.Granted Role.redefined ["gone", "reader"] Inquiry.redefinedCheck) := by
  have hsound : ∀ role ∈ Role.redefined, role.IsSound := by decide +kernel
  obtain ⟨service, hstart⟩ :=
    (Service.start_ok_iff _ {} Settings.letStart_default).mpr hsound
  have hserves := Service.serves_of_start hstart
  have hallowed : ((service.permissionsOf ⟨"ada", ["gone", "reader"]⟩).isAllowed
      Inquiry.redefinedCheck.action).outcome = .ok true := by
    rw [Service.permissionsOf, hserves.roster, hserves.settings]
    decide +kernel
  have hstatus : (service.answer Request.redefinedCheck).response.status = 200 := by
    rw [Service.check_response rfl Request.asks_redefinedCheck, hallowed]
    rfl
  exact ⟨service, hstart, hstatus,
    (an_action_is_allowed_exactly_when_one_rule_permits_it hstart rfl
      Request.asks_redefinedCheck).2.1 hstatus⟩

end DesktopPolicy
