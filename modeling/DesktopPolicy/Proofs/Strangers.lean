-- The laws of strangers: of requests with nobody behind them who is believed. What they are answered
-- depends on the request and the settings, and not on the roles that are served; and whatever has to
-- do with roles ends at the first gate.
import DesktopPolicy.Proofs.JsonGrammar
import DesktopPolicy.Proofs.ReadingRoles

namespace DesktopPolicy

section

variable [Dialect]

/-! ## The pure model -/

/-- Nobody is said to ask, or what is said about them has not the form of a principal. -/
def Request.IsAnonymous (request : Request) : Prop :=
  ∀ principal, request.credential.principal? ≠ some (.ok principal)

/-- The answer at the first gate. -/
def Response.unauthenticated : Response := detail 401 "Authentication required"

omit [Dialect] in
@[simp]
theorem Response.status_unauthenticated : unauthenticated.status = 401 := rfl

/-- The paths behind the gates from which something can be got. -/
inductive Route.IsGuardedPath : String → Prop
  | grants : IsGuardedPath "/api/access/grants"
  | roles : IsGuardedPath "/api/roles"
  | role {name : String} : name ≠ "" → '/' ∉ name.toList → IsGuardedPath (rolePath name)
  | roleAudit {name : String} : name ≠ "" → '/' ∉ name.toList → IsGuardedPath (roleAuditPath name)

/-- What an endpoint answers a stranger. The body of a check is read before anyone is asked for. -/
def Endpoint.answerToStranger (endpoint : Endpoint) (request : Request) : Response :=
  match endpoint with
  | .health => Service.health
  | .description => ⟨200, .nothing, none⟩
  | .page => ⟨200, .nothing, none⟩
  | .check =>
    match Body.ofRequest request with
    | .error response => response
    | .ok _ => .unauthenticated
  | .grants => .unauthenticated
  | .roles => .unauthenticated
  | .role => .unauthenticated
  | .roleAudit => .unauthenticated

/-- The endpoints that anyone may ask. -/
def Endpoint.unguarded : List Endpoint := [.health, .description, .page]

/-- What a request is answered that comes from a stranger. No roles are named in this. -/
def Request.answerToStranger (request : Request) (debug : Bool) : Response :=
  match Route.destination (Route.all debug) request.method (Address.ofText request.address) with
  | .endpoint endpoint _ => endpoint.answerToStranger request
  | .otherMethod => .detail 405 "Method Not Allowed"
  | .withoutSlashes address =>
    { status := 307, location := some (address.located Service.host) }
  | .nowhere => .detail 404 "Not Found"

/-! ## The first gate -/

omit [Dialect] in
theorem Gate.authenticate_of_isAnonymous {request : Request} (h : request.IsAnonymous) :
    (authenticate request.credential).outcome = .error (.denied .unauthenticated) := by
  unfold authenticate
  rcases hprincipal : request.credential.principal? with _ | issues | principal
  · rfl
  · rfl
  · exact absurd hprincipal (h principal)

namespace Service

section

variable {service : Service} {request : Request}

omit [Dialect] in
theorem settle_asked (h : request.IsAnonymous) (f : Principal × Permissions → Passage Response) :
    settle ((service.asked request).next f) = .unauthenticated := by
  have hasked : (service.asked request).outcome = .error (.denied .unauthenticated) :=
    Noted.next_of_error _ (Gate.authenticate_of_isAnonymous h)
  rw [settle_of_error f hasked]
  rfl

theorem settle_passed (h : request.IsAnonymous) (demand : Gate.Demand)
    (parameters : List (String × String)) (f : Permissions → Passage Response) :
    settle ((Gate.pass service.roster service.settings.skipEmptyRules demand parameters
      request.credential).next f) = .unauthenticated := by
  have hpass : (Gate.pass service.roster service.settings.skipEmptyRules demand parameters
      request.credential).outcome = .error (.denied .unauthenticated) :=
    Noted.next_of_error _ (Gate.authenticate_of_isAnonymous h)
  rw [settle_of_error f hpass]
  rfl

/-- Behind every endpoint that is not open stands the first gate. -/
theorem settle_ask (h : request.IsAnonymous) (endpoint : Endpoint)
    (parameters : List (String × String)) :
    settle (service.ask endpoint parameters request) = endpoint.answerToStranger request := by
  cases endpoint with
  | grants => exact settle_asked h _
  | check =>
    rw [ask, check, Endpoint.answerToStranger]
    rcases Body.ofRequest request with response | body
    · rfl
    · exact settle_asked h _
  | roles => exact settle_passed h _ _ _
  | role => exact settle_passed h _ _ _
  | roleAudit => exact settle_passed h _ _ _
  | health => rfl
  | description => rfl
  | page => rfl

theorem response_of_isAnonymous (h : request.IsAnonymous) :
    (service.answer request).response = request.answerToStranger service.settings.debug := by
  unfold answer Request.answerToStranger
  simp only
  rcases Route.destination (Route.all service.settings.debug) request.method
    (Address.ofText request.address) with ⟨endpoint, parameters⟩ | _ | address | _
  · exact settle_ask h endpoint parameters
  · rfl
  · rfl
  · rfl

end

end Service

end

/-! ## Paths -/

namespace Route

/-- An endpoint is reached along one of the routes. -/
theorem exists_route {routes : List Route} {method : String} {address : Address}
    {endpoint : Endpoint} {parameters : List (String × String)}
    (h : destination routes method address = .endpoint endpoint parameters) :
    ∃ route ∈ routes, route.endpoint = endpoint ∧
      route.parameters? address.path = some parameters := by
  unfold destination at h
  rcases hfound : endpoint? routes method address.path with _ | ⟨found, theirs⟩
  · rw [hfound] at h
    simp only at h
    split at h
    · cases h
    · split at h
      · cases h
      · cases h
  · rw [hfound] at h
    cases h
    obtain ⟨route, hroute, hparameters⟩ := List.exists_of_findSome?_eq_some hfound
    split at hparameters
    · obtain ⟨given, hgiven, hsame⟩ := Option.map_eq_some_iff.mp hparameters
      cases hsame
      exact ⟨route, hroute, rfl, hgiven⟩
    · cases hparameters

/-- The first step of a path starts as the path does behind its slash. -/
theorem head?_of_steps {path : String} {c : Char} {rest : List Char} {parts : List String}
    (hpath : path.toList = '/' :: c :: rest) (hc : c ≠ '/') (h : steps path = some parts) :
    ∃ first later, parts = first :: later ∧ first.toList.head? = some c := by
  obtain ⟨step, later, hsplit⟩ := List.exists_cons_of_ne_nil (List.splitOnP_ne_nil (· == '/') rest)
  have hsteps : path.toList.splitOn '/' = [] :: (c :: step) :: later := by
    rw [hpath, List.splitOn, List.splitOnP_cons_eq_if_modifyHead, if_pos (by simp),
      List.splitOnP_cons_eq_if_modifyHead, if_neg (by simpa using hc), hsplit]
    rfl
  rw [steps, hsteps] at h
  cases h
  exact ⟨_, _, rfl, by simp⟩

theorem first_of_bind {word first : String} {segments : List Segment} {parts : List String}
    {parameters : List (String × String)}
    (h : bind (.fixed word :: segments) (first :: parts) = some parameters) :
    first = word ∨ first = word ++ "\n" := by
  rcases segments with _ | ⟨next, segments⟩ <;> rcases parts with _ | ⟨second, parts⟩
  · simp only [bind, Option.ite_none_right_eq_some, Bool.or_eq_true, beq_iff_eq] at h
    exact h.1
  all_goals
    simp only [bind, Option.ite_none_right_eq_some, beq_iff_eq] at h
    exact .inl h.1

/-- The routes to what anyone may ask for, by their first steps. -/
theorem segments_of_unguarded (debug : Bool) :
    ∀ route ∈ all debug, route.endpoint ∈ Endpoint.unguarded →
      ∃ word ∈ ["openapi.json", "docs", "redoc", "health"],
        route.segments.head? = some (.fixed word) := by
  cases debug <;> decide

/-- What anyone may ask for is not found behind the prefix of the guarded paths. -/
theorem guarded_of_destination {debug : Bool} {method : String} {address : Address}
    {endpoint : Endpoint} {parameters : List (String × String)}
    (hpath : "/api".toList <+: address.path.toList)
    (h : destination (all debug) method address = .endpoint endpoint parameters) :
    endpoint ∉ Endpoint.unguarded := by
  obtain ⟨route, hroute, rfl, hparameters⟩ := exists_route h
  obtain ⟨rest, hrest⟩ := hpath
  obtain ⟨parts, hsteps, hbind⟩ := Option.bind_eq_some_iff.mp hparameters
  obtain ⟨first, later, rfl, hfirst⟩ := head?_of_steps hrest.symm (by decide) hsteps
  intro hunguarded
  obtain ⟨word, hword, hsegments⟩ := segments_of_unguarded debug route hroute hunguarded
  obtain ⟨segments, hsegments⟩ := List.head?_eq_some_iff.mp hsegments
  rw [hsegments] at hbind
  -- the first step starts with an a, and none of the words does
  simp only [List.mem_cons, List.not_mem_nil, or_false] at hword
  rcases hword with rfl | rfl | rfl | rfl <;> rcases first_of_bind hbind with rfl | rfl <;>
    exact absurd hfirst (by decide)

theorem endpoint?_grants (debug : Bool) :
    endpoint? (all debug) "GET" "/api/access/grants" = some (.grants, []) := by
  cases debug <;> cbv

theorem endpoint?_guarded (debug : Bool) {path : String} (h : IsGuardedPath path) :
    ∃ found, endpoint? (all debug) "GET" path = some found ∧
      found.1 ∈ [Endpoint.grants, .roles, .role, .roleAudit] := by
  cases h with
  | grants => exact ⟨_, endpoint?_grants debug, by decide⟩
  | roles => exact ⟨_, endpoint?_roles debug, by decide⟩
  | role hname hslash => exact ⟨_, endpoint?_role debug hname hslash, by simp⟩
  | roleAudit hname hslash => exact ⟨_, endpoint?_roleAudit debug hname hslash, by simp⟩

end Route

theorem Request.answerToStranger_check {request : Request} (debug : Bool)
    (hmethod : request.method = "POST")
    (hpath : (Address.ofText request.address).path = "/api/access/check") :
    request.answerToStranger debug = Endpoint.check.answerToStranger request := by
  have hdestination := Route.destination_check debug hpath
  rw [← hmethod] at hdestination
  rw [answerToStranger, hdestination]

/-! ## Bodies -/

namespace Body

/-- A grammatical text that is sent as JSON is read as such. -/
theorem ofRequest_of_isText {request : Request} {text : String} {most : Nat}
    (hbody : request.body = Text.utf8 text) (h : Json.IsText most text.toList)
    (hjson : isJson request = true) : ofRequest request = ofText request.framework text := by
  obtain ⟨hne, hhead⟩ := h.head?_ne
  refine ofRequest_of_utf8 hbody ?_ hhead hjson
  rintro rfl
  exact hne rfl

theorem exists_ofRequest {request : Request} {text : String}
    (hbody : request.body = Text.utf8 text) (h : Json.IsText Json.mostDigits text.toList) :
    ∃ body, ofRequest request = .ok body := by
  cases hjson : isJson request with
  | false =>
    unfold ofRequest
    rw [hjson]
    split
    · exact ⟨_, rfl⟩
    · exact ⟨_, rfl⟩
  | true =>
    obtain ⟨v, hread⟩ := Json.read_of_isText h
    rw [ofRequest_of_isText hbody h hjson, ofText, hread]
    exact ⟨_, rfl⟩

/-- A body that is one whole number with more digits than can be read. -/
theorem ofRequest_of_tooLong {request : Request} {text : String}
    (hbody : request.body = Text.utf8 text) (htype : isJsonType request.contentType = true)
    (h : Json.IsWhole text.toList) (hlong : Json.mostDigits < text.toList.length) :
    ofRequest request = .error unread := by
  rw [ofRequest_of_isText hbody (h.isText le_rfl) (isJson_of_isJsonType htype), ofText,
    Json.read_tooLong h hlong]

end Body

/-! ## Statuses -/

theorem Endpoint.status_answerToStranger {endpoint : Endpoint} (h : endpoint ∉ unguarded)
    (request : Request) : (endpoint.answerToStranger request).status ∈ [400, 401, 422] := by
  cases endpoint with
  | check =>
    rw [answerToStranger]
    rcases hbody : Body.ofRequest request with response | body
    · rcases Body.status_of_error hbody with hstatus | hstatus <;> simp [hstatus]
    · simp
  | health => exact absurd h (by decide)
  | description => exact absurd h (by decide)
  | page => exact absurd h (by decide)
  | _ => simp [answerToStranger]

theorem Request.status_answerToStranger {request : Request} (debug : Bool)
    (hpath : "/api".toList <+: (Address.ofText request.address).path.toList) :
    (request.answerToStranger debug).status ∈ [307, 400, 401, 404, 405, 422] := by
  unfold answerToStranger
  rcases hdestination : Route.destination (Route.all debug) request.method
    (Address.ofText request.address) with ⟨endpoint, parameters⟩ | _ | address | _
  · have hguarded := Route.guarded_of_destination hpath hdestination
    have hstatus := endpoint.status_answerToStranger hguarded request
    simp only [List.mem_cons, List.not_mem_nil, or_false] at hstatus ⊢
    tauto
  · simp [Response.detail]
  · simp
  · simp [Response.detail]

section

variable [Dialect]

/-! ## The laws -/

/-- What a stranger is answered does not depend on the roles that are served. Behind the prefix of the
guarded paths nothing is found and nothing fails, nor is anyone told that they lack a permission:
who asks for something there, or asks a question that can be read, is told to say who they are. -/
theorem a_stranger_learns_nothing_about_roles {service : Service} {request : Request}
    (h : request.IsAnonymous) :
    (∀ other : Service, other.settings = service.settings →
      (other.answer request).response = (service.answer request).response) ∧
    ("/api".toList <+: (Address.ofText request.address).path.toList →
      ¬ (200 ≤ (service.answer request).response.status ∧
          (service.answer request).response.status < 300) ∧
        (service.answer request).response.status ≠ 403 ∧
        (service.answer request).response.status ≠ 500) ∧
    (∀ path, Route.IsGuardedPath path → request.Gets path →
      (service.answer request).response = .unauthenticated) ∧
    ∀ text, request.method = "POST" →
      (Address.ofText request.address).path = "/api/access/check" →
      request.body = Text.utf8 text → Json.IsText Json.mostDigits text.toList →
      (service.answer request).response = .unauthenticated := by
  rw [Service.response_of_isAnonymous h]
  refine ⟨?_, ?_, ?_, ?_⟩
  · intro other hsettings
    rw [Service.response_of_isAnonymous h, hsettings]
  · intro hpath
    have hstatus := Request.status_answerToStranger service.settings.debug hpath
    simp only [List.mem_cons, List.not_mem_nil, or_false] at hstatus
    omega
  · intro path hguarded hgets
    obtain ⟨found, hfound, hendpoint⟩ := Route.endpoint?_guarded service.settings.debug hguarded
    rw [← hgets.path, ← hgets.method] at hfound
    rw [Request.answerToStranger, Route.destination_of_endpoint? hfound]
    simp only [List.mem_cons, List.not_mem_nil, or_false] at hendpoint
    simp only
    rcases hendpoint with he | he | he | he <;> rw [he] <;> rfl
  · intro text hmethod hpath hbody htext
    obtain ⟨body, hread⟩ := Body.exists_ofRequest hbody htext
    rw [Request.answerToStranger_check _ hmethod hpath, Endpoint.answerToStranger, hread]

end

/-- Someone whose roles are told by number asks for the vault. -/
def Request.strangerForVault : Request where
  method := "GET"
  address := "/api/roles/vault"
  credential := .value (.map [(.text "name", .text "ada"), (.text "roles", .list [.int 1])])

/-- They ask for a decision, with a body that asks for nothing. -/
def Request.strangerCheck : Request where
  method := "POST"
  address := "/api/access/check"
  credential := Request.strangerForVault.credential
  body := Text.utf8 " [] "

theorem roles_told_by_number_open_no_vault :
    Request.strangerForVault.IsAnonymous ∧
    ((Service.withVault Grants.empty).answer Request.strangerForVault).response =
      ((Service.withVault Grants.all).answer Request.strangerForVault).response ∧
    ((Service.withVault Grants.all).answer Request.strangerForVault).response.status ≠ 403 ∧
    ((Service.withVault Grants.all).answer Request.strangerForVault).response = .unauthenticated ∧
    ((Service.withVault Grants.all).answer Request.strangerCheck).response = .unauthenticated := by
  have hvault : Request.strangerForVault.IsAnonymous := by
    rintro principal ⟨⟩
  have hcheck : Request.strangerCheck.IsAnonymous := by
    rintro principal ⟨⟩
  have hpath : (Address.ofText "/api/roles/vault").path = "/api/roles/vault" := by cbv
  have hdecisions : (Address.ofText "/api/access/check").path = "/api/access/check" := by cbv
  have hblank : Json.IsSpaces [' '] := List.forall_mem_singleton.mpr (by decide)
  have hlist : Json.IsElement Json.mostDigits ([' '] ++ (('[' :: ([] ++ [']'])) ++ [' '])) :=
    .around hblank (.emptyList (List.forall_mem_nil _)) hblank
  have hbody : " [] ".toList = [' '] ++ (('[' :: ([] ++ [']'])) ++ [' ']) := by decide
  have htext : Json.IsText Json.mostDigits " [] ".toList := by
    rw [hbody]
    exact hlist
  obtain ⟨hsame, hstatus, hgot, -⟩ :=
    @a_stranger_learns_nothing_about_roles _ (.withVault Grants.all) _ hvault
  obtain ⟨-, -, -, hasked⟩ :=
    @a_stranger_learns_nothing_about_roles _ (.withVault Grants.all) _ hcheck
  refine ⟨hvault, hsame _ rfl, ?_, ?_, ?_⟩
  · refine (hstatus ?_).2.1
    rw [Request.strangerForVault, hpath]
    decide
  · refine hgot (Route.rolePath "vault") (.role (by decide) (by decide)) ⟨rfl, ?_⟩
    rw [Request.strangerForVault, hpath]
    decide
  · exact hasked _ rfl hdecisions rfl htext

/-- A whole number with one digit too many. -/
def Json.longNumber : String := String.ofList (List.replicate (Json.mostDigits + 1) '1')

theorem Json.isWhole_longNumber : IsWhole longNumber.toList := by
  rw [longNumber, String.toList_ofList, List.replicate_succ]
  refine .digits (by decide) (by decide) ?_
  intro c hc
  rw [List.eq_of_mem_replicate hc]
  decide

theorem Json.length_longNumber : longNumber.toList.length = mostDigits + 1 := by
  rw [longNumber, String.toList_ofList, List.length_replicate]

/-- Nobody asks for a decision, with that number as the body. -/
def Request.longCheck : Request where
  method := "POST"
  address := "/api/access/check"
  credential := .absent
  body := Text.utf8 Json.longNumber

theorem Service.response_of_tooLong {service : Service} {request : Request}
    (h : request.IsAnonymous) (hmethod : request.method = "POST")
    (hpath : (Address.ofText request.address).path = "/api/access/check") {text : String}
    (hbody : request.body = Text.utf8 text) (htype : Body.isJsonType request.contentType = true)
    (hwhole : Json.IsWhole text.toList) (hlong : Json.mostDigits < text.toList.length) :
    (service.answer request).response = Body.unread := by
  rw [response_of_isAnonymous h, Request.answerToStranger_check _ hmethod hpath,
    Endpoint.answerToStranger, Body.ofRequest_of_tooLong hbody htype hwhole hlong]

theorem a_number_of_too_many_digits_is_refused_first :
    Request.longCheck.IsAnonymous ∧
    Request.longCheck.body = Text.utf8 Json.longNumber ∧
    Json.IsText (Json.mostDigits + 1) Json.longNumber.toList ∧
    (Service.answer ⟨Roster.ofRoles [], {}, .info⟩ Request.longCheck).response =
      .detail 400 "There was an error parsing the body" := by
  have hanonymous : Request.longCheck.IsAnonymous := by
    rintro principal ⟨⟩
  have htype : Body.isJsonType "application/json" = true := by cbv
  have hpath : (Address.ofText "/api/access/check").path = "/api/access/check" := by cbv
  have hlong : Json.mostDigits < Json.longNumber.toList.length := by
    rw [Json.length_longNumber]
    exact Nat.lt_succ_self Json.mostDigits
  have hbody : Request.longCheck.body = Text.utf8 Json.longNumber := by
    rw [Request.longCheck]
  exact ⟨hanonymous, hbody, Json.isWhole_longNumber.isText Json.length_longNumber.le,
    Service.response_of_tooLong hanonymous rfl hpath hbody htype Json.isWhole_longNumber hlong⟩

end DesktopPolicy
