-- The laws of reading roles. Someone who may list roles can ask in four ways whether they may read
-- the role of a name: by a check, by asking for the role, by asking for the mistakes in it, and by
-- looking it up in the list. All four come down to one question to their permissions, and what the
-- roster has is told only where the answer is yes.
import DesktopPolicy.Proofs.AccessCheck
import DesktopPolicy.Proofs.AddressEscapes
import DesktopPolicy.Proofs.HiddenRoles
import DesktopPolicy.Proofs.RoleRoundTrip

namespace DesktopPolicy

section

variable [Dialect]

/-! ## The pure model -/

/-- Some role that is bound to the principal has the grant. -/
def Principal.Holds (principal : Principal) (roles : List Role) (grant : Grant) : Prop :=
  ∃ name ∈ principal.roles, ∃ role, Role.lastNamed? roles name = some role ∧
    role.grants.contains grant = true

/-- The request gets what is at a path. -/
structure Request.Gets (request : Request) (path : String) : Prop where
  method : request.method = "GET"
  path : (Address.ofText request.address).path = path

/-- To ask whether the role of a name may be read. -/
def Inquiry.readRole (name : String) : Inquiry := ⟨"read", "roles", some name, none⟩

/-- The path of the role of a name. -/
def Route.rolePath (name : String) : String := "/api/roles/" ++ name

/-- The path of the mistakes in the role of a name. -/
def Route.roleAuditPath (name : String) : String := "/api/roles/" ++ name ++ "/validate"

/-- The four ways in which a principal asks about the role of a name. -/
structure Request.AskAbout (principal : Principal) (name : String)
    (check single audit list : Request) : Prop where
  principal : ∀ request ∈ [check, single, audit, list],
    request.credential.principal? = some (.ok principal)
  check : check.Asks (.readRole name)
  single : single.Gets (Route.rolePath name)
  audit : audit.Gets (Route.roleAuditPath name)
  list : list.Gets "/api/roles"

/-- The name in the document of a role. -/
def Role.documentName (document : Value) : String :=
  match document with
  | .map entries => (field entries nameField).toText
  | _ => ""

end

/-! ## Routes -/

namespace Route

/-- The path with these steps. -/
def pathOf (parts : List String) : String :=
  String.ofList (parts.flatMap fun part => '/' :: part.toList)

theorem splitOn_steps (part : String) (hpart : '/' ∉ part.toList) {parts : List String}
    (hparts : ∀ other ∈ parts, '/' ∉ other.toList) :
    (part.toList ++ parts.flatMap fun other => '/' :: other.toList).splitOn '/' =
      (part :: parts).map String.toList := by
  induction parts generalizing part with
  | nil => simpa using List.splitOn_eq_singleton hpart
  | cons next parts ih =>
    have hrest := ih next (hparts next List.mem_cons_self)
      fun other ho => hparts other (List.mem_cons_of_mem _ ho)
    have hfirst := List.splitOn_eq_singleton hpart
    rw [List.splitOn] at hfirst hrest ⊢
    rw [List.flatMap_cons, List.cons_append, List.splitOnP_append_cons _ _ (by simp), hfirst, hrest]
    rfl

/-- The steps of a path are the texts it was made of. -/
theorem steps_pathOf {parts : List String} (h : ∀ part ∈ parts, '/' ∉ part.toList) :
    steps (pathOf parts) = some parts := by
  have hsplit := splitOn_steps "" (by simp) h
  rw [String.toList_empty, List.nil_append] at hsplit
  rw [steps, pathOf, String.toList_ofList, hsplit]
  simp

theorem steps_rolePath {name : String} (hslash : '/' ∉ name.toList) :
    steps (rolePath name) = some ["api", "roles", name] := by
  have hpath : rolePath name = pathOf ["api", "roles", name] := by
    rw [rolePath, ← String.toList_inj, pathOf]
    simp
  rw [hpath, steps_pathOf]
  simp [hslash]

theorem steps_roleAuditPath {name : String} (hslash : '/' ∉ name.toList) :
    steps (roleAuditPath name) = some ["api", "roles", name, "validate"] := by
  have hpath : roleAuditPath name = pathOf ["api", "roles", name, "validate"] := by
    rw [roleAuditPath, ← String.toList_inj, pathOf]
    simp
  rw [hpath, steps_pathOf]
  simp [hslash]

theorem destination_of_endpoint? {debug : Bool} {method : String} {address : Address}
    {found : Endpoint × List (String × String)}
    (h : endpoint? (all debug) method address.path = some found) :
    destination (all debug) method address = .endpoint found.1 found.2 := by
  rw [destination, h]

theorem endpoint?_roles (debug : Bool) :
    endpoint? (all debug) "GET" "/api/roles" = some (.roles, []) := by
  cases debug <;> cbv

theorem endpoint?_role (debug : Bool) {name : String} (hname : name ≠ "")
    (hslash : '/' ∉ name.toList) :
    endpoint? (all debug) "GET" (rolePath name) = some (.role, [(roleParameter, name)]) := by
  cases debug <;>
    simp [endpoint?, all, pages, allows, parameters?, steps_rolePath hslash, Route.bind, hname]

theorem endpoint?_roleAudit (debug : Bool) {name : String} (hname : name ≠ "")
    (hslash : '/' ∉ name.toList) :
    endpoint? (all debug) "GET" (roleAuditPath name) =
      some (.roleAudit, [(roleParameter, name)]) := by
  cases debug <;>
    simp [endpoint?, all, pages, allows, parameters?, steps_roleAuditPath hslash, Route.bind, hname]

end Route

/-! ## Documents of roles -/

namespace Role

theorem documentName_document {role : Role} {document : Value}
    (h : role.document = .ok document) : documentName document = role.name := by
  obtain ⟨text, rfl⟩ := document_eq_ok h
  simp [documentName, Value.textKeyed, field_cons, Value.toText]

theorem exists_document {role : Role} (h : ∃ text, role.description = .text text) :
    ∃ document, role.document = .ok document := by
  obtain ⟨text, htext⟩ := h
  rw [document, htext]
  exact ⟨_, rfl⟩

/-- The documents of roles have the names of the roles. -/
theorem map_documentName {roles : List Role} {documents : List Value}
    (h : roles.mapM (fun role => role.document) = .ok documents) :
    documents.map documentName = roles.map Role.name := by
  have hall := mapM_eq_ok_iff.mp h
  clear h
  induction hall with
  | nil => rfl
  | cons hrole _ ih => rw [List.map_cons, List.map_cons, documentName_document hrole, ih]

end Role

/-- Where no two items have one name, an item is the only one with its name. -/
theorem filter_of_nodup_map {α β : Type} [DecidableEq β] {f : α → β} {items : List α}
    (h : (items.map f).Nodup) {item : α} (hitem : item ∈ items) :
    items.filter (fun other => f other == f item) = [item] := by
  induction items with
  | nil => cases hitem
  | cons first rest ih =>
    rw [List.map_cons, List.nodup_cons] at h
    obtain ⟨hfirst, hrest⟩ := h
    rcases List.mem_cons.mp hitem with rfl | hmem
    · have hnone : rest.filter (fun other => f other == f item) = [] := by
        rw [List.filter_eq_nil_iff]
        intro other hother heq
        exact hfirst (List.mem_map.mpr ⟨other, hother, by simpa using heq⟩)
      rw [List.filter_cons_of_pos (by simp), hnone]
    · have hne : f first ≠ f item := fun heq => hfirst (heq ▸ List.mem_map_of_mem hmem)
      rw [List.filter_cons_of_neg (by simpa using hne), ih hrest hmem]

namespace Service

/-- A role is answered with its document, or the service fails. -/
theorem roleResponse_of_status {role : Role} (h : (roleResponse role).status ≠ 500) :
    ∃ body, role.document = .ok body ∧ roleResponse role = .found body := by
  unfold roleResponse at h ⊢
  rcases hdocument : role.document with issues | body
  · rw [hdocument] at h
    exact absurd rfl h
  · exact ⟨body, rfl, rfl⟩

theorem roleResponse_status {role : Role} (h : (roleResponse role).status ≠ 500) :
    (roleResponse role).status = 200 := by
  obtain ⟨body, -, hbody⟩ := roleResponse_of_status h
  rw [hbody]
  rfl

theorem rolesResponse_of_documents {roles : List Role} {documents : List Value}
    (h : roles.mapM (fun role => role.document) = .ok documents) :
    rolesResponse roles = .found (.list documents) := by
  unfold rolesResponse
  rw [h]

/-- The roles are answered with their documents, or the service fails. -/
theorem rolesResponse_of_status {roles : List Role} (h : (rolesResponse roles).status ≠ 500) :
    ∃ documents, roles.mapM (fun role => role.document) = .ok documents ∧
      rolesResponse roles = .found (.list documents) := by
  rcases hdocuments : roles.mapM (fun role => role.document) with issues | documents
  · unfold rolesResponse at h
    rw [hdocuments] at h
    exact absurd rfl h
  · exact ⟨documents, hdocuments, rolesResponse_of_documents hdocuments⟩

end Service

/-! ## Grants -/

/-- A principal has the grants of the roles that are bound to them. -/
theorem Service.contains_permissionsOf {roles : List Role} {settings : Settings}
    {service : Service} (hserves : service.Serves roles settings) (principal : Principal)
    (grant : Grant) :
    (service.permissionsOf principal).grants.contains grant = true ↔
      principal.Holds roles grant := by
  rw [permissionsOf, Permissions.ofRoles, Role.unionGrants, Grants.contains_unions, List.any_map,
    List.any_eq_true, hserves.roster]
  simp only [Roster.mem_resolve, Roster.get?_ofRoles, Function.comp_apply]
  constructor
  · rintro ⟨role, ⟨name, hname, hrole⟩, hgrant⟩
    exact ⟨name, hname, role, hrole, hgrant⟩
  · rintro ⟨name, hname, role, hrole, hgrant⟩
    exact ⟨role, ⟨name, hname, hrole⟩, hgrant⟩

theorem Service.holds_permissionsOf {roles : List Role} {settings : Settings} {service : Service}
    {principal : Principal} {grant : Grant} (hserves : service.Serves roles settings)
    (h : principal.Holds roles grant) :
    (service.permissionsOf principal).grants.has (Grants.single grant).mask = true := by
  rw [Grants.has_single]
  exact (contains_permissionsOf hserves principal grant).mpr h

section

variable [Dialect]

namespace Service

/-! ## Answers about one role -/

/-- What is told about the role of a name to those with these permissions. -/
def told (service : Service) (permissions : Permissions) (name : String)
    (answer : Role → Response) : Response :=
  match (permissions.isAllowed (.readRole name)).outcome with
  | .error _ => .failure
  | .ok false => .detail 403 "Forbidden"
  | .ok true =>
    match service.roster.get? name with
    | some role => answer role
    | none => .detail 404 "Role not found"

/-- Those who may read a role of the roster are told about it. -/
theorem told_of_readable {service : Service} {permissions : Permissions} {name : String}
    {role : Role} (ho : (permissions.isAllowed (.readRole name)).outcome = .ok true)
    (hrole : service.roster.get? name = some role) (answer : Role → Response) :
    service.told permissions name answer = answer role := by
  rw [told, ho, hrole]

/-- Where the service does not fail, the status tells whether the role may be read, and to those who
may, whether it is there. -/
theorem status_told {service : Service} {permissions : Permissions} {name : String}
    {answer : Role → Response} {allowed : Bool}
    (ho : (permissions.isAllowed (.readRole name)).outcome = .ok allowed)
    (hanswer : ∀ role, (answer role).status ≠ 500 → (answer role).status = 200)
    (hruns : (service.told permissions name answer).status ≠ 500) :
    (allowed = true ↔ (service.told permissions name answer).status ≠ 403) ∧
      (allowed = true → (service.told permissions name answer).status =
        if (service.roster.get? name).isSome then 200 else 404) := by
  unfold told at hruns ⊢
  simp only [ho] at hruns ⊢
  cases allowed with
  | false => simp [Response.detail]
  | true =>
    rcases hget : service.roster.get? name with _ | role
    · simp [Response.detail]
    · simp only [hget] at hruns ⊢
      simp [hanswer role hruns]

theorem told_runs {service : Service} {permissions : Permissions} {name : String}
    {answer : Role → Response} {allowed : Bool}
    (ho : (permissions.isAllowed (.readRole name)).outcome = .ok allowed)
    (hanswer : ∀ role ∈ service.roster.roles, (answer role).status ≠ 500) :
    (service.told permissions name answer).status ≠ 500 := by
  rw [told, ho]
  cases allowed with
  | false => simp [Response.detail]
  | true =>
    rcases hget : service.roster.get? name with _ | role
    · simp [Response.detail]
    · exact hanswer role (Roster.get?_eq_some hget).1

section

variable {service : Service} {principal : Principal} {request : Request}

theorem aboutRole_response (hprincipal : request.credential.principal? = some (.ok principal))
    (name : String) (answer : Role → Response) :
    settle (service.aboutRole request [(Route.roleParameter, name)] answer) =
      service.told (service.permissionsOf principal) name answer := by
  have hpass := service.pass_outcome hprincipal
    (.action .read .roles (some Route.roleParameter) none) [(Route.roleParameter, name)]
  have hrequire : Gate.require (.action .read .roles (some Route.roleParameter) none)
      [(Route.roleParameter, name)] principal (service.permissionsOf principal) =
        Gate.requireAction (.readRole name) principal (service.permissionsOf principal) := rfl
  rw [hrequire, Gate.requireAction] at hpass
  unfold aboutRole told
  rcases ho : ((service.permissionsOf principal).isAllowed (.readRole name)).outcome
    with refusal | allowed
  · rw [Noted.next_of_error _ (Gate.tried_of_error ho)] at hpass
    rw [settle_of_error _ hpass]
    rfl
  · rw [Noted.next_of_ok _ (Gate.tried_of_ok ho)] at hpass
    cases allowed with
    | false =>
      rw [settle_of_error _ hpass]
      rfl
    | true =>
      rw [settle_of_ok _ hpass]
      have hlookup : ([(Route.roleParameter, name)].lookup Route.roleParameter).bind
          service.roster.get? = service.roster.get? name := rfl
      simp only [hlookup]
      cases service.roster.get? name <;> rfl

/-! ## Documents answered -/

theorem listRoles_response (hprincipal : request.credential.principal? = some (.ok principal))
    (hgrant : (service.permissionsOf principal).grants.has
      (Grants.single .readRoles).mask = true) :
    settle (service.listRoles request) =
      settle (readable service.roster (service.permissionsOf principal)) := by
  have hpass := service.pass_outcome hprincipal (.grants (Grants.single .readRoles)) []
  have hrequire : (Gate.require (.grants (Grants.single .readRoles)) [] principal
      (service.permissionsOf principal)).outcome = .ok () := by
    rw [Gate.require, Gate.requireGrant, if_pos hgrant]
    rfl
  rw [hrequire] at hpass
  rw [listRoles_eq, settle_of_ok _ hpass]

theorem auditResponse_status {role : Role} (h : (auditResponse role).status ≠ 500) :
    (auditResponse role).status = 200 := by
  unfold auditResponse at h ⊢
  rcases haudit : role.audit with refusal | problems
  · rw [haudit] at h
    exact absurd rfl h
  · rfl

/-- The roles of the roster that may be read. -/
def readableRoles (service : Service) (permissions : Permissions) : List Role :=
  service.roster.listed.filter fun role =>
    Noted.passes (fun name => permissions.isAllowed (.readRole name)) role.name

theorem listRoles_of_status (hprincipal : request.credential.principal? = some (.ok principal))
    (hgrant : (service.permissionsOf principal).grants.has
      (Grants.single .readRoles).mask = true)
    (hstatus : (settle (service.listRoles request)).status ≠ 500) :
    ∃ documents,
      (service.readableRoles (service.permissionsOf principal)).mapM (fun role => role.document) =
        .ok documents ∧ settle (service.listRoles request) = .found (.list documents) := by
  rw [listRoles_response hprincipal hgrant] at hstatus ⊢
  by_cases hanswers : ∀ name ∈ service.roster.listed.map Role.name,
      ((service.permissionsOf principal).isAllowed (.readRole name)).Answers
  · rw [settle_readable_of_answers hanswers] at hstatus ⊢
    exact rolesResponse_of_status hstatus
  · -- a name without an answer fails the whole list
    rw [settle_readable_of_not_answers (by simpa using hanswers)] at hstatus
    exact absurd rfl hstatus

end

/-! ## Names in the list -/

section

variable {roles : List Role} {settings : Settings} {service : Service}

omit [Dialect] in
theorem Serves.distinct (h : service.Serves roles settings) : service.roster.Distinct :=
  h.roster ▸ Roster.distinct_ofRoles roles

theorem mem_readableRoles {permissions : Permissions} {role : Role} :
    role ∈ service.readableRoles permissions ↔ role ∈ service.roster.roles ∧
      (permissions.isAllowed (.readRole role.name)).outcome = .ok true := by
  rw [readableRoles, List.mem_filter, service.roster.listed_perm.mem_iff, Noted.passes_iff]

theorem pairwise_readableRoles (h : service.Serves roles settings) (permissions : Permissions) :
    ((service.readableRoles permissions).map Role.name).Pairwise (· < ·) :=
  List.pairwise_map.mpr (h.distinct.pairwise_listed_lt.filter _)

/-- A readable role of the roster is in the list once, with its document. -/
theorem filter_documents (h : service.Serves roles settings) {permissions : Permissions}
    {documents : List Value}
    (hdocuments : (service.readableRoles permissions).mapM (fun role => role.document) =
      .ok documents) {role : Role} (hrole : role ∈ service.readableRoles permissions)
    {body : Value} (hbody : role.document = .ok body) :
    documents.filter (fun document => Role.documentName document == role.name) = [body] := by
  obtain ⟨listed, hlisted, hsame⟩ := mem_mapM hdocuments hrole
  rw [hbody] at hsame
  cases hsame
  have hnames : (documents.map Role.documentName).Nodup := by
    rw [Role.map_documentName hdocuments]
    exact (pairwise_readableRoles h permissions).imp fun hlt => ne_of_lt hlt
  have hone := filter_of_nodup_map hnames hlisted
  rwa [Role.documentName_document hbody] at hone

/-- The list does not fail where all names of the roster have an answer, and all its roles have a
text as their description. -/
theorem readable_runs {permissions : Permissions}
    (htexts : ∀ role ∈ service.roster.roles, ∃ text, role.description = .text text)
    (hanswers : ∀ name ∈ service.roster.roles.map Role.name,
      (permissions.isAllowed (.readRole name)).Answers) :
    (settle (readable service.roster permissions)).status ≠ 500 := by
  have hlisted : ∀ name ∈ service.roster.listed.map Role.name,
      (permissions.isAllowed (.readRole name)).Answers := by
    intro name hname
    exact hanswers name ((service.roster.listed_perm.map Role.name).mem_iff.mp hname)
  have hdocument : ∀ role ∈ service.readableRoles permissions,
      ∃ document, role.document = .ok document := by
    intro role hrole
    exact Role.exists_document (htexts role (mem_readableRoles.mp hrole).1)
  obtain ⟨documents, hdocuments⟩ := exists_mapM hdocument
  have hlist := rolesResponse_of_documents hdocuments
  rw [readableRoles] at hlist
  rw [settle_readable_of_answers hlisted, hlist]
  simp [Response.found]

end

end Service

/-! ## What is at the paths of roles -/

namespace Request.Gets

variable {service : Service} {request : Request} {principal : Principal} {name : String}

theorem role_response (h : request.Gets (Route.rolePath name))
    (hprincipal : request.credential.principal? = some (.ok principal)) (hname : name ≠ "")
    (hslash : '/' ∉ name.toList) :
    (service.answer request).response =
      service.told (service.permissionsOf principal) name Service.roleResponse := by
  have hfound := Route.endpoint?_role service.settings.debug hname hslash
  rw [← h.path, ← h.method] at hfound
  rw [Service.response_of_endpoint (Route.destination_of_endpoint? hfound)]
  exact Service.aboutRole_response hprincipal name Service.roleResponse

theorem roleAudit_response (h : request.Gets (Route.roleAuditPath name))
    (hprincipal : request.credential.principal? = some (.ok principal)) (hname : name ≠ "")
    (hslash : '/' ∉ name.toList) :
    (service.answer request).response =
      service.told (service.permissionsOf principal) name Service.auditResponse := by
  have hfound := Route.endpoint?_roleAudit service.settings.debug hname hslash
  rw [← h.path, ← h.method] at hfound
  rw [Service.response_of_endpoint (Route.destination_of_endpoint? hfound)]
  exact Service.aboutRole_response hprincipal name Service.auditResponse

theorem roles_response (h : request.Gets "/api/roles") :
    (service.answer request).response = Service.settle (service.listRoles request) := by
  have hfound := Route.endpoint?_roles service.settings.debug
  rw [← h.path, ← h.method] at hfound
  exact Service.response_of_endpoint (Route.destination_of_endpoint? hfound)

end Request.Gets

/-! ## The four ways -/

namespace Request.AskAbout

variable {service : Service} {principal : Principal} {name : String}
  {check single audit list : Request}

theorem check_response (h : AskAbout principal name check single audit list) :
    (service.answer check).response =
      match ((service.permissionsOf principal).isAllowed (.readRole name)).outcome with
      | .ok allowed => Service.decision allowed
      | .error _ => .failure :=
  Service.check_response (h.principal check (by simp)) h.check

theorem single_response (h : AskAbout principal name check single audit list)
    (hname : name ≠ "") (hslash : '/' ∉ name.toList) :
    (service.answer single).response =
      service.told (service.permissionsOf principal) name Service.roleResponse :=
  h.single.role_response (h.principal single (by simp)) hname hslash

theorem audit_response (h : AskAbout principal name check single audit list)
    (hname : name ≠ "") (hslash : '/' ∉ name.toList) :
    (service.answer audit).response =
      service.told (service.permissionsOf principal) name Service.auditResponse :=
  h.audit.roleAudit_response (h.principal audit (by simp)) hname hslash

theorem list_response (h : AskAbout principal name check single audit list) :
    (service.answer list).response = Service.settle (service.listRoles list) :=
  h.list.roles_response

/-- The service fails on none of the four ways, if the patterns of the roles are sound, their
descriptions are texts, and reading has an answer for the name and for all names of the roster. -/
theorem runs {roles : List Role} {settings : Settings}
    (h : AskAbout principal name check single audit list) (hserves : service.Serves roles settings)
    (hholds : principal.Holds roles .readRoles) (hname : name ≠ "") (hslash : '/' ∉ name.toList)
    (hroles : ∀ role ∈ service.roster.roles,
      role.IsSound ∧ ∃ text, role.description = .text text)
    (hanswers : ∀ other ∈ name :: service.roster.roles.map Role.name,
      ((service.permissionsOf principal).isAllowed (.readRole other)).Answers) :
    ∀ request ∈ [check, single, audit, list],
      (service.answer request).response.status ≠ 500 := by
  obtain ⟨allowed, ho⟩ := hanswers name List.mem_cons_self
  simp only [List.forall_mem_cons, List.not_mem_nil, false_implies, implies_true, and_true]
  refine ⟨?_, ?_, ?_, ?_⟩
  · rw [h.check_response, ho]
    simp [Service.decision, Response.found]
  · rw [h.single_response hname hslash]
    apply Service.told_runs ho
    intro role hrole
    obtain ⟨body, hbody⟩ := Role.exists_document (hroles role hrole).2
    simp [Service.roleResponse, hbody, Response.found]
  · rw [h.audit_response hname hslash]
    apply Service.told_runs ho
    intro role hrole
    obtain ⟨mistakes, haudit⟩ := role.audit_ok_iff.mpr (hroles role hrole).1
    simp [Service.auditResponse, haudit, Response.found]
  · rw [h.list_response, Service.listRoles_response (h.principal list (by simp))
      (Service.holds_permissionsOf hserves hholds)]
    apply Service.readable_runs
    · intro role hrole
      exact (hroles role hrole).2
    · intro other hother
      exact hanswers other (List.mem_cons_of_mem _ hother)

end Request.AskAbout

end

/-! ## Requests for any name -/

/-- To get what is at an address. -/
def Request.get (principal : Principal) (address : String) : Request where
  method := "GET"
  address := address
  credential := .principal principal

/-- To ask for a decision about what these fields describe. -/
def Request.checkOf (principal : Principal) (fields : List (String × Value)) : Request where
  method := "POST"
  address := "/api/access/check"
  credential := .principal principal
  body := Text.utf8 (Json.write (.map (Value.textKeyed fields)))

/-- A written map is read as the body of a request. -/
theorem Request.body_checkOf (principal : Principal) {fields : List (String × Value)}
    (h : (Value.map (Value.textKeyed fields)).IsPlain) :
    Body.ofRequest (checkOf principal fields) = .ok (.json (.map (Value.textKeyed fields))) := by
  have hread := Json.read_write h
  have htype : Body.isJsonType "application/json" = true := by cbv
  obtain ⟨rest, htext⟩ : ∃ rest, (Json.write (.map (Value.textKeyed fields))).toList =
      '\x7b' :: rest := ⟨_, by rw [Json.write, String.toList_append, String.toList_append]; rfl⟩
  have hne : Json.write (.map (Value.textKeyed fields)) ≠ "" := by
    intro hempty
    rw [hempty] at htext
    simp at htext
  have hhead : (Json.write (.map (Value.textKeyed fields))).toList.head? ≠ some '\uFEFF' := by
    rw [htext]
    simp
  have hbody := @Body.ofRequest_of_utf8 (checkOf principal fields) _ rfl hne hhead
    (Body.isJson_of_isJsonType htype)
  rw [hbody, Body.ofText, hread]
  rfl

theorem Address.path_of_escaped_role (name : String) :
    (ofText ("/api/roles/" ++ escaped name)).path = Route.rolePath name ∧
      (ofText ("/api/roles/" ++ escaped name ++ "/validate")).path = Route.roleAuditPath name := by
  have hbefore : ∀ c ∈ "/api/roles/".toList, IsPathChar c := by
    simp [IsPathChar]
  have hbehind : ∀ c ∈ "/validate".toList, IsPathChar c := by
    simp [IsPathChar]
  refine ⟨?_, path_of_escaped_step hbefore hbehind name⟩
  have hnothing : ∀ c ∈ "".toList, IsPathChar c := by
    simp
  have hpath := path_of_escaped_step hbefore hnothing name
  rwa [String.append_empty, String.append_empty] at hpath

/-- To ask whether the role of a name may be read. -/
def Request.readCheck (principal : Principal) (name : String) : Request :=
  checkOf principal [("verb", .text "read"), ("resource", .text "roles"), ("name", .text name)]

/-- About every name can be asked in all four ways, with the name escaped in the paths. -/
theorem Request.askAbout_escaped (principal : Principal) (name : String) :
    AskAbout principal name (readCheck principal name)
      (get principal ("/api/roles/" ++ Address.escaped name))
      (get principal ("/api/roles/" ++ Address.escaped name ++ "/validate"))
      (get principal "/api/roles") where
  principal := by simp [readCheck, checkOf, get, Credential.principal?]
  check := by
    have hpath : (Address.ofText "/api/access/check").path = "/api/access/check" := by cbv
    refine ⟨rfl, hpath, _, body_checkOf principal (.map (by simp) ?_), ?_⟩
    · simp [Value.IsPlain.text]
    · constructor <;>
        simp [Inquiry.readRole, Value.textKeyed, lookup, field, Value.sameKey_text,
          Schema.said?, Schema.spelled?, Action.verbField, Action.resourceField, Action.nameField,
          Action.namespaceField]
  single := ⟨rfl, (Address.path_of_escaped_role name).1⟩
  audit := ⟨rfl, (Address.path_of_escaped_role name).2⟩
  list := by
    have hpath : (Address.ofText "/api/roles").path = "/api/roles" := by cbv
    exact ⟨rfl, hpath⟩

section

variable [Dialect]

/-! ## The laws -/

/-- About every name someone can ask in all four ways, with the name escaped in the paths. When they
may list roles and the service fails on none of the four, the answers agree. The check allows to
read the role exactly when asking for it is not forbidden, and exactly when asking for its mistakes
is not. Where it is allowed, these two are found if the roster has the name, and not found otherwise.
The list is in strictly rising order of names, and has the name exactly where it is allowed and in
the roster, once, with the same document. -/
theorem all_ways_to_ask_about_a_role_agree {roles : List Role} {settings : Settings}
    {service : Service} {principal : Principal} {name : String}
    (hserves : service.Serves roles settings) (hholds : principal.Holds roles .readRoles)
    (hname : name ≠ "") (hslash : '/' ∉ name.toList) :
    Request.AskAbout principal name (.readCheck principal name)
      (.get principal ("/api/roles/" ++ Address.escaped name))
      (.get principal ("/api/roles/" ++ Address.escaped name ++ "/validate"))
      (.get principal "/api/roles") ∧
    ∀ check single audit list, Request.AskAbout principal name check single audit list →
      (∀ request ∈ [check, single, audit, list],
        (service.answer request).response.status ≠ 500) →
      ∃ allowed, (service.answer check).response = Service.decision allowed ∧
        (allowed = true ↔ (service.answer single).response.status ≠ 403) ∧
        (allowed = true ↔ (service.answer audit).response.status ≠ 403) ∧
        (allowed = true →
          (service.answer single).response.status =
            (if name ∈ roles.map Role.name then 200 else 404) ∧
          (service.answer audit).response.status =
            (if name ∈ roles.map Role.name then 200 else 404)) ∧
        ∃ documents, (service.answer list).response = .found (.list documents) ∧
          (documents.map Role.documentName).Pairwise (· < ·) ∧
          (allowed = true ∧ name ∈ roles.map Role.name →
            ∃ body, (service.answer single).response = .found body ∧
              documents.filter (fun document => Role.documentName document == name) = [body]) ∧
          (¬ (allowed = true ∧ name ∈ roles.map Role.name) →
            name ∉ documents.map Role.documentName) := by
  refine ⟨Request.askAbout_escaped principal name, ?_⟩
  intro check single audit list hask hruns
  have hchecks := hruns check (by simp)
  have hsingles := hruns single (by simp)
  have haudits := hruns audit (by simp)
  have hlists := hruns list (by simp)
  have hin : (service.roster.get? name).isSome = true ↔ name ∈ roles.map Role.name := by
    rw [hserves.roster, Roster.isSome_get?_ofRoles]
  rw [hask.check_response] at hchecks ⊢
  rw [hask.single_response hname hslash] at hsingles ⊢
  rw [hask.audit_response hname hslash] at haudits ⊢
  rw [hask.list_response] at hlists ⊢
  rcases ho : ((service.permissionsOf principal).isAllowed (.readRole name)).outcome
    with refusal | allowed
  · rw [ho] at hchecks
    exact absurd rfl hchecks
  obtain ⟨hsingle, hsingleStatus⟩ := Service.status_told ho
    (fun _ => Service.roleResponse_status) hsingles
  obtain ⟨haudit, hauditStatus⟩ := Service.status_told ho
    (fun _ => Service.auditResponse_status) haudits
  simp only [hin] at hsingleStatus hauditStatus
  obtain ⟨documents, hdocuments, hlist⟩ := Service.listRoles_of_status
    (hask.principal list (by simp)) (Service.holds_permissionsOf hserves hholds) hlists
  refine ⟨allowed, rfl, hsingle, haudit, ?_, documents, hlist, ?_, ?_, ?_⟩
  · intro hallowed
    exact ⟨hsingleStatus hallowed, hauditStatus hallowed⟩
  · rw [Role.map_documentName hdocuments]
    exact Service.pairwise_readableRoles hserves _
  · rintro ⟨rfl, hmem⟩
    obtain ⟨role, hget⟩ := Option.isSome_iff_exists.mp (hin.mpr hmem)
    obtain ⟨hrole, rfl⟩ := Roster.get?_eq_some hget
    rw [Service.told_of_readable ho hget] at hsingles ⊢
    obtain ⟨body, hbody, hfound⟩ := Service.roleResponse_of_status hsingles
    have hreadable := Service.mem_readableRoles.mpr ⟨hrole, ho⟩
    exact ⟨body, hfound, Service.filter_documents hserves hdocuments hreadable hbody⟩
  · -- whatever is listed may be read, and is in the roster
    intro hnot hmem
    rw [Role.map_documentName hdocuments] at hmem
    obtain ⟨role, hreadable, rfl⟩ := List.mem_map.mp hmem
    obtain ⟨hrole, hallowed⟩ := Service.mem_readableRoles.mp hreadable
    rw [ho] at hallowed
    cases hallowed
    have hget := (hserves.distinct.get?_iff role).mpr hrole
    exact hnot ⟨rfl, hin.mp (by rw [hget, Option.isSome_some])⟩

end

/-- A role for those who list roles and read the ones whose names start with an a, like its own. -/
def Role.almanac : Role where
  name := "a 1\u00E9"
  description := .text "Roles with an a"
  rules := [{ verbs := [.read], resources := [.roles], patterns := ["^a"] }]
  grants := Grants.single .readRoles

/-- A service with that role, and with a vault. -/
def Service.withAlmanac : Service where
  roster := Roster.ofRoles [{ name := "vault" }, Role.almanac]
  settings := {}
  level := .info

/-- The almanac is read under its escaped name, and found in the list once. -/
theorem an_almanac_is_listed_as_it_is_read :
    Address.escaped Role.almanac.name = "a%201%C3%A9" ∧
    ∃ documents body,
      (Service.withAlmanac.answer
        (.get ⟨"ada", [Role.almanac.name]⟩ "/api/roles/a%201%C3%A9")).response = .found body ∧
      (Service.withAlmanac.answer (.get ⟨"ada", [Role.almanac.name]⟩ "/api/roles")).response =
        .found (.list documents) ∧
      documents.filter (fun document => Role.documentName document == Role.almanac.name) =
        [body] := by
  have hescaped : Address.escaped Role.almanac.name = "a%201%C3%A9" := by cbv
  have hserves : Service.withAlmanac.Serves [{ name := "vault" }, Role.almanac] {} := ⟨rfl, rfl⟩
  have hholds : Principal.Holds ⟨"ada", [Role.almanac.name]⟩ [{ name := "vault" }, Role.almanac]
      .readRoles := ⟨_, List.mem_singleton_self _, Role.almanac, rfl, by decide⟩
  have hallowed : ((Service.withAlmanac.permissionsOf ⟨"ada", [Role.almanac.name]⟩).isAllowed
      (.readRole Role.almanac.name)).outcome = .ok true := by decide +kernel
  have hdenied : ((Service.withAlmanac.permissionsOf ⟨"ada", [Role.almanac.name]⟩).isAllowed
      (.readRole "vault")).outcome = .ok false := by decide +kernel
  have hname : Role.almanac.name ≠ "" := by decide
  have hslash : '/' ∉ Role.almanac.name.toList := by decide
  obtain ⟨hask, hagree⟩ := all_ways_to_ask_about_a_role_agree hserves hholds hname hslash
  have hroster : Service.withAlmanac.roster.roles = [{ name := "vault" }, Role.almanac] := rfl
  have hroles : ∀ role ∈ Service.withAlmanac.roster.roles,
      role.IsSound ∧ ∃ text, role.description = .text text := by
    rw [hroster]
    simp only [List.forall_mem_cons, List.not_mem_nil, false_implies, implies_true, and_true]
    exact ⟨⟨by decide, _, rfl⟩, ⟨by decide +kernel, _, rfl⟩⟩
  have hanswers : ∀ other ∈ Role.almanac.name :: Service.withAlmanac.roster.roles.map Role.name,
      ((Service.withAlmanac.permissionsOf ⟨"ada", [Role.almanac.name]⟩).isAllowed
        (.readRole other)).Answers := by
    rw [hroster]
    simp only [List.map_cons, List.map_nil, List.forall_mem_cons, List.not_mem_nil, false_implies,
      implies_true, and_true]
    exact ⟨⟨true, hallowed⟩, ⟨false, hdenied⟩, ⟨true, hallowed⟩⟩
  have hruns := hask.runs hserves hholds hname hslash hroles hanswers
  obtain ⟨allowed, hcheck, -, -, -, documents, hlist, -, hlisted, -⟩ := hagree _ _ _ _ hask hruns
  rw [hask.check_response, hallowed] at hcheck
  obtain ⟨body, hsingle, hone⟩ := hlisted ⟨(Service.decision_inj hcheck).symm, by decide⟩
  rw [hescaped] at hsingle
  exact ⟨hescaped, documents, body, hsingle, hlist, hone⟩

end DesktopPolicy
