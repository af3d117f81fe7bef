-- The laws of the addresses of roles. Someone to whom everything is open is listed all roles,
-- unless the question about one of their names cannot be settled. Whether a listed role is found at
-- the paths made of its name depends on one thing only: a name is one step of a path, so it has no
-- slash.
import DesktopPolicy.Proofs.RosterLookups
import DesktopPolicy.Proofs.ServiceFailures

namespace DesktopPolicy

section

variable [Dialect]

/-! ## The pure model -/

/-- The role has all grants, and a rule that allows everything. -/
structure Role.IsOpen (role : Role) : Prop where
  grants : ∀ grant, role.grants.contains grant = true
  rules : ∃ rule ∈ role.rules, ∀ action, (rule.authorizes action).outcome = .ok true

/-- One of the roles that are bound to the principal is open. -/
def Principal.IsTrusted (principal : Principal) (roles : List Role) : Prop :=
  ∃ role ∈ roles, role.name ∈ principal.roles ∧ role.IsOpen

/-- The principal gets what is at a path. -/
structure Request.Fetches (request : Request) (principal : Principal) (path : String) : Prop
    extends request.Gets path where
  principal : request.credential.principal? = some (.ok principal)

/-- The answer that the role of a name has these mistakes. -/
def Response.audited (name : String) (problems : List String) : Response :=
  .found (Service.fields [("name", .text name), ("valid", .bool problems.isEmpty),
    ("problems", Service.textList problems)])

/-- A rule with both wildcards, and with no patterns and namespaces, allows everything. -/
theorem Rule.authorizes_of_wildcards {rule : Rule} (hverb : wildcard ∈ rule.verbWords)
    (hresource : wildcard ∈ rule.resourceWords) (hpatterns : rule.patterns = [])
    (hspaces : rule.namespaces = []) (action : Action) :
    (rule.authorizes action).outcome = .ok true := by
  rw [authorizes_eq_true_iff]
  constructor
  · intro _ _ name _
    exact settlesName_of_patternless hpatterns name
  · refine ⟨.inr hverb, .inr hresource, ?_, ?_⟩
    · intro _ _ hne
      exact absurd hpatterns hne
    · intro _ _ _ _ hne
      exact absurd hspaces hne

end

/-! ## Long paths -/

namespace Route

/-- What stands behind a slash makes further steps. -/
theorem steps_append_slash {path : String} {parts : List String} (h : steps path = some parts)
    (rest : String) : steps (path ++ "/" ++ rest) =
      some (parts ++ (rest.toList.splitOn '/').map String.ofList) := by
  have hchars : (path ++ "/" ++ rest).toList = path.toList ++ '/' :: rest.toList := by simp
  unfold steps at h ⊢
  rw [hchars, List.splitOn_append_cons_self]
  split at h
  · rename_i hsplit
    cases h
    rw [hsplit]
    simp
  · cases h

/-- A name with a slash is at least two steps of a path. -/
theorem exists_steps_of_slash {name : String} (hslash : '/' ∈ name.toList) :
    ∃ parts, 4 ≤ parts.length ∧ steps (rolePath name) = some parts ∧
      steps (roleAuditPath name) = some (parts ++ ["validate"]) := by
  obtain ⟨before, after, hsplit, hbefore⟩ := List.eq_append_cons_of_mem hslash
  obtain ⟨second, rest, hafter⟩ := List.exists_cons_of_ne_nil (List.splitOn_ne_nil '/' after)
  have hroles : steps "/api/roles" = some ["api", "roles"] := by cbv
  have hrole := steps_append_slash hroles name
  rw [hsplit, List.splitOn_append_cons_self, List.splitOn_eq_singleton hbefore, hafter] at hrole
  have hword : ("validate".toList.splitOn '/').map String.ofList = ["validate"] := by cbv
  have haudit := steps_append_slash hrole "validate"
  rw [hword, String.append_assoc] at haudit
  exact ⟨_, by simp, hrole, haudit⟩

theorem length_of_bind {segments : List Segment} {parts : List String}
    {parameters : List (String × String)} (h : bind segments parts = some parameters) :
    parts.length = segments.length := by
  fun_induction bind segments parts generalizing parameters with
  | case1 => rfl
  | case2 => rfl
  | case4 word segments part parts _ _ ih => rw [List.length_cons, List.length_cons, ih h]
  | case7 name segments part parts _ ih =>
    obtain ⟨later, hlater, -⟩ := Option.map_eq_some_iff.mp h
    rw [List.length_cons, List.length_cons, ih hlater]
  | _ => cases h

theorem length_segments (debug : Bool) :
    ∀ route ∈ all debug, 4 ≤ route.segments.length →
      route.segments.length = 4 ∧ route.endpoint = .roleAudit := by
  cases debug <;> decide

/-- The only endpoint that is four steps away tells the mistakes in a role, and none is farther. -/
theorem length_of_destination {debug : Bool} {method : String} {address : Address}
    {endpoint : Endpoint} {parameters : List (String × String)} {parts : List String}
    (h : destination (all debug) method address = .endpoint endpoint parameters)
    (hparts : steps address.path = some parts) (hlong : 4 ≤ parts.length) :
    parts.length = 4 ∧ endpoint = .roleAudit := by
  obtain ⟨route, hroute, rfl, hparameters⟩ := exists_route h
  rw [parameters?, hparts, Option.bind_some] at hparameters
  have hlength := length_of_bind hparameters
  rw [hlength] at hlong ⊢
  exact length_segments debug route hroute hlong

end Route

section

variable [Dialect]

/-! ## What is found -/

namespace Service

theorem auditResponse_of_ok {role : Role} {problems : List String}
    (h : role.audit = .ok problems) : auditResponse role = .audited role.name problems := by
  rw [auditResponse, h]
  rfl

/-- What is told about the mistakes in a role is no document of a role. -/
theorem told_audit_ne_document {role : Role} {document : Value} (h : role.document = .ok document)
    (service : Service) (permissions : Permissions) (name : String) :
    service.told permissions name auditResponse ≠ .found document := by
  obtain ⟨text, rfl⟩ := Role.document_eq_ok h
  unfold told auditResponse
  split
  · simp [Response.failure, Response.found]
  · simp [Response.detail, Response.found]
  · split
    · split
      · simp [Response.failure, Response.found]
      · simp [Response.found, fields, Value.textKeyed, Role.descriptionField]
    · simp [Response.detail, Response.found]

/-- What is found at a path of four steps or more tells the mistakes in a role, four steps away. -/
theorem told_of_long_path {service : Service} {request : Request} {principal : Principal}
    (hprincipal : request.credential.principal? = some (.ok principal)) {parts : List String}
    (hparts : Route.steps (Address.ofText request.address).path = some parts)
    (hlong : 4 ≤ parts.length) {v : Value} (hfound : (service.answer request).response = .found v) :
    parts.length = 4 ∧ ∃ other,
      service.told (service.permissionsOf principal) other auditResponse = .found v := by
  have hstatus : (service.answer request).response.status = 200 := by rw [hfound]; rfl
  obtain ⟨endpoint, parameters, hdestination⟩ := exists_endpoint hstatus (by decide)
  obtain ⟨hfour, rfl⟩ := Route.length_of_destination hdestination hparts hlong
  obtain ⟨other, rfl⟩ := Route.parameters_of_role hdestination (by decide)
  refine ⟨hfour, other, ?_⟩
  rw [← aboutRole_response hprincipal other auditResponse, ← hfound,
    response_of_endpoint hdestination]
  rfl

end Service

namespace Request.Fetches

variable {service : Service} {request : Request} {principal : Principal} {role : Role}

/-- A role that may be read is found at its path if the path is one of a single name. -/
theorem found_role_iff (h : request.Fetches principal (Route.rolePath role.name))
    (hname : role.name ≠ "") (hread : (service.permissionsOf principal).MayRead role.name)
    (hrole : service.roster.get? role.name = some role) {document : Value}
    (hdocument : role.document = .ok document) :
    (service.answer request).response = .found document ↔ '/' ∉ role.name.toList := by
  constructor
  · intro hfound hslash
    obtain ⟨parts, hlong, hparts, -⟩ := Route.exists_steps_of_slash hslash
    rw [← h.path] at hparts
    obtain ⟨-, other, htold⟩ := Service.told_of_long_path h.principal hparts hlong hfound
    exact Service.told_audit_ne_document hdocument service _ other htold
  · intro hslash
    rw [h.role_response h.principal hname hslash, Service.told_of_readable hread hrole,
      Service.roleResponse, hdocument]

/-- The mistakes in a role that may be read are found at its path if the path is one of a single
name. -/
theorem found_audit_iff (h : request.Fetches principal (Route.roleAuditPath role.name))
    (hname : role.name ≠ "") (hread : (service.permissionsOf principal).MayRead role.name)
    (hrole : service.roster.get? role.name = some role) {problems : List String}
    (haudit : role.audit = .ok problems) :
    (service.answer request).response = .audited role.name problems ↔
      '/' ∉ role.name.toList := by
  constructor
  · intro hfound hslash
    obtain ⟨parts, hlong, -, hparts⟩ := Route.exists_steps_of_slash hslash
    rw [← h.path] at hparts
    have hlength : (parts ++ ["validate"]).length = parts.length + 1 := by simp
    have hfour := (Service.told_of_long_path h.principal hparts (by omega) hfound).1
    omega
  · intro hslash
    rw [h.roleAudit_response h.principal hname hslash, Service.told_of_readable hread hrole,
      Service.auditResponse_of_ok haudit]

end Request.Fetches

/-! ## What is listed -/

section

variable {roles : List Role} {settings : Settings} {service : Service} {principal : Principal}
  {list : Request}

namespace Principal.IsTrusted

/-- Nothing keeps the trusted from reading a role, but that the question is not settled. -/
theorem mayRead_iff (h : principal.IsTrusted roles) (hnames : (roles.map Role.name).Nodup)
    (hserves : service.Serves roles settings) (name : String) :
    (service.permissionsOf principal).MayRead name ↔
      (service.permissionsOf principal).Settle (.readRole name) := by
  have hanswers : ((service.permissionsOf principal).isAllowed (.readRole name)).Answers ↔
      (service.permissionsOf principal).Settle (.readRole name) :=
    Permissions.isAllowed_answers_iff _ (.readRole name)
  rw [← hanswers]
  constructor
  · intro hread
    exact ⟨true, hread⟩
  · rintro ⟨allowed, hallowed⟩
    obtain ⟨role, hrole, hbound, hopen⟩ := h
    obtain ⟨rule, hrule, hall⟩ := hopen.rules
    have hresolved : role ∈ service.roster.resolve principal.roles := by
      rw [service.roster.mem_resolve, hserves.roster]
      exact ⟨role.name, hbound, Roster.get?_of_mem hnames hrole⟩
    have hpermits := (Rule.authorizes_iff (hall (.readRole name))).mp rfl
    have htrue := (Permissions.isAllowed_iff hallowed).mpr ⟨role, hresolved, rule, hrule, hpermits⟩
    rw [Permissions.MayRead, hallowed, htrue]

theorem holds (h : principal.IsTrusted roles) (hnames : (roles.map Role.name).Nodup)
    (grant : Grant) : principal.Holds roles grant := by
  obtain ⟨role, hrole, hbound, hopen⟩ := h
  refine ⟨role.name, hbound, role, ?_, hopen.grants grant⟩
  rw [← Roster.get?_ofRoles, Roster.get?_of_mem hnames hrole]

theorem readableRoles_eq (h : principal.IsTrusted roles) (hnames : (roles.map Role.name).Nodup)
    (hserves : service.Serves roles settings)
    (hsettle : ∀ role ∈ roles, (service.permissionsOf principal).Settle (.readRole role.name)) :
    service.readableRoles (service.permissionsOf principal) = (Roster.ofRoles roles).listed := by
  rw [Service.readableRoles, hserves.roster, List.filter_eq_self]
  intro role hlisted
  have hrole := (Roster.listed_ofRoles_perm hnames).mem_iff.mp hlisted
  rw [Noted.passes_iff]
  exact (h.mayRead_iff hnames hserves role.name).mpr (hsettle role hrole)

/-- The list fails on a question without an answer alone. -/
theorem status_listRoles (h : principal.IsTrusted roles) (hnames : (roles.map Role.name).Nodup)
    (hdescribed : ∀ role ∈ roles, role.IsDescribed) (hserves : service.Serves roles settings)
    (hprincipal : list.credential.principal? = some (.ok principal)) :
    (Service.settle (service.listRoles list)).status ≠ 500 ↔
      ∀ role ∈ roles, (service.permissionsOf principal).Settle (.readRole role.name) := by
  have hgrant := Service.holds_permissionsOf hserves (h.holds hnames .readRoles)
  rw [Ne, Service.status_listRoles hprincipal, hserves.roster, Roster.roles_ofRoles hnames]
  constructor
  · intro hruns role hrole
    by_contra hnot
    exact hruns ⟨hgrant, role, hrole, .inl hnot⟩
  · rintro hsettle ⟨-, role, hrole, hnot | ⟨-, hnot⟩⟩
    · exact hnot (hsettle role hrole)
    · exact hnot (hdescribed role hrole)

end Principal.IsTrusted

/-- The trusted are answered with the documents of all roles, if all questions are settled. -/
theorem Request.Fetches.found_roles_iff (h : list.Fetches principal "/api/roles")
    (htrusted : principal.IsTrusted roles) (hnames : (roles.map Role.name).Nodup)
    (hdescribed : ∀ role ∈ roles, role.IsDescribed) (hserves : service.Serves roles settings)
    (documents : List Value) :
    (service.answer list).response = .found (.list documents) ↔
      (∀ role ∈ roles, (service.permissionsOf principal).Settle (.readRole role.name)) ∧
        (Roster.ofRoles roles).listed.mapM (fun role => role.document) = .ok documents := by
  have hruns := htrusted.status_listRoles hnames hdescribed hserves h.principal
  rw [h.roles_response]
  by_cases hsettle : ∀ role ∈ roles,
      (service.permissionsOf principal).Settle (.readRole role.name)
  · have hgrant := Service.holds_permissionsOf hserves (htrusted.holds hnames .readRoles)
    obtain ⟨answered, hanswered, hlist⟩ :=
      Service.listRoles_of_status h.principal hgrant (hruns.mpr hsettle)
    rw [htrusted.readableRoles_eq hnames hserves hsettle] at hanswered
    rw [hlist, hanswered, and_iff_right hsettle]
    simp [Response.found]
  · constructor
    · intro hfound
      exact absurd (hruns.mp (by simp [hfound, Response.found])) hsettle
    · rintro ⟨hall, -⟩
      exact absurd hall hsettle

end

/-! ## The laws -/

/-- Every name can stand as one step of a path. Someone to whom everything is open is listed the
roles of a configuration, all of them with their documents, exactly when the questions about their
names are settled. Each role that is listed is found under its name, with the same document, and so
are its mistakes, exactly when the name has no slash. -/
theorem a_listed_role_is_found_by_its_name_unless_it_has_a_slash
    {entries : List (Value × Value)} {roles : List Role} {settings : Settings} {service : Service}
    {principal : Principal} (hread : Role.ofConfiguration entries = .ok roles)
    (hdescribed : ∀ item ∈ (field entries Role.rolesField).items, Role.DescribesIn item)
    (hpatterns : ∀ role ∈ roles, role.IsReadable) (hserves : service.Serves roles settings)
    (htrusted : principal.IsTrusted roles) :
    (∀ name,
      (Request.get principal ("/api/roles/" ++ Address.escaped name)).Fetches principal
        (Route.rolePath name) ∧
      (Request.get principal ("/api/roles/" ++ Address.escaped name ++ "/validate")).Fetches
        principal (Route.roleAuditPath name)) ∧
    ∀ list, Request.Fetches list principal "/api/roles" →
      ((∃ documents, (service.answer list).response = .found (.list documents)) ↔
        ∀ role ∈ roles, (service.permissionsOf principal).Settle (.readRole role.name)) ∧
      ∀ documents, (service.answer list).response = .found (.list documents) →
        List.Forall₂ (fun role document => role.document = .ok document)
          (Roster.ofRoles roles).listed documents ∧
        ∀ document ∈ documents, ∃ role ∈ roles, ∃ problems,
          role.document = .ok document ∧ role.audit = .ok problems ∧
          ∀ single audit, Request.Fetches single principal (Route.rolePath role.name) →
            Request.Fetches audit principal (Route.roleAuditPath role.name) →
            ((service.answer single).response = .found document ↔ '/' ∉ role.name.toList) ∧
            ((service.answer audit).response = .audited role.name problems ↔
              '/' ∉ role.name.toList) := by
  obtain ⟨-, hvalues, hnames⟩ := Role.ofConfiguration_eq_ok_iff.mp hread
  have hdescriptions : ∀ role ∈ roles, role.IsDescribed := by
    intro role hrole
    obtain ⟨item, hitem, hvalue⟩ := mem_of_mapM hvalues hrole
    exact (Role.spells_of_ofValue hvalue).isDescribed (hdescribed item hitem)
  have hlistedMem : ∀ role, role ∈ (Roster.ofRoles roles).listed ↔ role ∈ roles :=
    fun _ => (Roster.listed_ofRoles_perm hnames).mem_iff
  refine ⟨?_, ?_⟩
  · intro name
    obtain ⟨hrole, haudit⟩ := Address.path_of_escaped_role name
    exact ⟨⟨⟨rfl, hrole⟩, rfl⟩, ⟨⟨rfl, haudit⟩, rfl⟩⟩
  intro list hlist
  have hfound := hlist.found_roles_iff htrusted hnames hdescriptions hserves
  refine ⟨?_, ?_⟩
  · simp only [hfound, exists_and_left, and_iff_left_iff_imp]
    intro _
    apply exists_mapM
    intro role hrole
    exact role.document_isOk_iff.mpr (hdescriptions role ((hlistedMem role).mp hrole))
  intro documents hanswer
  obtain ⟨hsettle, hdocuments⟩ := (hfound documents).mp hanswer
  refine ⟨mapM_eq_ok_iff.mp hdocuments, ?_⟩
  intro document hmem
  obtain ⟨role, hlisted, hdocument⟩ := mem_of_mapM hdocuments hmem
  have hrole := (hlistedMem role).mp hlisted
  obtain ⟨value, -, hvalue⟩ := mem_of_mapM hvalues hrole
  have hname := (Role.known_of_ofValue hvalue).name
  obtain ⟨problems, haudit⟩ :=
    role.audit_ok_iff.mpr (Role.isSound_of_isReadable (hpatterns role hrole))
  have hmay := (htrusted.mayRead_iff hnames hserves role.name).mpr (hsettle role hrole)
  have hget : service.roster.get? role.name = some role := by
    rw [hserves.roster, Roster.get?_of_mem hnames hrole]
  refine ⟨role, hrole, problems, hdocument, haudit, ?_⟩
  intro single audit hsingle haudits
  exact ⟨hsingle.found_role_iff hname hmay hget hdocument,
    haudits.found_audit_iff hname hmay hget haudit⟩

end

/-- The definition of a role to which everything is open. -/
def Role.keeperNamed (name : String) : List (Value × Value) :=
  [(.text "roles", .list [.map [
    (.text "name", .text name),
    (.text "rules", .list [
      .map [(.text "verbs", .list [.text "*"]), (.text "resources", .list [.text "*"])]]),
    (.text "grants", .list [.text "All"])]])]

/-- What this is read as. -/
def Role.keeper (name : String) : Role where
  name := name
  rules := [{ verbs := [.all], resources := [.all] }]
  grants := Grants.all

/-- Someone who is bound to that role. -/
def Principal.keeper (name : String) : Principal := ⟨"ada", [name]⟩

/-- A service with that role alone. -/
def Service.withKeeper (name : String) : Service where
  roster := Roster.ofRoles [Role.keeper name]
  settings := {}
  level := .info

theorem Role.isReadable_keeper (name : String) : ∀ role ∈ [keeper name], role.IsReadable := by
  simp [keeper, IsReadable]

theorem Principal.isTrusted_keeper (name : String) :
    (keeper name).IsTrusted [Role.keeper name] := by
  refine ⟨_, List.mem_singleton_self _, List.mem_singleton_self _, Grants.contains_all, ?_⟩
  refine ⟨_, List.mem_singleton_self _, ?_⟩
  exact Rule.authorizes_of_wildcards (List.mem_singleton_self _) (List.mem_singleton_self _) rfl rfl

theorem Service.serves_withKeeper (name : String) :
    (withKeeper name).Serves [Role.keeper name] {} := ⟨rfl, rfl⟩

/-- No question is left unsettled where there are no patterns. -/
theorem Service.settle_withKeeper (name : String) (inquiry : Inquiry) :
    ((withKeeper name).permissionsOf (.keeper name)).Settle inquiry := by
  have hsound : ∀ role ∈ [Role.keeper name], role.IsSound :=
    fun role hrole => Role.isSound_of_isReadable (Role.isReadable_keeper name role hrole)
  have hsearch : ∀ role ∈ [Role.keeper name], role.IsSearchable := by
    simp [Role.keeper, Role.IsSearchable]
  exact (serves_withKeeper name).settle hsound hsearch _ inquiry

theorem Request.fetches_list (principal : Principal) :
    (get principal "/api/roles").Fetches principal "/api/roles" := by
  have hpath : (Address.ofText "/api/roles").path = "/api/roles" := by cbv
  exact ⟨⟨rfl, hpath⟩, rfl⟩

/-- Who keeps a service is listed their own role. -/
theorem Service.list_withKeeper {name : String} {document : Value}
    (h : (Role.keeper name).document = .ok document) :
    ((withKeeper name).answer (.get (.keeper name) "/api/roles")).response =
      .found (.list [document]) := by
  have hdescribed : ∀ role ∈ [Role.keeper name], role.IsDescribed :=
    List.forall_mem_singleton.mpr ⟨_, rfl, rfl⟩
  rw [(Request.fetches_list _).found_roles_iff (Principal.isTrusted_keeper name)
    (List.nodup_singleton _) hdescribed (serves_withKeeper name)]
  refine ⟨fun role _ => settle_withKeeper name (.readRole role.name), ?_⟩
  have hlisted : (Roster.ofRoles [Role.keeper name]).listed = [Role.keeper name] :=
    List.mergeSort_singleton _
  rw [hlisted, mapM_eq_ok_iff]
  exact .cons h .nil

/-- Where no route leads along the path, and it ends in no slash, there is nothing. -/
theorem Service.status_of_not_reaches {service : Service} {request : Request} {address : Address}
    (haddress : Address.ofText request.address = address)
    (hreaches : Route.reaches (Route.all service.settings.debug) address.path = false)
    (hslashes : address.withoutSlashes = address) :
    (service.answer request).response.status = 404 := by
  have hnone : Route.endpoint? (Route.all service.settings.debug) request.method address.path =
      none := by
    rw [Route.endpoint?, List.findSome?_eq_none_iff]
    intro route hroute
    have hapart := List.any_eq_false.mp hreaches route hroute
    rw [Option.not_isSome_iff_eq_none] at hapart
    simp [hapart]
  have hnowhere : Route.destination (Route.all service.settings.debug) request.method address =
      .nowhere := by
    simp [Route.destination, hnone, hreaches, hslashes]
  simp [answer, haddress, hnowhere, Response.detail]

/-- A role with a slash in its name is listed, and found nowhere. -/
theorem a_role_with_a_slash_is_listed_and_not_found :
    Role.ofConfiguration (Role.keeperNamed "a/b") = .ok [Role.keeper "a/b"] ∧
    (Principal.keeper "a/b").IsTrusted [Role.keeper "a/b"] ∧
    Address.escaped "a/b" = "a%2Fb" ∧
    ∃ document, (Role.keeper "a/b").document = .ok document ∧
      ((Service.withKeeper "a/b").answer (.get (.keeper "a/b") "/api/roles")).response =
        .found (.list [document]) ∧
      ((Service.withKeeper "a/b").answer
        (.get (.keeper "a/b") "/api/roles/a%2Fb")).response.status = 404 ∧
      ((Service.withKeeper "a/b").answer
        (.get (.keeper "a/b") "/api/roles/a%2Fb/validate")).response.status = 404 := by
  have hescaped : Address.escaped "a/b" = "a%2Fb" := by cbv
  refine ⟨rfl, Principal.isTrusted_keeper "a/b", hescaped, _, rfl, Service.list_withKeeper rfl,
    ?_, ?_⟩
  · have hpath : Address.ofText "/api/roles/a%2Fb" = ⟨"/api/roles/a/b", ""⟩ := by cbv
    exact Service.status_of_not_reaches hpath (by cbv) (by cbv)
  · have hpath : Address.ofText "/api/roles/a%2Fb/validate" = ⟨"/api/roles/a/b/validate", ""⟩ := by
      cbv
    exact Service.status_of_not_reaches hpath (by cbv) (by cbv)

/-- A role that is named like a path is found at its own one. -/
theorem a_role_named_like_an_audit_is_found :
    Role.ofConfiguration (Role.keeperNamed "validate?") = .ok [Role.keeper "validate?"] ∧
    ∃ document, (Role.keeper "validate?").document = .ok document ∧
      ((Service.withKeeper "validate?").answer (.get (.keeper "validate?") "/api/roles")).response =
        .found (.list [document]) ∧
      ((Service.withKeeper "validate?").answer
        (.get (.keeper "validate?") "/api/roles/validate%3F")).response = .found document ∧
      ((Service.withKeeper "validate?").answer
        (.get (.keeper "validate?") "/api/roles/validate%3F/validate")).response =
          .audited "validate?" [] := by
  have hread : Role.ofConfiguration (Role.keeperNamed "validate?") =
      .ok [Role.keeper "validate?"] := rfl
  have hdescribed : ∀ item ∈ (field (Role.keeperNamed "validate?") Role.rolesField).items,
      Role.DescribesIn item := List.forall_mem_singleton.mpr (.inl rfl)
  have hescaped : Address.escaped (Role.keeper "validate?").name = "validate%3F" := by cbv
  have hslash : '/' ∉ (Role.keeper "validate?").name.toList := by decide
  obtain ⟨hpaths, hlisted⟩ := a_listed_role_is_found_by_its_name_unless_it_has_a_slash hread
    hdescribed (Role.isReadable_keeper _) (Service.serves_withKeeper _)
    (Principal.isTrusted_keeper _)
  obtain ⟨document, hdocument⟩ : ∃ document, (Role.keeper "validate?").document = .ok document :=
    ⟨_, rfl⟩
  have hlist := Service.list_withKeeper hdocument
  obtain ⟨-, hfound⟩ := (hlisted _ (Request.fetches_list _)).2 _ hlist
  obtain ⟨role, hrole, problems, -, hproblems, hall⟩ := hfound _ (List.mem_singleton_self _)
  cases List.mem_singleton.mp hrole
  have hnone : (Role.keeper "validate?").audit = .ok [] := by cbv
  cases hnone.symm.trans hproblems
  obtain ⟨hsingle, haudit⟩ := hpaths (Role.keeper "validate?").name
  have hboth := hall _ _ hsingle haudit
  rw [hescaped] at hboth
  exact ⟨hread, document, hdocument, hlist, hboth.1.mpr hslash, hboth.2.mpr hslash⟩

end DesktopPolicy
