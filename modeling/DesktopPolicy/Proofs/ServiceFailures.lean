-- Where the service fails. A configuration that is read, with patterns that can all be read, is
-- served; but what is read as a role need not have a document, what can be read as a pattern need
-- not be searched to an end, and what is refused cannot always be shown. On all other requests the
-- service does not fail.
import DesktopPolicy.Proofs.PatternAudit
import DesktopPolicy.Proofs.RoleGrammar
import DesktopPolicy.Proofs.Strangers

namespace DesktopPolicy

section

variable [Dialect]

/-! ## The pure model -/

/-- The pattern is a regular expression. -/
def Regex.IsReadable (pattern : String) : Prop := ∃ regex, compile pattern = .ok regex

/-- All patterns of the role are regular expressions. -/
def Role.IsReadable (role : Role) : Prop :=
  ∀ rule ∈ role.rules, ∀ pattern ∈ rule.patterns, Regex.IsReadable pattern

/-- No search for a pattern of the role fails. -/
def Role.IsSearchable (role : Role) : Prop :=
  ∀ rule ∈ role.rules, ∀ pattern ∈ rule.patterns, ∀ name, ¬ Regex.FailsOn name pattern

/-- The description of the role is a text, or bytes that are one. -/
def Role.IsDescribed (role : Role) : Prop :=
  ∃ v, role.description = .value v ∧ (Schema.spelled? v).isSome = true

/-- The value describes a role with a text, or says nothing in its place. -/
def Role.DescribesIn (v : Value) : Prop :=
  (field v.entries descriptionField).isFilled = false ∨
    (Schema.spelled? (field v.entries descriptionField)).isSome = true

mutual

/-- How many collections the value has one inside the other. -/
def Value.depth : Value → Nat
  | list items => depthOfItems items + 1
  | map entries => depthOfEntries entries + 1
  | _ => 0

def Value.depthOfItems : List Value → Nat
  | [] => 0
  | item :: rest => max item.depth (depthOfItems rest)

def Value.depthOfEntries : List (Value × Value) → Nat
  | [] => 0
  | (_, v) :: rest => max v.depth (depthOfEntries rest)

end

/-- The role of a name may be read. -/
def Permissions.MayRead (permissions : Permissions) (name : String) : Prop :=
  (permissions.isAllowed (.readRole name)).outcome = .ok true

/-- A check fails on a question that the permissions do not settle, and on an issue about something
that cannot be shown. -/
inductive Body.FailsCheck (permissions : Permissions) : Body → Prop
  | unsettled {fields : Schema.Fields} {inquiry : Inquiry} : inquiry.Fits fields →
      ¬ permissions.Settle inquiry → FailsCheck permissions (.json (.map fields))
  | unshown {body : Body} {issues : List Schema.Issue} {issue : Schema.Issue} :
      body.fields.bind Action.ofDocumentFields = .error issues → issue ∈ issues →
      (body.subject issue).isShowable = false → FailsCheck permissions body

/-- What the service fails on, for those with these permissions. -/
inductive Service.FailsOn (service : Service) (permissions : Permissions) (request : Request) :
    Endpoint → List (String × String) → Prop
  | check {body : Body} {parameters : List (String × String)} : Body.ofRequest request = .ok body →
      body.FailsCheck permissions → FailsOn service permissions request .check parameters
  | unsettledRole {endpoint : Endpoint} {name : String} : endpoint ∈ [.role, .roleAudit] →
      ¬ permissions.Settle (.readRole name) →
      FailsOn service permissions request endpoint [(Route.roleParameter, name)]
  | undescribedRole {name : String} {role : Role} : permissions.MayRead name →
      service.roster.get? name = some role → ¬ role.IsDescribed →
      FailsOn service permissions request .role [(Route.roleParameter, name)]
  | unsettledList {role : Role} {parameters : List (String × String)} :
      permissions.grants.has (Grants.single .readRoles).mask = true → role ∈ service.roster.roles →
      ¬ permissions.Settle (.readRole role.name) →
      FailsOn service permissions request .roles parameters
  | undescribedList {role : Role} {parameters : List (String × String)} :
      permissions.grants.has (Grants.single .readRoles).mask = true → role ∈ service.roster.roles →
      permissions.MayRead role.name → ¬ role.IsDescribed →
      FailsOn service permissions request .roles parameters

/-- The service fails on a request that leads someone who is believed to one of these. -/
def Service.Fails (service : Service) (request : Request) : Prop :=
  ∃ principal endpoint parameters, request.credential.principal? = some (.ok principal) ∧
    Route.destination (Route.all service.settings.debug) request.method
      (Address.ofText request.address) = .endpoint endpoint parameters ∧
    service.FailsOn (service.permissionsOf principal) request endpoint parameters

/-! ## Documents -/

omit [Dialect] in
theorem Role.document_isOk_iff (role : Role) :
    (∃ document, role.document = .ok document) ↔ role.IsDescribed := by
  constructor
  · rintro ⟨document, h⟩
    obtain ⟨text, htext, -⟩ := map_eq_ok_iff.mp h
    rw [Schema.within_eq_ok_iff] at htext
    rcases hd : role.description with v | torn
    · rw [hd, Description.checked, Schema.text_eq_ok_iff] at htext
      exact ⟨v, hd, by rw [htext]; rfl⟩
    · rw [hd] at htext
      cases htext
  · rintro ⟨v, hv, hspelled⟩
    obtain ⟨text, htext⟩ := Option.isSome_iff_exists.mp hspelled
    have hchecked : role.description.checked = .ok text := by
      rw [hv, Description.checked, Schema.text_eq_ok_iff, htext]
    rw [document, hchecked]
    exact ⟨_, rfl⟩

namespace Service

omit [Dialect] in
theorem status_rolesResponse (roles : List Role) :
    (rolesResponse roles).status = 500 ↔ ∃ role ∈ roles, ¬ role.IsDescribed := by
  constructor
  · intro h
    by_contra hnone
    have hdocuments : ∀ role ∈ roles, ∃ document, role.document = .ok document := by
      intro role hrole
      by_contra hnot
      exact hnone ⟨role, hrole, mt role.document_isOk_iff.mpr hnot⟩
    obtain ⟨documents, hmap⟩ := exists_mapM hdocuments
    rw [rolesResponse_of_documents hmap] at h
    cases h
  · rintro ⟨role, hrole, hnot⟩
    by_contra h
    obtain ⟨documents, hmap, -⟩ := rolesResponse_of_status h
    obtain ⟨document, -, hdocument⟩ := mem_mapM hmap hrole
    exact hnot (role.document_isOk_iff.mp ⟨document, hdocument⟩)

/-! ## Endpoints -/

section

variable {service : Service} {request : Request} {principal : Principal}

theorem listRoles_response_of_not_has
    (hprincipal : request.credential.principal? = some (.ok principal))
    (hgrant :
      (service.permissionsOf principal).grants.has (Grants.single .readRoles).mask = false) :
    settle (service.listRoles request) =
      .detail 403 (Denial.missingGrant (Grants.single .readRoles)).detail := by
  have hpass := service.pass_outcome hprincipal (.grants (Grants.single .readRoles)) []
  rw [Gate.require, Gate.requireGrant, if_neg (by simp [hgrant])] at hpass
  rw [listRoles_eq, settle_of_error _ hpass]
  rfl

theorem status_listRoles (hprincipal : request.credential.principal? = some (.ok principal)) :
    (settle (service.listRoles request)).status = 500 ↔
      (service.permissionsOf principal).grants.has (Grants.single .readRoles).mask = true ∧
        ∃ role ∈ service.roster.roles,
          ¬ (service.permissionsOf principal).Settle (.readRole role.name) ∨
            (service.permissionsOf principal).MayRead role.name ∧ ¬ role.IsDescribed := by
  rcases hgrant : (service.permissionsOf principal).grants.has (Grants.single .readRoles).mask
  · simp [listRoles_response_of_not_has hprincipal hgrant, Response.detail]
  rw [listRoles_response hprincipal hgrant]
  have hlisted : ∀ role, role ∈ service.roster.listed ↔ role ∈ service.roster.roles :=
    fun _ => service.roster.listed_perm.mem_iff
  have hanswers : ∀ name, ((service.permissionsOf principal).isAllowed (.readRole name)).Answers ↔
      (service.permissionsOf principal).Settle (.readRole name) :=
    fun name => Permissions.isAllowed_answers_iff _ (.readRole name)
  by_cases hall : ∀ name ∈ service.roster.listed.map Role.name,
      ((service.permissionsOf principal).isAllowed (.readRole name)).Answers
  · have hsettle : ∀ role ∈ service.roster.roles,
        (service.permissionsOf principal).Settle (.readRole role.name) := by
      intro role hrole
      exact (hanswers role.name).mp (hall _ (List.mem_map_of_mem ((hlisted role).mpr hrole)))
    rw [settle_readable_of_answers hall, ← readableRoles, status_rolesResponse]
    simp only [mem_readableRoles]
    constructor
    · rintro ⟨role, ⟨hrole, hread⟩, hdescribed⟩
      exact ⟨trivial, role, hrole, .inr ⟨hread, hdescribed⟩⟩
    · rintro ⟨-, role, hrole, hfails | ⟨hread, hdescribed⟩⟩
      · exact absurd (hsettle role hrole) hfails
      · exact ⟨role, ⟨hrole, hread⟩, hdescribed⟩
  · -- a name without an answer fails the whole list
    have hsome : ∃ name ∈ service.roster.listed.map Role.name,
        ¬ ((service.permissionsOf principal).isAllowed (.readRole name)).Answers := by
      simpa using hall
    rw [settle_readable_of_not_answers hsome]
    obtain ⟨name, hname, hfails⟩ := hsome
    obtain ⟨role, hrole, rfl⟩ := List.mem_map.mp hname
    rw [hanswers] at hfails
    exact ⟨fun _ => ⟨rfl, role, (hlisted role).mp hrole, .inl hfails⟩, fun _ => rfl⟩

end

end Service

end

/-! ## Requests -/

namespace Route

/-- The names of the parameters in a path. -/
def names (segments : List Segment) : List String :=
  segments.filterMap fun
    | .fixed _ => none
    | .parameter name => some name

theorem map_fst_of_bind {segments : List Segment} {parts : List String}
    {parameters : List (String × String)} (h : bind segments parts = some parameters) :
    parameters.map Prod.fst = names segments := by
  fun_induction bind segments parts generalizing parameters with
  | case1 => cases h; rfl
  | case2 => cases h; rfl
  | case4 word segments part parts _ _ ih => exact ih h
  | case7 name segments part parts _ ih =>
    obtain ⟨later, hlater, rfl⟩ := Option.map_eq_some_iff.mp h
    rw [List.map_cons, ih hlater]
    rfl
  | _ => cases h

theorem names_of_role (debug : Bool) :
    ∀ route ∈ all debug, route.endpoint ∈ [Endpoint.role, .roleAudit] →
      names route.segments = [roleParameter] := by
  cases debug <;> decide

/-- A path that leads to a role has the name of the role as its one parameter. -/
theorem parameters_of_role {debug : Bool} {method : String} {address : Address}
    {endpoint : Endpoint} {parameters : List (String × String)}
    (h : destination (all debug) method address = .endpoint endpoint parameters)
    (hrole : endpoint ∈ [Endpoint.role, .roleAudit]) :
    ∃ name, parameters = [(roleParameter, name)] := by
  obtain ⟨route, hroute, rfl, hparameters⟩ := exists_route h
  obtain ⟨parts, -, hbind⟩ := Option.bind_eq_some_iff.mp hparameters
  have hnames := map_fst_of_bind hbind
  rw [names_of_role debug route hroute hrole, List.map_eq_singleton_iff] at hnames
  obtain ⟨⟨_, name⟩, rfl, rfl⟩ := hnames
  exact ⟨name, rfl⟩

end Route

section

variable [Dialect]

namespace Service

variable {service : Service} {request : Request} {principal : Principal}

section

variable {permissions : Permissions} {parameters : List (String × String)}

end

/-- Where a request leads to no endpoint, it is told so, or led elsewhere. -/
theorem exists_endpoint {status : Nat} (h : (service.answer request).response.status = status)
    (hstatus : status ∉ [307, 404, 405]) :
    ∃ endpoint parameters, Route.destination (Route.all service.settings.debug) request.method
      (Address.ofText request.address) = .endpoint endpoint parameters := by
  unfold answer at h
  simp only at h
  split at h
  · exact ⟨_, _, ‹_›⟩
  all_goals
    subst h
    simp [Response.detail] at hstatus

end Service

end

/-! ## Issues -/

namespace Schema

/-- What is wrong is wrong with the value itself. -/
def IsPlain {α : Type} (checked : Checked α) : Prop :=
  FailsOnlyWith (fun issues => ∀ issue ∈ issues, issue.path = []) checked

/-- What is wrong is wrong with one of these fields. -/
def NamesOnly {α : Type} (names : List String) (checked : Checked α) : Prop :=
  FailsOnlyWith (fun issues => ∀ issue ∈ issues, ∃ name ∈ names, issue.path = [.field name]) checked

section

variable {α β : Type} {names : List String}

theorem IsPlain.within {checked : Checked α} (h : IsPlain checked) {name : String}
    (hname : name ∈ names) : NamesOnly names (within (.field name) checked) := by
  intro issues hissues
  rcases checked with inner | a
  · cases hissues
    intro issue hissue
    obtain ⟨first, hfirst, rfl⟩ := List.mem_map.mp hissue
    exact ⟨name, hname, by rw [Issue.within, h inner rfl first hfirst]⟩
  · cases hissues

theorem NamesOnly.both {f : Checked (α → β)} {checked : Checked α} (hf : NamesOnly names f)
    (h : NamesOnly names checked) : NamesOnly names (both f checked) := by
  intro issues hissues issue hissue
  rcases f with before | f <;> rcases checked with after | a <;> cases hissues
  · rcases List.mem_append.mp hissue with hmem | hmem
    · exact hf _ rfl issue hmem
    · exact h _ rfl issue hmem
  · exact hf _ rfl issue hissue
  · exact h _ rfl issue hissue

end

end Schema

/-- The fields of an action. -/
def Action.fieldNames : List String := [verbField, resourceField, nameField, namespaceField]

namespace Value

end Value

theorem Role.Spells.isDescribed {v : Value} {role : Role} (hspells : Spells v role)
    (h : DescribesIn v) : role.IsDescribed := by
  refine ⟨_, hspells.description, ?_⟩
  split
  · rename_i hfilled
    rcases h with hnone | htext
    · rw [hnone] at hfilled
      cases hfilled
    · exact htext
  · rfl

section

variable [Dialect]

/-! ## Searches -/

instance (pattern : String) : Decidable (Regex.IsReadable pattern) :=
  match h : Regex.compile pattern with
  | .ok regex => .isTrue ⟨regex, h⟩
  | .error fault => .isFalse (by
      rintro ⟨regex, hregex⟩
      rw [h] at hregex
      cases hregex)

theorem Role.isSound_of_isReadable {role : Role} (h : role.IsReadable) : role.IsSound := by
  rintro rule hrule pattern hpattern ⟨refusal, hrefused⟩
  obtain ⟨regex, hregex⟩ := h rule hrule pattern hpattern
  rw [hregex] at hrefused
  cases hrefused

/-- Where no search fails, every question about a name is settled. -/
theorem Rule.settlesName_of_searchable {rule : Rule} (hsound : rule.IsSound) {name : String}
    (h : ∀ pattern ∈ rule.patterns, ¬ Regex.FailsOn name pattern) : rule.SettlesName name := by
  rw [settlesName_iff_of_isSound hsound]
  intro before pattern after hpatterns hfails
  exact absurd hfails (h pattern (by simp [hpatterns]))

theorem Permissions.settle_of_searchable {roles : List Role} {skipEmpty : Bool}
    (hsound : ∀ role ∈ roles, role.IsSound) (h : ∀ role ∈ roles, role.IsSearchable)
    (inquiry : Inquiry) : (ofRoles roles skipEmpty).Settle inquiry := by
  intro before rule after hrules hfails
  have hmem : rule ∈ (ofRoles roles skipEmpty).rules := by simp [hrules]
  obtain ⟨⟨role, hrole, hrule⟩, -⟩ := Role.of_mem_unionRules hmem
  refine absurd ?_ hfails
  intro _ _ name _
  exact Rule.settlesName_of_searchable (hsound role hrole rule hrule)
    fun pattern hpattern => h role hrole rule hrule pattern hpattern name

omit [Dialect] in
theorem Role.mem_of_lastNamed? {roles : List Role} {name : String} {role : Role}
    (h : lastNamed? roles name = some role) : role ∈ roles :=
  List.mem_reverse.mp (List.mem_of_find?_eq_some h)

namespace Service.Serves

variable {service : Service} {roles : List Role} {settings : Settings}

omit [Dialect] in
theorem mem_of_get? (h : service.Serves roles settings) {name : String} {role : Role}
    (hrole : service.roster.get? name = some role) : role ∈ roles := by
  rw [h.roster, Roster.get?_ofRoles] at hrole
  exact Role.mem_of_lastNamed? hrole

/-- Without a failing search, every question of every principal is settled. -/
theorem settle (h : service.Serves roles settings) (hsound : ∀ role ∈ roles, role.IsSound)
    (hsearch : ∀ role ∈ roles, role.IsSearchable) (principal : Principal) (inquiry : Inquiry) :
    (service.permissionsOf principal).Settle inquiry := by
  have hmem : ∀ role ∈ service.roster.resolve principal.roles, role ∈ roles := by
    intro role hrole
    obtain ⟨name, -, hget⟩ := (service.roster.mem_resolve _ _).mp hrole
    exact h.mem_of_get? hget
  exact Permissions.settle_of_searchable (fun role hrole => hsound role (hmem role hrole))
    (fun role hrole => hsearch role (hmem role hrole)) inquiry

end Service.Serves

/-! ## The laws -/

end

end DesktopPolicy
