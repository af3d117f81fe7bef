-- The grammar of role definitions. It is told here without the readers: which values define a rule,
-- a role, and a list of roles, and what they say. The readers accept exactly these values, give back
-- what they say, and refuse all others as values that do not fit.
import DesktopPolicy.Proofs.RoleRoundTrip

namespace DesktopPolicy

/-! ## The pure model -/

namespace Value

/-- The items of a list. Any other value has none. -/
def items : Value → List Value
  | list items => items
  | _ => []

/-- The entries of a map. Any other value has none. -/
def entries : Value → List (Value × Value)
  | map entries => entries
  | _ => []

/-- A list, or null in its place. -/
def IsListOrNull (v : Value) : Prop := v = null ∨ ∃ items, v = list items

/-- A list of such items, or any value in its place that says nothing. -/
def ListsOnly (p : Value → Prop) (v : Value) : Prop :=
  v.isFilled = false ∨ ∃ items, v = list items ∧ ∀ item ∈ items, p item

end Value

/-- The patterns of a rule: what stands under their written name or, when that is null, under their
other name. -/
def Rule.patternsValue (entries : List (Value × Value)) : Value :=
  match field entries patternsField with
  | .null => field entries patternsOtherField
  | v => v

/-- The value defines a rule. -/
inductive Rule.IsDefinition : Value → Prop
  | null : IsDefinition .null
  | map {entries : List (Value × Value)} : (field entries verbsField).IsListOrNull →
      (field entries resourcesField).IsListOrNull → (patternsValue entries).IsListOrNull →
      (field entries namespacesField).IsListOrNull → IsDefinition (.map entries)

/-- The rule has what the value lists, each item as its text. -/
structure Rule.Spells (v : Value) (rule : Rule) : Prop where
  verbs : rule.verbWords = (field v.entries verbsField).items.map Value.toText
  resources : rule.resourceWords = (field v.entries resourcesField).items.map Value.toText
  patterns : rule.patterns = (patternsValue v.entries).items.map Value.toText
  namespaces : rule.namespaces = (field v.entries namespacesField).items.map Value.toText

/-- The value is the name of a grant, or the name of all grants. -/
def Grants.IsName (v : Value) : Prop :=
  v = .text Grant.allName ∨ ∃ grant : Grant, v = .text grant.name

/-- The value defines a role. -/
inductive Role.IsDefinition : Value → Prop
  | map {entries : List (Value × Value)} : (field entries nameField).isFilled = true →
      (field entries rulesField).ListsOnly Rule.IsDefinition →
      (field entries grantsField).ListsOnly Grants.IsName → IsDefinition (.map entries)

/-- The name that the value gives to a role. -/
def Role.nameIn (v : Value) : String := (field v.entries nameField).toText

/-- The role has what the value says of it. -/
structure Role.Spells (v : Value) (role : Role) : Prop where
  name : role.name = nameIn v
  rules : List.Forall₂ Rule.Spells (field v.entries rulesField).items role.rules
  grants : ∀ grant : Grant, role.grants.contains grant = true ↔
    .text grant.name ∈ (field v.entries grantsField).items ∨
      .text Grant.allName ∈ (field v.entries grantsField).items
  description : role.description = .value (
    if (field v.entries descriptionField).isFilled then field v.entries descriptionField else .text "")

/-- The entries define a list of roles, no two of them with one name. -/
structure Role.AreDefinitions (entries : List (Value × Value)) : Prop where
  roles : (field entries rolesField).ListsOnly Role.IsDefinition
  names : ((field entries rolesField).items.map Role.nameIn).Nodup

/-- What kind of thing is wrong. -/
inductive FaultKind where
  /-- A value does not fit. -/
  | value
  /-- Something of this type cannot be used at all. -/
  | type
  deriving DecidableEq

/-- The kind of a fault. -/
def DefinitionFault.faultKind : DefinitionFault → FaultKind
  | grantNames _ => .type
  | _ => .value

/-! ## Faults on the way -/

/-- The outcome is no fault but one of these. -/
def FailsOnlyWith {ε α : Type} (p : ε → Prop) (outcome : Except ε α) : Prop :=
  ∀ fault, outcome = .error fault → p fault

namespace FailsOnlyWith

variable {ε α β : Type} {p : ε → Prop}

theorem ok (a : α) : FailsOnlyWith p (.ok a) := by
  rintro fault ⟨⟩

theorem error {fault : ε} (h : p fault) : FailsOnlyWith p (.error fault : Except ε α) := by
  rintro other ⟨⟩
  exact h

theorem bind {x : Except ε α} {f : α → Except ε β} (hx : FailsOnlyWith p x)
    (hf : ∀ a, FailsOnlyWith p (f a)) : FailsOnlyWith p (x >>= f) := by
  intro fault h
  rcases x with e | a
  · cases h
    exact hx _ rfl
  · exact hf a fault h

theorem map {x : Except ε α} {f : α → β} (hx : FailsOnlyWith p x) : FailsOnlyWith p (x.map f) := by
  intro fault h
  rcases x with e | a
  · cases h
    exact hx _ rfl
  · cases h

theorem mapM {f : α → Except ε β} (hf : ∀ a, FailsOnlyWith p (f a)) (as : List α) :
    FailsOnlyWith p (as.mapM f) := by
  induction as with
  | nil => exact ok []
  | cons a rest ih =>
    rw [List.mapM_cons]
    exact (hf a).bind fun b => ih.bind fun later => ok (b :: later)

theorem foldlM {f : β → α → Except ε β} (hf : ∀ b a, FailsOnlyWith p (f b a)) (start : β)
    (as : List α) : FailsOnlyWith p (as.foldlM f start) := by
  induction as generalizing start with
  | nil => exact ok start
  | cons a rest ih =>
    rw [List.foldlM_cons]
    exact (hf start a).bind ih

end FailsOnlyWith

/-! ## Lists -/

/-- A value that says nothing has no items. -/
theorem Value.items_of_not_filled {v : Value} (h : v.isFilled = false) : v.items = [] := by
  cases v with
  | list items =>
    have hnil : items = [] := by simpa [isFilled] using h
    exact hnil
  | _ => rfl

theorem Value.listsOnly_iff {p : Value → Prop} {v : Value} :
    v.ListsOnly p ↔ (v.isFilled = false ∨ ∃ items, v = list items) ∧ ∀ item ∈ v.items, p item := by
  constructor
  · rintro (h | ⟨items, rfl, h⟩)
    · simp [h, items_of_not_filled h]
    · exact ⟨.inr ⟨items, rfl⟩, h⟩
  · rintro ⟨h | ⟨items, rfl⟩, hitems⟩
    · exact .inl h
    · exact .inr ⟨items, rfl, hitems⟩

theorem Role.itemsOr_eq_ok_iff {fault : DefinitionFault} {v : Value} {items : List Value} :
    itemsOr fault v = .ok items ↔
      (v.isFilled = false ∨ ∃ listed, v = .list listed) ∧ v.items = items := by
  unfold itemsOr
  by_cases hfilled : v.isFilled = true
  · cases v <;> simp [hfilled, Value.items]
  · have hitems : v.items = [] := Value.items_of_not_filled (by simpa using hfilled)
    simp [hfilled, hitems]

theorem Rule.listField_eq_ok_iff {entries : List (Value × Value)} {name : String}
    {items : List Value} :
    listField entries name = .ok items ↔
      (field entries name).IsListOrNull ∧ (field entries name).items = items := by
  unfold listField
  cases field entries name <;> simp [Value.IsListOrNull, Value.items]

/-! ## Rules -/

namespace Rule

theorem field_patternsName (entries : List (Value × Value)) :
    field entries (patternsName entries) = patternsValue entries := by
  unfold patternsName patternsValue
  cases h : field entries patternsField <;> simp [Value.isNull, h]

theorem ofEntries_ok_iff (entries : List (Value × Value)) :
    (∃ rule, ofEntries entries = .ok rule) ↔ IsDefinition (.map entries) := by
  simp only [ofEntries, bind_eq_ok_iff, listField_eq_ok_iff, field_patternsName]
  constructor
  · rintro ⟨rule, verbs, ⟨hverbs, -⟩, resources, ⟨hresources, -⟩, patterns, ⟨hpatterns, -⟩, spaces,
      ⟨hspaces, -⟩, -⟩
    exact .map hverbs hresources hpatterns hspaces
  · rintro (_ | ⟨hverbs, hresources, hpatterns, hspaces⟩)
    exact ⟨_, _, ⟨hverbs, rfl⟩, _, ⟨hresources, rfl⟩, _, ⟨hpatterns, rfl⟩, _, ⟨hspaces, rfl⟩, rfl⟩

theorem spells_of_ofEntries {entries : List (Value × Value)} {rule : Rule}
    (h : ofEntries entries = .ok rule) : Spells (.map entries) rule := by
  simp only [ofEntries, bind_eq_ok_iff, listField_eq_ok_iff, field_patternsName] at h
  obtain ⟨_, ⟨-, rfl⟩, _, ⟨-, rfl⟩, _, ⟨-, rfl⟩, _, ⟨-, rfl⟩, h⟩ := h
  cases h
  constructor
  · simp [verbWords, Verb.word_ofWord, Value.entries]
  · simp [resourceWords, Resource.word_ofWord, Value.entries]
  · rfl
  · rfl

theorem ofValue_ok_iff (v : Value) : (∃ rule, ofValue v = .ok rule) ↔ IsDefinition v := by
  cases v with
  | null =>
    constructor
    · intro _
      exact .null
    · intro _
      exact ⟨{}, rfl⟩
  | map entries => exact ofEntries_ok_iff entries
  | _ =>
    constructor
    · rintro ⟨rule, ⟨⟩⟩
    · rintro ⟨⟩

theorem spells_of_ofValue {v : Value} {rule : Rule} (h : ofValue v = .ok rule) : Spells v rule := by
  cases v with
  | null =>
    cases h
    exact ⟨rfl, rfl, rfl, rfl⟩
  | map entries => exact spells_of_ofEntries h
  | _ => cases h

end Rule

/-! ## Grants -/

namespace Grants

theorem ofNameValue_eq_ok_iff {v : Value} {grants : Grants} :
    ofNameValue v = .ok grants ↔ (v = .text Grant.allName ∧ grants = all) ∨
      ∃ grant : Grant, v = .text grant.name ∧ grants = single grant := by
  constructor
  · intro h
    cases v with
    | text name =>
      simp only [ofNameValue, ofName?] at h
      by_cases hall : name = Grant.allName
      · simp only [hall, beq_self_eq_true, if_true, Except.ok.injEq] at h
        exact .inl ⟨by rw [hall], h.symm⟩
      · rw [if_neg (by simpa using hall)] at h
        rcases hgrant : Grant.ofName? name with _ | grant
        · rw [hgrant] at h
          cases h
        · rw [hgrant] at h
          cases h
          have hname : grant.name = name := by simpa using List.find?_some hgrant
          exact .inr ⟨grant, by rw [hname], rfl⟩
    | _ => cases h
  · rintro (⟨rfl, rfl⟩ | ⟨grant, rfl, rfl⟩)
    · rfl
    · exact ofNameValue_name grant

theorem ofNameValue_ok_iff (v : Value) : (∃ set, ofNameValue v = .ok set) ↔ IsName v := by
  simp only [ofNameValue_eq_ok_iff]
  constructor
  · rintro ⟨_, ⟨rfl, -⟩ | ⟨grant, rfl, -⟩⟩
    · exact .inl rfl
    · exact .inr ⟨grant, rfl⟩
  · rintro (rfl | ⟨grant, rfl⟩)
    · exact ⟨all, .inl ⟨rfl, rfl⟩⟩
    · exact ⟨single grant, .inr ⟨grant, rfl, rfl⟩⟩

/-- The names are read one by one, and what they stand for is united. -/
theorem foldlM_eq_ok_iff {names : List Value} {start grants : Grants} :
    names.foldlM (fun grants name => (ofNameValue name).map grants.union) start = .ok grants ↔
      ∃ sets, names.mapM ofNameValue = .ok sets ∧ sets.foldl union start = grants := by
  induction names generalizing start with
  | nil =>
    constructor
    · intro h
      cases h
      exact ⟨[], rfl, rfl⟩
    · rintro ⟨_, ⟨⟩, rfl⟩
      rfl
  | cons name rest ih =>
    rw [List.foldlM_cons, List.mapM_cons]
    rcases ofNameValue name with fault | named
    · constructor
      · rintro ⟨⟩
      · rintro ⟨_, ⟨⟩, -⟩
    · have hfirst : ((Except.ok named).map start.union : Except DefinitionFault Grants) =
          .ok (start.union named) := rfl
      simp only [hfirst, bind_eq_ok_iff, Except.ok.injEq, exists_eq_left', ih]
      constructor
      · rintro ⟨sets, hsets, rfl⟩
        exact ⟨named :: sets, ⟨sets, hsets, rfl⟩, rfl⟩
      · rintro ⟨_, ⟨sets, hsets, ⟨⟩⟩, rfl⟩
        exact ⟨sets, hsets, rfl⟩

theorem ofNames_eq_ok_iff {names : List Value} {grants : Grants} :
    ofNames names = .ok grants ↔
      ∃ sets, names.mapM ofNameValue = .ok sets ∧ unions sets = grants :=
  foldlM_eq_ok_iff

theorem ofNames_ok_iff (names : List Value) :
    (∃ grants, ofNames names = .ok grants) ↔ ∀ name ∈ names, IsName name := by
  simp only [ofNames_eq_ok_iff]
  constructor
  · rintro ⟨_, sets, hsets, -⟩ name hname
    obtain ⟨set, -, hset⟩ := mem_mapM hsets hname
    exact (ofNameValue_ok_iff name).mp ⟨set, hset⟩
  · intro h
    have heach : ∀ name ∈ names, ∃ set, ofNameValue name = .ok set :=
      fun name hname => (ofNameValue_ok_iff name).mpr (h name hname)
    obtain ⟨sets, hsets⟩ := exists_mapM heach
    exact ⟨_, sets, hsets, rfl⟩

theorem contains_all (grant : Grant) : all.contains grant = true := by
  cases grant <;> decide

/-- What names stand for has the grants that are named, and every grant if all are. -/
theorem contains_ofNames {names : List Value} {grants : Grants} (h : ofNames names = .ok grants)
    (grant : Grant) : grants.contains grant = true ↔
      .text grant.name ∈ names ∨ .text Grant.allName ∈ names := by
  obtain ⟨sets, hsets, rfl⟩ := ofNames_eq_ok_iff.mp h
  rw [contains_unions, List.any_eq_true]
  constructor
  · rintro ⟨set, hset, hcontains⟩
    obtain ⟨name, hname, hread⟩ := mem_of_mapM hsets hset
    rcases ofNameValue_eq_ok_iff.mp hread with ⟨rfl, -⟩ | ⟨one, rfl, rfl⟩
    · exact .inr hname
    · rw [contains_single, decide_eq_true_eq] at hcontains
      exact .inl (hcontains ▸ hname)
  · rintro (hname | hname)
    · obtain ⟨set, hset, hread⟩ := mem_mapM hsets hname
      rw [ofNameValue_name] at hread
      cases hread
      exact ⟨_, hset, by rw [contains_single, decide_eq_true_eq]⟩
    · obtain ⟨set, hset, hread⟩ := mem_mapM hsets hname
      cases hread
      exact ⟨_, hset, contains_all grant⟩

end Grants

/-! ## Roles -/

namespace Role

/-- The steps by which entries are read as a role. -/
theorem ofEntries_eq_ok_iff {entries : List (Value × Value)} {role : Role} :
    ofEntries entries = .ok role ↔ (field entries nameField).isFilled = true ∧
      (∃ listed, itemsOr (.roleField (field entries nameField).toText rulesField)
        (field entries rulesField) = .ok listed ∧ listed.mapM Rule.ofValue = .ok role.rules) ∧
      (∃ listed, itemsOr (.roleField (field entries nameField).toText grantsField)
        (field entries grantsField) = .ok listed ∧ Grants.ofNames listed = .ok role.grants) ∧
      role.name = (field entries nameField).toText ∧
      role.description = .value (if (field entries descriptionField).isFilled then
        field entries descriptionField else .text "") := by
  unfold ofEntries
  by_cases hfilled : (field entries nameField).isFilled = true
  swap
  · simp [hfilled]
  simp only [hfilled, Bool.not_true, Bool.false_eq_true, if_false, bind_eq_ok_iff, true_and]
  constructor
  · rintro ⟨ruleItems, hruleItems, grantItems, hgrantItems, rules, hrules, grants, hgrants, ⟨⟩⟩
    exact ⟨⟨ruleItems, hruleItems, hrules⟩, ⟨grantItems, hgrantItems, hgrants⟩, rfl, rfl⟩
  · rintro ⟨⟨ruleItems, hruleItems, hrules⟩, ⟨grantItems, hgrantItems, hgrants⟩, hname, hdescription⟩
    refine ⟨ruleItems, hruleItems, grantItems, hgrantItems, _, hrules, _, hgrants, ?_⟩
    rw [← hname, ← hdescription]
    rfl

theorem ofEntries_ok_iff (entries : List (Value × Value)) :
    (∃ role, ofEntries entries = .ok role) ↔ IsDefinition (.map entries) := by
  simp only [ofEntries_eq_ok_iff, itemsOr_eq_ok_iff]
  constructor
  · rintro ⟨role, hname, ⟨_, ⟨hrules, rfl⟩, hread⟩, ⟨_, ⟨hgrants, rfl⟩, hnamed⟩, -, -⟩
    refine .map hname ?_ ?_
    · rw [Value.listsOnly_iff]
      refine ⟨hrules, ?_⟩
      intro item hitem
      obtain ⟨rule, -, hrule⟩ := mem_mapM hread hitem
      exact (Rule.ofValue_ok_iff item).mp ⟨rule, hrule⟩
    · rw [Value.listsOnly_iff]
      exact ⟨hgrants, (Grants.ofNames_ok_iff _).mp ⟨_, hnamed⟩⟩
  · rintro ⟨hname, hrules, hgrants⟩
    rw [Value.listsOnly_iff] at hrules hgrants
    obtain ⟨rules, hread⟩ := exists_mapM fun item hitem =>
      (Rule.ofValue_ok_iff item).mpr (hrules.2 item hitem)
    obtain ⟨grants, hnamed⟩ := (Grants.ofNames_ok_iff _).mpr hgrants.2
    exact ⟨⟨_, rules, grants, _⟩, hname, ⟨_, ⟨hrules.1, rfl⟩, hread⟩, ⟨_, ⟨hgrants.1, rfl⟩, hnamed⟩,
      rfl, rfl⟩

theorem spells_of_ofEntries {entries : List (Value × Value)} {role : Role}
    (h : ofEntries entries = .ok role) : Spells (.map entries) role := by
  simp only [ofEntries_eq_ok_iff, itemsOr_eq_ok_iff] at h
  obtain ⟨-, ⟨_, ⟨-, rfl⟩, hread⟩, ⟨_, ⟨-, rfl⟩, hnamed⟩, hname, hdescription⟩ := h
  refine ⟨hname, ?_, Grants.contains_ofNames hnamed, hdescription⟩
  exact (mapM_eq_ok_iff.mp hread).imp fun _ _ => Rule.spells_of_ofValue

theorem ofValue_ok_iff (v : Value) : (∃ role, ofValue v = .ok role) ↔ IsDefinition v := by
  cases v with
  | map entries => exact ofEntries_ok_iff entries
  | _ =>
    constructor
    · rintro ⟨role, ⟨⟩⟩
    · rintro ⟨⟩

theorem spells_of_ofValue {v : Value} {role : Role} (h : ofValue v = .ok role) : Spells v role := by
  cases v with
  | map entries => exact spells_of_ofEntries h
  | _ => cases h

/-! ## Lists of roles -/

/-- Behind roles of different names, all definitions are read, as long as no name comes twice. -/
theorem ofDefinitions_eq_ok_iff {before : List Role} (hbefore : (before.map name).Nodup)
    {definitions : List Definition} {roles : List Role} :
    ofDefinitions before definitions = .ok roles ↔
      ∃ read, definitions.mapM ofDefinition = .ok read ∧
        before ++ read = roles ∧ ((before ++ read).map name).Nodup := by
  induction definitions generalizing before with
  | nil =>
    constructor
    · intro h
      cases h
      exact ⟨[], rfl, by simp, by simpa using hbefore⟩
    · rintro ⟨_, ⟨⟩, rfl, -⟩
      simp [ofDefinitions]
  | cons definition rest ih =>
    simp only [ofDefinitions, List.mapM_cons, bind_eq_ok_iff]
    by_cases hread : ∃ role, ofDefinition definition = .ok role
    swap
    · constructor
      · rintro ⟨role, hrole, -⟩
        exact absurd ⟨role, hrole⟩ hread
      · rintro ⟨_, ⟨role, hrole, -⟩, -⟩
        exact absurd ⟨role, hrole⟩ hread
    obtain ⟨role, hrole⟩ := hread
    simp only [hrole, Except.ok.injEq, exists_eq_left']
    -- a name that came before ends the reading, and no later item can mend that
    by_cases hold : role.name ∈ before.map name
    · have hany : (before.any fun earlier => earlier.name == role.name) = true := by
        simpa using hold
      rw [if_pos hany]
      constructor
      · rintro ⟨⟩
      · rintro ⟨_, ⟨read, -, ⟨⟩⟩, -, hnames⟩
        rw [List.map_append, List.nodup_append] at hnames
        exact absurd rfl (hnames.2.2 _ hold _ List.mem_cons_self)
    · have hany : (before.any fun earlier => earlier.name == role.name) = false := by
        simpa [Bool.eq_false_iff] using hold
      have hnew : ((before ++ [role]).map name).Nodup := by
        rw [List.map_append, List.map_singleton, ← List.concat_eq_append]
        exact hbefore.concat hold
      rw [hany, if_neg Bool.false_ne_true, ih hnew]
      constructor
      · rintro ⟨read, hread, rfl, hnames⟩
        exact ⟨role :: read, ⟨read, hread, rfl⟩, by simp, by simpa using hnames⟩
      · rintro ⟨_, ⟨read, hread, ⟨⟩⟩, rfl, hnames⟩
        exact ⟨read, hread, by simp, by simpa using hnames⟩

theorem ofConfiguration_eq_ok_iff {entries : List (Value × Value)} {roles : List Role} :
    ofConfiguration entries = .ok roles ↔
      ((field entries rolesField).isFilled = false ∨
        ∃ listed, field entries rolesField = .list listed) ∧
      (field entries rolesField).items.mapM ofValue = .ok roles ∧ (roles.map name).Nodup := by
  have hnone : (([] : List Role).map name).Nodup := List.nodup_nil
  have hvalues : ∀ items : List Value,
      (items.map Definition.value).mapM ofDefinition = items.mapM ofValue := by
    intro items
    rw [List.mapM_map]
    rfl
  simp only [ofConfiguration, bind_eq_ok_iff, itemsOr_eq_ok_iff, ofDefinitions_eq_ok_iff hnone,
    hvalues, List.nil_append]
  constructor
  · rintro ⟨_, ⟨hlist, rfl⟩, read, hread, rfl, hnames⟩
    exact ⟨hlist, hread, hnames⟩
  · rintro ⟨hlist, hread, hnames⟩
    exact ⟨_, ⟨hlist, rfl⟩, roles, hread, rfl, hnames⟩

theorem spells_of_mapM {items : List Value} {roles : List Role}
    (h : items.mapM ofValue = .ok roles) : List.Forall₂ Spells items roles :=
  (mapM_eq_ok_iff.mp h).imp fun _ _ => spells_of_ofValue

theorem map_nameIn {items : List Value} {roles : List Role} (h : List.Forall₂ Spells items roles) :
    items.map nameIn = roles.map name := by
  induction h with
  | nil => rfl
  | cons hrole _ ih => rw [List.map_cons, List.map_cons, hrole.name, ih]

theorem ofConfiguration_ok_iff (entries : List (Value × Value)) :
    (∃ roles, ofConfiguration entries = .ok roles) ↔ AreDefinitions entries := by
  simp only [ofConfiguration_eq_ok_iff]
  constructor
  · rintro ⟨roles, hlist, hread, hnames⟩
    refine ⟨?_, map_nameIn (spells_of_mapM hread) ▸ hnames⟩
    rw [Value.listsOnly_iff]
    refine ⟨hlist, ?_⟩
    intro item hitem
    obtain ⟨role, -, hrole⟩ := mem_mapM hread hitem
    exact (ofValue_ok_iff item).mp ⟨role, hrole⟩
  · rintro ⟨hroles, hnames⟩
    rw [Value.listsOnly_iff] at hroles
    obtain ⟨roles, hread⟩ := exists_mapM fun item hitem =>
      (ofValue_ok_iff item).mpr (hroles.2 item hitem)
    exact ⟨roles, hroles.1, hread, map_nameIn (spells_of_mapM hread) ▸ hnames⟩

end Role

/-! ## Faults -/

/-- The fault of an outcome, if it has one, is a value that does not fit. -/
abbrev Fitting {α : Type} (outcome : Except DefinitionFault α) : Prop :=
  FailsOnlyWith (fun fault => fault.faultKind = .value) outcome

theorem Rule.fitting_ofEntries (entries : List (Value × Value)) : Fitting (ofEntries entries) := by
  have hfield : ∀ name, Fitting (listField entries name) := by
    intro name
    unfold listField
    cases field entries name with
    | null => exact .ok _
    | list items => exact .ok _
    | _ => exact .error rfl
  exact (hfield _).bind fun _ => (hfield _).bind fun _ => (hfield _).bind fun _ =>
    (hfield _).bind fun _ => .ok _

theorem Rule.fitting_ofValue (v : Value) : Fitting (ofValue v) := by
  cases v with
  | null => exact fitting_ofEntries []
  | map entries => exact fitting_ofEntries entries
  | _ => exact .error rfl

theorem Grants.fitting_ofNameValue (v : Value) : Fitting (ofNameValue v) := by
  cases v with
  | text name =>
    unfold ofNameValue
    simp only
    rcases ofName? name with _ | grants
    · exact .error rfl
    · exact .ok grants
  | _ => exact .error rfl

theorem Role.fitting_itemsOr {fault : DefinitionFault} (h : fault.faultKind = .value) (v : Value) :
    Fitting (itemsOr fault v) := by
  unfold itemsOr
  split
  · exact .ok []
  · cases v with
    | list items => exact .ok items
    | _ => exact .error h

theorem Role.fitting_ofValue (v : Value) : Fitting (ofValue v) := by
  cases v with
  | map entries =>
    unfold ofValue ofEntries
    simp only
    split
    · exact .error rfl
    · refine (fitting_itemsOr rfl _).bind fun _ => (fitting_itemsOr rfl _).bind fun _ => ?_
      refine (FailsOnlyWith.mapM Rule.fitting_ofValue _).bind fun _ => ?_
      refine (FailsOnlyWith.foldlM ?_ _ _).bind fun _ => .ok _
      intro grants name
      exact (Grants.fitting_ofNameValue name).map
  | _ => exact .error rfl

theorem Role.fitting_ofDefinition (definition : Definition) : Fitting (ofDefinition definition) := by
  cases definition with
  | value v => exact fitting_ofValue v
  | torn entries text => exact (fitting_ofValue (.map entries)).map

theorem Role.fitting_ofDefinitions (before : List Role) (definitions : List Definition) :
    Fitting (ofDefinitions before definitions) := by
  induction definitions generalizing before with
  | nil => exact .ok before
  | cons definition rest ih =>
    refine (fitting_ofDefinition definition).bind fun role => ?_
    split
    · exact .error rfl
    · exact ih _

theorem Role.fitting_ofConfiguration (entries : List (Value × Value)) :
    Fitting (ofConfiguration entries) :=
  (fitting_itemsOr rfl _).bind fun _ => fitting_ofDefinitions [] _

/-! ## The laws -/

/-- A value is read as a role exactly when it defines one, and as a role that has what the value
says. The same goes for a list of roles: it is read in its order, one role for each item, exactly
when every item defines a role and no two names have the same text. Whatever is refused is refused
as a value that does not fit. -/
theorem what_defines_roles_is_read_and_nothing_else (v : Value) (entries : List (Value × Value)) :
    (((∃ role, Role.ofValue v = .ok role) ↔ Role.IsDefinition v) ∧
      (∀ role, Role.ofValue v = .ok role → Role.Spells v role) ∧
      ∀ fault, Role.ofValue v = .error fault → fault.faultKind = .value) ∧
    ((∃ roles, Role.ofConfiguration entries = .ok roles) ↔ Role.AreDefinitions entries) ∧
      (∀ roles, Role.ofConfiguration entries = .ok roles →
        List.Forall₂ Role.Spells (field entries Role.rolesField).items roles) ∧
      ∀ fault, Role.ofConfiguration entries = .error fault → fault.faultKind = .value := by
  refine ⟨⟨Role.ofValue_ok_iff v, ?_, Role.fitting_ofValue v⟩, Role.ofConfiguration_ok_iff entries,
    ?_, Role.fitting_ofConfiguration entries⟩
  · intro role h
    exact Role.spells_of_ofValue h
  · intro roles h
    exact Role.spells_of_mapM (Role.ofConfiguration_eq_ok_iff.mp h).2.1

/-- A configuration of two roles. The second one says nothing of its rules, in an odd way. -/
def Role.pairNamed (first second : Value) : List (Value × Value) :=
  [(.text "roles", .list [
    .map [(.text "name", first), (.text "grants", .list [.text "All"]),
      (.text "rules", .list [.null, .map [(.text "verbs", .list [.int 1, .text "read"])]])],
    .map [(.text "name", second), (.text "rules", .text "")]])]

theorem names_of_roles_are_told_apart_as_texts :
    (∃ roles, Role.ofConfiguration (Role.pairNamed (.int 1) (.bool true)) = .ok roles ∧
      List.Forall₂ Role.Spells
        (field (Role.pairNamed (.int 1) (.bool true)) Role.rolesField).items roles ∧
      roles.map Role.name = ["1", "True"]) ∧
    ¬ ∃ roles, Role.ofConfiguration (Role.pairNamed (.int 1) (.text "1")) = .ok roles := by
  have hlaw := fun first second =>
    (what_defines_roles_is_read_and_nothing_else .null (Role.pairNamed first second)).2
  refine ⟨?_, ?_⟩
  · have hdefines : Role.AreDefinitions (Role.pairNamed (.int 1) (.bool true)) := by
      refine ⟨.inr ⟨_, rfl, ?_⟩, by decide⟩
      simp only [List.forall_mem_cons, List.not_mem_nil, false_implies, implies_true, and_true]
      refine ⟨.map rfl (.inr ⟨_, rfl, ?_⟩) (.inr ⟨_, rfl, ?_⟩), .map rfl (.inl rfl) (.inl rfl)⟩
      · simp only [List.forall_mem_cons, List.not_mem_nil, false_implies, implies_true, and_true]
        exact ⟨.null, .map (.inr ⟨_, rfl⟩) (.inl rfl) (.inl rfl) (.inl rfl)⟩
      · simp [Grants.IsName, Grant.allName]
    obtain ⟨roles, hroles⟩ := (hlaw _ _).1.mpr hdefines
    have hspells := (hlaw _ _).2.1 roles hroles
    refine ⟨roles, hroles, hspells, ?_⟩
    rw [← Role.map_nameIn hspells]
    decide
  · rw [(hlaw (.int 1) (.text "1")).1]
    intro h
    have hnames := h.names
    revert hnames
    decide

end DesktopPolicy
