-- The laws of roles that are written and read again. A role that was read has a name, knows the
-- words of the vocabulary in its rules, and has named grants only; such a role is what its value
-- defines, and what its document defines when its description is a text.
import DesktopPolicy.Proofs.GrantSets
import DesktopPolicy.Proofs.JsonRoundTrip
import DesktopPolicy.Service
import Mathlib

namespace DesktopPolicy

/-! ## Reading step by step -/

theorem bind_eq_ok_iff {ε α β : Type} {x : Except ε α} {f : α → Except ε β} {b : β} :
    (x >>= f) = .ok b ↔ ∃ a, x = .ok a ∧ f a = .ok b := by
  cases x <;> simp [bind, Except.bind]

theorem map_eq_ok_iff {ε α β : Type} {x : Except ε α} {f : α → β} {b : β} :
    x.map f = .ok b ↔ ∃ a, x = .ok a ∧ f a = b := by
  cases x <;> simp [Except.map]

/-- A list is read when each of its items is. -/
theorem mapM_eq_ok_iff {ε α β : Type} {f : α → Except ε β} {as : List α} {bs : List β} :
    as.mapM f = .ok bs ↔ List.Forall₂ (fun a b => f a = .ok b) as bs := by
  induction as generalizing bs with
  | nil =>
    rw [List.forall₂_nil_left_iff, List.mapM_nil]
    constructor
    · intro h
      cases h
      rfl
    · rintro rfl
      rfl
  | cons a rest ih =>
    rw [List.mapM_cons, List.forall₂_cons_left_iff]
    simp only [bind_eq_ok_iff, ih]
    constructor
    · rintro ⟨b, hb, later, hlater, h⟩
      cases h
      exact ⟨b, later, hb, hlater, rfl⟩
    · rintro ⟨b, later, hb, hlater, rfl⟩
      exact ⟨b, hb, later, hlater, rfl⟩

theorem mem_of_mapM {ε α β : Type} {f : α → Except ε β} {as : List α} {bs : List β}
    (h : as.mapM f = .ok bs) {b : β} (hb : b ∈ bs) : ∃ a ∈ as, f a = .ok b := by
  obtain ⟨i, hi, rfl⟩ := List.mem_iff_getElem.mp hb
  have hall := mapM_eq_ok_iff.mp h
  have hlt : i < as.length := hall.length_eq ▸ hi
  exact ⟨as[i], List.getElem_mem hlt, hall.get hlt hi⟩

theorem mem_mapM {ε α β : Type} {f : α → Except ε β} {as : List α} {bs : List β}
    (h : as.mapM f = .ok bs) {a : α} (ha : a ∈ as) : ∃ b ∈ bs, f a = .ok b := by
  obtain ⟨i, hi, rfl⟩ := List.mem_iff_getElem.mp ha
  have hall := mapM_eq_ok_iff.mp h
  have hlt : i < bs.length := hall.length_eq ▸ hi
  exact ⟨bs[i], List.getElem_mem hlt, hall.get hi hlt⟩

theorem exists_mapM {ε α β : Type} {f : α → Except ε β} {as : List α}
    (h : ∀ a ∈ as, ∃ b, f a = .ok b) : ∃ bs, as.mapM f = .ok bs := by
  induction as with
  | nil => exact ⟨[], rfl⟩
  | cons a rest ih =>
    obtain ⟨b, hb⟩ := h a List.mem_cons_self
    obtain ⟨later, hlater⟩ := ih fun other ho => h other (List.mem_cons_of_mem _ ho)
    exact ⟨b :: later, mapM_eq_ok_iff.mpr (.cons hb (mapM_eq_ok_iff.mp hlater))⟩

theorem mapM_map_of_inverse {ε α β : Type} {f : β → Except ε α} {g : α → β} {as : List α}
    (h : ∀ a ∈ as, f (g a) = .ok a) : (as.map g).mapM f = .ok as := by
  rw [mapM_eq_ok_iff, List.forall₂_map_left_iff, List.forall₂_same]
  exact h

/-! ## Filled values have a text -/

theorem Value.int_ne_empty (n : Int) : toString n ≠ "" := by
  rw [Int.toString_eq_repr]
  cases n with
  | ofNat m => exact Nat.repr_ne_empty
  | negSucc m => simp [Int.repr]

namespace Decimal

theorem plain_ne_empty (digits : List Char) (places : Int) : plain digits places ≠ "" := by
  unfold plain
  split <;> simp

theorem scaled_ne_empty (layout : Layout) {digits : List Char} (power : Int) (h : digits ≠ []) :
    scaled layout digits power ≠ "" := by
  unfold scaled
  split
  · contradiction
  · simp
  · simp

theorem Layout.unsigned_ne_empty (layout : Layout) (d : Scaled) : layout.unsigned d ≠ "" := by
  have hdigits : (toString d.digits).toList ≠ [] := by
    rw [Nat.toString_eq_repr]
    simp
  unfold Layout.unsigned
  simp only
  split
  · exact plain_ne_empty _ _
  · exact scaled_ne_empty layout _ hdigits

end Decimal

theorem Value.float_ne_empty (x : Float) : floatLayout.float x ≠ "" := by
  unfold Decimal.Layout.float
  simp only
  split
  · simp [floatLayout]
  · split <;> simp [floatLayout]
  · split
    · simp
    · exact Decimal.Layout.unsigned_ne_empty _ _

theorem Date.text_ne_empty (d : Date) : d.text ≠ "" := by
  simp [Date.text]

theorem Moment.text_ne_empty (m : Moment) : m.text ≠ "" := by
  simp [Moment.text]

/-- A value that says something has a text. -/
theorem Value.toText_ne_empty {v : Value} (h : v.isFilled = true) : v.toText ≠ "" := by
  cases v with
  | null => simp [isFilled] at h
  | bool b => cases b <;> simp [toText, shown]
  | int n => exact int_ne_empty n
  | float x => exact float_ne_empty x
  | text s => simpa [isFilled, toText] using h
  | list items => simp [toText, shown]
  | map entries => simp [toText, shown]
  | pair left right => simp [toText, shown]
  | set items => cases items <;> simp [toText, shown]
  | bytes content => simp [toText, shown, Text.quotedBytes]
  | date d => exact d.text_ne_empty
  | moment m => exact m.text_ne_empty

/-! ## Fields of written maps -/

theorem lookup_append (a b : List (Value × Value)) (key : Value) :
    lookup (a ++ b) key = (lookup a key).or (lookup b key) := by
  rw [lookup, List.find?_append, Option.map_or]
  rfl

theorem field_nil (name : String) : field [] name = .null := rfl

theorem field_cons (other : String) (v : Value) (entries : List (Value × Value)) (name : String) :
    field ((.text other, v) :: entries) name = if other = name then v else field entries name := by
  by_cases hname : other = name <;> simp [field, lookup, Value.sameKey_text, hname]

namespace Rule

theorem lookup_filledEntry (other : String) (words : List String) (name : String) :
    lookup (filledEntry other words) (.text name) =
      if other = name ∧ words ≠ [] then some (textList words) else none := by
  cases words with
  | nil => simp [filledEntry, lookup]
  | cons word rest =>
    by_cases hname : other = name <;> simp [filledEntry, lookup, Value.sameKey_text, hname]

/-- A field that is left out when it is empty is read like one that is written. -/
theorem listField_of_lookup {entries : List (Value × Value)} {name : String} {words : List String}
    (h : lookup entries (.text name) = if words = [] then none else some (textList words)) :
    listField entries name = .ok (words.map Value.text) := by
  rw [listField, field, h]
  cases words <;> rfl

/-! ## Rules -/

/-- No word of the vocabulary is kept as a word outside it. -/
structure Known (rule : Rule) : Prop where
  verbs : ∀ verb ∈ rule.verbs, Verb.ofWord verb.word = verb
  resources : ∀ resource ∈ rule.resources, Resource.ofWord resource.word = resource

theorem Known.read_verbs {rule : Rule} (h : rule.Known) :
    (rule.verbWords.map Value.text).map (fun v => Verb.ofWord v.toText) = rule.verbs := by
  rw [verbWords, List.map_map, List.map_map]
  exact (List.map_congr_left h.verbs).trans (List.map_id _)

theorem Known.read_resources {rule : Rule} (h : rule.Known) :
    (rule.resourceWords.map Value.text).map (fun v => Resource.ofWord v.toText) =
      rule.resources := by
  rw [resourceWords, List.map_map, List.map_map]
  exact (List.map_congr_left h.resources).trans (List.map_id _)

theorem read_texts (words : List String) : (words.map Value.text).map Value.toText = words := by
  rw [List.map_map]
  exact (List.map_congr_left fun _ _ => rfl).trans (List.map_id _)

/-- What is read knows the words of the vocabulary. -/
theorem known_of_ofEntries {entries : List (Value × Value)} {rule : Rule}
    (h : ofEntries entries = .ok rule) : rule.Known := by
  simp only [ofEntries, bind_eq_ok_iff] at h
  obtain ⟨verbs, -, resources, -, patterns, -, spaces, -, h⟩ := h
  cases h
  constructor
  · intro verb hverb
    obtain ⟨v, -, rfl⟩ := List.mem_map.mp hverb
    rw [Verb.word_ofWord]
  · intro resource hresource
    obtain ⟨v, -, rfl⟩ := List.mem_map.mp hresource
    rw [Resource.word_ofWord]

theorem known_of_ofValue {v : Value} {rule : Rule} (h : ofValue v = .ok rule) : rule.Known := by
  cases v with
  | null => exact known_of_ofEntries h
  | map entries => exact known_of_ofEntries h
  | _ => cases h

/-- Entries with the words of a rule in their fields define the rule. -/
theorem Known.ofEntries {rule : Rule} (h : rule.Known) {entries : List (Value × Value)}
    (hverbs : listField entries verbsField = .ok (rule.verbWords.map Value.text))
    (hresources : listField entries resourcesField = .ok (rule.resourceWords.map Value.text))
    (hpatterns : listField entries (patternsName entries) = .ok (rule.patterns.map Value.text))
    (hspaces : listField entries namespacesField = .ok (rule.namespaces.map Value.text)) :
    Rule.ofEntries entries = .ok rule := by
  simp only [Rule.ofEntries, hverbs, hresources, hpatterns, hspaces, bind, Except.bind, pure,
    Except.pure, h.read_verbs, h.read_resources, read_texts]

/-- The value of a rule defines the rule. -/
theorem Known.ofValue_toValue {rule : Rule} (h : rule.Known) :
    Rule.ofValue rule.toValue = .ok rule := by
  apply h.ofEntries
  · apply listField_of_lookup
    simp [lookup_append, lookup_filledEntry, verbsField, resourcesField, patternsField,
      namespacesField]
  · apply listField_of_lookup
    simp [lookup_append, lookup_filledEntry, verbsField, resourcesField, patternsField,
      namespacesField]
  · apply listField_of_lookup
    -- without patterns the other name is asked, and nothing stands under it
    by_cases hpatterns : rule.patterns = [] <;>
      simp [patternsName, field, textList, Value.isNull, hpatterns, lookup_append,
        lookup_filledEntry, verbsField, resourcesField, patternsField, patternsOtherField,
        namespacesField]
  · apply listField_of_lookup
    simp [lookup_append, lookup_filledEntry, verbsField, resourcesField, patternsField,
      namespacesField]

/-- The document of a rule defines the rule. -/
theorem Known.ofValue_document {rule : Rule} (h : rule.Known) :
    Rule.ofValue rule.document = .ok rule := by
  apply h.ofEntries <;> rfl

end Rule

namespace Role

/-! ## Roles -/

/-- What holds of every role that was read. -/
structure Known (role : Role) : Prop where
  name : role.name ≠ ""
  rules : ∀ rule ∈ role.rules, rule.Known
  grants : role.grants.IsNamed
  description : ∀ v, role.description = .value v → v.isFilled = true ∨ v = .text ""

theorem known_of_ofEntries {entries : List (Value × Value)} {role : Role}
    (h : ofEntries entries = .ok role) : role.Known := by
  unfold ofEntries at h
  by_cases hfilled : (field entries nameField).isFilled = true
  swap
  · simp [hfilled] at h
  simp only [hfilled, Bool.not_true, Bool.false_eq_true, if_false, bind_eq_ok_iff] at h
  obtain ⟨ruleItems, -, grantItems, -, rules, hread, grants, hnamed, h⟩ := h
  cases h
  refine ⟨Value.toText_ne_empty hfilled, ?_, Grants.isNamed_of_ofNames hnamed, ?_⟩
  · intro rule hrule
    obtain ⟨item, -, hitem⟩ := mem_of_mapM hread hrule
    exact Rule.known_of_ofValue hitem
  · rintro v ⟨⟩
    split
    · exact .inl ‹_›
    · exact .inr rfl

theorem known_of_ofValue {v : Value} {role : Role} (h : ofValue v = .ok role) : role.Known := by
  cases v with
  | map entries => exact known_of_ofEntries h
  | _ => cases h

theorem itemsOr_list (fault : DefinitionFault) (items : List Value) :
    itemsOr fault (.list items) = .ok items := by
  cases items <;> rfl

/-- Entries with the parts of a role in their fields define the role. -/
theorem Known.ofEntries {role : Role} (h : role.Known) {written : Rule → Value}
    (hwritten : ∀ rule ∈ role.rules, Rule.ofValue (written rule) = .ok rule)
    {entries : List (Value × Value)} (hname : field entries nameField = .text role.name)
    (hrules : field entries rulesField = .list (role.rules.map written))
    (hgrants : field entries grantsField = Rule.textList role.grants.names)
    (hdescription : Description.value (if (field entries descriptionField).isFilled then
      field entries descriptionField else .text "") = role.description) :
    Role.ofEntries entries = .ok role := by
  have hfilled : (Value.text role.name).isFilled = true := by
    simpa [Value.isFilled] using h.name
  have hread : (role.rules.map written).mapM Rule.ofValue = .ok role.rules :=
    mapM_map_of_inverse hwritten
  simp only [Role.ofEntries, hname, hrules, hgrants, hdescription, hfilled, Rule.textList,
    itemsOr_list, hread, h.grants.ofNames_names, bind, Except.bind, pure, Except.pure,
    Bool.not_true, Bool.false_eq_true, if_false]
  rfl

/-- The entries that are written define the role, with what else is said about it. -/
theorem Known.ofEntries_written {role : Role} (h : role.Known) {v : Value}
    (hfilled : v.isFilled = true ∨ v = .text "") :
    Role.ofEntries (role.written ++ if v.isFilled then [(.text descriptionField, v)] else []) =
      .ok { role with description := .value v } := by
  have hsaid : ({ role with description := .value v } : Role).Known :=
    ⟨h.name, h.rules, h.grants, by rintro _ ⟨⟩; exact hfilled⟩
  apply hsaid.ofEntries fun rule hrule => (h.rules rule hrule).ofValue_toValue
  · simp [written, field_cons]
  · simp [written, field_cons, nameField, rulesField]
  · simp [written, field_cons, nameField, rulesField, grantsField]
  · rcases hfilled with hfilled | rfl
    · simp [written, field_cons, nameField, rulesField, grantsField, descriptionField, hfilled]
    · simp [written, field_cons, field_nil, nameField, rulesField, grantsField, descriptionField,
        Value.isFilled]

/-- The definition of a role defines the role. -/
theorem Known.ofDefinition_toDefinition {role : Role} (h : role.Known) :
    ofDefinition role.toDefinition = .ok role := by
  unfold toDefinition
  split
  · rename_i v hv
    have hread := h.ofEntries_written (h.description v hv)
    rwa [← hv] at hread
  · rename_i text htext
    have hread := h.ofEntries_written (v := .text "") (.inr rfl)
    have hnothing : (Value.text "").isFilled = false := rfl
    rw [hnothing, if_neg Bool.false_ne_true, List.append_nil] at hread
    rw [ofDefinition, hread, ← htext]
    rfl

theorem known_of_ofDefinition {definition : Definition} {role : Role}
    (h : ofDefinition definition = .ok role) : role.Known := by
  cases definition with
  | value v => exact known_of_ofValue h
  | torn entries text =>
    obtain ⟨plain, hplain, rfl⟩ := map_eq_ok_iff.mp h
    have hknown := known_of_ofEntries hplain
    exact ⟨hknown.name, hknown.rules, hknown.grants, by rintro _ ⟨⟩⟩

/-- The document of a role whose description is a text defines the role. -/
theorem Known.ofValue_document {role : Role} (h : role.Known) {text : String}
    (htext : role.description = .text text) :
    ∃ document, role.document = .ok document ∧ Role.ofValue document = .ok role := by
  rw [document, htext]
  refine ⟨_, rfl, ?_⟩
  apply h.ofEntries fun rule hrule => (h.rules rule hrule).ofValue_document
  · simp [field_cons]
  · simp [field_cons, nameField, descriptionField, rulesField]
  · simp [field_cons, nameField, descriptionField, rulesField, grantsField]
  · rw [htext]
    by_cases hempty : text = "" <;>
      simp [field_cons, nameField, descriptionField, hempty, Value.isFilled]

end Role

/-! ## Documents as JSON -/

theorem Rule.isPlain_textList (words : List String) : (textList words).IsPlain := by
  apply Value.IsPlain.list
  intro item hitem
  obtain ⟨word, -, rfl⟩ := List.mem_map.mp hitem
  exact .text word

theorem Rule.isPlain_document (rule : Rule) : rule.document.IsPlain := by
  have hnames : [verbsField, resourcesField, patternsField, namespacesField].Nodup := by decide
  have hplain : (Value.map (Value.textKeyed [(verbsField, textList rule.verbWords),
      (resourcesField, textList rule.resourceWords), (patternsField, textList rule.patterns),
      (namespacesField, textList rule.namespaces)])).IsPlain := by
    refine .map hnames ?_
    simp [isPlain_textList]
  exact hplain

/-- The document of a role has its parts in four fields. -/
theorem Role.document_eq_ok {role : Role} {document : Value} (h : role.document = .ok document) :
    ∃ text, document = .map (Value.textKeyed [(nameField, .text role.name),
      (descriptionField, .text text), (rulesField, .list (role.rules.map fun rule => rule.document)),
      (grantsField, Rule.textList role.grants.names)]) := by
  rcases htext : role.description.checked with issues | text
  · simp [Role.document, htext, Schema.within, Except.mapError, Except.map] at h
  · simp only [Role.document, htext, Schema.within, Except.mapError, Except.map,
      Except.ok.injEq] at h
    exact ⟨text, h.symm⟩

theorem Role.isPlain_document {role : Role} {document : Value}
    (h : role.document = .ok document) : document.IsPlain := by
  have hnames : [nameField, descriptionField, rulesField, grantsField].Nodup := by decide
  obtain ⟨text, rfl⟩ := document_eq_ok h
  have hrules : (Value.list (role.rules.map fun rule => rule.document)).IsPlain := by
    apply Value.IsPlain.list
    intro item hitem
    obtain ⟨rule, -, rfl⟩ := List.mem_map.mp hitem
    exact rule.isPlain_document
  refine .map hnames ?_
  simp [Rule.isPlain_textList, Value.IsPlain.text, hrules]

/-! ## The laws -/

/-- A role that was read is the role that its own definition defines. When its description is a
text, it is answered with a document that JSON keeps as it is, and that defines the role too. -/
theorem a_written_role_is_read_as_it_was {definition : Role.Definition} {role : Role}
    (h : Role.ofDefinition definition = .ok role) :
    Role.ofDefinition role.toDefinition = .ok role ∧
      ∀ text, role.description = .text text →
        ∃ body, Service.roleResponse role = .found body ∧
          Json.read (Json.write body) = .ok body ∧ Role.ofValue body = .ok role := by
  have hknown := Role.known_of_ofDefinition h
  refine ⟨hknown.ofDefinition_toDefinition, ?_⟩
  intro text htext
  obtain ⟨body, hbody, hread⟩ := hknown.ofValue_document htext
  refine ⟨body, ?_, Json.read_write (Role.isPlain_document hbody), hread⟩
  rw [Service.roleResponse, hbody]

/-- A definition in which hardly anything is written as a role writes it. -/
def Role.loosely : Value :=
  .map [(.text "grants", .list [.text "ReadRoles", .text "All", .text "ReadRoles"]),
    (.text "name", .bool true),
    (.text "rules", .list [.null, .map [
      (.text "verbs", .list [.text "read", .text "READ", .text "read"]),
      (.text "resourcePatterns", .null),
      (.text "resource_patterns", .list [.null, .list [.text "\n"]]),
      (.text "namespaces", .list [])]])]

theorem a_loose_role_is_read_as_it_was_read :
    ∃ role, Role.ofValue Role.loosely = .ok role ∧ role.name = "True" ∧ role.grants = Grants.all ∧
      role.description = .text "" ∧
      role.rules = [{}, {
        verbs := [.read, .other "READ", .read]
        patterns := ["None", "['\\n']"] }] ∧
      Role.ofDefinition role.toDefinition = .ok role ∧
      ∃ body, Service.roleResponse role = .found body ∧
        Json.read (Json.write body) = .ok body ∧ Role.ofValue body = .ok role := by
  have hread : Role.ofValue Role.loosely = .ok {
      name := "True"
      rules := [{}, {
        verbs := [.read, .other "READ", .read]
        patterns := ["None", "['\\n']"] }]
      grants := Grants.all
      description := .text "" } := by cbv
  have hlaw := @a_written_role_is_read_as_it_was (.value Role.loosely) _ hread
  exact ⟨_, hread, rfl, rfl, rfl, rfl, hlaw.1, hlaw.2 "" rfl⟩

/-- What is said is a text, torn or not. -/
def Description.IsText : Description → Prop
  | value v => ∃ s, v = .text s
  | torn _ => True

/-- A definition with half of a pair for its description. -/
def Role.halfDescribed : Role.Definition :=
  .torn [(.text "name", .text "d")] ⟨[0xD800], by decide⟩

/-- Such a role is read, and there is no document to answer with. -/
theorem a_torn_description_is_read_and_not_answered :
    ∃ role, Role.ofDefinition Role.halfDescribed = .ok role ∧ role.description.IsText ∧
      ∀ body, Service.roleResponse role ≠ .found body := by
  have hread : Role.ofDefinition Role.halfDescribed =
      .ok { name := "d", description := .torn ⟨[0xD800], by decide⟩ } := by cbv
  refine ⟨_, hread, trivial, ?_⟩
  rintro body ⟨⟩

end DesktopPolicy
