-- The laws of environments. References are replaced inside of texts only, so a document keeps its
-- lists and maps, with as many items and the same keys, whatever the environment holds. A text may
-- come to say nothing, but nothing that is read as a list of rules or words was ever a text.
import DesktopPolicy.Proofs.RoleGrammar

namespace DesktopPolicy

/-! ## The pure model -/

/-- The rules have equally many words in each dimension. -/
structure Rule.SameSizes (a b : Rule) : Prop where
  verbs : a.verbs.length = b.verbs.length
  resources : a.resources.length = b.resources.length
  patterns : a.patterns.length = b.patterns.length
  namespaces : a.namespaces.length = b.namespaces.length

/-- The roles have equally many rules, and these have the same sizes one by one. -/
def Role.SameShape (a b : Role) : Prop := List.Forall₂ Rule.SameSizes a.rules b.rules

mutual

/-- The texts of a value: its own, and those of its items, or of the values of its entries. -/
def Value.texts : Value → List String
  | .text s => [s]
  | .list items => itemTexts items
  | .map entries => entryTexts entries
  | _ => []

def Value.itemTexts : List Value → List String
  | [] => []
  | item :: rest => item.texts ++ itemTexts rest

def Value.entryTexts : List (Value × Value) → List String
  | [] => []
  | (_, value) :: rest => value.texts ++ entryTexts rest

end

/-- The entries of the configuration in a file, with their references as they are written. -/
def Configuration.written (order : List Value → List Value) (path : String) (file : File) :
    Except Fault (List (Value × Value)) := do
  let text ← textOf path file
  let document ← (Yaml.read order text).mapError Fault.document
  entriesOf document

/-! ## Values with their references replaced -/

namespace Environment

theorem expandItems_eq_map (env : Environment) (items : List Value) :
    env.expandItems items = items.map env.expand := by
  induction items with
  | nil => rfl
  | cons item rest ih => rw [expandItems, ih, List.map_cons]

theorem expandEntries_eq_map (env : Environment) (entries : List (Value × Value)) :
    env.expandEntries entries = entries.map fun entry => (entry.1, env.expand entry.2) := by
  induction entries with
  | nil => rfl
  | cons entry rest ih => rw [expandEntries, ih, List.map_cons]

/-- A list keeps its items. -/
theorem items_expand (env : Environment) (v : Value) :
    (env.expand v).items = v.items.map env.expand := by
  cases v with
  | list items => exact env.expandItems_eq_map items
  | _ => rfl

theorem entries_expand (env : Environment) (v : Value) :
    (env.expand v).entries = env.expandEntries v.entries := by
  cases v <;> rfl

/-- A map keeps its keys. -/
theorem field_expandEntries (env : Environment) (entries : List (Value × Value)) (name : String) :
    field (env.expandEntries entries) name = env.expand (field entries name) := by
  rw [expandEntries_eq_map]
  unfold field lookup
  rw [List.find?_map]
  rcases h : entries.find? fun entry => entry.1.sameKey (.text name) with _ | entry
  · simp [h, expand]
  · simp [h]

/-- No value becomes null, so the patterns stay under the name under which they are written. -/
theorem patternsValue_expandEntries (env : Environment) (entries : List (Value × Value)) :
    Rule.patternsValue (env.expandEntries entries) = env.expand (Rule.patternsValue entries) := by
  unfold Rule.patternsValue
  rw [field_expandEntries, field_expandEntries]
  cases field entries Rule.patternsField <;> rfl

/-! ## Texts without references -/

theorem expandChars_of_no_dollar (env : Environment) {cs : List Char} (h : '$' ∉ cs) :
    env.expandChars cs = cs := by
  induction cs with
  | nil => rw [expandChars]
  | cons c rest ih =>
    rw [List.mem_cons, not_or] at h
    have hne : ¬ (c == '$') = true := by simpa using Ne.symm h.1
    rw [expandChars, if_neg hne, ih h.2]

mutual

/-- A value without dollar signs in its texts stays as it is. -/
theorem expand_of_no_dollar (env : Environment) :
    (v : Value) → (∀ s ∈ v.texts, '$' ∉ s.toList) → env.expand v = v
  | .text s, h => by
    rw [expand, expandText, env.expandChars_of_no_dollar (h s (by simp [Value.texts]))]
    simp
  | .list items, h => by
    rw [expand, env.expandItems_of_no_dollar items h]
  | .map entries, h => by
    rw [expand, env.expandEntries_of_no_dollar entries h]
  | .null, _ | .bool _, _ | .int _, _ | .float _, _ | .pair _ _, _ | .set _, _ | .bytes _, _
  | .date _, _ | .moment _, _ => rfl

theorem expandItems_of_no_dollar (env : Environment) :
    (items : List Value) → (∀ s ∈ Value.itemTexts items, '$' ∉ s.toList) →
      env.expandItems items = items
  | [], _ => rfl
  | item :: rest, h => by
    simp only [Value.itemTexts, List.mem_append] at h
    rw [expandItems, env.expand_of_no_dollar item fun s hs => h s (.inl hs),
      env.expandItems_of_no_dollar rest fun s hs => h s (.inr hs)]

theorem expandEntries_of_no_dollar (env : Environment) :
    (entries : List (Value × Value)) → (∀ s ∈ Value.entryTexts entries, '$' ∉ s.toList) →
      env.expandEntries entries = entries
  | [], _ => rfl
  | (key, value) :: rest, h => by
    simp only [Value.entryTexts, List.mem_append] at h
    rw [expandEntries, env.expand_of_no_dollar value fun s hs => h s (.inl hs),
      env.expandEntries_of_no_dollar rest fun s hs => h s (.inr hs)]

end

end Environment

/-! ## Two readings of one value -/

section

variable {env other : Environment}

/-- A rule has as many words as the value lists before its references are replaced. -/
theorem Rule.Spells.lengths {v : Value} {rule : Rule} (h : Spells (env.expand v) rule) :
    rule.verbs.length = (field v.entries verbsField).items.length ∧
      rule.resources.length = (field v.entries resourcesField).items.length ∧
      rule.patterns.length = (patternsValue v.entries).items.length ∧
      rule.namespaces.length = (field v.entries namespacesField).items.length := by
  obtain ⟨hverbs, hresources, hpatterns, hspaces⟩ := h
  simp only [Environment.entries_expand, Environment.field_expandEntries,
    Environment.patternsValue_expandEntries, Environment.items_expand] at *
  refine ⟨?_, ?_, ?_, ?_⟩
  · simpa [verbWords] using congrArg List.length hverbs
  · simpa [resourceWords] using congrArg List.length hresources
  · simpa using congrArg List.length hpatterns
  · simpa using congrArg List.length hspaces

theorem Rule.Spells.sameSizes {v : Value} {a b : Rule} (ha : Spells (env.expand v) a)
    (hb : Spells (other.expand v) b) : SameSizes a b := by
  obtain ⟨haverbs, haresources, hapatterns, haspaces⟩ := ha.lengths
  obtain ⟨hbverbs, hbresources, hbpatterns, hbspaces⟩ := hb.lengths
  exact ⟨haverbs.trans hbverbs.symm, haresources.trans hbresources.symm,
    hapatterns.trans hbpatterns.symm, haspaces.trans hbspaces.symm⟩

/-- What relates the members of two lists to those of a third, place by place, relates them to each
other. -/
theorem forall₂_trans_of_left {α β γ : Type} {r : α → β → Prop} {s : α → γ → Prop}
    {t : β → γ → Prop} (h : ∀ a b c, r a b → s a c → t b c) {as : List α} {bs : List β}
    {cs : List γ} (hbs : List.Forall₂ r as bs) (hcs : List.Forall₂ s as cs) :
    List.Forall₂ t bs cs := by
  induction hbs generalizing cs with
  | nil =>
    cases hcs
    exact .nil
  | cons hb _ ih =>
    obtain _ | ⟨hc, hrest⟩ := hcs
    exact .cons (h _ _ _ hb hc) (ih hrest)

theorem Role.Spells.sameShape {v : Value} {a b : Role} (ha : Spells (env.expand v) a)
    (hb : Spells (other.expand v) b) : SameShape a b := by
  have harules := ha.rules
  have hbrules := hb.rules
  rw [Environment.entries_expand, Environment.field_expandEntries, Environment.items_expand,
    List.forall₂_map_left_iff] at harules hbrules
  have hsizes : ∀ item x y, Rule.Spells (env.expand item) x → Rule.Spells (other.expand item) y →
      Rule.SameSizes x y := fun _ _ _ => Rule.Spells.sameSizes
  exact forall₂_trans_of_left hsizes harules hbrules

theorem Role.sameShape_of_ofConfiguration {entries : List (Value × Value)} {roles others : List Role}
    (h : ofConfiguration (env.expandEntries entries) = .ok roles)
    (hother : ofConfiguration (other.expandEntries entries) = .ok others) :
    List.Forall₂ SameShape roles others := by
  have hroles := spells_of_mapM (ofConfiguration_eq_ok_iff.mp h).2.1
  have hothers := spells_of_mapM (ofConfiguration_eq_ok_iff.mp hother).2.1
  rw [Environment.field_expandEntries, Environment.items_expand, List.forall₂_map_left_iff] at *
  have hshape : ∀ item x y, Spells (env.expand item) x → Spells (other.expand item) y →
      SameShape x y := fun _ _ _ => Spells.sameShape
  exact forall₂_trans_of_left hshape hroles hothers

end

/-! ## Files -/

namespace Configuration

theorem load_eq (env : Environment) (order : List Value → List Value) (path : String)
    (file : File) :
    load env order path file = (written order path file).map env.expandEntries := by
  unfold load written
  rcases textOf path file with fault | text
  · rfl
  · rcases hread : (Yaml.read order text).mapError Fault.document with fault | document
    · simp [bind, Except.bind, Except.map, hread]
    · rcases hentries : entriesOf document with fault | entries <;>
        simp [bind, Except.bind, Except.map, hread, hentries]

/-- The steps by which a file is read as roles. -/
theorem loadRoles_eq_ok_iff {env : Environment} {order : List Value → List Value} {path : String}
    {file : File} {roles : List Role} :
    (loadRoles env order path file).outcome = .ok roles ↔
      ∃ entries, written order path file = .ok entries ∧
        Role.ofConfiguration (env.expandEntries entries) = .ok roles := by
  rw [loadRoles, load_eq]
  rcases written order path file with fault | entries
  · simp [Except.map, Except.bind, Noted.fail]
  · rcases hroles : Role.ofConfiguration (env.expandEntries entries) with fault | found <;>
      simp [Except.map, Except.bind, Except.mapError, Noted.fail, hroles]

theorem entriesOf_eq_ok {document : Yaml.Document} {entries : List (Value × Value)}
    (h : entriesOf document = .ok entries) : Value.entryTexts entries = document.root.texts := by
  unfold entriesOf at h
  split at h
  · rename_i hnull
    cases h
    rw [hnull]
    rfl
  · rename_i hmap
    split at h
    · cases h
    · cases h
      rw [hmap]
      rfl
  · cases h

end Configuration

/-! ## The laws -/

/-- Two environments under which a file is read give the same number of roles, with the same number
of rules one by one, and these with the same number of words in each dimension. When there is no
dollar sign in the texts of the document, all environments make the same of it. -/
theorem an_environment_neither_adds_nor_drops_nor_unscopes_rules (env other : Environment)
    (order : List Value → List Value) (path : String) (file : Configuration.File) :
    (∀ roles others, (Configuration.loadRoles env order path file).outcome = .ok roles →
      (Configuration.loadRoles other order path file).outcome = .ok others →
        List.Forall₂ Role.SameShape roles others) ∧
    ∀ text document, Configuration.textOf path file = .ok text →
      Yaml.read order text = .ok document →
      (∀ s ∈ document.root.texts, '$' ∉ s.toList) →
        Configuration.loadRoles env order path file =
          Configuration.loadRoles other order path file := by
  refine ⟨?_, ?_⟩
  · intro roles others h hother
    obtain ⟨entries, hentries, hroles⟩ := Configuration.loadRoles_eq_ok_iff.mp h
    obtain ⟨same, hsame, hothers⟩ := Configuration.loadRoles_eq_ok_iff.mp hother
    rw [hentries] at hsame
    cases hsame
    exact Role.sameShape_of_ofConfiguration hroles hothers
  · intro text document htext hdocument hdollar
    have hload : Configuration.load env order path file =
        Configuration.load other order path file := by
      rw [Configuration.load_eq, Configuration.load_eq]
      rcases hwritten : Configuration.written order path file with fault | entries
      · rfl
      · have hentries : Configuration.entriesOf document = .ok entries := by
          simpa [Configuration.written, htext, hdocument, bind, Except.bind, Except.mapError]
            using hwritten
        rw [← Configuration.entriesOf_eq_ok hentries] at hdollar
        simp only [Except.map, env.expandEntries_of_no_dollar entries hdollar,
          other.expandEntries_of_no_dollar entries hdollar]
    rw [Configuration.loadRoles, Configuration.loadRoles, hload]

/-- A document with one role for a team. -/
def Configuration.teamText (team : String) : String :=
  "roles:\n- name: " ++ team ++ "\n  rules:\n  - verbs: [read, " ++ team ++
    "]\n    resourcePatterns: [^" ++ team ++ "]\n"

/-- The file with that document. -/
def Configuration.teamFile (team : String) : File := some (teamText team).toUTF8.toList

/-- A team whose name has commas in it still has one verb more than reading, and so has a team
without a name. -/
theorem a_team_has_as_many_words_by_any_name :
    (∃ roles others,
      (Configuration.loadRoles [("TEAM", "")] id "roles.yaml"
        (Configuration.teamFile "a$TEAM")).outcome = .ok roles ∧
      (Configuration.loadRoles [("TEAM", "b, c")] id "roles.yaml"
        (Configuration.teamFile "a$TEAM")).outcome = .ok others ∧
      roles.map Role.name = ["a"] ∧ others.map Role.name = ["ab, c"] ∧
      List.Forall₂ Role.SameShape roles others) ∧
    Configuration.loadRoles [("TEAM", "")] id "roles.yaml" (Configuration.teamFile "a") =
      Configuration.loadRoles [("TEAM", "b, c")] id "roles.yaml" (Configuration.teamFile "a") := by
  have hlaw := fun file => an_environment_neither_adds_nor_drops_nor_unscopes_rules
    [("TEAM", "")] [("TEAM", "b, c")] id "roles.yaml" file
  refine ⟨?_, ?_⟩
  · have hnames : (Configuration.loadRoles [("TEAM", "")] id "roles.yaml"
        (Configuration.teamFile "a$TEAM")).outcome.map (List.map Role.name) = .ok ["a"] := by
      decide +kernel
    have hothernames : (Configuration.loadRoles [("TEAM", "b, c")] id "roles.yaml"
        (Configuration.teamFile "a$TEAM")).outcome.map (List.map Role.name) = .ok ["ab, c"] := by
      decide +kernel
    obtain ⟨roles, hroles, hnames⟩ := map_eq_ok_iff.mp hnames
    obtain ⟨others, hothers, hothernames⟩ := map_eq_ok_iff.mp hothernames
    exact ⟨roles, others, hroles, hothers, hnames, hothernames,
      (hlaw _).1 roles others hroles hothers⟩
  · have htexts : (Yaml.read id (Configuration.teamText "a")).map (fun document =>
        document.root.texts) = .ok ["a", "read", "a", "^a"] := by decide +kernel
    obtain ⟨document, hdocument, htexts⟩ := map_eq_ok_iff.mp htexts
    refine (hlaw _).2 _ document (by decide +kernel) hdocument ?_
    rw [htexts]
    decide

end DesktopPolicy
