-- The laws of name restrictions. A rule reads its patterns under one of two names, and is kept to all
-- it reads there: no pattern is lost, and what is no list of patterns is refused. What stands under
-- the other name is not looked at, even where the first name lists nothing.
import DesktopPolicy.Proofs.RoleGrammar
import DesktopPolicy.Proofs.RuleDecision

namespace DesktopPolicy

namespace Rule

/-! ## Lists of patterns -/

theorem patternsValue_of_list {entries : List (Value × Value)} {items : List Value}
    (h : field entries patternsField = .list items) : patternsValue entries = .list items := by
  rw [patternsValue, h]

theorem patternsValue_of_null {entries : List (Value × Value)}
    (h : field entries patternsField = .null) :
    patternsValue entries = field entries patternsOtherField := by
  rw [patternsValue, h]

/-- The rule has the patterns that are listed, each as its text. -/
theorem patterns_of_ofValue {entries : List (Value × Value)} {rule : Rule}
    (h : ofValue (.map entries) = .ok rule) :
    rule.patterns = (patternsValue entries).items.map Value.toText :=
  (spells_of_ofValue h).patterns

/-- What is read as a rule lists patterns or says nothing of them. -/
theorem isListOrNull_of_ofValue {entries : List (Value × Value)} {rule : Rule}
    (h : ofValue (.map entries) = .ok rule) : (patternsValue entries).IsListOrNull := by
  cases (ofValue_ok_iff (.map entries)).mp ⟨rule, h⟩ with
  | map _ _ hpatterns _ => exact hpatterns

theorem eq_null_or_nil_of_patterns {entries : List (Value × Value)} {rule : Rule}
    (h : ofValue (.map entries) = .ok rule) (hnone : rule.patterns = []) :
    patternsValue entries = .null ∨ patternsValue entries = .list [] := by
  rw [patterns_of_ofValue h, List.map_eq_nil_iff] at hnone
  rcases isListOrNull_of_ofValue h with hnull | ⟨items, hitems⟩
  · exact .inl hnull
  · rw [hitems, Value.items] at hnone
    exact .inr (hitems.trans (congrArg Value.list hnone))

/-- A rule that lists patterns allows nothing by a name in which none of them is found. -/
theorem exists_isFound_of_authorizes [Dialect] {entries : List (Value × Value)} {rule : Rule}
    (h : ofValue (.map entries) = .ok rule) (hlisted : (patternsValue entries).items ≠ [])
    {action : Action} {name : String} (hname : action.name = some name)
    (hallowed : (rule.authorizes action).outcome = .ok true) :
    ∃ item ∈ (patternsValue entries).items, Regex.IsFound name item.toText := by
  have hpermits := (authorizes_iff hallowed).mp rfl
  have hsome : rule.patterns ≠ [] := by
    rw [patterns_of_ofValue h, Ne, List.map_eq_nil_iff]
    exact hlisted
  obtain ⟨pattern, hpattern, hfound⟩ := hpermits.name name hname hsome
  rw [patterns_of_ofValue h] at hpattern
  obtain ⟨item, hitem, rfl⟩ := List.mem_map.mp hpattern
  exact ⟨item, hitem, hfound⟩

/-! ## Anything else in their place -/

theorem listField_of_not_list {entries : List (Value × Value)} {name : String}
    (h : ¬ (field entries name).IsListOrNull) :
    listField entries name = .error (.ruleField name (field entries name).kind) := by
  unfold listField
  cases hfield : field entries name with
  | null => exact absurd (.inl hfield) h
  | list items => exact absurd (.inr ⟨items, hfield⟩) h
  | _ => rfl

theorem listField_of_list {entries : List (Value × Value)} {name : String}
    (h : (field entries name).IsListOrNull) :
    listField entries name = .ok (field entries name).items :=
  listField_eq_ok_iff.mpr ⟨h, rfl⟩

/-- When verbs and resource types are in order, the patterns are what the refusal is about. -/
theorem ofValue_of_not_list {entries : List (Value × Value)}
    (hverbs : (field entries verbsField).IsListOrNull)
    (hresources : (field entries resourcesField).IsListOrNull)
    (h : ¬ (patternsValue entries).IsListOrNull) :
    ofValue (.map entries) =
      .error (.ruleField (patternsName entries) (patternsValue entries).kind) := by
  rw [← field_patternsName] at h ⊢
  rw [ofValue, ofEntries, listField_of_list hverbs, listField_of_list hresources,
    listField_of_not_list h]
  rfl

theorem refused_of_not_list {entries : List (Value × Value)}
    (h : ¬ (patternsValue entries).IsListOrNull) :
    ∃ fault, ofValue (.map entries) = .error fault ∧ fault.faultKind = .value := by
  rcases hread : ofValue (.map entries) with fault | rule
  · exact ⟨fault, rfl, fitting_ofValue _ fault hread⟩
  · exact absurd (isListOrNull_of_ofValue hread) h

end Rule

/-! ## The laws -/

/-- A rule has every pattern that is listed under their name and, where that is null or absent, every
pattern that is listed under their other name. It has none only where the one that counts is null,
absent or an empty list; otherwise it allows nothing by a name in which none of the listed patterns
is found. Where neither a list nor null stands in their place, there is no rule, and the refusal says
so unless it is about the verbs or the resource types. -/
theorem a_rule_is_kept_to_the_patterns_it_reads [Dialect] (entries : List (Value × Value)) :
    (∀ rule, Rule.ofValue (.map entries) = .ok rule →
      (∀ items, field entries Rule.patternsField = .list items →
        rule.patterns = items.map Value.toText) ∧
      (∀ items, field entries Rule.patternsField = .null →
        field entries Rule.patternsOtherField = .list items →
        rule.patterns = items.map Value.toText) ∧
      (rule.patterns = [] →
        Rule.patternsValue entries = .null ∨ Rule.patternsValue entries = .list []) ∧
      ((Rule.patternsValue entries).items ≠ [] → ∀ action name, action.name = some name →
        (rule.authorizes action).outcome = .ok true →
        ∃ item ∈ (Rule.patternsValue entries).items, Regex.IsFound name item.toText)) ∧
    (¬ (Rule.patternsValue entries).IsListOrNull →
      (∃ fault, Rule.ofValue (.map entries) = .error fault ∧ fault.faultKind = .value) ∧
      ((field entries Rule.verbsField).IsListOrNull →
        (field entries Rule.resourcesField).IsListOrNull →
        Rule.ofValue (.map entries) = .error (.ruleField (Rule.patternsName entries)
          (Rule.patternsValue entries).kind))) := by
  refine ⟨?_, ?_⟩
  · intro rule h
    have hpatterns := Rule.patterns_of_ofValue h
    refine ⟨?_, ?_, Rule.eq_null_or_nil_of_patterns h, ?_⟩
    · intro items hitems
      rw [hpatterns, Rule.patternsValue_of_list hitems, Value.items]
    · intro items hnull hitems
      rw [hpatterns, Rule.patternsValue_of_null hnull, hitems, Value.items]
    · intro hlisted action name hname hallowed
      exact Rule.exists_isFound_of_authorizes h hlisted hname hallowed
  · intro h
    refine ⟨Rule.refused_of_not_list h, ?_⟩
    intro hverbs hresources
    exact Rule.ofValue_of_not_list hverbs hresources h

/-- To read roles, with patterns under both of their names. -/
def Rule.twiceNamed (patterns others : Value) : List (Value × Value) :=
  [(.text "verbs", .list [.text "read"]), (.text "resources", .list [.text "roles"]),
    (.text "resourcePatterns", patterns), (.text "resource_patterns", others)]

/-- A list without patterns hides the ones under the other name, and so does a list with some, whatever
stands under the other name. -/
theorem an_empty_list_hides_the_patterns_under_the_other_name :
    (∃ rule, Rule.ofValue (.map (Rule.twiceNamed (.list []) (.list [.text "^a"]))) = .ok rule ∧
      "^a" ∉ rule.patterns ∧ rule.patterns = [] ∧
      (rule.authorizes ⟨.read, .roles, some "vault", none⟩).outcome = .ok true) ∧
    ∃ rule, Rule.ofValue (.map (Rule.twiceNamed (.list [.text "^a"]) (.text "^b"))) = .ok rule := by
  refine ⟨⟨{ verbs := [.read], resources := [.roles] }, rfl, by decide, rfl, ?_⟩, ⟨_, rfl⟩⟩
  decide +kernel

theorem a_rule_under_the_other_name_leaves_the_vault_shut :
    (∃ rule, Rule.ofValue (.map (Rule.twiceNamed .null (.list [.text "^a", .int 7]))) = .ok rule ∧
      rule.patterns = ["^a", "7"] ∧
      (rule.authorizes ⟨.read, .roles, some "vault", none⟩).outcome ≠ .ok true) ∧
    Rule.ofValue (.map (Rule.twiceNamed (.text "^a") (.list []))) =
      .error (.ruleField "resourcePatterns" "str") := by
  refine ⟨?_, ?_⟩
  · have hlist : Rule.patternsValue (Rule.twiceNamed .null (.list [.text "^a", .int 7])) =
        .list [.text "^a", .int 7] := rfl
    obtain ⟨rule, hread⟩ := (Rule.ofValue_ok_iff
      (.map (Rule.twiceNamed .null (.list [.text "^a", .int 7])))).mpr
        (.map (.inr ⟨_, rfl⟩) (.inr ⟨_, rfl⟩) (.inr ⟨_, hlist⟩) (.inl rfl))
    obtain ⟨-, hother, -, hfound⟩ := (a_rule_is_kept_to_the_patterns_it_reads _).1 rule hread
    rw [hlist, Value.items] at hfound
    have hnone : ∀ pattern ∈ [Value.text "^a", .int 7],
        ¬ Regex.IsFound "vault" pattern.toText := by
      simp only [← Rule.patternFinds_eq_true_iff, List.forall_mem_cons]
      exact ⟨by decide +kernel, by decide +kernel, List.forall_mem_nil _⟩
    refine ⟨rule, hread, hother _ rfl rfl, ?_⟩
    intro hallowed
    obtain ⟨item, hitem, hmatch⟩ := hfound (by simp) _ _ rfl hallowed
    exact hnone item hitem hmatch
  · have hscalar : ¬ (Rule.patternsValue (Rule.twiceNamed (.text "^a") (.list []))).IsListOrNull := by
      rintro (hnull | ⟨items, hitems⟩)
      · cases hnull
      · cases hitems
    exact ((a_rule_is_kept_to_the_patterns_it_reads _).2 hscalar).2 (.inr ⟨_, rfl⟩)
      (.inr ⟨_, rfl⟩)

end DesktopPolicy
