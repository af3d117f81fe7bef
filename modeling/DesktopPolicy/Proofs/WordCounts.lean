-- The laws of deep equality. Two rules are deep-equal when every word occurs equally often in both, in
-- each dimension. It does not matter in which order the words are listed, nor whether one is listed as
-- a member of its enumeration. It matters how often a word is repeated. What was written is read back
-- as the same rule unless a pattern or a namespace is such a member: that is read as another text.
import DesktopPolicy.Proofs.RoleRoundTrip
import DesktopPolicy.Proofs.RuleEquality
import DesktopPolicy.Rule.Assembled

namespace DesktopPolicy.Rule

/-! ## The pure model -/

inductive Dimension where
  | verbs
  | resources
  | patterns
  | namespaces

namespace Assembled

/-- The entries of the rule in a dimension. -/
def entries (rule : Assembled) : Dimension → List Entry
  | .verbs => rule.verbs
  | .resources => rule.resources
  | .patterns => rule.patterns
  | .namespaces => rule.namespaces

def words (rule : Assembled) (d : Dimension) : List String := (rule.entries d).map Entry.word

/-- The words of the rule that is read back. -/
def wordsAgain (rule : Assembled) : Dimension → List String
  | .verbs => rule.words .verbs
  | .resources => rule.words .resources
  | .patterns => rule.patterns.map Entry.told
  | .namespaces => rule.namespaces.map Entry.told

/-- The rules differ in the order of their entries alone, and in which of them are members. -/
def Respells (a b : Assembled) : Prop :=
  ∀ d, ∃ ordered, (a.entries d).Perm ordered ∧
    List.Forall₂ (fun entry other => entry.word = other.word) ordered (b.entries d)

/-- Every pattern and every namespace is told by its word, as each text is. -/
def IsPlain (rule : Assembled) : Prop :=
  ∀ entry ∈ rule.patterns ++ rule.namespaces, entry.told = entry.word

/-- The rule as it is read back. -/
def again (rule : Assembled) : Rule where
  verbs := rule.verbs.map fun entry => Verb.ofWord entry.word
  resources := rule.resources.map fun entry => Resource.ofWord entry.word
  patterns := rule.patterns.map Entry.told
  namespaces := rule.namespaces.map Entry.told

/-! ## Words counted -/

theorem sortedWords_eq_iff (a b : List Entry) :
    sortedWords a = sortedWords b ↔ (a.map Entry.word).Perm (b.map Entry.word) :=
  sorted_eq_iff _ _

theorem deepEqual_iff_perm (a b : Assembled) :
    a.deepEqual b = true ↔ ∀ d, (a.words d).Perm (b.words d) := by
  simp only [deepEqual, Bool.and_eq_true, beq_iff_eq, sortedWords_eq_iff]
  constructor
  · rintro ⟨⟨⟨hresources, hverbs⟩, hpatterns⟩, hspaces⟩ d
    cases d with
    | verbs => exact hverbs
    | resources => exact hresources
    | patterns => exact hpatterns
    | namespaces => exact hspaces
  · intro h
    exact ⟨⟨⟨h .resources, h .verbs⟩, h .patterns⟩, h .namespaces⟩

theorem deepEqual_iff_count (a b : Assembled) :
    a.deepEqual b = true ↔ ∀ d word, (a.words d).count word = (b.words d).count word := by
  simp only [deepEqual_iff_perm, List.perm_iff_count]

theorem deepEqual_equivalence : Equivalence fun a b : Assembled => a.deepEqual b = true := by
  simp only [deepEqual_iff_perm]
  constructor
  · exact fun a d => .rfl
  · exact fun h d => (h d).symm
  · exact fun h h' d => (h d).trans (h' d)

/-- One more word in some dimension makes another rule. -/
theorem deepEqual_of_more {a b : Assembled} {d : Dimension} {word : String}
    (h : (a.words d).Perm (word :: b.words d)) : a.deepEqual b = false := by
  rw [← Bool.not_eq_true, deepEqual_iff_count]
  intro hequal
  have hcount := h.count word
  rw [List.count_cons_self, hequal d word] at hcount
  omega

/-! ## Other spellings -/

theorem deepEqual_of_same {a b : Assembled} (h : a.same b = true) : a.deepEqual b = true := by
  unfold same at h
  simp only [Bool.and_eq_true, beq_iff_eq] at h
  obtain ⟨⟨⟨hverbs, hresources⟩, hpatterns⟩, hspaces⟩ := h
  rw [deepEqual_iff_perm]
  intro d
  cases d with
  | verbs => exact .of_eq hverbs
  | resources => exact .of_eq hresources
  | patterns => exact .of_eq hpatterns
  | namespaces => exact .of_eq hspaces

theorem Respells.deepEqual {a b : Assembled} (h : a.Respells b) : a.deepEqual b = true := by
  rw [deepEqual_iff_perm]
  intro d
  obtain ⟨ordered, hperm, hwords⟩ := h d
  have hsame : ordered.map Entry.word = b.words d := by
    unfold words
    rw [← List.forall₂_eq_eq_eq, List.forall₂_map_left_iff, List.forall₂_map_right_iff]
    exact hwords
  rw [← hsame]
  exact hperm.map Entry.word

/-! ## Rules read as they were written -/

theorem verbWords_again (rule : Assembled) : rule.again.verbWords = rule.words .verbs := by
  simp [verbWords, again, words, entries, Function.comp_def, Verb.word_ofWord]

theorem resourceWords_again (rule : Assembled) :
    rule.again.resourceWords = rule.words .resources := by
  simp [resourceWords, again, words, entries, Function.comp_def, Resource.word_ofWord]

theorem known_again (rule : Assembled) : rule.again.Known := by
  unfold again
  constructor <;> simp [Verb.word_ofWord, Resource.word_ofWord]

theorem readBack_eq (rule : Assembled) : rule.readBack = .ok rule.again := by
  have hwritten : Value.map (rule.written.map fun field =>
      (.text field.1, textList (field.2.map Entry.told))) = rule.again.toValue := by
    unfold toValue written
    rw [verbWords_again, resourceWords_again]
    rcases rule with ⟨verbs, resources, patterns, namespaces⟩
    cases verbs <;> cases resources <;> cases patterns <;> cases namespaces <;>
      simp [filledEntry, words, entries, again, Entry.told, Function.comp_def]
  unfold readBack
  rw [hwritten]
  exact rule.known_again.ofValue_toValue

theorem deepEqual_again_iff (a b : Assembled) :
    a.again.deepEqual b.again = true ↔ ∀ d, (a.wordsAgain d).Perm (b.wordsAgain d) := by
  rw [Rule.deepEqual_iff]
  constructor
  · intro h d
    cases d with
    | verbs => simpa only [verbWords_again, wordsAgain] using h.verbs
    | resources => simpa only [resourceWords_again, wordsAgain] using h.resources
    | patterns => exact h.patterns
    | namespaces => exact h.namespaces
  · intro h
    constructor
    · simpa only [verbWords_again, wordsAgain] using h .verbs
    · simpa only [resourceWords_again, wordsAgain] using h .resources
    · exact h .patterns
    · exact h .namespaces

theorem IsPlain.wordsAgain {rule : Assembled} (h : rule.IsPlain) (d : Dimension) :
    rule.wordsAgain d = rule.words d := by
  cases d with
  | verbs => rfl
  | resources => rfl
  | patterns =>
    exact List.map_congr_left fun entry hentry => h entry (List.mem_append_left _ hentry)
  | namespaces =>
    exact List.map_congr_left fun entry hentry => h entry (List.mem_append_right _ hentry)

/-! ## Rules of the library -/

theorem word_ofVerb (verb : Verb) : (Entry.ofVerb verb).word = verb.word := by
  cases verb <;> rfl

theorem word_ofResource (resource : Resource) :
    (Entry.ofResource resource).word = resource.word := by
  cases resource <;> rfl

theorem map_word_text (words : List String) : (words.map Entry.text).map Entry.word = words := by
  rw [List.map_map]
  exact (List.map_congr_left fun _ _ => rfl).trans (List.map_id _)

theorem deepEqual_assembled (a b : Rule) : a.assembled.deepEqual b.assembled = a.deepEqual b := by
  have hverbs : ∀ rule : Rule, rule.assembled.verbs.map Entry.word = rule.verbWords := by
    intro rule
    simp [assembled, verbWords, Function.comp_def, word_ofVerb]
  have hresources : ∀ rule : Rule, rule.assembled.resources.map Entry.word = rule.resourceWords := by
    intro rule
    simp [assembled, resourceWords, Function.comp_def, word_ofResource]
  unfold deepEqual Rule.deepEqual sortedWords
  rw [hverbs, hverbs, hresources, hresources]
  simp only [assembled, map_word_text]

end Assembled

end DesktopPolicy.Rule

namespace DesktopPolicy

/-! ## The laws -/

/-- Rules are deep-equal when every word occurs equally often in both, in each dimension. That makes
an equivalence, which neither the order of the entries nor their spelling disturbs, and which one more
repetition does. Every rule that was written is read back, with the words that are told; so rules with
plain patterns and namespaces are deep-equal exactly when they are after that. -/
theorem rules_are_the_same_when_their_words_occur_equally_often :
    (∀ a b : Rule.Assembled, a.deepEqual b = true ↔
      ∀ d word, (a.words d).count word = (b.words d).count word) ∧
    Equivalence (fun a b : Rule.Assembled => a.deepEqual b = true) ∧
    (∀ a b : Rule.Assembled, a.same b = true → a.deepEqual b = true) ∧
    (∀ a b : Rule.Assembled, a.Respells b → a.deepEqual b = true) ∧
    (∀ (a b : Rule.Assembled) d word, (a.words d).Perm (word :: b.words d) →
      a.deepEqual b = false) ∧
    (∀ a b : Rule, a.assembled.deepEqual b.assembled = a.deepEqual b) ∧
    ∀ a b : Rule.Assembled, ∃ a' b', a.readBack = .ok a' ∧ b.readBack = .ok b' ∧
      (a'.deepEqual b' = true ↔
        ∀ d word, (a.wordsAgain d).count word = (b.wordsAgain d).count word) ∧
      (a.IsPlain → b.IsPlain → a'.deepEqual b' = a.deepEqual b) := by
  refine ⟨Rule.Assembled.deepEqual_iff_count, Rule.Assembled.deepEqual_equivalence, ?_, ?_, ?_,
    Rule.Assembled.deepEqual_assembled, ?_⟩
  · intro a b hsame
    exact Rule.Assembled.deepEqual_of_same hsame
  · intro a b hrespells
    exact hrespells.deepEqual
  · intro a b d word hmore
    exact Rule.Assembled.deepEqual_of_more hmore
  · intro a b
    refine ⟨a.again, b.again, a.readBack_eq, b.readBack_eq, ?_, ?_⟩
    · simp only [Rule.Assembled.deepEqual_again_iff, List.perm_iff_count]
    · intro ha hb
      rw [Bool.eq_iff_iff, Rule.Assembled.deepEqual_again_iff, Rule.Assembled.deepEqual_iff_perm]
      simp only [ha.wordsAgain, hb.wordsAgain]

/-- To read and launch anything in one namespace, which is this entry. -/
def Rule.Assembled.everywhere (space : Entry) : Rule.Assembled where
  verbs := [.ofVerb .read, .text "launch", .text "read"]
  resources := [.ofResource .all]
  namespaces := [space]

/-- Two rules of one word, a member in one of them, are deep-equal, and are not once they are read
back; and two that are not deep-equal are once they are read back. -/
theorem a_namespace_that_is_a_member_is_read_back_as_another :
    ((Rule.Assembled.everywhere (.ofResource .all)).deepEqual (.everywhere (.text "*")) = true ∧
      ∃ a b, (Rule.Assembled.everywhere (.ofResource .all)).readBack = .ok a ∧
        (Rule.Assembled.everywhere (.text "*")).readBack = .ok b ∧ a.deepEqual b = false) ∧
    (Rule.Assembled.everywhere (.ofResource .all)).deepEqual
        (.everywhere (.text "Resource.ALL")) = false ∧
      ∃ a b, (Rule.Assembled.everywhere (.ofResource .all)).readBack = .ok a ∧
        (Rule.Assembled.everywhere (.text "Resource.ALL")).readBack = .ok b ∧
          a.deepEqual b = true := by
  refine ⟨⟨?_, _, _, Rule.Assembled.readBack_eq _, Rule.Assembled.readBack_eq _, ?_⟩,
    ?_, _, _, Rule.Assembled.readBack_eq _, Rule.Assembled.readBack_eq _, ?_⟩
  · rw [Rule.Assembled.deepEqual_iff_perm]
    intro d
    cases d <;> decide
  · rw [← Bool.not_eq_true, Rule.Assembled.deepEqual_again_iff]
    intro h
    exact absurd (h .namespaces) (by decide)
  · rw [← Bool.not_eq_true, Rule.Assembled.deepEqual_iff_perm]
    intro h
    exact absurd (h .namespaces) (by decide)
  · rw [Rule.Assembled.deepEqual_again_iff]
    intro d
    cases d <;> decide

/-- The same with other entries as members, in another order. -/
def Rule.Assembled.respelled : Rule.Assembled where
  verbs := [.text "read", .ofVerb .read, .ofVerb .launch]
  resources := [.text "*"]
  namespaces := [.text "*"]

/-- The same, with no verb twice. -/
def Rule.Assembled.unrepeated : Rule.Assembled where
  verbs := [.ofVerb .read, .ofVerb .launch]
  resources := [.ofResource .all]
  namespaces := [.text "*"]

theorem a_rule_in_plain_words_is_the_same_rule :
    (Rule.Assembled.everywhere (.text "*")).deepEqual .respelled = true ∧
    Rule.Assembled.respelled.deepEqual .unrepeated = false ∧
    ∃ again other, (Rule.Assembled.everywhere (.text "*")).readBack = .ok again ∧
      Rule.Assembled.respelled.readBack = .ok other ∧ again.deepEqual other = true := by
  obtain ⟨-, -, -, hrespelled, hrepeated, -, hagain⟩ :=
    rules_are_the_same_when_their_words_occur_equally_often
  have hsame : (Rule.Assembled.everywhere (.text "*")).deepEqual .respelled = true := by
    apply hrespelled
    intro d
    cases d with
    | verbs =>
      refine ⟨[.text "read", .ofVerb .read, .text "launch"], by decide, ?_⟩
      exact .cons rfl (.cons rfl (.cons rfl .nil))
    | resources => exact ⟨[.ofResource .all], .rfl, .cons rfl .nil⟩
    | patterns => exact ⟨[], .rfl, .nil⟩
    | namespaces => exact ⟨[.text "*"], .rfl, .cons rfl .nil⟩
  have hless : Rule.Assembled.respelled.deepEqual .unrepeated = false :=
    hrepeated _ _ .verbs "read" (by decide)
  have heverywhere : (Rule.Assembled.everywhere (.text "*")).IsPlain :=
    List.forall_mem_singleton.mpr rfl
  have hplain : Rule.Assembled.respelled.IsPlain := List.forall_mem_singleton.mpr rfl
  obtain ⟨again, other, hread, hother, -, hequal⟩ :=
    hagain (Rule.Assembled.everywhere (.text "*")) .respelled
  exact ⟨hsame, hless, again, other, hread, hother, (hequal heverywhere hplain).trans hsame⟩

end DesktopPolicy
