-- The laws of longer and shorter rules. What a rule answers depends on which words it lists, and not
-- on their order, on how often they are listed, or on where the wildcard stands. To list more words
-- never takes anything away. Patterns and namespaces are the exception where there are none: the
-- first of them never adds anything.
import DesktopPolicy.Proofs.PatternRefusal

namespace DesktopPolicy

section

variable [Dialect]

namespace Rule

/-! ## The pure model -/

/-- The first rule is the second one, with patterns or namespaces where the second one has none. -/
structure Narrows (narrow rule : Rule) : Prop where
  verbs : narrow.verbWords = rule.verbWords
  resources : narrow.resourceWords = rule.resourceWords
  patterns : narrow.patterns = rule.patterns ∨ rule.patterns = []
  namespaces : narrow.namespaces = rule.namespaces ∨ rule.namespaces = []

/-! ## Rules with first patterns and namespaces -/

theorem Narrows.permits {narrow rule : Rule} (h : narrow.Narrows rule) {inquiry : Inquiry}
    (hpermits : narrow.Permits inquiry) : rule.Permits inquiry where
  verb := h.verbs ▸ hpermits.verb
  resource := h.resources ▸ hpermits.resource
  name := by
    intro name hname hne
    have hsame := h.patterns.resolve_right hne
    exact hsame ▸ hpermits.name name hname (hsame ▸ hne)
  space := by
    intro space hspace hverb hresource hne
    have hsame := h.namespaces.resolve_right hne
    exact hsame ▸ hpermits.space space hspace hverb hresource (hsame ▸ hne)

theorem Narrows.settles {narrow rule : Rule} (h : narrow.Narrows rule) {inquiry : Inquiry}
    (hsettles : narrow.Settles inquiry) : rule.Settles inquiry := by
  intro hverb hresource name hname
  rcases h.patterns with hsame | hnone
  · have hnarrow := hsettles (h.verbs ▸ hverb) (h.resources ▸ hresource) name hname
    rwa [SettlesName, hsame] at hnarrow
  · exact settlesName_of_patternless hnone name

end Rule

/-! ## The laws -/

/-- Where both rules come to an answer, a rule that lists every word of another one authorizes all
that the other one does, as long as patterns narrow both or neither, and namespaces too. So rules
that list the same words answer alike. To give a rule its first patterns or its first namespaces
never makes it authorize what it did not authorize without them. -/
theorem a_rule_answers_by_the_words_it_lists (rule other : Rule) (action : Action) :
    (rule.Within other → (other.authorizes action).Answers →
      (rule.authorizes action).outcome = .ok true →
        (other.authorizes action).outcome = .ok true) ∧
    (rule.Within other → other.Within rule →
      (rule.authorizes action).Agree (other.authorizes action)) ∧
    (other.Narrows rule → (other.authorizes action).outcome = .ok true →
      (rule.authorizes action).outcome = .ok true) := by
  refine ⟨?_, ?_, ?_⟩
  · rintro hwithin ⟨allowed, hother⟩ hrule
    have hpermits := hwithin.permits ((Rule.authorizes_iff hrule).mp rfl)
    rw [hother, (Rule.authorizes_iff hother).mpr hpermits]
  · intro hwithin hback
    have hsame : other.Permits action.inquiry ↔ rule.Permits action.inquiry :=
      ⟨hback.permits, hwithin.permits⟩
    exact Noted.agree_of_iff Rule.authorizes_iff fun h => (Rule.authorizes_iff h).trans hsame
  · intro hnarrows hother
    obtain ⟨hsettles, hpermits⟩ := (Rule.authorizes_eq_true_iff other action).mp hother
    exact (Rule.authorizes_eq_true_iff rule action).mpr
      ⟨hnarrows.settles hsettles, hnarrows.permits hpermits⟩

end

/-- To launch at home from templates that start with an a. -/
def Rule.brief : Rule :=
  { verbs := [.launch], resources := [.templates], patterns := ["^a"], namespaces := ["home"] }

/-- The same in other words, among more of them. -/
def Rule.wordy : Rule :=
  { verbs := [.read, .all, .other "launch"], resources := [.roles, .other "templates"]
    patterns := ["(", "^b", "^a"], namespaces := ["away", "home"] }

/-- The words of the wordy rule from the last one to the first, some of them twice. -/
def Rule.reworded : Rule :=
  { verbs := [.launch, .all, .read, .all], resources := [.templates, .roles]
    patterns := ["^a", "^b", "(", "^a"], namespaces := ["home", "away", "home"] }

/-- The wordy rule about every name, everywhere. -/
def Rule.unscoped : Rule := { Rule.wordy with patterns := [], namespaces := [] }

theorem a_wordy_rule_launches_what_the_brief_one_does :
    (Rule.brief.authorizes ⟨.launch, .templates, some "ab", some "home"⟩).outcome = .ok true ∧
    (Rule.wordy.authorizes ⟨.launch, .templates, some "ab", some "home"⟩).outcome = .ok true ∧
    (Rule.wordy.authorizes ⟨.launch, .templates, some "ab", some "home"⟩).outcome =
      (Rule.reworded.authorizes ⟨.launch, .templates, some "ab", some "home"⟩).outcome ∧
    (Rule.unscoped.authorizes ⟨.launch, .templates, some "ab", some "home"⟩).outcome =
      .ok true := by
  have hbrief : (Rule.brief.authorizes ⟨.launch, .templates, some "ab", some "home"⟩).outcome =
      .ok true := by decide +kernel
  have hwordy : (Rule.wordy.authorizes ⟨.launch, .templates, some "ab", some "home"⟩).Answers :=
    ⟨true, by decide +kernel⟩
  have hreworded :
      (Rule.reworded.authorizes ⟨.launch, .templates, some "ab", some "home"⟩).Answers :=
    ⟨true, by decide +kernel⟩
  have hwithin : Rule.brief.Within Rule.wordy := by constructor <;> decide
  have hthere : Rule.wordy.Within Rule.reworded := by constructor <;> decide
  have hback : Rule.reworded.Within Rule.wordy := by constructor <;> decide
  have hnarrows : Rule.wordy.Narrows Rule.unscoped := ⟨rfl, rfl, .inr rfl, .inr rfl⟩
  have hlaunch := (a_rule_answers_by_the_words_it_lists _ _ _).1 hwithin hwordy hbrief
  refine ⟨hbrief, hlaunch, ?_, ?_⟩
  · exact (a_rule_answers_by_the_words_it_lists _ _ _).2.1 hthere hback hwordy hreworded
  · exact (a_rule_answers_by_the_words_it_lists _ _ _).2.2 hnarrows hlaunch

end DesktopPolicy
