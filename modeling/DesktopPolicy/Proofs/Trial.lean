-- The laws of walks with notes. Each item of a walk passes, is turned down, or fails. The first one
-- that is not turned down decides what the walk comes to.
import DesktopPolicy.Noted
import Mathlib

namespace DesktopPolicy.Noted

variable {ν μ ε δ α β : Type}

/-! ## Single steps -/

@[simp]
theorem answer_outcome (a : α) : (answer a : Noted ν ε α).outcome = .ok a := rfl

theorem next_of_ok {step : Noted ν ε α} {a : α} (f : α → Noted ν ε β) (h : step.outcome = .ok a) :
    (next step f).outcome = (f a).outcome := by
  simp [next, h]

theorem next_of_error {step : Noted ν ε α} {e : ε} (f : α → Noted ν ε β)
    (h : step.outcome = .error e) : (next step f).outcome = .error e := by
  simp [next, h]

/-- What comes behind a step depends on its outcome only. -/
theorem next_outcome_congr {step other : Noted ν ε α} (f : α → Noted ν ε β)
    (h : step.outcome = other.outcome) : (next step f).outcome = (next other f).outcome := by
  rcases ho : other.outcome with e | a
  · rw [next_of_error f ho, next_of_error f (h.trans ho)]
  · rw [next_of_ok f ho, next_of_ok f (h.trans ho)]

theorem notes_next_of_ok {step : Noted ν ε α} {a : α} (f : α → Noted ν ε β)
    (h : step.outcome = .ok a) : (next step f).notes = step.notes ++ (f a).notes := by
  simp [next, h]

theorem notes_next_of_error {step : Noted ν ε α} {e : ε} (f : α → Noted ν ε β)
    (h : step.outcome = .error e) : (next step f).notes = step.notes := by
  simp [next, h]

@[simp]
theorem retell_outcome (f : ν → μ) (g : ε → δ) (step : Noted ν ε α) :
    (step.retell f g).outcome = step.outcome.mapError g := rfl

/-! ## Some item passes -/

theorem any_cons_of_false {test : α → Noted ν ε Bool} (item : α) (rest : List α)
    (h : (test item).outcome = .ok false) :
    (any test (item :: rest)).outcome = (any test rest).outcome := by
  rw [any, next_of_ok _ h]
  rfl

theorem any_cons_of_ne {test : α → Noted ν ε Bool} (item : α) (rest : List α)
    (h : (test item).outcome ≠ .ok false) :
    (any test (item :: rest)).outcome = (test item).outcome := by
  rw [any]
  rcases ht : (test item).outcome with e | passed
  · exact next_of_error _ ht
  · rw [next_of_ok _ ht]
    cases passed with
    | false => exact absurd ht h
    | true => rfl

/-- Items that are turned down leave the answer to those behind them. -/
theorem any_append_of_false {test : α → Noted ν ε Bool} {before : List α} (rest : List α)
    (h : ∀ item ∈ before, (test item).outcome = .ok false) :
    (any test (before ++ rest)).outcome = (any test rest).outcome := by
  induction before with
  | nil => rfl
  | cons item before ih =>
    rw [List.cons_append, any_cons_of_false item _ (h item List.mem_cons_self)]
    exact ih fun earlier he => h earlier (List.mem_cons_of_mem _ he)

/-- An item that is turned down can be left out. -/
theorem any_middle_of_false {test : α → Noted ν ε Bool} (before : List α) {item : α}
    (after : List α) (h : (test item).outcome = .ok false) :
    (any test (before ++ item :: after)).outcome = (any test (before ++ after)).outcome := by
  induction before with
  | nil => exact any_cons_of_false item after h
  | cons first before ih =>
    rw [List.cons_append, List.cons_append]
    by_cases ht : (test first).outcome = .ok false
    · rw [any_cons_of_false first _ ht, any_cons_of_false first _ ht, ih]
    · rw [any_cons_of_ne first _ ht, any_cons_of_ne first _ ht]

theorem any_eq_false_iff {test : α → Noted ν ε Bool} {items : List α} :
    (any test items).outcome = .ok false ↔ ∀ item ∈ items, (test item).outcome = .ok false := by
  constructor
  · intro h
    induction items with
    | nil => simp
    | cons item rest ih =>
      by_cases ht : (test item).outcome = .ok false
      · rw [any_cons_of_false item rest ht] at h
        simpa [ht] using ih h
      · rw [any_cons_of_ne item rest ht] at h
        exact absurd h ht
  · intro h
    have hall := any_append_of_false [] h
    rw [List.append_nil] at hall
    exact hall

/-- The first item that is not turned down. -/
def FirstAt (test : α → Noted ν ε Bool) (items : List α) (item : α) : Prop :=
  ∃ before after, items = before ++ item :: after ∧
    (∀ earlier ∈ before, (test earlier).outcome = .ok false) ∧ (test item).outcome ≠ .ok false

theorem FirstAt.mem {test : α → Noted ν ε Bool} {items : List α} {item : α}
    (h : FirstAt test items item) : item ∈ items := by
  obtain ⟨before, after, rfl, -, -⟩ := h
  simp

/-- The first item that is not turned down decides the walk. -/
theorem FirstAt.outcome {test : α → Noted ν ε Bool} {items : List α} {item : α}
    (h : FirstAt test items item) : (any test items).outcome = (test item).outcome := by
  obtain ⟨before, after, rfl, hbefore, hitem⟩ := h
  rw [any_append_of_false _ hbefore, any_cons_of_ne item _ hitem]

/-- A walk that does not turn everything down has a first item that is not turned down. -/
theorem exists_firstAt {test : α → Noted ν ε Bool} {items : List α}
    (h : (any test items).outcome ≠ .ok false) : ∃ item, FirstAt test items item := by
  induction items with
  | nil => exact absurd rfl h
  | cons item rest ih =>
    by_cases ht : (test item).outcome = .ok false
    · rw [any_cons_of_false item rest ht] at h
      obtain ⟨first, before, after, rfl, hbefore, hfirst⟩ := ih h
      refine ⟨first, item :: before, after, rfl, ?_, hfirst⟩
      simpa [ht] using hbefore
    · exact ⟨item, [], rest, rfl, by simp, ht⟩

theorem any_eq_iff_firstAt {test : α → Noted ν ε Bool} {items : List α} {outcome : Except ε Bool}
    (h : outcome ≠ .ok false) :
    (any test items).outcome = outcome ↔
      ∃ item, FirstAt test items item ∧ (test item).outcome = outcome := by
  constructor
  · intro ho
    have hne : (any test items).outcome ≠ .ok false := ho ▸ h
    obtain ⟨item, hitem⟩ := exists_firstAt hne
    exact ⟨item, hitem, by rw [← hitem.outcome, ho]⟩
  · rintro ⟨item, hitem, ho⟩
    rw [hitem.outcome, ho]

/-- The step comes to an answer. -/
def Answers (step : Noted ν ε α) : Prop := ∃ a, step.outcome = .ok a

/-- The steps come to the same answer, unless one of them fails. -/
def Agree (step other : Noted ν ε α) : Prop :=
  step.Answers → other.Answers → step.outcome = other.outcome

/-- Steps whose answers are told by one condition agree. -/
theorem agree_of_iff {step other : Noted ν ε Bool} {P : Prop}
    (hstep : ∀ {passed}, step.outcome = .ok passed → (passed = true ↔ P))
    (hother : ∀ {passed}, other.outcome = .ok passed → (passed = true ↔ P)) :
    step.Agree other := by
  rintro ⟨passed, h⟩ ⟨passed', h'⟩
  rw [h, h', Bool.eq_iff_iff.mpr ((hstep h).trans (hother h').symm)]

/-- What holds wherever a list is split holds at its head and wherever its tail is split. -/
theorem forall_split_cons_iff {P : List α → α → Prop} (first : α) (rest : List α) :
    (∀ before item after, first :: rest = before ++ item :: after → P before item) ↔
      P [] first ∧
        ∀ before item after, rest = before ++ item :: after → P (first :: before) item := by
  constructor
  · intro h
    refine ⟨h [] first rest rfl, ?_⟩
    rintro before item after rfl
    exact h (first :: before) item after rfl
  · rintro ⟨hfirst, hrest⟩ before item after hsplit
    cases before with
    | nil =>
      cases hsplit
      exact hfirst
    | cons other before =>
      cases hsplit
      exact hrest before item after rfl

/-- A walk comes to an answer when every item that fails stands behind one that passes. -/
theorem any_answers_iff (test : α → Noted ν ε Bool) (items : List α) :
    (any test items).Answers ↔ ∀ before item after, items = before ++ item :: after →
      ¬ (test item).Answers → ∃ earlier ∈ before, (test earlier).outcome = .ok true := by
  induction items with
  | nil => simp [Answers, any]
  | cons first rest ih =>
    rw [forall_split_cons_iff]
    rcases ht : (test first).outcome with e | passed
    · have hne : (test first).outcome ≠ .ok false := by simp [ht]
      simp [Answers, any_cons_of_ne first rest hne, ht]
    · cases passed with
      | true =>
        have hne : (test first).outcome ≠ .ok false := by simp [ht]
        simp [Answers, any_cons_of_ne first rest hne, ht]
      | false =>
        rw [Answers, any_cons_of_false first rest ht, ← Answers, ih]
        simp [Answers, ht]

/-- A walk with milder tests passes too: tests that answer where the others do, and that pass what
these pass. -/
theorem any_eq_true_mono {test milder : α → Noted ν ε Bool} {items : List α}
    (hanswers : ∀ item ∈ items, (test item).Answers → (milder item).Answers)
    (hpasses : ∀ item ∈ items, (test item).outcome = .ok true → (milder item).outcome = .ok true)
    (h : (any test items).outcome = .ok true) : (any milder items).outcome = .ok true := by
  induction items with
  | nil => exact absurd h (by simp [any])
  | cons item rest ih =>
    by_cases ht : (test item).outcome = .ok false
    · obtain ⟨passed, hm⟩ := hanswers item List.mem_cons_self ⟨false, ht⟩
      cases passed with
      | true => rw [any_cons_of_ne item rest (by simp [hm]), hm]
      | false =>
        rw [any_cons_of_false item rest ht] at h
        rw [any_cons_of_false item rest hm]
        exact ih (fun later hl => hanswers later (List.mem_cons_of_mem _ hl))
          (fun later hl => hpasses later (List.mem_cons_of_mem _ hl)) h
    · rw [any_cons_of_ne item rest ht] at h
      have hm := hpasses item List.mem_cons_self h
      rw [any_cons_of_ne item rest (by simp [hm]), hm]

/-- Items that are turned down without a note can be left out. -/
theorem any_filter {test : α → Noted ν ε Bool} {p : α → Bool}
    (h : ∀ item, p item = false → test item = answer false) (items : List α) :
    any test (items.filter p) = any test items := by
  induction items with
  | nil => rfl
  | cons item rest ih =>
    cases hp : p item with
    | true => rw [List.filter_cons_of_pos hp, any, any, ih]
    | false =>
      rw [List.filter_cons_of_neg (by simp [hp]), ih, any, h item hp]
      simp [next, answer]

/-- Items that are turned down can be left out, whatever is noted about them. -/
theorem any_filter_of_false {test : α → Noted ν ε Bool} {p : α → Bool} {items : List α}
    (h : ∀ item ∈ items, p item = false → (test item).outcome = .ok false) :
    (any test (items.filter p)).outcome = (any test items).outcome := by
  induction items with
  | nil => rfl
  | cons item rest ih =>
    have hrest := ih fun later hl => h later (List.mem_cons_of_mem _ hl)
    cases hp : p item with
    | false =>
      rw [List.filter_cons_of_neg (by simp [hp]),
        any_cons_of_false item rest (h item List.mem_cons_self hp), hrest]
    | true =>
      rw [List.filter_cons_of_pos hp]
      by_cases ht : (test item).outcome = .ok false
      · rw [any_cons_of_false item _ ht, any_cons_of_false item _ ht, hrest]
      · rw [any_cons_of_ne item _ ht, any_cons_of_ne item _ ht]

/-! ## What is noted on a walk -/

/-- A walk notes what tests of all its items would, up to the item that decides it. -/
theorem notes_any_prefix (test : α → Noted ν ε Bool) (items : List α) :
    (any test items).notes <+: items.flatMap fun item => (test item).notes := by
  induction items with
  | nil => exact List.prefix_refl _
  | cons item rest ih =>
    rw [any, List.flatMap_cons]
    rcases ht : (test item).outcome with e | passed
    · rw [notes_next_of_error _ ht]
      exact List.prefix_append _ _
    · rw [notes_next_of_ok _ ht, List.prefix_append_right_inj]
      cases passed with
      | false => exact ih
      | true => exact List.nil_prefix

/-- A walk that turns everything down notes all there is to note. -/
theorem notes_any_of_false {test : α → Noted ν ε Bool} {items : List α}
    (h : (any test items).outcome = .ok false) :
    (any test items).notes = items.flatMap fun item => (test item).notes := by
  induction items with
  | nil => rfl
  | cons item rest ih =>
    have hitem := any_eq_false_iff.mp h item List.mem_cons_self
    rw [any_cons_of_false item rest hitem] at h
    rw [any, notes_next_of_ok _ hitem, List.flatMap_cons]
    simp only [Bool.false_eq_true, if_false]
    rw [ih h]

/-! ## The items that pass -/

/-- The item passes. -/
def passes (test : α → Noted ν ε Bool) (item : α) : Bool :=
  match (test item).outcome with
  | .ok passed => passed
  | .error _ => false

theorem passes_iff {test : α → Noted ν ε Bool} {item : α} :
    passes test item = true ↔ (test item).outcome = .ok true := by
  unfold passes
  rcases (test item).outcome with e | passed <;> simp

/-- When the test answers about every item, those are kept that pass. -/
theorem keep_of_answers {test : α → Noted ν ε Bool} {items : List α}
    (h : ∀ item ∈ items, (test item).Answers) :
    (keep test items).outcome = .ok (items.filter (passes test)) := by
  induction items with
  | nil => rfl
  | cons item rest ih =>
    have hrest := ih fun later hl => h later (List.mem_cons_of_mem _ hl)
    obtain ⟨passed, ht⟩ := h item List.mem_cons_self
    rw [keep, next_of_ok _ ht, next_of_ok _ hrest, answer_outcome]
    cases passed <;> simp [passes, ht]

theorem keep_of_not_answers {test : α → Noted ν ε Bool} {items : List α}
    (h : ∃ item ∈ items, ¬ (test item).Answers) : ∃ e, (keep test items).outcome = .error e := by
  induction items with
  | nil => simp at h
  | cons item rest ih =>
    rcases ht : (test item).outcome with e | passed
    · exact ⟨e, by rw [keep, next_of_error _ ht]⟩
    · have hrest : ∃ later ∈ rest, ¬ (test later).Answers := by
        obtain ⟨later, hl, hfails⟩ := h
        rcases List.mem_cons.mp hl with rfl | hl
        · exact absurd ⟨passed, ht⟩ hfails
        · exact ⟨later, hl, hfails⟩
      obtain ⟨e, he⟩ := ih hrest
      exact ⟨e, by rw [keep, next_of_ok _ ht, next_of_error _ he]⟩

end DesktopPolicy.Noted
