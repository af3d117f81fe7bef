-- The grammar of JSON text, and that nothing of it is refused. The reader accepts more: words for
-- numbers that are none, and what it leaves out of sight behind a key that comes again. The one
-- limit it sets is the number of digits of a whole number.
import DesktopPolicy.Proofs.JsonRoundTrip

namespace DesktopPolicy.Json

/-! ## The pure model -/

/-- Blanks only. -/
def IsSpaces (cs : List Char) : Prop := ∀ c ∈ cs, isSpace c = true

/-- At least one digit. -/
def IsDigits (cs : List Char) : Prop := cs ≠ [] ∧ ∀ c ∈ cs, isDigit c = true

/-- The digits of a whole number. A zero at their start stands alone. -/
inductive IsWhole : List Char → Prop
  | zero : IsWhole ['0']
  | digits {d : Char} {ds : List Char} : isDigit d = true → d ≠ '0' →
      (∀ c ∈ ds, isDigit c = true) → IsWhole (d :: ds)

/-- A point and digits, or nothing. -/
inductive IsFraction : List Char → Prop
  | none : IsFraction []
  | digits {ds : List Char} : IsDigits ds → IsFraction ('.' :: ds)

/-- A mark and a power of ten, or nothing. -/
inductive IsPower : List Char → Prop
  | none : IsPower []
  | digits {mark : Char} {sign ds : List Char} : mark ∈ ['e', 'E'] → sign ∈ [[], ['-'], ['+']] →
      IsDigits ds → IsPower (mark :: (sign ++ ds))

/-- A number. Without fraction and power it has at most so many digits. -/
structure IsNumber (most : Nat) (sign whole fraction power : List Char) : Prop where
  isSign : sign ∈ [[], ['-']]
  isWhole : IsWhole whole
  isFraction : IsFraction fraction
  isPower : IsPower power
  few : fraction = [] → power = [] → whole.length ≤ most

/-- A hexadecimal digit. -/
def IsHexDigit (c : Char) : Prop :=
  isDigit c = true ∨ ('a' ≤ c ∧ c ≤ 'f') ∨ ('A' ≤ c ∧ c ≤ 'F')

/-- What stands between the quotes of a string. -/
inductive IsStringBody : List Char → Prop
  | nil : IsStringBody []
  | plain {c : Char} {cs : List Char} : 32 ≤ c.toNat → c ≠ '"' → c ≠ '\\' → IsStringBody cs →
      IsStringBody (c :: cs)
  | escape {c : Char} {cs : List Char} : c ∈ ['"', '\\', '/', 'b', 'f', 'n', 'r', 't'] →
      IsStringBody cs → IsStringBody ('\\' :: c :: cs)
  | numeric {a b c d : Char} {cs : List Char} : (∀ x ∈ [a, b, c, d], IsHexDigit x) →
      IsStringBody cs → IsStringBody ('\\' :: 'u' :: a :: b :: c :: d :: cs)

mutual

/-- A value, with whole numbers of at most so many digits. -/
inductive IsValue (most : Nat) : List Char → Prop
  | null : IsValue most ['n', 'u', 'l', 'l']
  | true : IsValue most ['t', 'r', 'u', 'e']
  | false : IsValue most ['f', 'a', 'l', 's', 'e']
  | number {sign whole fraction power : List Char} : IsNumber most sign whole fraction power →
      IsValue most (sign ++ (whole ++ (fraction ++ power)))
  | string {cs : List Char} : IsStringBody cs → IsValue most ('"' :: (cs ++ ['"']))
  | emptyList {gap : List Char} : IsSpaces gap → IsValue most ('[' :: (gap ++ [']']))
  | list {cs : List Char} : IsItems most cs → IsValue most ('[' :: (cs ++ [']']))
  | emptyMap {gap : List Char} : IsSpaces gap → IsValue most ('\x7b' :: (gap ++ ['\x7d']))
  | map {cs : List Char} : IsEntries most cs → IsValue most ('\x7b' :: (cs ++ ['\x7d']))

/-- A value with blanks around it. -/
inductive IsElement (most : Nat) : List Char → Prop
  | around {before cs after : List Char} : IsSpaces before → IsValue most cs → IsSpaces after →
      IsElement most (before ++ (cs ++ after))

/-- The items of a list, with commas between them. -/
inductive IsItems (most : Nat) : List Char → Prop
  | last {cs : List Char} : IsElement most cs → IsItems most cs
  | more {cs later : List Char} : IsElement most cs → IsItems most later →
      IsItems most (cs ++ ',' :: later)

/-- The entries of a map: a string, a colon and a value each, with commas between them. -/
inductive IsEntries (most : Nat) : List Char → Prop
  | last {before name gap cs : List Char} : IsSpaces before → IsStringBody name → IsSpaces gap →
      IsElement most cs → IsEntries most (before ++ '"' :: (name ++ '"' :: (gap ++ ':' :: cs)))
  | more {before name gap cs later : List Char} : IsSpaces before → IsStringBody name →
      IsSpaces gap → IsElement most cs → IsEntries most later →
      IsEntries most (before ++ '"' :: (name ++ '"' :: (gap ++ ':' :: (cs ++ ',' :: later))))

end

/-- A whole text. -/
def IsText (most : Nat) (cs : List Char) : Prop := IsElement most cs

/-- No number goes on with these characters. -/
def EndsNumber (rest : List Char) : Prop :=
  ∀ c ∈ rest.head?, isDigit c = false ∧ c ≠ '.' ∧ c ≠ 'e' ∧ c ≠ 'E'

/-! ## Numbers -/

theorem span_digits {ds rest : List Char} (hdigits : ∀ c ∈ ds, isDigit c = true)
    (hrest : ∀ c ∈ rest.head?, isDigit c = false) : (ds ++ rest).span isDigit = (ds, rest) := by
  rw [List.span_eq_takeWhile_dropWhile, List.takeWhile_append_of_pos hdigits,
    List.dropWhile_append_of_pos hdigits]
  cases rest with
  | nil => simp
  | cons c rest =>
    have hc : isDigit c = false := hrest c rfl
    simp [hc]

/-- A fraction is read, and nothing behind it. -/
theorem fraction_read {cs rest : List Char} (h : IsFraction cs)
    (hrest : ∀ c ∈ rest.head?, isDigit c = false ∧ c ≠ '.') :
    ∃ digits, fraction (cs ++ rest) = (digits, rest) ∧ (digits = [] ↔ cs = []) := by
  cases h with
  | none =>
    refine ⟨[], ?_, by simp⟩
    cases rest with
    | nil => rfl
    | cons c rest =>
      have hpoint : c ≠ '.' := (hrest c rfl).2
      simp [fraction, hpoint]
  | @digits ds hds =>
    obtain ⟨hne, hall⟩ := hds
    refine ⟨ds, ?_, by simp [hne]⟩
    obtain ⟨d, later, rfl⟩ := List.exists_cons_of_ne_nil hne
    have hd : isDigit d = true := hall d List.mem_cons_self
    have hspan := span_digits hall fun c hc => (hrest c hc).1
    rw [List.cons_append] at hspan
    rw [List.cons_append, List.cons_append, fraction, if_pos hd, hspan]

theorem signOf_digits {sign ds : List Char} (hsign : sign ∈ [[], ['-'], ['+']]) (hds : IsDigits ds)
    (rest : List Char) : ∃ negative, signOf (sign ++ (ds ++ rest)) = (negative, ds ++ rest) := by
  obtain ⟨hne, hall⟩ := hds
  obtain ⟨d, later, rfl⟩ := List.exists_cons_of_ne_nil hne
  have hd : isDigit d = true := hall d List.mem_cons_self
  simp only [List.mem_cons, List.not_mem_nil, or_false] at hsign
  rcases hsign with rfl | rfl | rfl
  · have hminus : d ≠ '-' := by
      rintro rfl
      exact absurd hd (by decide)
    have hplus : d ≠ '+' := by
      rintro rfl
      exact absurd hd (by decide)
    exact ⟨false, by simp [signOf, hminus, hplus]⟩
  · exact ⟨true, rfl⟩
  · exact ⟨false, rfl⟩

/-- A power is read, and nothing behind it. -/
theorem power_read {cs rest : List Char} (h : IsPower cs) (hrest : EndsNumber rest) :
    ∃ scale, power (cs ++ rest) = (scale, rest) ∧ (scale = none ↔ cs = []) := by
  cases h with
  | none =>
    refine ⟨none, ?_, by simp⟩
    cases rest with
    | nil => rfl
    | cons c rest =>
      obtain ⟨-, -, hsmall, hlarge⟩ := hrest c rfl
      simp [power, hsmall, hlarge]
  | @digits mark sign ds hmark hsign hds =>
    have hmarked : (mark == 'e' || mark == 'E') = true := by
      simpa using hmark
    have hspan := span_digits hds.2 fun c hc => (hrest c hc).1
    obtain ⟨negative, hnegative⟩ := signOf_digits hsign hds rest
    rw [List.cons_append, List.append_assoc, power, if_pos hmarked, hnegative]
    simp only [hspan, List.isEmpty_eq_false_iff.mpr hds.1]
    exact ⟨_, rfl, by simp⟩

/-- What stands behind the whole part of a number is no digit. -/
theorem endsNumber_power {cs rest : List Char} (h : IsPower cs) (hrest : EndsNumber rest) :
    ∀ c ∈ (cs ++ rest).head?, isDigit c = false ∧ c ≠ '.' := by
  cases h with
  | none => exact fun c hc => ⟨(hrest c hc).1, (hrest c hc).2.1⟩
  | digits hmark _ _ =>
    rintro c ⟨⟩
    simp only [List.mem_cons, List.not_mem_nil, or_false] at hmark
    rcases hmark with rfl | rfl <;> decide

theorem endsNumber_fraction {fraction power rest : List Char} (h : IsFraction fraction)
    (hpower : IsPower power) (hrest : EndsNumber rest) :
    ∀ c ∈ (fraction ++ (power ++ rest)).head?, isDigit c = false := by
  cases h with
  | none => exact fun c hc => (endsNumber_power hpower hrest c hc).1
  | digits _ =>
    rintro c ⟨⟩
    decide

section

variable {most : Nat} {sign whole fraction power rest : List Char}

/-- A number is read from behind its whole part. -/
theorem numberFrom_read (h : IsNumber mostDigits sign whole fraction power)
    (hrest : EndsNumber rest) (negative : Bool) :
    ∃ v, numberFrom negative whole (fraction ++ (power ++ rest)) = .ok (v, rest) := by
  obtain ⟨digits, hdigits, hnone⟩ := fraction_read h.isFraction (endsNumber_power h.isPower hrest)
  obtain ⟨scale, hscale, hplain⟩ := power_read h.isPower hrest
  simp only [numberFrom, hdigits, hscale]
  by_cases hwhole : digits.isEmpty && scale.isNone
  · rw [if_pos hwhole]
    simp only [Bool.and_eq_true, List.isEmpty_iff, Option.isNone_iff_eq_none] at hwhole
    have hfew := h.few (hnone.mp hwhole.1) (hplain.mp hwhole.2)
    rw [if_neg (by omega)]
    exact ⟨_, rfl⟩
  · rw [if_neg hwhole]
    exact ⟨_, rfl⟩

/-- The digits of a whole number are read up to what is none. -/
theorem number_whole (hwhole : IsWhole whole) (hsign : sign ∈ [[], ['-']])
    (hrest : ∀ c ∈ rest.head?, isDigit c = false) :
    number (sign ++ (whole ++ rest)) = numberFrom (sign == ['-']) whole rest := by
  cases hwhole with
  | zero =>
    simp only [List.mem_cons, List.not_mem_nil, or_false] at hsign
    rcases hsign with rfl | rfl <;> rfl
  | @digits d ds hd hzero hds =>
    have hminus : d ≠ '-' := by
      rintro rfl
      exact absurd hd (by decide)
    have hspan := span_digits hds hrest
    rw [List.span_eq_takeWhile_dropWhile, Prod.mk.injEq] at hspan
    simp only [List.mem_cons, List.not_mem_nil, or_false] at hsign
    rcases hsign with rfl | rfl <;> simp [number, hminus, hd, hspan]

theorem IsNumber.read (h : IsNumber mostDigits sign whole fraction power) (hrest : EndsNumber rest) :
    ∃ v, number ((sign ++ (whole ++ (fraction ++ power))) ++ rest) = .ok (v, rest) := by
  rw [List.append_assoc, List.append_assoc, List.append_assoc,
    number_whole h.isWhole h.isSign (endsNumber_fraction h.isFraction h.isPower hrest)]
  exact numberFrom_read h hrest _

/-- A whole number with more digits is refused. -/
theorem number_tooLong (hwhole : IsWhole whole) (hlong : mostDigits < whole.length) :
    number whole = .error .tooLong := by
  have h : number ([] ++ (whole ++ [])) = numberFrom ([] == ['-']) whole [] :=
    number_whole hwhole List.mem_cons_self (by simp)
  rw [List.append_nil, List.nil_append] at h
  rw [h]
  simp [numberFrom, fraction, power, hlong]

end

/-! ## Strings -/

theorem hexValue?_of_isHexDigit {c : Char} (h : IsHexDigit c) : ∃ n, hexValue? c = some n := by
  unfold hexValue?
  rcases h with h | h | h
  · exact ⟨_, if_pos h⟩
  · split
    · exact ⟨_, rfl⟩
    · exact ⟨_, if_pos (by simpa using h)⟩
  · split
    · exact ⟨_, rfl⟩
    · split
      · exact ⟨_, rfl⟩
      · exact ⟨_, if_pos (by simpa using h)⟩

theorem fourHex_of_isHexDigit {a b c d : Char} (h : ∀ x ∈ [a, b, c, d], IsHexDigit x) (e : Char)
    (rest : List Char) : ∃ n, fourHex (a :: b :: c :: d :: e :: rest) = some (n, e :: rest) := by
  obtain ⟨na, ha⟩ := hexValue?_of_isHexDigit (h a (by simp))
  obtain ⟨nb, hb⟩ := hexValue?_of_isHexDigit (h b (by simp))
  obtain ⟨nc, hc⟩ := hexValue?_of_isHexDigit (h c (by simp))
  obtain ⟨nd, hd⟩ := hexValue?_of_isHexDigit (h d (by simp))
  exact ⟨_, by simp [fourHex, ha, hb, hc, hd]; rfl⟩

/-- Four hexadecimal digits are read in front of the rest of a string, which holds a quote. -/
theorem fourHex_read {a b c d : Char} (h : ∀ x ∈ [a, b, c, d], IsHexDigit x)
    (cs rest : List Char) :
    ∃ n, fourHex (a :: b :: c :: d :: (cs ++ '"' :: rest)) = some (n, cs ++ '"' :: rest) := by
  obtain ⟨e, behind, hbehind⟩ : ∃ e behind, cs ++ '"' :: rest = e :: behind :=
    List.exists_cons_of_ne_nil (by simp)
  rw [hbehind]
  exact fourHex_of_isHexDigit h e behind

/-- After the first half of a pair the rest of a string goes on, or the second half is taken. -/
theorem lowHalf?_read {cs : List Char} (h : IsStringBody cs) (rest : List Char) :
    lowHalf? (cs ++ '"' :: rest) = .ok none ∨
      ∃ low behind, lowHalf? (cs ++ '"' :: rest) = .ok (some (low, behind ++ '"' :: rest)) ∧
        IsStringBody behind ∧ behind.length ≤ cs.length := by
  cases h with
  | nil => exact .inl rfl
  | @plain c cs _ _ hslash _ =>
    left
    simp [lowHalf?, hslash]
  | @escape c cs hc _ =>
    have hu : c ≠ 'u' := by
      rintro rfl
      exact absurd hc (by decide)
    left
    simp [lowHalf?, hu]
  | @numeric a b c d cs hdigits hcs =>
    obtain ⟨low, hlow⟩ := fourHex_read hdigits cs rest
    simp only [List.cons_append, lowHalf?, List.length_cons, List.length_append, hlow]
    rw [if_neg (by omega)]
    by_cases hhalf : isLowHalf low
    · rw [if_pos hhalf]
      exact .inr ⟨low, cs, rfl, hcs, by omega⟩
    · rw [if_neg hhalf]
      exact .inl rfl

/-- A numeric escape is read, and with it the one that completes a pair. -/
theorem numericEscape_read {a b c d : Char} (h : ∀ x ∈ [a, b, c, d], IsHexDigit x)
    {cs : List Char} (hcs : IsStringBody cs) (rest : List Char) :
    ∃ e behind, numericEscape (a :: b :: c :: d :: (cs ++ '"' :: rest)) =
        .ok (e, behind ++ '"' :: rest) ∧
      IsStringBody behind ∧ behind.length ≤ cs.length := by
  obtain ⟨n, hn⟩ := fourHex_read h cs rest
  simp only [numericEscape, hn]
  by_cases hhigh : isHighHalf n
  · rw [if_pos hhigh]
    rcases lowHalf?_read hcs rest with hnone | ⟨low, behind, hlow, hbehind⟩
    · rw [hnone]
      exact ⟨_, cs, rfl, hcs, le_rfl⟩
    · rw [hlow]
      exact ⟨_, behind, rfl, hbehind⟩
  · rw [if_neg hhigh]
    exact ⟨_, cs, rfl, hcs, le_rfl⟩

theorem plainEscape?_of_mem {c : Char} (h : c ∈ ['"', '\\', '/', 'b', 'f', 'n', 'r', 't']) :
    ∃ e, plainEscape? c = some e := by
  simp only [List.mem_cons, List.not_mem_nil, or_false] at h
  rcases h with rfl | rfl | rfl | rfl | rfl | rfl | rfl | rfl <;> exact ⟨_, rfl⟩

/-- The rest of a string is read up to its closing quote. The induction is on its length: a turn can
take two escapes at once. -/
theorem stringRest_read {cs : List Char} (h : IsStringBody cs) (start rest : List Char) :
    ∀ turns done, cs.length < turns →
      ∃ s, stringRest start turns done (cs ++ '"' :: rest) = .ok (s, rest) := by
  induction hlength : cs.length using Nat.strong_induction_on generalizing cs with
  | _ length ih =>
    subst hlength
    intro turns done hturns
    obtain ⟨turns, rfl⟩ : ∃ left, turns = left + 1 := ⟨turns - 1, by omega⟩
    cases h with
    | nil => exact ⟨ofPoints done.reverse, by simp [stringRest]⟩
    | @plain c cs hprints hquote hslash hcs =>
      rw [List.length_cons] at hturns
      obtain ⟨s, hs⟩ := ih cs.length (by simp) hcs rfl turns (c.toNat :: done) (by omega)
      refine ⟨s, ?_⟩
      simp [stringRest, hquote, hslash, Nat.not_lt.mpr hprints, hs]
    | @escape c cs hc hcs =>
      obtain ⟨e, he⟩ := plainEscape?_of_mem hc
      have hu : c ≠ 'u' := by
        rintro rfl
        exact absurd hc (by decide)
      rw [List.length_cons, List.length_cons] at hturns
      obtain ⟨s, hs⟩ := ih cs.length (by simp) hcs rfl turns (e.toNat :: done) (by omega)
      refine ⟨s, ?_⟩
      simp [stringRest, he, hs]
    | @numeric a b c d cs hdigits hcs =>
      obtain ⟨e, behind, he, hbehind, hshorter⟩ := numericEscape_read hdigits hcs rest
      simp only [List.length_cons] at hturns
      obtain ⟨s, hs⟩ := ih behind.length (by simp only [List.length_cons]; omega) hbehind rfl turns
        (e :: done) (by omega)
      refine ⟨s, ?_⟩
      simp [stringRest, he, hs]

/-- A string is read. -/
theorem string_read {cs : List Char} (h : IsStringBody cs) (rest : List Char) :
    ∃ s, string ('"' :: (cs ++ '"' :: rest)) = .ok (s, rest) :=
  stringRest_read h _ rest _ [] (by
    rw [List.length_append]
    omega)

/-! ## What stands around values -/

theorem skipSpace_append {gap : List Char} (h : IsSpaces gap) (rest : List Char) :
    skipSpace (gap ++ rest) = skipSpace rest :=
  List.dropWhile_append_of_pos h

theorem skipSpace_mark {gap : List Char} (h : IsSpaces gap) {c : Char} (hc : isSpace c = false)
    (rest : List Char) : skipSpace (gap ++ c :: rest) = c :: rest := by
  rw [skipSpace_append h]
  simp [skipSpace, hc]

theorem endsNumber_spaces {gap rest : List Char} (h : IsSpaces gap) (hrest : EndsNumber rest) :
    EndsNumber (gap ++ rest) := by
  cases gap with
  | nil => exact hrest
  | cons c gap =>
    rintro d ⟨⟩
    have hspace : isSpace c = true := h c List.mem_cons_self
    refine ⟨?_, ?_, ?_, ?_⟩
    all_goals
      simp only [isSpace, Bool.or_eq_true, beq_iff_eq] at hspace
      rcases hspace with ((rfl | rfl) | rfl) | rfl <;> decide

theorem follow_done {closing : Char} (hclosing : isSpace closing = false) {gap : List Char}
    (h : IsSpaces gap) (rest : List Char) :
    follow closing (gap ++ closing :: rest) = .ok (.done rest) := by
  rw [follow, skipSpace_mark h hclosing]
  simp

theorem follow_more {closing : Char} (hclosing : closing ≠ ',') {gap : List Char} (h : IsSpaces gap)
    (rest : List Char) : follow closing (gap ++ ',' :: rest) = .ok (.more (skipSpace rest)) := by
  rw [follow, skipSpace_mark h (by decide)]
  simp [hclosing.symm]

/-! ## Values -/

/-- A value starts with one of these characters. -/
def Starts (c : Char) : Prop := c ∈ ['"', '[', '\x7b', 'n', 't', 'f', '-'] ∨ isDigit c = true

theorem Starts.ne {c other : Char} (h : Starts c)
    (hother : other ∉ ['"', '[', '\x7b', 'n', 't', 'f', '-'])
    (hdigit : isDigit other = false) : c ≠ other := by
  rintro rfl
  rcases h with h | h
  · exact hother h
  · rw [hdigit] at h
    cases h

theorem Starts.isSpace {c : Char} (h : Starts c) : isSpace c = false := by
  have hblank : c ≠ ' ' := h.ne (by decide) (by decide)
  have htab : c ≠ '\t' := h.ne (by decide) (by decide)
  have hline : c ≠ '\n' := h.ne (by decide) (by decide)
  have hreturn : c ≠ '\r' := h.ne (by decide) (by decide)
  simp [Json.isSpace, hblank, htab, hline, hreturn]

theorem Starts.opens {c : Char} (h : Starts c) (rest : List Char) : Opens (c :: rest) :=
  ⟨c, rest, rfl, h.isSpace, h.ne (by decide) (by decide), h.ne (by decide) (by decide)⟩

theorem IsWhole.starts {whole : List Char} (h : IsWhole whole) :
    ∃ d ds, whole = d :: ds ∧ isDigit d = true := by
  cases h with
  | zero => exact ⟨'0', [], rfl, by decide⟩
  | digits hd _ _ => exact ⟨_, _, rfl, hd⟩

theorem IsValue.starts {most : Nat} {cs : List Char} (h : IsValue most cs) :
    ∃ c rest, cs = c :: rest ∧ Starts c := by
  cases h with
  | number h =>
    obtain ⟨d, ds, rfl, hd⟩ := h.isWhole.starts
    have hsign := h.isSign
    simp only [List.mem_cons, List.not_mem_nil, or_false] at hsign
    rcases hsign with rfl | rfl
    · exact ⟨d, _, rfl, .inr hd⟩
    · exact ⟨'-', _, rfl, .inl (by decide)⟩
  | _ => exact ⟨_, _, rfl, .inl (by decide)⟩

theorem IsValue.opens {most : Nat} {cs : List Char} (h : IsValue most cs) : Opens cs := by
  obtain ⟨c, rest, rfl, hc⟩ := h.starts
  exact hc.opens rest

/-- A digit starts no word. -/
theorem value_digit {d : Char} (hd : isDigit d = true) (turns : Nat) (rest : List Char) :
    value (turns + 1) (d :: rest) = number (d :: rest) := by
  have hne : ∀ c, isDigit c = false → c ≠ d := by
    rintro c hc rfl
    rw [hd] at hc
    cases hc
  have hquote := hne '"' (by decide)
  have hlist := hne '[' (by decide)
  have hmap := hne '\x7b' (by decide)
  simp [value, scalar, words, behindWord, hquote.symm, hlist.symm, hmap.symm, hne 'n' (by decide),
    hne 't' (by decide), hne 'f' (by decide), hne 'N' (by decide), hne 'I' (by decide),
    hne '-' (by decide)]

/-- A sign and a digit start no word. -/
theorem value_minus {d : Char} (hd : isDigit d = true) (turns : Nat) (rest : List Char) :
    value (turns + 1) ('-' :: d :: rest) = number ('-' :: d :: rest) := by
  have hne : 'I' ≠ d := by
    rintro rfl
    exact absurd hd (by decide)
  simp [value, scalar, words, behindWord, hne]

/-- The text of a value is read, whatever follows that ends a number, in as many turns as it has
characters. -/
def ReadsValue (cs : List Char) : Prop :=
  ∀ turns rest, cs.length ≤ turns → EndsNumber rest → ∃ v, value turns (cs ++ rest) = .ok (v, rest)

/-- The first character of a value takes a turn. -/
theorem ReadsValue.of_turn {c : Char} {cs : List Char}
    (h : ∀ turns rest, cs.length ≤ turns → EndsNumber rest →
      ∃ v, value (turns + 1) (c :: (cs ++ rest)) = .ok (v, rest)) : ReadsValue (c :: cs) := by
  intro turns rest hturns hrest
  rw [List.length_cons] at hturns
  obtain ⟨turns, rfl⟩ : ∃ left, turns = left + 1 := ⟨turns - 1, by omega⟩
  exact h turns rest (by omega) hrest

theorem IsNumber.readsValue {sign whole fraction power : List Char}
    (h : IsNumber mostDigits sign whole fraction power) :
    ReadsValue (sign ++ (whole ++ (fraction ++ power))) := by
  intro turns rest hturns hrest
  obtain ⟨v, hv⟩ := h.read hrest
  refine ⟨v, ?_⟩
  rw [← hv]
  obtain ⟨d, ds, rfl, hd⟩ := h.isWhole.starts
  have hsign := h.isSign
  simp only [List.length_append, List.length_cons] at hturns
  obtain ⟨turns, rfl⟩ : ∃ left, turns = left + 1 := ⟨turns - 1, by omega⟩
  simp only [List.mem_cons, List.not_mem_nil, or_false] at hsign
  rcases hsign with rfl | rfl
  · exact value_digit hd turns _
  · exact value_minus hd turns _

theorem IsStringBody.readsValue {cs : List Char} (h : IsStringBody cs) :
    ReadsValue ('"' :: (cs ++ ['"'])) := by
  refine .of_turn ?_
  intro turns rest _ _
  obtain ⟨v, hv⟩ := string_read h rest
  refine ⟨v, ?_⟩
  rw [List.append_assoc, List.singleton_append, value, hv]

theorem ReadsValue.emptyList {gap : List Char} (h : IsSpaces gap) :
    ReadsValue ('[' :: (gap ++ [']'])) := by
  refine .of_turn ?_
  intro turns rest _ _
  refine ⟨.list [], ?_⟩
  rw [List.append_assoc, List.singleton_append, value, skipSpace_mark h (by decide)]
  rfl

theorem ReadsValue.emptyMap {gap : List Char} (h : IsSpaces gap) :
    ReadsValue ('\x7b' :: (gap ++ ['\x7d'])) := by
  refine .of_turn ?_
  intro turns rest _ _
  refine ⟨.map [], ?_⟩
  rw [List.append_assoc, List.singleton_append, value, skipSpace_mark h (by decide)]
  rfl

/-! ## Items and entries -/

theorem endsNumber_mark {mark : Char} (h : mark ∈ [',', ']', '\x7d']) (rest : List Char) :
    EndsNumber (mark :: rest) := by
  rintro c ⟨⟩
  simp only [List.mem_cons, List.not_mem_nil, or_false] at h
  rcases h with rfl | rfl | rfl <;> decide

/-- The text of a value with blanks around it. -/
def ReadsElement (cs : List Char) : Prop :=
  ∃ before inner after, cs = before ++ (inner ++ after) ∧ IsSpaces before ∧ IsSpaces after ∧
    Opens inner ∧ ReadsValue inner

/-- Such a value is read in front of a mark, with the blanks before it left out. -/
theorem ReadsElement.read {cs : List Char} (h : ReadsElement cs) (mark : Char)
    (hmark : mark ∈ [',', ']', '\x7d']) (rest : List Char) :
    Opens (skipSpace (cs ++ mark :: rest)) ∧ ∃ after, IsSpaces after ∧
      ∀ turns, cs.length ≤ turns →
        ∃ v, value turns (skipSpace (cs ++ mark :: rest)) = .ok (v, after ++ mark :: rest) := by
  obtain ⟨before, inner, after, rfl, hbefore, hafter, hopens, hinner⟩ := h
  have hskip : skipSpace ((before ++ (inner ++ after)) ++ mark :: rest) =
      inner ++ (after ++ mark :: rest) := by
    rw [List.append_assoc, skipSpace_append hbefore, List.append_assoc, (hopens.append _).skipSpace]
  rw [hskip]
  refine ⟨hopens.append _, after, hafter, ?_⟩
  intro turns hturns
  rw [List.length_append, List.length_append] at hturns
  exact hinner turns _ (by omega) (endsNumber_spaces hafter (endsNumber_mark hmark rest))

/-- The text of the items of a list is read up to the mark that closes the list. -/
def ReadsItems (cs : List Char) : Prop :=
  ∀ rest, Opens (skipSpace (cs ++ ']' :: rest)) ∧
    ∀ turns done, cs.length < turns →
      ∃ v, items turns done (skipSpace (cs ++ ']' :: rest)) = .ok (v, rest)

theorem ReadsItems.last {cs : List Char} (h : ReadsElement cs) : ReadsItems cs := by
  intro rest
  obtain ⟨hopens, after, hafter, hread⟩ := h.read ']' (by decide) rest
  refine ⟨hopens, ?_⟩
  intro turns done hturns
  obtain ⟨turns, rfl⟩ : ∃ left, turns = left + 1 := ⟨turns - 1, by omega⟩
  obtain ⟨v, hv⟩ := hread turns (by omega)
  refine ⟨.list (v :: done).reverse, ?_⟩
  have hfollow : follow ']' (after ++ ']' :: rest) = .ok (.done rest) :=
    follow_done (by decide) hafter rest
  rw [items, hv]
  simp [bind, Except.bind, hfollow]

theorem ReadsItems.more {cs later : List Char} (h : ReadsElement cs) (hlater : ReadsItems later) :
    ReadsItems (cs ++ ',' :: later) := by
  intro rest
  rw [List.append_assoc, List.cons_append]
  obtain ⟨hopens, after, hafter, hread⟩ := h.read ',' (by decide) (later ++ ']' :: rest)
  refine ⟨hopens, ?_⟩
  intro turns done hturns
  rw [List.length_append, List.length_cons] at hturns
  obtain ⟨turns, rfl⟩ : ∃ left, turns = left + 1 := ⟨turns - 1, by omega⟩
  obtain ⟨v, hv⟩ := hread turns (by omega)
  obtain ⟨w, hw⟩ := (hlater rest).2 turns (v :: done) (by omega)
  refine ⟨w, ?_⟩
  have hfollow : follow ']' (after ++ ',' :: (later ++ ']' :: rest)) =
      .ok (.more (skipSpace (later ++ ']' :: rest))) := follow_more (by decide) hafter _
  rw [items, hv]
  simp [bind, Except.bind, hfollow, hw]

theorem ReadsItems.readsValue {cs : List Char} (h : ReadsItems cs) :
    ReadsValue ('[' :: (cs ++ [']'])) := by
  refine .of_turn ?_
  intro turns rest hturns _
  rw [List.length_append, List.length_singleton] at hturns
  obtain ⟨hopens, hread⟩ := h rest
  obtain ⟨v, hv⟩ := hread turns [] (by omega)
  refine ⟨v, ?_⟩
  rw [List.append_assoc, List.singleton_append, ← hv, ← hopens.value_list, value, value,
    hopens.skipSpace]

/-- The text of the entries of a map is read up to the mark that closes the map. -/
def ReadsEntries (cs : List Char) : Prop :=
  ∀ rest, Opens (skipSpace (cs ++ '\x7d' :: rest)) ∧
    ∀ turns done, cs.length < turns →
      ∃ v, entries turns done (skipSpace (cs ++ '\x7d' :: rest)) = .ok (v, rest)

/-- The name of an entry is read with its colon. -/
theorem entryName_read {name gap : List Char} (hname : IsStringBody name) (hgap : IsSpaces gap)
    (rest : List Char) :
    ∃ s, entryName ('"' :: (name ++ '"' :: (gap ++ ':' :: rest))) = .ok (s, skipSpace rest) := by
  obtain ⟨s, hs⟩ := string_read hname (gap ++ ':' :: rest)
  refine ⟨s, ?_⟩
  rw [entryName, hs]
  simp [bind, Except.bind, skipSpace_mark hgap (c := ':') (by decide)]

section

variable {before name gap cs later : List Char}

theorem ReadsEntries.last (hbefore : IsSpaces before) (hname : IsStringBody name)
    (hgap : IsSpaces gap) (h : ReadsElement cs) :
    ReadsEntries (before ++ '"' :: (name ++ '"' :: (gap ++ ':' :: cs))) := by
  intro rest
  have hskip : skipSpace ((before ++ '"' :: (name ++ '"' :: (gap ++ ':' :: cs))) ++ '\x7d' :: rest) =
      '"' :: (name ++ '"' :: (gap ++ ':' :: (cs ++ '\x7d' :: rest))) := by
    simp only [List.append_assoc, List.cons_append]
    exact skipSpace_mark hbefore (by decide) _
  rw [hskip]
  refine ⟨⟨'"', _, rfl, by decide, by decide, by decide⟩, ?_⟩
  intro turns done hturns
  simp only [List.length_append, List.length_cons] at hturns
  obtain ⟨turns, rfl⟩ : ∃ left, turns = left + 1 := ⟨turns - 1, by omega⟩
  obtain ⟨s, hs⟩ := entryName_read hname hgap (cs ++ '\x7d' :: rest)
  obtain ⟨-, after, hafter, hread⟩ := h.read '\x7d' (by decide) rest
  obtain ⟨v, hv⟩ := hread turns (by omega)
  refine ⟨.map (put done s v), ?_⟩
  have hfollow : follow '\x7d' (after ++ '\x7d' :: rest) = .ok (.done rest) :=
    follow_done (by decide) hafter rest
  rw [entries, hs]
  simp [bind, Except.bind, hv, hfollow]

theorem ReadsEntries.more (hbefore : IsSpaces before) (hname : IsStringBody name)
    (hgap : IsSpaces gap) (h : ReadsElement cs) (hlater : ReadsEntries later) :
    ReadsEntries (before ++ '"' :: (name ++ '"' :: (gap ++ ':' :: (cs ++ ',' :: later)))) := by
  intro rest
  have hskip : skipSpace ((before ++ '"' :: (name ++ '"' :: (gap ++ ':' :: (cs ++ ',' :: later)))) ++
      '\x7d' :: rest) =
      '"' :: (name ++ '"' :: (gap ++ ':' :: (cs ++ ',' :: (later ++ '\x7d' :: rest)))) := by
    simp only [List.append_assoc, List.cons_append]
    exact skipSpace_mark hbefore (by decide) _
  rw [hskip]
  refine ⟨⟨'"', _, rfl, by decide, by decide, by decide⟩, ?_⟩
  intro turns done hturns
  simp only [List.length_append, List.length_cons] at hturns
  obtain ⟨turns, rfl⟩ : ∃ left, turns = left + 1 := ⟨turns - 1, by omega⟩
  obtain ⟨s, hs⟩ := entryName_read hname hgap (cs ++ ',' :: (later ++ '\x7d' :: rest))
  obtain ⟨-, after, hafter, hread⟩ := h.read ',' (by decide) (later ++ '\x7d' :: rest)
  obtain ⟨v, hv⟩ := hread turns (by omega)
  obtain ⟨w, hw⟩ := (hlater rest).2 turns (put done s v) (by omega)
  refine ⟨w, ?_⟩
  have hfollow : follow '\x7d' (after ++ ',' :: (later ++ '\x7d' :: rest)) =
      .ok (.more (skipSpace (later ++ '\x7d' :: rest))) := follow_more (by decide) hafter _
  rw [entries, hs]
  simp [bind, Except.bind, hv, hfollow, hw]

end

theorem ReadsEntries.readsValue {cs : List Char} (h : ReadsEntries cs) :
    ReadsValue ('\x7b' :: (cs ++ ['\x7d'])) := by
  refine .of_turn ?_
  intro turns rest hturns _
  rw [List.length_append, List.length_singleton] at hturns
  obtain ⟨hopens, hread⟩ := h rest
  obtain ⟨v, hv⟩ := hread turns [] (by omega)
  refine ⟨v, ?_⟩
  rw [List.append_assoc, List.singleton_append, ← hv, ← hopens.value_map, value, value,
    hopens.skipSpace]

/-! ## Texts -/

mutual

-- The recursion is on the derivation: each rule of the grammar has its lemma above.
theorem IsValue.reads {cs : List Char} (h : IsValue mostDigits cs) : ReadsValue cs :=
  match h with
  | .null => fun turns rest hturns _ => ⟨.null, ReadsBack.null.value turns rest hturns⟩
  | .true => fun turns rest hturns _ => ⟨.bool true, (ReadsBack.bool true).value turns rest hturns⟩
  | .false => fun turns rest hturns _ => ⟨.bool false, (ReadsBack.bool false).value turns rest hturns⟩
  | .number h => h.readsValue
  | .string h => h.readsValue
  | .emptyList h => .emptyList h
  | .list h => h.reads.readsValue
  | .emptyMap h => .emptyMap h
  | .map h => h.reads.readsValue

theorem IsElement.reads {cs : List Char} (h : IsElement mostDigits cs) : ReadsElement cs :=
  match h with
  | .around hbefore h hafter => ⟨_, _, _, rfl, hbefore, hafter, h.opens, h.reads⟩

theorem IsItems.reads {cs : List Char} (h : IsItems mostDigits cs) : ReadsItems cs :=
  match h with
  | .last h => .last h.reads
  | .more h hlater => .more h.reads hlater.reads

theorem IsEntries.reads {cs : List Char} (h : IsEntries mostDigits cs) : ReadsEntries cs :=
  match h with
  | .last hbefore hname hgap h => .last hbefore hname hgap h.reads
  | .more hbefore hname hgap h hlater => .more hbefore hname hgap h.reads hlater.reads

end

theorem IsWhole.isText {most : Nat} {cs : List Char} (h : IsWhole cs) (hfew : cs.length ≤ most) :
    IsText most cs := by
  have hnumber : IsNumber most [] cs [] [] := ⟨by decide, h, .none, .none, fun _ _ => hfew⟩
  have hnone : IsSpaces [] := List.forall_mem_nil _
  simpa [IsText] using IsElement.around hnone (.number hnumber) hnone

/-- No text of the grammar starts with the mark of the byte order. -/
theorem IsText.head?_ne {most : Nat} {cs : List Char} (h : IsText most cs) :
    cs ≠ [] ∧ cs.head? ≠ some '\uFEFF' := by
  obtain @⟨before, inner, after, hbefore, hinner, -⟩ := h
  obtain ⟨c, rest, rfl, hc⟩ := hinner.starts
  cases before with
  | nil =>
    have hne : c ≠ '\uFEFF' := hc.ne (by decide) (by decide)
    simpa using hne
  | cons d before =>
    have hne : d ≠ '\uFEFF' := by
      rintro rfl
      exact absurd (hbefore _ List.mem_cons_self) (by decide)
    simpa using hne

/-- No text of the grammar is refused. -/
theorem read_of_isText {text : String} (h : IsText mostDigits text.toList) :
    ∃ v, read text = .ok v := by
  obtain ⟨before, inner, after, htext, hbefore, hafter, hopens, hinner⟩ := h.reads
  obtain ⟨v, hv⟩ := hinner (2 * text.toList.length + 2) after (by
    rw [htext, List.length_append, List.length_append]
    omega) (by
      rw [← List.append_nil after]
      exact endsNumber_spaces hafter (by rintro c ⟨⟩))
  have hend : skipSpace after = [] := by
    rw [← List.append_nil after, skipSpace_append hafter]
    rfl
  refine ⟨v, ?_⟩
  rw [read]
  simp only
  rw [htext] at hv ⊢
  rw [skipSpace_append hbefore, (hopens.append after).skipSpace, hv]
  simp [bind, Except.bind, hend]

/-- A text that is one whole number with more digits is refused. -/
theorem read_tooLong {text : String} (h : IsWhole text.toList)
    (hlong : mostDigits < text.toList.length) : read text = .error .tooLong := by
  have hnumber := number_tooLong h hlong
  obtain ⟨d, ds, hds, hd⟩ := h.starts
  have hstarts : Starts d := .inr hd
  rw [hds] at hnumber
  rw [read]
  simp only
  rw [hds, (hstarts.opens ds).skipSpace, value_digit hd, hnumber]
  rfl

end DesktopPolicy.Json
