-- The laws of escaped addresses. The bytes of a text in UTF-8 are read as the text, a byte written
-- with a percent sign is read as the byte, and so every text can stand as one step of a path.
import DesktopPolicy.Service.Address
import Mathlib

namespace DesktopPolicy

/-! ## The pure model -/

namespace Address

/-- A character that is never escaped: an ASCII letter, a digit, or one of four marks. -/
def isUnreserved (c : Char) : Bool :=
  ('a' ≤ c && c ≤ 'z') || ('A' ≤ c && c ≤ 'Z') || ('0' ≤ c && c ≤ '9') || "_.-~".toList.contains c

/-- A character as it stands in a step of a path. -/
def escapedChar (c : Char) : List Char :=
  if isUnreserved c then [c] else (String.utf8EncodeChar c).flatMap encodedByte

/-- A text as one step of a path. Slashes are escaped too. -/
def escaped (text : String) : String := String.ofList (text.toList.flatMap escapedChar)

end Address

namespace Text

/-! ## Bytes in UTF-8 -/

theorem goingOn_cons {count : Nat} {bounds : Nat × Nat} {b : UInt8} (rest : List UInt8)
    (h : bounds.1 ≤ b.toNat ∧ b.toNat ≤ bounds.2) :
    goingOn (count + 1) bounds (b :: rest) = b :: goingOn count (0x80, 0xBF) rest := by
  simp [goingOn, h]

/-- A first byte with all the bytes that go on with it is one character. -/
theorem decodeUtf8_character {v : Nat} {first : UInt8} (others rest : List UInt8)
    (hwidth : utf8Width first.toNat = others.length + 1)
    (hothers : goingOn others.length (secondBounds first.toNat) (others ++ rest) = others)
    (hcode : codeOf (firstBits first.toNat (others.length + 1)) others = v) :
    decodeUtf8 (first :: (others ++ rest)) = Char.ofNat v :: decodeUtf8 rest := by
  rw [decodeUtf8]
  simp [hwidth, hothers, hcode]

theorem toNat_ofNat_byte {n : Nat} (h : n < 256) : (UInt8.ofNat n).toNat = n := by
  rw [UInt8.toNat_ofNat']
  omega

theorem decodeUtf8_one {v : Nat} (h : v ≤ 0x7F) (rest : List UInt8) :
    decodeUtf8 (UInt8.ofNat v :: rest) = Char.ofNat v :: decodeUtf8 rest := by
  have hfirst := toNat_ofNat_byte (by omega : v < 256)
  generalize UInt8.ofNat v = first at hfirst
  apply decodeUtf8_character [] rest
  · rw [List.length_nil]
    unfold utf8Width
    split_ifs <;> omega
  · rfl
  · simp [codeOf, firstBits, hfirst]

theorem decodeUtf8_two {v : Nat} (hlow : 0x7F < v) (hhigh : v ≤ 0x7FF) (rest : List UInt8) :
    decodeUtf8 (UInt8.ofNat (v / 64 % 32 + 192) :: UInt8.ofNat (v % 64 + 128) :: rest) =
      Char.ofNat v :: decodeUtf8 rest := by
  have hfirst := toNat_ofNat_byte (by omega : v / 64 % 32 + 192 < 256)
  have hsecond := toNat_ofNat_byte (by omega : v % 64 + 128 < 256)
  generalize UInt8.ofNat (v / 64 % 32 + 192) = first at hfirst
  generalize UInt8.ofNat (v % 64 + 128) = second at hsecond
  apply decodeUtf8_character [second] rest
  · rw [List.length_singleton]
    unfold utf8Width
    split_ifs <;> omega
  · apply goingOn_cons
    unfold secondBounds
    simp only [beq_iff_eq]
    split_ifs <;> omega
  · simp only [codeOf, firstBits, List.length_singleton, List.foldl_cons, List.foldl_nil]
    simp
    omega

theorem decodeUtf8_three {v : Nat} (hlow : 0x7FF < v) (hhigh : v ≤ 0xFFFF)
    (hvalid : v < 0xD800 ∨ 0xDFFF < v) (rest : List UInt8) :
    decodeUtf8 (UInt8.ofNat (v / 4096 % 16 + 224) :: UInt8.ofNat (v / 64 % 64 + 128) ::
      UInt8.ofNat (v % 64 + 128) :: rest) = Char.ofNat v :: decodeUtf8 rest := by
  have hfirst := toNat_ofNat_byte (by omega : v / 4096 % 16 + 224 < 256)
  have hsecond := toNat_ofNat_byte (by omega : v / 64 % 64 + 128 < 256)
  have hthird := toNat_ofNat_byte (by omega : v % 64 + 128 < 256)
  generalize UInt8.ofNat (v / 4096 % 16 + 224) = first at hfirst
  generalize UInt8.ofNat (v / 64 % 64 + 128) = second at hsecond
  generalize UInt8.ofNat (v % 64 + 128) = third at hthird
  have hbounds : (secondBounds first.toNat).1 ≤ second.toNat ∧
      second.toNat ≤ (secondBounds first.toNat).2 := by
    unfold secondBounds
    simp only [beq_iff_eq]
    split_ifs <;> omega
  have hlast : 0x80 ≤ third.toNat ∧ third.toNat ≤ 0xBF := by omega
  apply decodeUtf8_character [second, third] rest
  · simp only [List.length_cons, List.length_nil]
    unfold utf8Width
    split_ifs <;> omega
  · exact (goingOn_cons _ hbounds).trans (congrArg (second :: ·) (goingOn_cons _ hlast))
  · simp [codeOf, firstBits]
    omega

theorem decodeUtf8_four {v : Nat} (hlow : 0xFFFF < v) (hhigh : v < 0x110000)
    (rest : List UInt8) :
    decodeUtf8 (UInt8.ofNat (v / 262144 % 8 + 240) :: UInt8.ofNat (v / 4096 % 64 + 128) ::
      UInt8.ofNat (v / 64 % 64 + 128) :: UInt8.ofNat (v % 64 + 128) :: rest) =
        Char.ofNat v :: decodeUtf8 rest := by
  have hfirst := toNat_ofNat_byte (by omega : v / 262144 % 8 + 240 < 256)
  have hsecond := toNat_ofNat_byte (by omega : v / 4096 % 64 + 128 < 256)
  have hthird := toNat_ofNat_byte (by omega : v / 64 % 64 + 128 < 256)
  have hfourth := toNat_ofNat_byte (by omega : v % 64 + 128 < 256)
  generalize UInt8.ofNat (v / 262144 % 8 + 240) = first at hfirst
  generalize UInt8.ofNat (v / 4096 % 64 + 128) = second at hsecond
  generalize UInt8.ofNat (v / 64 % 64 + 128) = third at hthird
  generalize UInt8.ofNat (v % 64 + 128) = fourth at hfourth
  have hbounds : (secondBounds first.toNat).1 ≤ second.toNat ∧
      second.toNat ≤ (secondBounds first.toNat).2 := by
    unfold secondBounds
    simp only [beq_iff_eq]
    split_ifs <;> omega
  have hlast : 0x80 ≤ third.toNat ∧ third.toNat ≤ 0xBF := by omega
  have hlast' : 0x80 ≤ fourth.toNat ∧ fourth.toNat ≤ 0xBF := by omega
  apply decodeUtf8_character [second, third, fourth] rest
  · simp only [List.length_cons, List.length_nil]
    unfold utf8Width
    split_ifs <;> omega
  · calc goingOn 3 (secondBounds first.toNat) (second :: third :: fourth :: rest)
        = second :: goingOn 2 (0x80, 0xBF) (third :: fourth :: rest) := goingOn_cons _ hbounds
      _ = second :: third :: goingOn 1 (0x80, 0xBF) (fourth :: rest) := by
          rw [goingOn_cons _ hlast]
      _ = [second, third, fourth] := by
          rw [goingOn_cons _ hlast', goingOn]
  · simp [codeOf, firstBits]
    omega

/-- The bytes of a character are read as the character. -/
theorem decodeUtf8_encodedChar (c : Char) (rest : List UInt8) :
    decodeUtf8 (String.utf8EncodeChar c ++ rest) = c :: decodeUtf8 rest := by
  have hvalid : c.val.toNat < 0xD800 ∨ 0xDFFF < c.val.toNat ∧ c.val.toNat < 0x110000 := c.valid
  have hback : Char.ofNat c.val.toNat = c := Char.ofNat_toNat c
  unfold String.utf8EncodeChar
  simp only
  generalize c.val.toNat = v at hvalid hback
  rw [← hback]
  split_ifs with h1 h2 h3
  · exact decodeUtf8_one h1 rest
  · exact decodeUtf8_two (by omega) h2 rest
  · exact decodeUtf8_three (by omega) h3 (by omega) rest
  · exact decodeUtf8_four (by omega) (by omega) rest

/-- The bytes of a text are read as the text. -/
theorem decodeUtf8_encoded (cs : List Char) :
    decodeUtf8 (cs.flatMap String.utf8EncodeChar) = cs := by
  induction cs with
  | nil => rw [List.flatMap_nil, decodeUtf8]
  | cons c cs ih => rw [List.flatMap_cons, decodeUtf8_encodedChar, ih]

end Text

namespace Address

/-! ## Percent signs -/

theorem hexDigits_two (n : Nat) :
    Text.hexDigits 2 n = [Nat.digitChar (n / 16 % 16), Nat.digitChar (n % 16)] := rfl

theorem digitValue_digitChar : ∀ d < 16, Decimal.digitValue (Nat.digitChar d).toUpper = d := by
  decide

/-- A byte written with a percent sign is read as the byte. -/
theorem decodeFrom_encodedByte (held : List UInt8) (b : UInt8) (rest : List Char) :
    decodeFrom held (encodedByte b ++ rest) = decodeFrom (b :: held) rest := by
  have hbyte := b.toNat_lt
  have hhigh := digitValue_digitChar (b.toNat / 16 % 16) (by omega)
  have hlow := digitValue_digitChar (b.toNat % 16) (by omega)
  have hnumber : Decimal.digitsNumber 16 [(Nat.digitChar (b.toNat / 16 % 16)).toUpper,
      (Nat.digitChar (b.toNat % 16)).toUpper] = b.toNat := by
    simp only [Decimal.digitsNumber, List.foldl_cons, List.foldl_nil, hhigh, hlow]
    omega
  rw [encodedByte, hexDigits_two]
  simp only [List.map_cons, List.map_nil, List.cons_append, List.nil_append]
  rw [decodeFrom, hnumber, hhigh, hlow]
  simp [Nat.mod_lt]

theorem decodeFrom_encodedBytes (held bytes : List UInt8) (rest : List Char) :
    decodeFrom held (bytes.flatMap encodedByte ++ rest) = decodeFrom (bytes.reverse ++ held) rest := by
  induction bytes generalizing held with
  | nil => rfl
  | cons b bytes ih =>
    rw [List.flatMap_cons, List.append_assoc, decodeFrom_encodedByte, ih]
    simp

/-- A character that is read as itself and does not end a path. -/
def IsPathChar (c : Char) : Prop := c.toNat < 128 ∧ c ≠ '%' ∧ c ≠ '?'

theorem decodeFrom_pathChar (held : List UInt8) {c : Char} (h : IsPathChar c) (rest : List Char) :
    decodeFrom held (c :: rest) = decodeFrom ((String.utf8EncodeChar c).reverse ++ held) rest := by
  obtain ⟨hascii, hpercent, -⟩ := h
  have hbytes : String.utf8EncodeChar c = [UInt8.ofNat c.toNat] := by
    have hle : c.val.toNat ≤ 0x7F := Nat.le_of_lt_succ hascii
    simp only [String.utf8EncodeChar, if_pos hle]
    rfl
  rw [hbytes, decodeFrom, if_pos hascii]
  · rfl
  · intro a b behind hsame
    exact absurd hsame hpercent

theorem isPathChar_of_toNat {c : Char} (h : c.toNat < 128 ∧ c.toNat ≠ 37 ∧ c.toNat ≠ 63) :
    IsPathChar c := by
  refine ⟨h.1, ?_, ?_⟩
  · rintro rfl
    exact h.2.1 rfl
  · rintro rfl
    exact h.2.2 rfl

theorem isPathChar_of_isUnreserved {c : Char} (h : isUnreserved c = true) : IsPathChar c := by
  have hnat : ∀ {a b : Char}, a ≤ b → a.toNat ≤ b.toNat := UInt32.le_iff_toNat_le.mp
  simp only [isUnreserved, Bool.or_eq_true, Bool.and_eq_true, decide_eq_true_eq] at h
  rcases h with ((⟨hlo, hhi⟩ | ⟨hlo, hhi⟩) | ⟨hlo, hhi⟩) | hmark
  · have hlo : 97 ≤ c.toNat := hnat hlo
    have hhi : c.toNat ≤ 122 := hnat hhi
    exact isPathChar_of_toNat (by omega)
  · have hlo : 65 ≤ c.toNat := hnat hlo
    have hhi : c.toNat ≤ 90 := hnat hhi
    exact isPathChar_of_toNat (by omega)
  · have hlo : 48 ≤ c.toNat := hnat hlo
    have hhi : c.toNat ≤ 57 := hnat hhi
    exact isPathChar_of_toNat (by omega)
  · have hmem : c = '_' ∨ c = '.' ∨ c = '-' ∨ c = '~' := by simpa using hmark
    rcases hmem with rfl | rfl | rfl | rfl <;> exact isPathChar_of_toNat (by decide)

theorem encodedByte_ne_query {b : UInt8} {c : Char} (h : c ∈ encodedByte b) : c ≠ '?' := by
  have hdigits : ∀ d < 16, (Nat.digitChar d).toUpper ≠ '?' := by decide
  rw [encodedByte, hexDigits_two] at h
  simp only [List.map_cons, List.map_nil, List.mem_cons, List.not_mem_nil, or_false] at h
  rcases h with rfl | rfl | rfl
  · decide
  · exact hdigits _ (Nat.mod_lt _ (by decide))
  · exact hdigits _ (Nat.mod_lt _ (by decide))

theorem escapedChars_ne_query {cs : List Char} {c : Char} (h : c ∈ cs.flatMap escapedChar) :
    c ≠ '?' := by
  obtain ⟨d, -, hc⟩ := List.mem_flatMap.mp h
  unfold escapedChar at hc
  split at hc
  · rw [List.mem_singleton.mp hc]
    exact (isPathChar_of_isUnreserved ‹_›).2.2
  · obtain ⟨b, -, hc⟩ := List.mem_flatMap.mp hc
    exact encodedByte_ne_query hc

/-- Characters as they stand in a step of a path are read as their bytes. -/
theorem decodeFrom_escapedChars (held : List UInt8) (cs rest : List Char) :
    decodeFrom held (cs.flatMap escapedChar ++ rest) =
      decodeFrom ((cs.flatMap String.utf8EncodeChar).reverse ++ held) rest := by
  induction cs generalizing held with
  | nil => rfl
  | cons c cs ih =>
    have hone : ∀ later, decodeFrom held (escapedChar c ++ later) =
        decodeFrom ((String.utf8EncodeChar c).reverse ++ held) later := by
      intro later
      unfold escapedChar
      split
      · exact decodeFrom_pathChar held (isPathChar_of_isUnreserved ‹_›) later
      · exact decodeFrom_encodedBytes held _ later
    rw [List.flatMap_cons, List.flatMap_cons, List.append_assoc, hone, ih, List.reverse_append,
      List.append_assoc]

theorem decodeFrom_pathChars (held : List UInt8) {cs : List Char} (h : ∀ c ∈ cs, IsPathChar c)
    (rest : List Char) :
    decodeFrom held (cs ++ rest) =
      decodeFrom ((cs.flatMap String.utf8EncodeChar).reverse ++ held) rest := by
  induction cs generalizing held with
  | nil => rfl
  | cons c cs ih =>
    rw [List.cons_append, decodeFrom_pathChar held (h c List.mem_cons_self),
      ih _ fun other ho => h other (List.mem_cons_of_mem _ ho), List.flatMap_cons,
      List.reverse_append, List.append_assoc]

/-! ## Paths -/

theorem path_ofText {text : String} (h : ∀ c ∈ text.toList, c ≠ '?') :
    (ofText text).path = String.ofList (decodeFrom [] text.toList) := by
  have hkeep : ∀ c ∈ text.toList, (c != '?') = true := by
    simpa using h
  rw [ofText, List.span_eq_takeWhile_dropWhile, List.takeWhile_eq_self_iff.mpr hkeep]

/-- Whatever text is escaped between two parts of a path, the path holds the text there. -/
theorem path_of_escaped_step {before behind : String} (hbefore : ∀ c ∈ before.toList, IsPathChar c)
    (hbehind : ∀ c ∈ behind.toList, IsPathChar c) (name : String) :
    (ofText (before ++ escaped name ++ behind)).path = before ++ name ++ behind := by
  have htext : (before ++ escaped name ++ behind).toList =
      before.toList ++ (name.toList.flatMap escapedChar ++ (behind.toList ++ [])) := by
    simp [escaped]
  have hquery : ∀ c ∈ (before ++ escaped name ++ behind).toList, c ≠ '?' := by
    rw [htext]
    intro c hc
    simp only [List.mem_append, List.not_mem_nil, or_false] at hc
    rcases hc with hc | hc | hc
    · exact (hbefore c hc).2.2
    · exact escapedChars_ne_query hc
    · exact (hbehind c hc).2.2
  rw [path_ofText hquery, htext, decodeFrom_pathChars _ hbefore, decodeFrom_escapedChars,
    decodeFrom_pathChars _ hbehind, decodeFrom]
  -- the held bytes are those of the whole path
  rw [show (behind.toList.flatMap String.utf8EncodeChar).reverse ++
      ((name.toList.flatMap String.utf8EncodeChar).reverse ++
        ((before.toList.flatMap String.utf8EncodeChar).reverse ++ [])) =
      ((before ++ name ++ behind).toList.flatMap String.utf8EncodeChar).reverse by simp,
    List.reverse_reverse, Text.decodeUtf8_encoded, String.ofList_toList]

end Address

end DesktopPolicy
