-- Texts from bytes in UTF-8. Bytes that stand for no character become a replacement character: one
-- for each row of bytes that starts like a character and breaks off.
namespace DesktopPolicy.Text

/-- How many bytes a character has that starts with a byte; none starts with a byte of width zero. -/
def utf8Width (b : Nat) : Nat :=
  if b < 0x80 then 1
  else if b < 0xC2 then 0
  else if b < 0xE0 then 2
  else if b < 0xF0 then 3
  else if b < 0xF5 then 4
  else 0

/-- The bounds of the byte behind a first one. They leave out characters that have a shorter form,
halves of pairs, and numbers beyond the last character. -/
def secondBounds (b : Nat) : Nat × Nat :=
  if b == 0xE0 then (0xA0, 0xBF)
  else if b == 0xED then (0x80, 0x9F)
  else if b == 0xF0 then (0x90, 0xBF)
  else if b == 0xF4 then (0x80, 0x8F)
  else (0x80, 0xBF)

/-- The bytes that go on with a character, up to so many. -/
def goingOn : Nat → Nat × Nat → List UInt8 → List UInt8
  | 0, _, _ => []
  | _ + 1, _, [] => []
  | count + 1, (lo, hi), b :: rest =>
    if lo ≤ b.toNat && b.toNat ≤ hi then b :: goingOn count (0x80, 0xBF) rest else []

/-- The bits of a first byte that belong to the character. -/
def firstBits (b width : Nat) : Nat :=
  if width == 1 then b else if width == 2 then b % 32 else if width == 3 then b % 16 else b % 8

def codeOf (first : Nat) (others : List UInt8) : Nat :=
  others.foldl (fun n b => n * 64 + b.toNat % 64) first

/-- The character where bytes stand for none. -/
def replacement : Char := '\uFFFD'

def decodeUtf8 : List UInt8 → List Char
  | [] => []
  | b :: rest =>
    let width := utf8Width b.toNat
    let others := goingOn (width - 1) (secondBounds b.toNat) rest
    let c :=
      if width != 0 && others.length + 1 == width then
        Char.ofNat (codeOf (firstBits b.toNat width) others)
      else replacement
    c :: decodeUtf8 (rest.drop others.length)
termination_by bytes => bytes.length
decreasing_by
  rw [List.length_drop, List.length_cons]
  omega

/-! ## Bytes that are a text or none -/

def utf8 (s : String) : List UInt8 := s.toUTF8.data.toList

def ofUtf8? (bytes : List UInt8) : Option String := String.fromUTF8? bytes.toByteArray

theorem toByteArray_utf8 (s : String) : (utf8 s).toByteArray = s.toUTF8 := by
  apply ByteArray.ext
  rw [utf8, List.data_toByteArray]

@[simp]
theorem ofUtf8?_utf8 (s : String) : ofUtf8? (utf8 s) = some s := by
  rw [ofUtf8?, toByteArray_utf8, String.fromUTF8?, String.toUTF8_eq_toByteArray, dif_pos s.isValidUTF8]
  rfl

@[simp]
theorem utf8_eq_nil_iff (s : String) : utf8 s = [] ↔ s = "" := by
  constructor
  · intro h
    have hs := ofUtf8?_utf8 s
    rw [h] at hs
    exact (Option.some.inj hs).symm
  · rintro rfl
    rfl

/-- Half of a pair of surrogates, which alone is no character. -/
def isHalf (n : Nat) : Bool := 0xD800 ≤ n && n < 0xE000

/-- A text with half of a pair in it, by its code points. No bytes in UTF-8 are this text. -/
structure Torn where
  points : List Nat
  torn : points.any isHalf = true
  deriving DecidableEq, Repr

/-- The bytes of a code point. Half of a pair has bytes by the same scheme; UTF-8 has none for it. -/
def pointBytes (n : Nat) : List UInt8 :=
  if isHalf n then [0xE0 + n / 4096, 0x80 + n / 64 % 64, 0x80 + n % 64].map UInt8.ofNat
  else utf8 (Char.ofNat n).toString

end DesktopPolicy.Text
