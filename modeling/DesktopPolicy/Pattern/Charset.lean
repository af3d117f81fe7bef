-- Characters tested one at a time. Where case is ignored, a character is brought to lower case
-- first, and it passes when some character of the test has the same lower case, or a lower case
-- with the same upper case.
import DesktopPolicy.Pattern.Node
import DesktopPolicy.Text.Blank
import DesktopPolicy.Text.Letters
import DesktopPolicy.Text.Numbers

namespace DesktopPolicy.Pattern

/-! ## Kinds of characters -/

/-- A letter, a number or an underscore. -/
def isWordChar (unicode : Bool) (n : Nat) : Bool :=
  let c := Char.ofNat n
  if n == '_'.toNat then true
  else if unicode then Text.isLetter c || Text.isNumber c
  else Text.isAsciiCased n || ('0'.toNat ≤ n && n ≤ '9'.toNat)

/-- The code point is of the kind, by Unicode rules or by ASCII rules. -/
def Category.has (unicode : Bool) : Category → Nat → Bool
  | .digit, n => if unicode then Text.isDecimal (Char.ofNat n) else '0'.toNat ≤ n && n ≤ '9'.toNat
  | .space, n =>
    if unicode then Text.isBlank (Char.ofNat n) else n == ' '.toNat || (9 ≤ n && n ≤ 13)
  | .word, n => isWordChar unicode n

/-! ## Case -/

inductive Fold where
  | exact
  | ascii
  | unicode
  deriving DecidableEq, Repr

/-- The lower case under which code points are compared. -/
def Fold.lower : Fold → Nat → Nat
  | exact, n => n
  | ascii, n => Text.asciiLowerOf n
  | unicode, n => Text.lowerOf n

/-- The code points that are the same as the lower case `n`. -/
def Fold.alike : Fold → Nat → List Nat
  | exact, n => [n]
  | ascii, n => if Text.isAsciiCased n then [n, n - 32] else [n]
  | unicode, n => (n :: Text.kinOf n).flatMap Text.withLower

def Fold.isCased : Fold → Nat → Bool
  | exact, _ => false
  | ascii, n => Text.isAsciiCased n
  | unicode, n => Text.isCased n

/-- Some code point of the range has another case. -/
def Fold.anyCased : Fold → Nat → Nat → Bool
  | exact, _, _ => false
  | ascii, lo, hi => Text.anyAsciiCased lo hi
  | unicode, lo, hi => Text.anyCased lo hi

/-! ## Sets -/

/-- A set of characters with the rules by which its kinds are understood. -/
structure Charset where
  negated : Bool
  items : List SetItem
  unicode : Bool
  deriving DecidableEq, Repr

/-- Some part of the set has another case. -/
def Charset.isCased (set : Charset) (fold : Fold) : Bool :=
  set.items.any fun
    | .one code => fold.isCased code
    | .range lo hi => fold.anyCased lo hi
    | .category _ _ => false

def SetItem.has (item : SetItem) (unicode : Bool) (alike : List Nat) (n : Nat) : Bool :=
  match item with
  | one code => alike.contains code
  | range lo hi => alike.any fun code => lo ≤ code && code ≤ hi
  | category kind negated => kind.has unicode n != negated

def Charset.passes (set : Charset) (fold : Fold) (n : Nat) : Bool :=
  let n := fold.lower n
  let alike := fold.alike n
  set.items.any (fun item => item.has set.unicode alike n) != set.negated

/-! ## Tests -/

inductive Test where
  | anyChar
  | anyButNewline
  | literal (fold : Fold) (negated : Bool) (code : Nat)
  | charset (fold : Fold) (set : Charset)
  deriving DecidableEq, Repr

def Test.passes (test : Test) (c : Char) : Bool :=
  match test with
  | anyChar => true
  | anyButNewline => c != '\n'
  | literal fold negated code => (fold.lower c.toNat == code) != negated
  | charset fold set => set.passes fold c.toNat

/-- The test can be made without looking for other cases. -/
def Test.isPlain : Test → Bool
  | literal .exact false _ => true
  | charset .exact _ => true
  | _ => false

/-- The test goes over the text by itself, not in a scan. -/
def Test.isStepwise : Test → Bool
  | charset .ascii _ => true
  | charset .unicode _ => true
  | _ => false

end DesktopPolicy.Pattern
