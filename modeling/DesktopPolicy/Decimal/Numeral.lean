-- Numerals: numbers written as texts, in the digits of any script, with or without a sign, and with
-- blanks around them.
import DesktopPolicy.Decimal.Layout
import DesktopPolicy.Text.Blank
import DesktopPolicy.Text.Numbers
import DesktopPolicy.Text.Quoted

namespace DesktopPolicy.Decimal

inductive NumeralFault where
  | notWhole (base : Nat) (text : String)
  | notReal (text : String)
  | tooManyDigits (count : Nat)
  deriving DecidableEq, Repr

/-- What is wrong, in words. Of a long text only the start is told. -/
def NumeralFault.message : NumeralFault → String
  | notWhole base text =>
    "invalid literal for int() with base " ++ toString base ++ ": " ++
      String.ofList ((Text.quoted text).toList.take 200)
  | notReal text => "could not convert string to float: " ++ Text.quoted text
  | tooManyDigits count =>
    "Exceeds the limit (4300 digits) for integer string conversion: value has " ++ toString count ++
      " digits; use sys.set_int_max_str_digits() to increase the limit"

/-! ## Parts of numerals -/

/-- A blank around a numeral: a printing control, a space, or a blank of another script. -/
def isGap (c : Char) : Bool := Text.isBlank c && !(28 ≤ c.toNat && c.toNat ≤ 31)

def withoutGaps (cs : List Char) : List Char :=
  ((cs.dropWhile isGap).reverse.dropWhile isGap).reverse

/-- The digits of all scripts as those of one. -/
def plainDigit (c : Char) : Char :=
  match Text.decimalValue? c with
  | some n => Char.ofNat (48 + n)
  | none => c

def takeSign : List Char → Bool × List Char
  | '-' :: rest => (true, rest)
  | '+' :: rest => (false, rest)
  | rest => (false, rest)

/-- The value of a digit: letters follow the ten digits. -/
def digitValue (c : Char) : Nat :=
  if '0' ≤ c && c ≤ '9' then c.toNat - 48
  else if 'a' ≤ c && c ≤ 'z' then c.toNat - 87
  else if 'A' ≤ c && c ≤ 'Z' then c.toNat - 55
  else 36

def digitsNumber (base : Nat) (cs : List Char) : Nat :=
  cs.foldl (fun n c => n * base + digitValue c) 0

/-! ## Whole numbers -/

/-- The letter behind a zero that marks a base. -/
def baseLetters (base : Nat) : List Char :=
  if base == 2 then ['b', 'B']
  else if base == 8 then ['o', 'O']
  else if base == 16 then ['x', 'X']
  else []

/-- What stands behind the mark of the base, if there is one. -/
def behindBaseMark (base : Nat) : List Char → List Char
  | '0' :: letter :: rest =>
    if (baseLetters base).contains letter then rest else '0' :: letter :: rest
  | rest => rest

/-- The most decimal digits that can be read. -/
def mostDigits : Nat := 4300

def whole (base : Nat) (text : String) : Except NumeralFault Int :=
  let cs := (withoutGaps text.toList).map plainDigit
  let (negative, cs) := takeSign cs
  let (digits, rest) := (behindBaseMark base cs).span fun c => digitValue c < base
  if base == 10 && mostDigits < digits.length then .error (.tooManyDigits digits.length)
  else if digits.isEmpty || !rest.isEmpty then .error (.notWhole base text)
  else
    let size : Int := digitsNumber base digits
    .ok (if negative then -size else size)

/-! ## Real numbers -/

def smallLetter (c : Char) : Char := if 'A' ≤ c && c ≤ 'Z' then Char.ofNat (c.toNat + 32) else c

/-- The numbers that are written as words. -/
def numberWords : List (String × Float) := [
  ("inf", 1.0 / 0.0), ("infinity", 1.0 / 0.0), ("nan", 0.0 / 0.0)]

def isDigit (c : Char) : Bool := '0' ≤ c && c ≤ '9'

/-- The power of ten that stands at the end of a numeral, zero if nothing stands there. -/
def power? : List Char → Option Int
  | [] => some 0
  | mark :: rest =>
    let (negative, digits) := takeSign rest
    if (mark == 'e' || mark == 'E') && !digits.isEmpty && digits.all isDigit then
      let size : Int := digitsNumber 10 digits
      some (if negative then -size else size)
    else none

/-- The digits behind a point, and what stands behind them. -/
def fractionDigits : List Char → List Char × List Char
  | '.' :: rest => rest.span isDigit
  | rest => ([], rest)

def unsignedReal? (cs : List Char) : Option Float :=
  match numberWords.lookup (String.ofList (cs.map smallLetter)) with
  | some x => some x
  | none => do
    let (before, rest) := cs.span isDigit
    let (behind, rest) := fractionDigits rest
    let scale ← power? rest
    if before.isEmpty && behind.isEmpty then none
    else some (nearestFloat (digitsNumber 10 (before ++ behind)) (scale - behind.length))

/-- The float nearest to what a text stands for. -/
def real (text : String) : Except NumeralFault Float :=
  let (negative, cs) := takeSign ((withoutGaps text.toList).map plainDigit)
  match unsignedReal? cs with
  | some x => .ok (if negative then -x else x)
  | none => .error (.notReal text)

end DesktopPolicy.Decimal
