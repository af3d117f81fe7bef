-- Binary floating point numbers taken apart: a sign, a whole number and a power of two.
namespace DesktopPolicy.Decimal

/-- What a 64-bit float stands for. -/
inductive Dyadic where
  | undefined
  | infinite (negative : Bool)
  /-- `mantissa * 2 ^ exponent`, with its sign. Zero has a sign too. -/
  | finite (negative : Bool) (mantissa : Nat) (exponent : Int)
  deriving DecidableEq, Repr

/-- The parts of a float, read off its bits: one for the sign, eleven for the exponent, and 52 for
the fraction, before which a one is understood unless the exponent bits are all zero. -/
def Dyadic.ofFloat (x : Float) : Dyadic :=
  let bits := x.toBits.toNat
  let negative := bits / Nat.pow 2 63 == 1
  let biased : Nat := bits / Nat.pow 2 52 % Nat.pow 2 11
  let fraction : Nat := bits % Nat.pow 2 52
  if biased == 2047 then
    if fraction == 0 then .infinite negative else .undefined
  else if biased == 0 then .finite negative fraction (-1074)
  else .finite negative (Nat.pow 2 52 + fraction) ((biased : Int) - 1075)

/-- The whole number that a finite value is, if it is one. -/
def Dyadic.toInt? : Dyadic → Option Int
  | .finite negative mantissa exponent =>
    let unit : Nat := Nat.pow 2 (-exponent).toNat
    let size : Nat := if 0 ≤ exponent then mantissa * Nat.pow 2 exponent.toNat else mantissa / unit
    if 0 ≤ exponent || mantissa % unit == 0 then
      some (if negative then -(size : Int) else (size : Int))
    else none
  | _ => none

end DesktopPolicy.Decimal
