-- Decimals written out: with a point among the digits, or with a power of ten behind them.
import DesktopPolicy.Decimal.Dyadic
import DesktopPolicy.Decimal.Shortest

namespace DesktopPolicy.Decimal

/-- How a format writes its floating point numbers. -/
structure Layout where
  /-- The smallest power of the first digit that is written with a point. -/
  leastPlain : Int
  /-- The first power of the first digit that is no longer written with a point. -/
  firstScaled : Int
  mark : Char
  powerDigits : Nat
  infinity : String
  undefined : String

/-- The digits of `n`, with zeros before them up to `width` places. -/
def padded (width n : Nat) : String :=
  let digits := toString n
  String.ofList (List.replicate (width - digits.length) '0') ++ digits

def Layout.power (layout : Layout) (p : Int) : String :=
  let sign := if p < 0 then "-" else "+"
  layout.mark.toString ++ sign ++ padded layout.powerDigits p.natAbs

/-- The digits with a point behind the first `places` of them. There is a digit on either side. -/
def plain (digits : List Char) (places : Int) : String :=
  if places ≤ 0 then
    "0." ++ String.ofList (List.replicate (-places).toNat '0' ++ digits)
  else
    let whole := digits.take places.toNat
    let rest := digits.drop places.toNat
    let filled := whole ++ List.replicate (places.toNat - whole.length) '0'
    String.ofList filled ++ "." ++ (if rest.isEmpty then "0" else String.ofList rest)

/-- The digits as a number from one up to ten, and its power of ten. -/
def scaled (layout : Layout) (digits : List Char) (power : Int) : String :=
  match digits with
  | [] => ""
  | [d] => d.toString ++ layout.power power
  | d :: rest => d.toString ++ "." ++ String.ofList rest ++ layout.power power

def Layout.unsigned (layout : Layout) (d : Scaled) : String :=
  let digits := (toString d.digits).toList
  let power := d.exponent + digits.length - 1
  if layout.leastPlain ≤ power && power < layout.firstScaled then plain digits (power + 1)
  else scaled layout digits power

/-- A float in this layout, by the fewest digits that read back as the same float. -/
def Layout.float (layout : Layout) (x : Float) : String :=
  let signed (negative : Bool) (text : String) := if negative then "-" ++ text else text
  match Dyadic.ofFloat x with
  | .undefined => layout.undefined
  | .infinite negative => signed negative layout.infinity
  | .finite negative mantissa exponent =>
    signed negative (layout.unsigned (shortest mantissa exponent))

/-- The float nearest to `digits * 10 ^ exponent`. What is far out of range is cut off first, so
that no huge power of ten is worked out. -/
def nearestFloat (digits : Nat) (exponent : Int) : Float :=
  let size := (toString digits).length + exponent
  if digits == 0 || size < -340 then 0.0
  else if 320 < size then 1.0 / 0.0
  else Float.ofScientific digits (exponent < 0) exponent.natAbs

end DesktopPolicy.Decimal
