-- The shortest decimal that reads back as a given binary number. Of the decimals with the fewest
-- digits that round to the number, it is the nearest one; of two equally near, the one with an even
-- last digit.
namespace DesktopPolicy.Decimal

/-- The decimal `digits * 10 ^ exponent`. -/
structure Scaled where
  digits : Nat
  exponent : Int
  deriving DecidableEq, Repr

structure Ratio where
  num : Nat
  den : Nat

namespace Ratio

def ofBinary (n : Nat) (e : Int) : Ratio :=
  if 0 ≤ e then ⟨n * Nat.pow 2 e.toNat, 1⟩ else ⟨n, Nat.pow 2 (-e).toNat⟩

def shift10 (r : Ratio) (e : Int) : Ratio :=
  if 0 ≤ e then ⟨r.num * Nat.pow 10 e.toNat, r.den⟩ else ⟨r.num, r.den * Nat.pow 10 (-e).toNat⟩

def le (a b : Ratio) : Bool := a.num * b.den ≤ b.num * a.den

def lt (a b : Ratio) : Bool := a.num * b.den < b.num * a.den

end Ratio

/-- The numbers that round to a float: `value` itself, the ends `low` and `high`, and whether the
ends round to it too. -/
structure Rounding where
  low : Ratio
  value : Ratio
  high : Ratio
  closed : Bool

/-- The numbers that round to `mantissa * 2 ^ exponent`. They reach half a step up and down; below a
power of two the step is half as wide. The ends round to an even mantissa. -/
def Rounding.of (mantissa : Nat) (exponent : Int) : Rounding :=
  let below := if mantissa == Nat.pow 2 52 && exponent != -1074 then 1 else 2
  { low := .ofBinary (4 * mantissa - below) (exponent - 2)
    value := .ofBinary (4 * mantissa) (exponent - 2)
    high := .ofBinary (4 * mantissa + 2) (exponent - 2)
    closed := mantissa % 2 == 0 }

/-- The number `n` rounds to the float, where `r` is scaled so that it counts in the same unit. -/
def Rounding.accepts (r : Rounding) (scale : Int) (n : Nat) : Bool :=
  let low := r.low.shift10 scale
  let high := r.high.shift10 scale
  let point : Ratio := ⟨n, 1⟩
  if r.closed then low.le point && point.le high else low.lt point && point.lt high

/-- The nearer of the two whole numbers around the value that round to the float, when the value is
counted in units of `10 ^ -scale`. -/
def Rounding.grid? (r : Rounding) (scale : Int) : Option Nat :=
  let v := r.value.shift10 scale
  let below := v.num / v.den
  let rest := 2 * (v.num % v.den)
  let belowFits := r.accepts scale below
  let aboveFits := r.accepts scale (below + 1)
  if belowFits && aboveFits then
    if rest < v.den then some below
    else if v.den < rest then some (below + 1)
    else if below % 2 == 0 then some below
    else some (below + 1)
  else if belowFits then some below
  else if aboveFits then some (below + 1)
  else none

/-- How many places the value has before the point, or minus the zeros behind it: `value` is less
than `10 ^ point` and not less than `10 ^ (point - 1)`. Searched from `point` down. -/
def pointFrom (value : Ratio) : Nat → Int → Int
  | 0, point => point
  | turns + 1, point =>
    let unit : Ratio := ⟨1, 1⟩
    if unit.le (value.shift10 (1 - point)) then point else pointFrom value turns (point - 1)

/-- The places of a positive value before the point. No float has more than 309 of them, and the
smallest has 323 zeros behind the point. -/
def pointOf (value : Ratio) : Int := pointFrom value 640 310

def Scaled.trim (d : Scaled) : Nat → Scaled
  | 0 => d
  | turns + 1 =>
    if d.digits != 0 && d.digits % 10 == 0 then
      Scaled.trim ⟨d.digits / 10, d.exponent + 1⟩ turns
    else d

/-- The first grid on which some number rounds to the float, of `count` digits and up. -/
def firstGrid (r : Rounding) (point : Int) : Nat → Nat → Scaled
  | 0, _ => ⟨0, 0⟩
  | turns + 1, count =>
    match r.grid? (count - point) with
    | some n => Scaled.trim ⟨n, point - count⟩ 20
    | none => firstGrid r point turns (count + 1)

/-- The shortest decimal for `mantissa * 2 ^ exponent`. Seventeen digits are always enough. -/
def shortest (mantissa : Nat) (exponent : Int) : Scaled :=
  if mantissa == 0 then ⟨0, 0⟩
  else
    let r := Rounding.of mantissa exponent
    firstGrid r (pointOf r.value) 17 1

end DesktopPolicy.Decimal
