-- Sets of code points, kept as sorted ranges.
namespace DesktopPolicy.Text

/-- Ranges of code points, first and last included, in rising order and apart from each other. -/
abbrev Ranges := Array (Nat × Nat)

/-- Halves the part of the table between `lo` and `hi` until the range with `n` is found. Each turn
makes the part smaller, so as many turns as the part has ranges are enough. -/
def Ranges.halve (table : Ranges) (n : Nat) : Nat → Nat → Nat → Option (Nat × Nat)
  | 0, _, _ => none
  | turns + 1, lo, hi =>
    if lo < hi then
      let mid := (lo + hi) / 2
      match table[mid]? with
      | none => none
      | some r =>
        if n < r.1 then halve table n turns lo mid
        else if r.2 < n then halve table n turns (mid + 1) hi
        else some r
    else none

def Ranges.rangeOf? (table : Ranges) (n : Nat) : Option (Nat × Nat) :=
  table.halve n table.size 0 table.size

def Ranges.has (table : Ranges) (n : Nat) : Bool := (table.rangeOf? n).isSome

end DesktopPolicy.Text
