import PhpAudit.Number.Binary

/-!
The fewest decimal digits that identify a double. The reals that round to the double form an
interval around it; for one digit, two digits and so on its two neighbours on that decimal grid are
tried, and the first grid with a point in the interval decides. Of two points the nearer wins.
-/

namespace PhpAudit

/-- The number `digits · 10^exponent`. -/
structure Decimal where
  digits : Nat
  exponent : Int
  deriving Repr, DecidableEq

namespace Decimal

/-- Number of decimal digits; zero has one. -/
def width (n : Nat) : Nat := (Nat.toDigits 10 n).length

/-- The greatest `e` with `10^e ≤ numerator / denominator`, for a positive fraction. -/
def magnitude (numerator denominator : Nat) : Int :=
  if denominator ≤ numerator then (width (numerator / denominator) : Int) - 1
  else
    let places := width (denominator / numerator) - 1
    if numerator * Nat.pow 10 places = denominator then -(places : Int) else -(places : Int) - 1

/-- `numerator / denominator · 10^shift` as a fraction. -/
def scale (numerator denominator : Nat) (shift : Int) : Nat × Nat :=
  if 0 ≤ shift then (numerator * Nat.pow 10 shift.toNat, denominator)
  else (numerator, denominator * Nat.pow 10 (-shift).toNat)

/-- Removes the zeros at the end of the digits; `budget` bounds how many. -/
def stripZeros (budget : Nat) (d : Decimal) : Decimal :=
  match budget with
  | 0 => d
  | budget + 1 =>
      if d.digits ≠ 0 ∧ d.digits % 10 = 0 then stripZeros budget ⟨d.digits / 10, d.exponent + 1⟩ else d

/-- The interval of reals that round to `value`, in units of `unit.1 / unit.2`. -/
structure Interval where
  low : Nat
  value : Nat
  high : Nat
  closed : Bool
  unit : Nat × Nat

def Interval.ofBinary (significand : Nat) (exponent : Int) : Interval where
  low := 4 * significand - (if significand = Nat.pow 2 52 ∧ -1074 < exponent then 1 else 2)
  value := 4 * significand
  high := 4 * significand + 2
  closed := significand % 2 == 0
  unit := Binary.fraction 1 (exponent - 2)

/-- Whether `digits · 10^exponent` lies in the interval. -/
def Interval.holds (i : Interval) (digits : Nat) (exponent : Int) : Bool :=
  let f := scale digits 1 exponent
  let left := f.1 * i.unit.2
  let low := i.low * i.unit.1 * f.2
  let high := i.high * i.unit.1 * f.2
  if i.closed then decide (low ≤ left ∧ left ≤ high) else decide (low < left ∧ left < high)

/-- The point of the grid with `count` digits that identifies the value, if there is one. -/
def Interval.point? (i : Interval) (top : Int) (count : Nat) : Option Decimal :=
  let exponent := top - (count : Int) + 1
  let f := scale (i.value * i.unit.1) i.unit.2 (-exponent)
  let down := f.1 / f.2
  let up := down + 1
  match i.holds down exponent, i.holds up exponent with
  | true, true =>
      let twice := 2 * (f.1 % f.2)
      if twice < f.2 ∨ (twice = f.2 ∧ down % 2 = 0) then some ⟨down, exponent⟩ else some ⟨up, exponent⟩
  | true, false => some ⟨down, exponent⟩
  | false, true => some ⟨up, exponent⟩
  | false, false => none

/-- Shortest digits of a positive finite value; seventeen always suffice. -/
def shortest (significand : Nat) (exponent : Int) : Decimal :=
  let i := Interval.ofBinary significand exponent
  let top := magnitude (i.value * i.unit.1) i.unit.2
  match (List.range 17).findSome? fun n => i.point? top (n + 1) with
  | some d => stripZeros 20 d
  | none => ⟨i.value * i.unit.1 / i.unit.2, 0⟩

end Decimal

end PhpAudit
