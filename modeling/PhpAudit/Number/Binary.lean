/-!
A double as an exact binary number: sign, significand and power of two.
-/

namespace PhpAudit

/-- The value `±significand · 2^exponent`, or one of the values that are not finite. -/
inductive Binary where
  | finite (negative : Bool) (significand : Nat) (exponent : Int)
  | infinite (negative : Bool)
  | undefined

namespace Binary

def ofFloat (x : Float) : Binary :=
  let bits : Nat := x.toBits.toNat
  let negative := decide (Nat.pow 2 63 ≤ bits)
  let field : Nat := bits / Nat.pow 2 52 % 2048
  let fraction : Nat := bits % Nat.pow 2 52
  if field = 2047 then if fraction = 0 then .infinite negative else .undefined
  else if field = 0 then .finite negative fraction (-1074)
  else .finite negative (Nat.pow 2 52 + fraction) ((field : Int) - 1075)

/-- The finite value as a fraction. -/
def fraction (significand : Nat) (exponent : Int) : Nat × Nat :=
  if 0 ≤ exponent then (significand * Nat.pow 2 exponent.toNat, 1)
  else (significand, Nat.pow 2 (-exponent).toNat)

/-- Integer part, toward zero. -/
def truncate? : Binary → Option Int
  | .finite negative significand exponent =>
      let f := fraction significand exponent
      let whole : Int := (f.1 / f.2 : Nat)
      some (if negative then -whole else whole)
  | _ => none

/-- Whether a finite value has no fractional part. -/
def isWhole : Binary → Bool
  | .finite _ significand exponent =>
      let f := fraction significand exponent
      f.1 % f.2 == 0
  | _ => false

/-- Order of an integer and a finite or infinite value; none beside an undefined one. -/
def compareInt? (n : Int) : Binary → Option Ordering
  | .finite negative significand exponent =>
      let f := fraction significand exponent
      let numerator : Int := if negative then -(f.1 : Int) else f.1
      some (compare (n * f.2) numerator)
  | .infinite negative => some (if negative then .gt else .lt)
  | .undefined => none

/-- The double nearest to an integer, or none when it is too large for one. -/
def ofInt? (n : Int) : Option Float :=
  let x := Float.ofScientific n.natAbs false 0
  if x.isInf then none else some (if n < 0 then -x else x)

end Binary

end PhpAudit
