import PhpAudit.Number.Shortest

/-!
Texts of doubles: the shortest form that values are shown in, a fixed number of places for
durations, and six significant digits for thresholds. The last two round the exact binary value,
an exact half to the even neighbour.
-/

namespace PhpAudit

namespace Number

def signText (negative : Bool) : String := if negative then "-" else ""

/-- Quotient rounded to the nearest integer, an exact half to the even one. -/
def roundDiv (numerator denominator : Nat) : Nat :=
  let down := numerator / denominator
  let twice := 2 * (numerator % denominator)
  if twice < denominator ∨ (twice = denominator ∧ down % 2 = 0) then down else down + 1

def zeros (n : Nat) : String := String.ofList (List.replicate n '0')

/-- Mark, sign and at least two digits. -/
def exponentText (e : Int) : String :=
  let digits := toString e.natAbs
  "e" ++ (if e < 0 then "-" else "+") ++ zeros (2 - digits.length) ++ digits

/-- Digits with the point after the first `point` of them, padded with zeros as needed; `whole` is
written after a number without fraction. -/
def positional (digits : String) (point : Int) (whole : String) : String :=
  let size := digits.length
  if point ≤ 0 then "0." ++ zeros (-point).toNat ++ digits
  else if (size : Int) ≤ point then digits ++ zeros (point.toNat - size) ++ whole
  else
    let cs := digits.toList
    String.ofList (cs.take point.toNat) ++ "." ++ String.ofList (cs.drop point.toNat)

/-- One digit, then the others after a point, then the exponent. -/
def scientific (digits : String) (point : Int) : String :=
  match digits.toList with
  | [] => ""
  | [c] => String.ofList [c] ++ exponentText (point - 1)
  | c :: cs => String.ofList (c :: '.' :: cs) ++ exponentText (point - 1)

/-- Shortest text: positional from 0.0001 up to below 10^16, with a fraction of zero kept. -/
def shortestText (x : Float) : String :=
  match Binary.ofFloat x with
  | .undefined => "nan"
  | .infinite negative => signText negative ++ "inf"
  | .finite negative 0 _ => signText negative ++ "0.0"
  | .finite negative significand exponent =>
      let d := Decimal.shortest significand exponent
      let digits := toString d.digits
      let point := (digits.length : Int) + d.exponent
      signText negative ++
        (if -4 < point ∧ point ≤ 16 then positional digits point ".0" else scientific digits point)

/-- A fixed number of places after the point, at least one. -/
def fixedText (places : Nat) (x : Float) : String :=
  match Binary.ofFloat x with
  | .undefined => "nan"
  | .infinite negative => signText negative ++ "inf"
  | .finite negative significand exponent =>
      let f := Binary.fraction significand exponent
      let scaled := toString (roundDiv (f.1 * Nat.pow 10 places) f.2)
      let digits := zeros (places + 1 - scaled.length) ++ scaled
      signText negative ++ positional digits ((digits.length : Int) - places) ""

/-- Rounds a positive fraction to `count` significant digits, trailing zeros removed. -/
def significant (count numerator denominator : Nat) : Decimal :=
  let top := Decimal.magnitude numerator denominator
  let exponent := top - (count : Int) + 1
  let f := Decimal.scale numerator denominator (-exponent)
  Decimal.stripZeros (count + 1) ⟨roundDiv f.1 f.2, exponent⟩

/-- Six significant digits without trailing zeros, positional from 0.0001 up to below 10^6. -/
def generalText (x : Float) : String :=
  match Binary.ofFloat x with
  | .undefined => "nan"
  | .infinite negative => signText negative ++ "inf"
  | .finite negative 0 _ => signText negative ++ "0"
  | .finite negative significand exponent =>
      let f := Binary.fraction significand exponent
      let d := significant 6 f.1 f.2
      let digits := toString d.digits
      let point := (digits.length : Int) + d.exponent
      signText negative ++
        (if -4 < point ∧ point ≤ 6 then positional digits point "" else scientific digits point)

end Number

end PhpAudit
