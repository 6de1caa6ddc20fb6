import PhpAudit.Number.Binary
import PhpAudit.Number.Shortest
import PhpAudit.Text.Blank
import PhpAudit.Text.Word

/-!
Reading numbers from text. Digits of every script are accepted, single underscores may stand
between digits, and a decimal integer has at most 4300 digits.
-/

namespace PhpAudit

namespace Numeral

def maxDecimalDigits : Nat := 4300

/-- Value of a digit in bases up to 36; letters of either case follow nine. -/
def digit? (base : Nat) (c : Char) : Option Nat :=
  let value :=
    match Text.digitValue? c with
    | some d => some d
    | none =>
        if 'a' ≤ c ∧ c ≤ 'z' then some (c.toNat - 'a'.toNat + 10)
        else if 'A' ≤ c ∧ c ≤ 'Z' then some (c.toNat - 'A'.toNat + 10)
        else none
  value.filter (· < base)

/-- The number written by digits of a base, most significant first. -/
def ofDigits (base : Nat) (digits : List Nat) : Nat := digits.foldl (fun n d => n * base + d) 0

/-- All characters as digits of the base; there must be one. -/
def digits? (base : Nat) (cs : List Char) : Option (List Nat) :=
  if cs.isEmpty then none else cs.mapM (digit? base)

/-- Removes underscores that stand between two characters satisfying `isDigit`; any other
underscore spoils the numeral. -/
def dropUnderscoresFrom? (isDigit : Char → Bool) (afterDigit : Bool) : List Char → Option (List Char)
  | [] => some []
  | c :: rest =>
      if c = '_' then
        if afterDigit && rest.head?.any isDigit then dropUnderscoresFrom? isDigit false rest else none
      else (dropUnderscoresFrom? isDigit (isDigit c) rest).map (c :: ·)

def dropUnderscores? (isDigit : Char → Bool) (cs : List Char) : Option (List Char) :=
  dropUnderscoresFrom? isDigit false cs

/-- Splits a sign off; true for minus. -/
def splitSign : List Char → Bool × List Char
  | '-' :: rest => (true, rest)
  | '+' :: rest => (false, rest)
  | cs => (false, cs)

/-- A decimal integer with optional sign, underscores and surrounding blanks. -/
def int? (cs : List Char) : Option Int := do
  let (negative, body) := splitSign (Text.trimWhile Text.isNumeralBlank cs)
  let body ← dropUnderscores? (fun c => (digit? 10 c).isSome) body
  let digits ← digits? 10 body
  if maxDecimalDigits < digits.length then none
  else
    let n : Int := ofDigits 10 digits
    some (if negative then -n else n)

/-- Digits of every script as ASCII digits; other characters outside ASCII stay as they are. -/
def asciiDigit (c : Char) : Char :=
  match Text.digitValue? c with
  | some d => Char.ofNat (0x30 + d)
  | none => c

/-- `digits · 10^exponent` as the nearest double. Far outside the range of doubles no power is
computed. -/
def nearest (digits : Nat) (exponent : Int) : Float :=
  let size := (Decimal.width digits : Int) + exponent
  if digits = 0 then 0.0
  else if 400 < size then 1.0 / 0.0
  else if size < -400 then 0.0
  else Float.ofScientific digits (decide (exponent < 0)) exponent.natAbs

/-- Value of an exponent part: nothing, or the mark, an optional sign and digits. -/
def exponent? : List Char → Option Int
  | [] => some 0
  | mark :: rest =>
      if mark = 'e' ∨ mark = 'E' then
        let (negative, body) := splitSign rest
        (digits? 10 body).map fun digits =>
          let n : Int := ofDigits 10 digits
          if negative then -n else n
      else none

/-- A number without sign: digits with an optional point, then an optional exponent. -/
def magnitude? (cs : List Char) : Option Float := do
  let whole := cs.takeWhile Char.isDigit
  let afterWhole := cs.dropWhile Char.isDigit
  let (places, rest) :=
    match afterWhole with
    | '.' :: more => (more.takeWhile Char.isDigit, more.dropWhile Char.isDigit)
    | _ => ([], afterWhole)
  let digits ← digits? 10 (whole ++ places)
  let exponent ← exponent? rest
  some (nearest (ofDigits 10 digits) (exponent - places.length))

/-- A double in ASCII without blanks and underscores; infinite and undefined ones are spelled in
letters of either case. -/
def plainFloat? (cs : List Char) : Option Float := do
  let (negative, body) := splitSign cs
  let word := String.ofList (body.map Char.toLower)
  let x ←
    if word = "inf" ∨ word = "infinity" then some (1.0 / 0.0)
    else if word = "nan" then some (0.0 / 0.0)
    else if body.all (·.toNat < 0x80) then magnitude? body
    else none
  some (if negative then -x else x)

/-- A double with digits of any script, single underscores between digits, and blanks around it. -/
def float? (cs : List Char) : Option Float :=
  (dropUnderscores? Char.isDigit ((Text.trimWhile Text.isNumeralBlank cs).map asciiDigit)).bind
    plainFloat?

end Numeral

end PhpAudit
