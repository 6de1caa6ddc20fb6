import PhpAudit.Settings.Fault
import PhpAudit.Value.Reading

/-!
Lenient reading of single settings. Each kind of setting accepts its own values and those that
clearly stand for one: whole doubles and numerals for integers, numerals for numbers, the usual
words for truth values, encoded text and named constants for text, tuples for lists.
-/

namespace PhpAudit

namespace Coercion

/-- The text of a text or of a well-formed byte string. -/
def textOf? : Value → Option String
  | .text s => some s
  | .bytes b => Utf8.decode? b
  | _ => none

def isText : Value → Bool
  | .text _ | .bytes _ => true
  | _ => false

/-- The word that a severity or a category stands for. -/
def constantName? : Value → Option String
  | .severity s => some s.name
  | .category c => some c.name
  | _ => none

/-- The characters without underscores, unless one stands at an end or next to another. -/
def withoutUnderscores? (cs : List Char) : Option (List Char) :=
  if cs.head? = some '_' ∨ cs.getLast? = some '_' ∨ Text.occursIn ['_', '_'] cs then none
  else some (cs.filter (· != '_'))

/-- What is left of a numeral behind a leading zero, once further zeros and underscores are gone. A
zero before the point stays, and so does the last character if there is nothing else. A minus
behind zeros counts. -/
def afterZeros? (last : Char) : List Char → Option (List Char)
  | [] => some [last]
  | c :: rest =>
      if c = '0' ∨ c = '_' then afterZeros? c rest
      else if c = '.' then some (last :: c :: rest)
      else if c = '-' ∨ ('1' ≤ c ∧ c ≤ '9') then some (c :: rest)
      else none

def significant? : List Char → Option (List Char)
  | [] => none
  | c :: rest =>
      if c = '0' then afterZeros? c rest
      else if '1' ≤ c ∧ c ≤ '9' then some (c :: rest)
      else none

/-- Drops a fraction that consists of zeros. -/
def dropZeroFraction (cs : List Char) : List Char :=
  match Text.cutAt '.' cs with
  | (whole, some zeros) => if !zeros.isEmpty && zeros.all (· == '0') then whole else cs
  | (_, none) => cs

/-- A numeral with sign but without leading zeros, a fraction of zeros and underscores. -/
def cleanInteger? (cs : List Char) : Option (List Char) :=
  let unsigned (cs : List Char) : Option (List Char) := (significant? cs).map dropZeroFraction
  let cleaned :=
    match cs with
    | '+' :: rest => if rest.head? = some '-' then none else unsigned rest
    | '-' :: rest => (unsigned rest).map ('-' :: ·)
    | cs => unsigned cs
  cleaned.map fun cs => (withoutUnderscores? cs).getD cs

/-- A clean numeral of at most 4300 characters. Digits beyond that count before anything else that
is wrong. -/
def plainInteger (cs : List Char) : Except FaultKind Int :=
  let negative := cs.head? = some '-'
  let body := if negative then cs.tail else cs
  let digits := body.takeWhile Char.isDigit
  if digits.isEmpty || (digits.head? = some '0' && digits.length != 1) then .error .integerUnreadable
  else if Numeral.maxDecimalDigits < digits.length + (if negative then 1 else 0) then
    .error .integerTooLarge
  else if digits.length < body.length then .error .integerUnreadable
  else
    let n : Int := Numeral.ofDigits 10 (digits.map fun c => c.toNat - 0x30)
    .ok (if negative then -n else n)

/-- A sign, digits with underscores among them, and possibly a fraction of zeros. -/
def integerText (s : String) : Except FaultKind Int :=
  match cleanInteger? (Text.trimWhile Text.isNumeralBlank s.toList) with
  | some cs => plainInteger cs
  | none => .error .integerUnreadable

/-- The integers of a machine word lie between this bound and its negative. -/
def wordBound : Int := Int.ofNat (Nat.pow 2 63)

/-- Doubles must be finite, whole and strictly between the word bounds. -/
def integerFloat (x : Float) : Except FaultKind Int :=
  let b := Binary.ofFloat x
  match b.truncate? with
  | none => .error .numberInfinite
  | some n =>
      if !b.isWhole then .error .integerFractional
      else if -wordBound < n ∧ n < wordBound then .ok n
      else .error .integerTooLarge

def integer : Value → Except FaultKind Int
  | .bool b => .ok (if b then 1 else 0)
  | .int n => .ok n
  | .float x => integerFloat x
  | v =>
      if isText v then
        match textOf? v with
        | some s => integerText s
        | none => .error .integerUnreadable
      else .error .notInteger

/-- Blanks may stand around a number, or underscores inside it, but not both. -/
def numberText (s : String) : Except FaultKind Float :=
  match Numeral.plainFloat? (Text.trimWhile Text.isNumeralBlank s.toList) with
  | some x => .ok x
  | none =>
      match (withoutUnderscores? s.toList).bind Numeral.plainFloat? with
      | some x => .ok x
      | none => .error .numberUnreadable

def number : Value → Except FaultKind Float
  | .bool b => .ok (if b then 1.0 else 0.0)
  | .float x => .ok x
  | .int n => match Binary.ofInt? n with
      | some x => .ok x
      | none => .error .notNumber
  | v =>
      if isText v then
        match textOf? v with
        | some s => numberText s
        | none => .error .numberUnreadable
      else .error .notNumber

def text : Value → Except FaultKind String
  | .text s => .ok s
  | .bytes b => match Utf8.decode? b with
      | some s => .ok s
      | none => .error .textMalformed
  | v => match constantName? v with
      | some name => .ok name
      | none => .error .notText

def trueWords : List String := ["1", "on", "t", "true", "y", "yes"]

def falseWords : List String := ["0", "off", "f", "false", "n", "no"]

/-- The usual words in any case, without blanks around them. -/
def truthText (s : String) : Except FaultKind Bool :=
  let word := String.ofList (s.toList.map Char.toLower)
  if trueWords.contains word then .ok true
  else if falseWords.contains word then .ok false
  else .error .truthUnreadable

/-- Zero and one; other integers of 64 bits are unreadable, and larger ones not even that. -/
def truthInteger (n : Int) : Except FaultKind Bool :=
  if n = 0 then .ok false
  else if n = 1 then .ok true
  else if -wordBound ≤ n ∧ n < wordBound then .error .truthUnreadable
  else .error .notTruth

def truth : Value → Except FaultKind Bool
  | .bool b => .ok b
  | .int n => truthInteger n
  | .float x => match integerFloat x with
      | .ok n => truthInteger n
      | .error _ => .error .notTruth
  | v =>
      if isText v then
        match textOf? v with
        | some s => truthText s
        | none => .error .truthUnreadable
      else .error .notTruth

def list : Value → Except FaultKind (List Value)
  | .list items => .ok items
  | .tuple items => .ok items
  | _ => .error .notList

def mapping : Value → Except FaultKind (Mapping String Value)
  | .map entries => .ok entries
  | _ => .error .notMapping

end Coercion

/-- Declared type of a rule option. -/
inductive OptionType where
  | integer
  | number
  | string
  | boolean
  | array
  | object
  | unrestricted
  deriving DecidableEq, Repr

namespace OptionType

/-- Names other than the six accept every value. -/
def ofName (name : String) : OptionType :=
  if name = "integer" then .integer
  else if name = "number" then .number
  else if name = "string" then .string
  else if name = "boolean" then .boolean
  else if name = "array" then .array
  else if name = "object" then .object
  else .unrestricted

/-- What a fault report calls the type. -/
def title : OptionType → String
  | .integer => "int"
  | .number => "float"
  | .string => "str"
  | .boolean => "bool"
  | .array => "list[any]"
  | .object => "dict[any,any]"
  | .unrestricted => "any"

/-- The value as one of the type; a named constant passes for an integer as its word. -/
def coerce (t : OptionType) (v : Value) : Except FaultKind Value :=
  match t with
  | .integer => match Coercion.constantName? v with
      | some name => .ok (.text name)
      | none => Value.int <$> Coercion.integer v
  | .number => Value.float <$> Coercion.number v
  | .string => Value.text <$> Coercion.text v
  | .boolean => Value.bool <$> Coercion.truth v
  | .array => Value.list <$> Coercion.list v
  | .object => Value.map <$> Coercion.mapping v
  | .unrestricted => .ok v

end OptionType

end PhpAudit
