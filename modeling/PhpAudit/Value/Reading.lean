import PhpAudit.Failure
import PhpAudit.Number.Numeral
import PhpAudit.Text.Blank
import PhpAudit.Text.Case

/-!
Reading values as integers, doubles, sequences, mappings and severities.
-/

namespace PhpAudit

namespace Value

/-- Byte strings are read as numerals character by character. -/
def numeralChars (b : Bytes) : List Char := b.map fun x => Char.ofNat x.toNat

/-- The integer a value stands for: doubles lose their fraction, texts are read as numerals. -/
def toInt? : Value → Option Int
  | .bool b => some (if b then 1 else 0)
  | .int n => some n
  | .float x => (Binary.ofFloat x).truncate?
  | .text s => Numeral.int? s.toList
  | .bytes b => if b.all (· < 0x80) then Numeral.int? (numeralChars b) else none
  | _ => none

/-- The double a value stands for; integers beyond the range of doubles have none. -/
def toFloat? : Value → Option Float
  | .bool b => some (if b then 1.0 else 0.0)
  | .int n => Binary.ofInt? n
  | .float x => some x
  | .text s => Numeral.float? s.toList
  | .bytes b => if b.all (· < 0x80) then Numeral.float? (numeralChars b) else none
  | _ => none

/-- Elements in order: characters of a text, numbers of a byte string, keys of a mapping. -/
def elements? : Value → Option (List Value)
  | .text s => some (s.toList.map fun c => .text (String.singleton c))
  | .bytes b => some (b.map fun x => .int x.toNat)
  | .list items => some items
  | .tuple items => some items
  | .map entries => some (entries.map fun e => .text e.1)
  | _ => none

def elements (v : Value) : Except Failure (List Value) :=
  match v.elements? with
  | some items => .ok items
  | none => .error (Failure.notIterable v)

/-- The value itself, if it can be a key. -/
def key (v : Value) : Except Failure Value :=
  match v.unkeyable? with
  | some bad => .error (.unkeyable bad)
  | none => .ok v

/-- Reads one pair of a mapping given as a sequence of pairs. -/
def pair (index : Nat) (v : Value) : Except Failure (String × Value) :=
  match v.elements? with
  | none => .error (.wrongType ("cannot convert dictionary update sequence element #" ++
      toString index ++ " to a sequence"))
  | some [key, value] =>
      match key.unkeyable? with
      | some bad => .error (.unkeyable bad)
      | none => .ok (key.display, value)
  | some items => .error (.wrongValue ("dictionary update sequence element #" ++ toString index ++
      " has length " ++ toString items.length ++ "; 2 is required"))

def pairsFrom (index : Nat) (acc : Mapping String Value) : List Value →
    Except Failure (Mapping String Value)
  | [] => .ok acc
  | v :: rest =>
      match pair index v with
      | .error f => .error f
      | .ok (key, value) => pairsFrom (index + 1) (Mapping.put acc key value) rest

/-- A mapping as it is, anything else as a sequence of pairs of which later ones win. -/
def entries (v : Value) : Except Failure (Mapping String Value) :=
  match v with
  | .map entries => .ok entries
  | v => match v.elements with
      | .error f => .error f
      | .ok items => pairsFrom 0 [] items

/-- A severity, or its name in any case with blanks around it. -/
def toSeverity : Value → Except Failure Severity
  | .severity s => .ok s
  | v => do
      let name := Text.lower (Text.trim (← v.written))
      match Severity.ofName? name with
      | some s => return s
      | none => throw (.wrongValue (Text.quoted name ++ " is not a valid Severity"))

/-- Whether a value names a standard category; a value that cannot be a key is refused. -/
def namesCategory (v : Value) : Except Failure Bool :=
  match v.unkeyable? with
  | some bad => .error (.unkeyable bad)
  | none => .ok <| match v with
      | .text s => (Category.ofName? s).isSome
      | _ => false

/-- A number with six significant digits; other values have no such form. -/
def generalText : Value → Except Failure String
  | .float x => .ok (Number.generalText x)
  | .text _ | .severity _ | .category _ =>
      .error (.wrongValue "Unknown format code 'g' for object of type 'str'")
  | v => match v.num? with
      | some (.int n) => match Binary.ofInt? n with
          | some x => .ok (Number.generalText x)
          | none => .error (.plain "OverflowError" "int too large to convert to float")
      | _ => .error (.wrongType
          ("unsupported format string passed to " ++ v.kindName ++ ".__format__"))

end Value

end PhpAudit
