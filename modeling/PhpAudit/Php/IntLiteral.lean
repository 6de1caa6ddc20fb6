import PhpAudit.Number.Numeral
import PhpAudit.Text.Blank
import PhpAudit.Text.Case

/-!
Values of PHP integer literals: hexadecimal, binary and octal by their marks, octal also by a
leading zero, decimal otherwise. Underscores are ignored.
-/

namespace PhpAudit

namespace IntLiteral

/-- The literal as it is read: trimmed, without underscores, in lower case. -/
def canonical (cs : List Char) : List Char :=
  Text.lowerChars ((Text.trimChars cs).filter (· != '_'))

/-- A number of one base, with blanks after it allowed. -/
def inBase? (base : Nat) (cs : List Char) : Option Int :=
  (Numeral.digits? base (Text.dropEndWhile Text.isNumeralBlank cs)).map
    fun digits => (Numeral.ofDigits base digits : Int)

def ofCanonical? (cs : List Char) : Option Int :=
  match cs with
  | '0' :: 'x' :: digits => inBase? 16 digits
  | '0' :: 'b' :: digits => inBase? 2 digits
  | '0' :: 'o' :: digits => inBase? 8 digits
  | '0' :: c :: more => inBase? 8 ('0' :: c :: more)
  | _ => Numeral.int? cs

def value? (text : String) : Option Int := ofCanonical? (canonical text.toList)

end IntLiteral

end PhpAudit
