import PhpAudit.Text.PrintableTable
import PhpAudit.Text.Utf8

/-!
Quoted texts and byte strings, as messages show them. Single quotes are preferred; double quotes
are used when the content has a single quote and no double one. Unprintable characters are written
by code.
-/

namespace PhpAudit

namespace Text

def isPrintable (c : Char) : Bool :=
  if c.toNat < 0x7F then decide (0x20 ≤ c.toNat) else CodeRange.anyCovers printableRanges c

/-- Lower-case hexadecimal digits, padded with zeros to `width`. -/
def hexCode (width code : Nat) : List Char :=
  let digits := Nat.toDigits 16 code
  List.replicate (width - digits.length) '0' ++ digits

def quoteFor (hasSingle hasDouble : Bool) : Char := if hasSingle && !hasDouble then '"' else '\''

/-- A character by its code. -/
def charCode (c : Char) : List Char :=
  if c.toNat ≤ 0xFF then '\\' :: 'x' :: hexCode 2 c.toNat
  else if c.toNat ≤ 0xFFFF then '\\' :: 'u' :: hexCode 4 c.toNat
  else '\\' :: 'U' :: hexCode 8 c.toNat

def escapeChar (quote c : Char) : List Char :=
  if c = quote ∨ c = '\\' then ['\\', c]
  else if c = '\t' then ['\\', 't']
  else if c = '\n' then ['\\', 'n']
  else if c = '\r' then ['\\', 'r']
  else if isPrintable c then [c]
  else charCode c

def quoted (text : String) : String :=
  let cs := text.toList
  let quote := quoteFor (cs.contains '\'') (cs.contains '"')
  String.ofList (quote :: cs.flatMap (escapeChar quote) ++ [quote])

/-- A text in which characters outside ASCII are written by code. -/
def inAscii (text : String) : String :=
  String.ofList (text.toList.flatMap fun c => if c.toNat < 0x80 then [c] else charCode c)

def escapeByte (quote : Char) (b : UInt8) : List Char :=
  if b < 0x7F then escapeChar quote (Char.ofNat b.toNat) else '\\' :: 'x' :: hexCode 2 b.toNat

def quotedBytes (bytes : Bytes) : String :=
  let quote := quoteFor (bytes.contains 0x27) (bytes.contains 0x22)
  String.ofList ('b' :: quote :: bytes.flatMap (escapeByte quote) ++ [quote])

end Text

end PhpAudit
