import PhpAudit.Text.Ranges
import PhpAudit.Text.Utf8

/-!
Blank characters and trimming. Texts are trimmed of every Unicode blank, byte strings of the six
ASCII blanks only, and numerals of the ASCII blanks and of the blanks outside ASCII.
-/

namespace PhpAudit

namespace Text

def blankRanges : List CodeRange :=
  [⟨0x09, 0x0D⟩, ⟨0x1C, 0x20⟩, ⟨0x85, 0x85⟩, ⟨0xA0, 0xA0⟩, ⟨0x1680, 0x1680⟩, ⟨0x2000, 0x200A⟩,
    ⟨0x2028, 0x2029⟩, ⟨0x202F, 0x202F⟩, ⟨0x205F, 0x205F⟩, ⟨0x3000, 0x3000⟩]

def isBlank (c : Char) : Bool := CodeRange.anyCovers blankRanges c

/-- Tab to carriage return, and the space. -/
def isBlankByte (b : UInt8) : Bool := (0x09 ≤ b && b ≤ 0x0D) || b == 0x20

/-- The four information separators are blank in a text and not around a numeral. -/
def isNumeralBlank (c : Char) : Bool := isBlank c && !(0x1C ≤ c.toNat && c.toNat ≤ 0x1F)

def dropEndWhile {α : Type} (p : α → Bool) (xs : List α) : List α :=
  (xs.reverse.dropWhile p).reverse

def trimWhile {α : Type} (p : α → Bool) (xs : List α) : List α :=
  dropEndWhile p (xs.dropWhile p)

def trimChars (cs : List Char) : List Char := trimWhile isBlank cs

def trim (text : String) : String := String.ofList (trimChars text.toList)

/-- The bytes up to and including the last that is not blank. -/
def trimEndBytes (bytes : Bytes) : Bytes := dropEndWhile isBlankByte bytes

end Text

end PhpAudit
