/-!
UTF-8 with replacement. The decoder is total on every byte list: an invalid sequence becomes one
U+FFFD for each of its maximal subparts, and the byte that rules a sequence out is read again as
the start of the next character. A newline byte therefore always ends whatever stands before it.
-/

namespace PhpAudit

/-- Source text as it is stored. -/
abbrev Bytes := List UInt8

namespace Utf8

def replacement : Char := Char.ofNat 0xFFFD

/-- What the decoder owes: nothing, or `more` further tail bytes of which the next lies between
`low` and `high`, on top of the bits read so far. -/
inductive State where
  | ready
  | owing (more : Nat) (low high : UInt8) (bits : Nat)
  deriving DecidableEq, Repr

/-- Reads `b` as the first byte of a character. -/
def start (b : UInt8) : List Char × State :=
  if b < 0x80 then ([Char.ofNat b.toNat], .ready)
  else if b < 0xC2 then ([replacement], .ready)
  else if b < 0xE0 then ([], .owing 1 0x80 0xBF (b.toNat - 0xC0))
  else if b = 0xE0 then ([], .owing 2 0xA0 0xBF 0)
  else if b = 0xED then ([], .owing 2 0x80 0x9F 0xD)
  else if b < 0xF0 then ([], .owing 2 0x80 0xBF (b.toNat - 0xE0))
  else if b = 0xF0 then ([], .owing 3 0x90 0xBF 0)
  else if b < 0xF4 then ([], .owing 3 0x80 0xBF (b.toNat - 0xF0))
  else if b = 0xF4 then ([], .owing 3 0x80 0x8F 4)
  else ([replacement], .ready)

/-- One byte: the characters it settles and what is owed afterwards. -/
def step : State → UInt8 → List Char × State
  | .ready, b => start b
  | .owing more low high bits, b =>
      if low ≤ b ∧ b ≤ high then
        let bits := bits * 64 + (b.toNat - 0x80)
        if more ≤ 1 then ([Char.ofNat bits], .ready)
        else ([], .owing (more - 1) 0x80 0xBF bits)
      else
        let next := start b
        (replacement :: next.1, next.2)

/-- A sequence cut short by the end of the text is one replacement character. -/
def finish : State → List Char
  | .ready => []
  | .owing .. => [replacement]

def decodeFrom : State → Bytes → List Char
  | state, [] => finish state
  | state, b :: rest => (step state b).1 ++ decodeFrom (step state b).2 rest

def decodeChars (bytes : Bytes) : List Char := decodeFrom .ready bytes

def decode (bytes : Bytes) : String := String.ofList (decodeChars bytes)

def encode (text : String) : Bytes := text.toUTF8.toList

/-- The text whose encoding is exactly `bytes`, if they are well formed. -/
def decode? (bytes : Bytes) : Option String :=
  let text := decode bytes
  if encode text = bytes then some text else none

end Utf8

end PhpAudit
