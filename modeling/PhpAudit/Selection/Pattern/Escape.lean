import PhpAudit.Number.Numeral
import PhpAudit.Selection.Pattern
import PhpAudit.Selection.Pattern.Token
import PhpAudit.Text.CharacterName

/-!
Escapes and character sets of a regular expression.
-/

namespace PhpAudit

namespace Pattern

/-- Control characters with an escape of their own. -/
def controlEscape? : Char → Option Nat
  | 'a' => some 7
  | 'f' => some 12
  | 'n' => some 10
  | 'r' => some 13
  | 't' => some 9
  | 'v' => some 11
  | '\\' => some 0x5C
  | _ => none

/-- Escapes for kinds of characters; capitals negate. -/
def kindEscape? : Char → Option SetItem
  | 'd' => some (.kind .digit false)
  | 'D' => some (.kind .digit true)
  | 's' => some (.kind .blank false)
  | 'S' => some (.kind .blank true)
  | 'w' => some (.kind .word false)
  | 'W' => some (.kind .word true)
  | _ => none

def isOctalDigit (c : Char) : Bool := '0' ≤ c && c ≤ '7'

def isHexDigit (c : Char) : Bool := c.isDigit || ('a' ≤ c && c ≤ 'f') || ('A' ≤ c && c ≤ 'F')

def codeOf (base : Nat) (cs : List Char) : Nat :=
  Numeral.ofDigits base (cs.filterMap (Numeral.digit? base))

/-- The greatest code point that an octal escape can name. -/
def lastOctal : Nat := 0o377

/-- A code point in exactly `count` hexadecimal digits behind the letter of an escape. -/
def hexEscape (letter : Char) (count position : Nat) (c : PatternCursor) :
    Except PatternError (Nat × PatternCursor) := do
  let (digits, c) ← c.takeWhile isHexDigit count
  let spelling := String.ofList ('\\' :: letter :: digits)
  if digits.length ≠ count then throw ⟨.incompleteEscape spelling, some position⟩
  let code := codeOf 16 digits
  if 0x10FFFF < code then throw ⟨.badEscape spelling, some position⟩
  return (code, c)

/-- A character by its name, in braces. -/
def namedEscape (position : Nat) (c : PatternCursor) : Except PatternError (Nat × PatternCursor) := do
  let (opened, c) ← c.accept '\x7b'
  if !opened then throw ⟨.missingBrace, some c.position⟩
  let (name, c) ← c.name '\x7d' "character name"
  match Text.charNamed? name with
  | some code => return (code, c)
  | none => throw ⟨.unknownCharacter (String.ofList name), some position⟩

/-- Escapes that have the same meaning everywhere; byte patterns have only the short ones. -/
def commonEscape? (unicode : Bool) (letter : Char) (position : Nat) (c : PatternCursor) :
    Option (Except PatternError (Nat × PatternCursor)) :=
  match letter with
  | 'x' => some (hexEscape letter 2 position c)
  | 'u' => if unicode then some (hexEscape letter 4 position c) else none
  | 'U' => if unicode then some (hexEscape letter 8 position c) else none
  | 'N' => if unicode then some (namedEscape position c) else none
  | _ => none

/-- The character that any other escape stands for; letters have no such meaning. -/
def literalEscape (letter : Char) (position : Nat) : Except PatternError Nat :=
  if letter.isAlpha then .error ⟨.badEscape (String.ofList ['\\', letter]), some position⟩
  else .ok letter.toNat

/-- What an escape stands for inside a set. -/
def setEscape (unicode : Bool) (letter : Char) (position : Nat) (c : PatternCursor) :
    Except PatternError (SetItem × PatternCursor) := do
  if letter = 'b' then return (.single 8, c)
  if let some code := controlEscape? letter then return (.single code, c)
  if let some item := kindEscape? letter then return (item, c)
  if let some reading := commonEscape? unicode letter position c then
    let (code, c) ← reading
    return (.single code, c)
  if isOctalDigit letter then
    let (digits, c) ← c.takeWhile isOctalDigit 2
    let code := codeOf 8 (letter :: digits)
    if lastOctal < code then
      throw ⟨.octalTooLarge (String.ofList ('\\' :: letter :: digits)), some position⟩
    return (.single code, c)
  if letter.isDigit then throw ⟨.badEscape (String.ofList ['\\', letter]), some position⟩
  return (.single (← literalEscape letter position), c)

/-- What a token stands for inside a set; the cursor is behind the token. -/
def setItem (unicode : Bool) (t : PatternToken) (position : Nat) (c : PatternCursor) :
    Except PatternError (SetItem × PatternCursor) :=
  match t with
  | .plain x => .ok (.single x.toNat, c)
  | .escaped letter => setEscape unicode letter position c
  | .dangling => .error ⟨.danglingEscape, some position⟩

/-- The range between two members, which have to be characters in order. -/
def rangeItem (first last : PatternToken) (a b : SetItem) (stop : Nat) :
    Except PatternError SetItem :=
  let bad : PatternError :=
    ⟨.badRange first.spelling last.spelling, some (stop - (first.width + 1 + last.width))⟩
  match a, b with
  | .single x, .single y => if x ≤ y then .ok (.range x y) else .error bad
  | _, _ => .error bad

/-- Reads the members of a set up to its closing bracket, which counts as a member in the first
place; a hyphen in the last place does too. -/
def setItems (unicode : Bool) (opened : Nat) (items : List SetItem) : Nat → PatternCursor →
    Except PatternError (List SetItem × PatternCursor)
  | 0, _ => .error ⟨.unterminatedSet, some opened⟩
  | fuel + 1, c => do
      let some first := c.next? | throw ⟨.unterminatedSet, some opened⟩
      let after ← c.skip
      if first = .plain ']' ∧ items ≠ [] then return (items, after)
      let (a, after) ← setItem unicode first c.position after
      let (hyphen, after) ← after.accept '-'
      if !hyphen then setItems unicode opened (items ++ [a]) fuel after
      else
        let some last := after.next? | throw ⟨.unterminatedSet, some opened⟩
        let behind ← after.skip
        if last = .plain ']' then return (items ++ [a, .single '-'.toNat], behind)
        let (b, behind) ← setItem unicode last after.position behind
        let range ← rangeItem first last a b behind.position
        setItems unicode opened (items ++ [range]) fuel behind

/-- Reads a set behind its opening bracket. A single character is no set of its own. -/
def readSet (unicode : Bool) (opened : Nat) (c : PatternCursor) :
    Except PatternError (CharTest × PatternCursor) := do
  let (negated, c) ← c.accept '^'
  let (items, c) ← setItems unicode opened [] (c.rest.length + 1) c
  match items.eraseDups with
  | [.single code] => return (.literal code negated, c)
  | items => return (.set items negated, c)

end Pattern

end PhpAudit
