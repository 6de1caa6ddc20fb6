import PhpAudit.Selection.Pattern.Fault

/-!
The tokens of a pattern, and reading them one by one. A token is a character, alone or behind a
backslash. A backslash that ends the pattern is noticed as soon as the token before it is read.
-/

namespace PhpAudit

inductive PatternToken where
  | plain (c : Char)
  | escaped (c : Char)
  | dangling
  deriving DecidableEq, Repr

namespace PatternToken

def ofChars : List Char → List PatternToken
  | [] => []
  | '\\' :: c :: rest => .escaped c :: ofChars rest
  | c :: rest => (if c = '\\' then .dangling else .plain c) :: ofChars rest

def chars : PatternToken → List Char
  | .plain c => [c]
  | .escaped c => ['\\', c]
  | .dangling => ['\\']

def width (t : PatternToken) : Nat := t.chars.length

def spelling (t : PatternToken) : String := String.ofList t.chars

/-- The character of a token without a backslash. -/
def plain? : PatternToken → Option Char
  | .plain c => some c
  | _ => none

end PatternToken

/-- What is left to read, and the position of its first character. -/
structure PatternCursor where
  rest : List PatternToken
  position : Nat
  deriving DecidableEq, Repr

namespace PatternCursor

/-- Refuses a lone backslash. -/
def guarded (c : PatternCursor) : Except PatternError PatternCursor :=
  match c.rest with
  | [.dangling] => .error ⟨.danglingEscape, some c.position⟩
  | _ => .ok c

def start (source : List Char) : Except PatternError PatternCursor :=
  guarded ⟨PatternToken.ofChars source, 0⟩

def next? (c : PatternCursor) : Option PatternToken := c.rest.head?

/-- The next character, if no backslash stands before it. -/
def char? (c : PatternCursor) : Option Char := c.next?.bind PatternToken.plain?

/-- Moves on by one token. -/
def skip (c : PatternCursor) : Except PatternError PatternCursor :=
  match c.rest with
  | [] => .ok c
  | t :: rest => guarded ⟨rest, c.position + t.width⟩

/-- Moves on if the next character is the given one. -/
def accept (wanted : Char) (c : PatternCursor) : Except PatternError (Bool × PatternCursor) :=
  if c.char? = some wanted then (fun c => (true, c)) <$> c.skip else .ok (false, c)

/-- The characters of a class at the front, at most a number of them. -/
def takeWhile (isMember : Char → Bool) : Nat → PatternCursor →
    Except PatternError (List Char × PatternCursor)
  | 0, c => .ok ([], c)
  | n + 1, c =>
      match c.char? with
      | none => .ok ([], c)
      | some x =>
          if isMember x then do
            let (others, c) ← takeWhile isMember n (← c.skip)
            return (x :: others, c)
          else .ok ([], c)

/-- All characters of a class at the front. -/
def takeAll (isMember : Char → Bool) (c : PatternCursor) :
    Except PatternError (List Char × PatternCursor) :=
  c.takeWhile isMember c.rest.length

/-- Reads up to a terminator, for at most `fuel` tokens. -/
def nameFrom (terminator : Char) (what : String) (read : List Char) : Nat → PatternCursor →
    Except PatternError (List Char × PatternCursor)
  | 0, c => .error ⟨.missingName what, some c.position⟩
  | fuel + 1, c =>
      match c.next? with
      | none =>
          if read.isEmpty then .error ⟨.missingName what, some c.position⟩
          else .error ⟨.unterminatedName terminator, some (c.position - read.length)⟩
      | some t => do
          let after ← c.skip
          if t = .plain terminator then
            if read.isEmpty then throw ⟨.missingName what, some (after.position - 1)⟩
            return (read, after)
          nameFrom terminator what (read ++ t.chars) fuel after

/-- A name up to its terminator, which is read too. -/
def name (terminator : Char) (what : String) (c : PatternCursor) :
    Except PatternError (List Char × PatternCursor) :=
  nameFrom terminator what [] (c.rest.length + 1) c

/-- Moves behind the first plain `stop`, or to the end; tells which. -/
def skipPast (stop : Char) : Nat → PatternCursor → Except PatternError (Bool × PatternCursor)
  | 0, c => .ok (false, c)
  | fuel + 1, c =>
      match c.next? with
      | none => .ok (false, c)
      | some t => do
          let after ← c.skip
          if t = .plain stop then return (true, after) else skipPast stop fuel after

end PatternCursor

end PhpAudit
