import PhpAudit.Text.Blank
import PhpAudit.Text.CaseClass
import PhpAudit.Text.Word

/-!
Regular expressions: tests on single characters, conditions on places between characters, and the
patterns that are made of them.
-/

namespace PhpAudit

/-- How characters are classified and compared. -/
structure CharRules where
  ignoreCase : Bool := false
  /-- Only ASCII has letters, digits, blanks and case. -/
  asciiOnly : Bool := false
  deriving DecidableEq, Repr

namespace CharRules

/-- The letter in the other case, for an ASCII letter. -/
def asciiVariants (code : Nat) : List Nat :=
  let c := Char.ofNat code
  if code < 0x80 ∧ c.isAlpha then [c.toLower.toNat, c.toUpper.toNat] else [code]

/-- The code points that count as the given one. -/
def variants (rules : CharRules) (code : Nat) : List Nat :=
  if !rules.ignoreCase then [code]
  else if rules.asciiOnly then asciiVariants code
  else Text.caseVariants code

def lower (rules : CharRules) (code : Nat) : Nat :=
  if !rules.ignoreCase then code
  else if rules.asciiOnly then if code < 0x80 then (Char.ofNat code).toLower.toNat else code
  else Text.lowerCode code

end CharRules

/-- Kinds of characters with an escape of their own. -/
inductive CharKind where
  | digit
  | blank
  | word
  deriving DecidableEq, Repr

def CharKind.covers (rules : CharRules) (kind : CharKind) (c : Char) : Bool :=
  (!rules.asciiOnly || c.toNat < 0x80) &&
    match kind with
    | .digit => (Text.digitValue? c).isSome
    | .blank => Text.isBlank c && !(rules.asciiOnly && 0x1C ≤ c.toNat && c.toNat ≤ 0x1F)
    | .word => Text.isWordChar c

/-- A member of a character set. -/
inductive SetItem where
  | single (code : Nat)
  | range (first last : Nat)
  /-- Characters of a kind, or all others. -/
  | kind (k : CharKind) (negated : Bool)
  deriving DecidableEq, Repr

/-- Whether a member of a set covers a character. Beyond the basic plane a single letter covers its
variants only if it is a small one, and a range has case even if only ASCII has. -/
def SetItem.covers (rules : CharRules) (c : Char) : SetItem → Bool
  | .single code =>
      if 0xFFFF < code then rules.lower c.toNat == code else (rules.variants c.toNat).contains code
  | .range first last =>
      let covered (code : Nat) : Bool := first ≤ code && code ≤ last
      (rules.variants c.toNat).any covered ||
        (rules.ignoreCase && 0xFFFF < last && covered (Text.upperCode (rules.lower c.toNat)))
  | .kind k negated => k.covers rules c != negated

/-- A test on one character. -/
inductive CharTest where
  /-- Anything, newlines included or not. -/
  | any (newlines : Bool)
  | literal (code : Nat) (negated : Bool)
  | set (items : List SetItem) (negated : Bool)
  deriving DecidableEq, Repr

def CharTest.accepts (rules : CharRules) (c : Char) : CharTest → Bool
  | .any newlines => newlines || c != '\n'
  | .literal code negated => (rules.variants c.toNat).contains code != negated
  | .set items negated => items.any (·.covers rules c) != negated

/-- A condition on a place between characters. -/
inductive Anchor where
  | textStart
  | lineStart
  | textEnd
  /-- The end, or before a newline that ends the text. -/
  | lastLineEnd
  | lineEnd
  | wordBoundary (negated asciiOnly : Bool)
  deriving DecidableEq, Repr

namespace Anchor

/-- The character before a place. -/
def before? (text : Array Char) : Nat → Option Char
  | 0 => none
  | place + 1 => text[place]?

/-- Whether the condition holds at a place. An empty text has no word boundaries, and no places that
are none. -/
def holds (text : Array Char) (place : Nat) : Anchor → Bool
  | .textStart => place == 0
  | .lineStart => place == 0 || before? text place == some '\n'
  | .textEnd => place == text.size
  | .lastLineEnd =>
      place == text.size || (place + 1 == text.size && text[place]? == some '\n')
  | .lineEnd => place == text.size || text[place]? == some '\n'
  | .wordBoundary negated asciiOnly =>
      let inWord (c : Option Char) : Bool := c.any (CharKind.word.covers { asciiOnly := asciiOnly })
      !text.isEmpty && (inWord (before? text place) != inWord text[place]?) != negated

end Anchor

/-- How a repetition goes on: as often as possible, as rarely as possible, or as often as possible
without giving anything back. -/
inductive RepeatMode where
  | greedy
  | lazy
  | possessive
  deriving DecidableEq, Repr

inductive Pattern where
  | empty
  | one (rules : CharRules) (t : CharTest)
  | anchor (a : Anchor)
  | group (p : Pattern)
  /-- A group that remembers the text it matched. -/
  | capture (number : Nat) (p : Pattern)
  /-- The text that a group matched, once more. -/
  | again (number : Nat) (rules : CharRules)
  /-- The first pattern if a group has matched, else the second. -/
  | choice (number : Nat) (p q : Pattern)
  | ahead (negated : Bool) (p : Pattern)
  /-- A pattern that ends here; it has to have one width. -/
  | behind (negated : Bool) (least most : Nat) (p : Pattern)
  /-- A pattern of which only the first match counts. -/
  | atomic (p : Pattern)
  | seq (p q : Pattern)
  | alt (p q : Pattern)
  | repeated (p : Pattern) (least : Nat) (most : Option Nat) (mode : RepeatMode)
  deriving DecidableEq, Repr

end PhpAudit
