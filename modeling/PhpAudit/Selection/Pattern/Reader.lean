import PhpAudit.Mapping
import PhpAudit.Selection.Pattern.Escape
import PhpAudit.Selection.Pattern.Width

/-!
Reading regular expressions. A pattern that cannot be read is refused with its first fault in
reading order and the position of the fault. Faults of the pattern as a whole come last.
-/

namespace PhpAudit

/-- Marks that change the meaning of a pattern or of a group. -/
inductive PatternFlag where
  | ignoreCase
  | locale
  | multiline
  | dotAll
  | verbose
  | asciiOnly
  | template
  | unicode
  deriving DecidableEq, Repr

namespace PatternFlag

def ofChar? : Char → Option PatternFlag
  | 'i' => some .ignoreCase
  | 'L' => some .locale
  | 'm' => some .multiline
  | 's' => some .dotAll
  | 'x' => some .verbose
  | 'a' => some .asciiOnly
  | 't' => some .template
  | 'u' => some .unicode
  | _ => none

/-- Flags that choose an alphabet; at most one of them holds at a time. -/
def choosesAlphabet : PatternFlag → Bool
  | .asciiOnly | .locale | .unicode => true
  | _ => false

/-- The flags inside a group that adds some and removes others. -/
def combine (flags added removed : List PatternFlag) : List PatternFlag :=
  let kept := if added.any choosesAlphabet then flags.filter (!·.choosesAlphabet) else flags
  (kept ++ added).filter fun f => !removed.contains f

def rules (flags : List PatternFlag) : CharRules where
  ignoreCase := flags.contains .ignoreCase
  asciiOnly := flags.contains .asciiOnly

end PatternFlag

namespace Pattern

inductive GroupKind where
  | plain
  | capture (number : Nat)
  | atomic
  | ahead (negated : Bool)
  | behind (negated : Bool)
  | choice (number : Nat)
  deriving DecidableEq, Repr

/-- A group that is being read: where it opened, its finished alternatives and the items of the
unfinished one, both from the last to the first. -/
structure OpenGroup where
  kind : GroupKind := .plain
  opened : Nat := 0
  flags : List PatternFlag := []
  alternatives : List Pattern := []
  items : List Pattern := []
  /-- The number of groups before the look-behind around this group, if there is one. -/
  behindFrom : Option Nat := none

namespace OpenGroup

def sequence (items : List Pattern) : Pattern := items.foldl (fun acc p => .seq p acc) .empty

/-- The pattern inside a group that ends here. -/
def pattern (g : OpenGroup) : Pattern :=
  g.alternatives.foldl (fun acc p => .alt p acc) (sequence g.items)

/-- The pattern that a group as a whole amounts to. -/
def close (groups : Nat → Width) (g : OpenGroup) : Pattern :=
  match g.kind with
  | .plain => .group g.pattern
  | .capture n => .capture n g.pattern
  | .atomic => .atomic g.pattern
  | .ahead negated => .ahead negated g.pattern
  | .behind negated =>
      let w := g.pattern.width groups
      .behind negated w.least w.most g.pattern
  | .choice n =>
      match g.alternatives with
      | [] => .choice n (sequence g.items) .empty
      | yes :: _ => .choice n yes (sequence g.items)

def add (g : OpenGroup) (p : Pattern) : OpenGroup := { g with items := p :: g.items }

def literal (g : OpenGroup) (code : Nat) : OpenGroup :=
  g.add (.one (PatternFlag.rules g.flags) (.literal code false))

/-- Repeats the last item. Anchors cannot be repeated, nor can repetitions. -/
def repeatLast (g : OpenGroup) (position least : Nat) (most : Option Nat) (mode : RepeatMode) :
    Except PatternError OpenGroup :=
  match g.items with
  | [] => .error ⟨.nothingToRepeat, some position⟩
  | .anchor _ :: _ => .error ⟨.nothingToRepeat, some position⟩
  | .repeated .. :: _ => .error ⟨.multipleRepeat, some position⟩
  | p :: rest => .ok { g with items := .repeated p least most mode :: rest }

end OpenGroup

/-- The state of reading. -/
structure ReaderState where
  /-- Whether the pattern is for texts, not for byte strings. -/
  unicode : Bool
  current : OpenGroup := {}
  outer : List OpenGroup := []
  /-- Widths of the groups by number, from the first on; an open group has none yet. -/
  groups : List (Option Width) := []
  names : Mapping String Nat := []
  /-- Groups that conditions ask about, with the positions where they do. -/
  awaited : List (Nat × Nat) := []

namespace ReaderState

def add (s : ReaderState) (p : Pattern) : ReaderState := { s with current := s.current.add p }

def rules (s : ReaderState) : CharRules := PatternFlag.rules s.current.flags

def isClosed (s : ReaderState) (group : Nat) : Bool :=
  group ≠ 0 && ((s.groups[group - 1]?).bind id).isSome

def widthOf (s : ReaderState) (group : Nat) : Width :=
  ((s.groups[group - 1]?).bind id).getD .zero

/-- Looking behind, only groups that were closed before can be referred to. -/
def checkBehind (s : ReaderState) (group position : Nat) : Except PatternError Unit :=
  match s.current.behindFrom with
  | none => .ok ()
  | some before =>
      if !s.isClosed group then .error ⟨.openGroup, some position⟩
      else if before < group then .error ⟨.groupInLookBehind, some position⟩
      else .ok ()

/-- Opens a group inside the current one. -/
def openGroup (s : ReaderState) (kind : GroupKind) (position : Nat) (flags : List PatternFlag) :
    ReaderState :=
  let behindFrom := match kind with
    | .behind _ => s.current.behindFrom.or (some s.groups.length)
    | _ => s.current.behindFrom
  { s with
    current := { kind := kind, opened := position, flags := flags, behindFrom := behindFrom }
    outer := s.current :: s.outer }

/-- Opens the next numbered group, under a name or without one. -/
def openCapture (s : ReaderState) (name : Option (String × Nat)) (position : Nat) :
    Except PatternError ReaderState := do
  let number := s.groups.length + 1
  let names ← match name with
    | none => pure s.names
    | some (name, start) =>
        match Mapping.get? s.names name with
        | some earlier => throw ⟨.nameTaken name number earlier, some start⟩
        | none => pure (Mapping.put s.names name number)
  let s := { s with groups := s.groups ++ [none], names := names }
  return s.openGroup (.capture number) position s.current.flags

/-- Closes the current group. -/
def closeGroup (s : ReaderState) (parent : OpenGroup) (outer : List OpenGroup) : ReaderState :=
  let p := s.current.close s.widthOf
  let groups := match s.current.kind with
    | .capture n => s.groups.set (n - 1) (some (s.current.pattern.width s.widthOf))
    | _ => s.groups
  { s with current := parent.add p, outer := outer, groups := groups }

/-- Flags that do not go together. -/
def checkFlags (s : ReaderState) (flags : List PatternFlag) : Except PatternError Unit :=
  if s.unicode && flags.contains .asciiOnly && flags.contains .unicode then
    .error ⟨.clashingFlags "ASCII" "UNICODE", none⟩
  else if flags.contains .asciiOnly && flags.contains .locale then
    .error ⟨.clashingFlags "ASCII" "LOCALE", none⟩
  else .ok ()

end ReaderState

/-- Names are made of letters, underscores and digits, of which no digit comes first. -/
def isName : List Char → Bool
  | [] => false
  | c :: rest =>
      let starts (c : Char) : Bool := Text.isLetter c || c == '_'
      starts c && rest.all fun c => starts c || (Text.digitValue? c).isSome

/-- Reads a flag, or one of the characters that can stand behind flags. -/
def flagOrStop (stops : List Char) (expected : String) (c : PatternCursor) :
    Except PatternError ((Char ⊕ PatternFlag) × PatternCursor) := do
  let some t := c.next? | throw ⟨.missingAfterFlags expected, some c.position⟩
  let after ← c.skip
  let some x := t.plain? | throw ⟨.notFlag false expected, some c.position⟩
  if stops.contains x then return (.inl x, after)
  match PatternFlag.ofChar? x with
  | some flag => return (.inr flag, after)
  | none => throw ⟨.notFlag (Text.isLetter x) expected, some c.position⟩

/-- Flags to be added, and the character behind them. -/
def addedFlags (unicode : Bool) (flags : List PatternFlag) : Nat → PatternCursor →
    Except PatternError (List PatternFlag × Char × PatternCursor)
  | 0, c => .error ⟨.missingAfterFlags "-, : or )", some c.position⟩
  | fuel + 1, c => do
      match ← flagOrStop [')', '-', ':'] "-, : or )" c with
      | (.inl stop, c) => return (flags, stop, c)
      | (.inr flag, c) =>
          if unicode && flag == .locale then
            throw ⟨.badFlags "cannot use 'L' flag with a str pattern", some c.position⟩
          if !unicode && flag == .unicode then
            throw ⟨.badFlags "cannot use 'u' flag with a bytes pattern", some c.position⟩
          if flag.choosesAlphabet && flags.any (fun f => f.choosesAlphabet && f != flag) then
            throw ⟨.badFlags "flags 'a', 'u' and 'L' are incompatible", some c.position⟩
          addedFlags unicode (flags ++ [flag]) fuel c

/-- Flags to be removed, at least one, up to a colon. -/
def removedFlags (flags : List PatternFlag) : Nat → PatternCursor →
    Except PatternError (List PatternFlag × PatternCursor)
  | 0, c => .error ⟨.missingAfterFlags ":", some c.position⟩
  | fuel + 1, c => do
      match ← if flags.isEmpty then flagOrStop [] "flag" c else flagOrStop [':'] ":" c with
      | (.inl _, c) => return (flags, c)
      | (.inr flag, c) =>
          if flag.choosesAlphabet then
            throw ⟨.badFlags "cannot turn off flags 'a', 'u' and 'L'", some c.position⟩
          removedFlags (flags ++ [flag]) fuel c

namespace ReaderState

/-- Flags in the opening of a group. Without a colon they are for the whole pattern, which then must
not have begun. -/
def readFlags (s : ReaderState) (opened : Nat) (c : PatternCursor) :
    Except PatternError (ReaderState × PatternCursor) := do
  let fuel := c.rest.length + 1
  let (added, stop, c) ← addedFlags s.unicode [] fuel c
  if stop = ')' then
    if !(s.outer.isEmpty && s.current.alternatives.isEmpty && s.current.items.isEmpty) then
      throw ⟨.misplacedFlags, some opened⟩
    return ({ s with current := { s.current with flags := s.current.flags ++ added } }, c)
  if added.contains .template then
    throw ⟨.badFlags "cannot turn on global flag", some (c.position - 1)⟩
  let (removed, c) ← if stop = '-' then removedFlags [] fuel c else pure ([], c)
  if removed.contains .template then
    throw ⟨.badFlags "cannot turn off global flag", some (c.position - 1)⟩
  if added.any removed.contains then
    throw ⟨.badFlags "flag turned on and off", some (c.position - 1)⟩
  return (s.openGroup .plain opened (PatternFlag.combine s.current.flags added removed), c)

/-- A group by name, which has to be closed. -/
def namedGroup (s : ReaderState) (name : List Char) (position : Nat) : Except PatternError Nat := do
  if !isName name then throw ⟨.badName (String.ofList name), some position⟩
  match Mapping.get? s.names (String.ofList name) with
  | some number => return number
  | none => throw ⟨.unknownName (String.ofList name), some position⟩

/-- What follows `(?P`: a named group, or the text of one. -/
def readNamed (s : ReaderState) (opened : Nat) (c : PatternCursor) :
    Except PatternError (ReaderState × PatternCursor) := do
  match c.next? with
  | none => throw ⟨.unexpectedEnd, some c.position⟩
  | some (.plain '<') =>
      let start ← c.skip
      let (name, c) ← start.name '>' "group name"
      if !isName name then throw ⟨.badName (String.ofList name), some start.position⟩
      return (← s.openCapture (some (String.ofList name, start.position)) opened, c)
  | some (.plain '=') =>
      let start ← c.skip
      let (name, c) ← start.name ')' "group name"
      let group ← s.namedGroup name start.position
      if !s.isClosed group then throw ⟨.openGroup, some start.position⟩
      s.checkBehind group c.position
      return (s.add (.again group s.rules), c)
  | some t =>
      let _ ← c.skip
      throw ⟨.unknownExtension ("P" ++ t.spelling), some (c.position - 2)⟩

/-- Numbers of groups stay below this one. -/
def groupLimit : Nat := 1073741823

/-- The group that a condition asks about. -/
def conditionGroup (s : ReaderState) (name : List Char) (position : Nat) :
    Except PatternError (Nat × ReaderState) := do
  if isName name then return (← s.namedGroup name position, s)
  match Numeral.int? name with
  | some (.ofNat n) =>
      if n = 0 then throw ⟨.groupZero, some position⟩
      if groupLimit ≤ n then throw ⟨.unknownGroup n, some position⟩
      return (n, { s with awaited := s.awaited ++ [(n, position)] })
  | _ => throw ⟨.badName (String.ofList name), some position⟩

/-- What follows `(?`. -/
def readExtension (s : ReaderState) (opened : Nat) (c : PatternCursor) :
    Except PatternError (ReaderState × PatternCursor) := do
  let some t := c.next? | throw ⟨.unexpectedEnd, some c.position⟩
  let after ← c.skip
  let flags := s.current.flags
  match t.plain? with
  | some 'P' => s.readNamed opened after
  | some ':' => return (s.openGroup .plain opened flags, after)
  | some '#' =>
      let (closed, after) ← after.skipPast ')' (after.rest.length + 1)
      if !closed then throw ⟨.unterminatedComment, some opened⟩
      return (s, after)
  | some '=' => return (s.openGroup (.ahead false) opened flags, after)
  | some '!' => return (s.openGroup (.ahead true) opened flags, after)
  | some '<' =>
      let some kind := after.next? | throw ⟨.unexpectedEnd, some after.position⟩
      let inside ← after.skip
      match kind.plain? with
      | some '=' => return (s.openGroup (.behind false) opened flags, inside)
      | some '!' => return (s.openGroup (.behind true) opened flags, inside)
      | _ => throw ⟨.unknownExtension ("<" ++ kind.spelling), some (opened + 1)⟩
  | some '(' =>
      let (name, inside) ← after.name ')' "group name"
      let (number, s) ← s.conditionGroup name after.position
      s.checkBehind number inside.position
      return (s.openGroup (.choice number) opened flags, inside)
  | some '>' => return (s.openGroup .atomic opened flags, after)
  | some letter =>
      if letter = '-' ∨ (PatternFlag.ofChar? letter).isSome then s.readFlags opened c
      else throw ⟨.unknownExtension t.spelling, some (opened + 1)⟩
  | none => throw ⟨.unknownExtension t.spelling, some (opened + 1)⟩

/-- A digit behind a backslash: three octal digits, or the number of a group. -/
def readDigit (s : ReaderState) (position : Nat) (digit : Char) (c : PatternCursor) :
    Except PatternError (ReaderState × PatternCursor) := do
  if digit = '0' then
    let (digits, c) ← c.takeWhile isOctalDigit 2
    return ({ s with current := s.current.literal (codeOf 8 (digit :: digits)) }, c)
  let (second, c) ← c.takeWhile Char.isDigit 1
  let octal := isOctalDigit digit && second.any isOctalDigit
  let (third, c) ← if octal then c.takeWhile isOctalDigit 1 else pure ([], c)
  let digits := digit :: second ++ third
  if !third.isEmpty then
    let code := codeOf 8 digits
    if lastOctal < code then
      throw ⟨.octalTooLarge (String.ofList ('\\' :: digits)), some position⟩
    return ({ s with current := s.current.literal code }, c)
  let group := codeOf 10 digits
  if group ≤ s.groups.length then
    if !s.isClosed group then throw ⟨.openGroup, some position⟩
    s.checkBehind group c.position
    return (s.add (.again group s.rules), c)
  throw ⟨.unknownGroup group, some (position + 1)⟩

/-- What follows a backslash outside sets. -/
def readEscape (s : ReaderState) (position : Nat) (letter : Char) (c : PatternCursor) :
    Except PatternError (ReaderState × PatternCursor) := do
  let ascii := s.rules.asciiOnly || !s.unicode
  let anchor? : Option Anchor := match letter with
    | 'A' => some .textStart
    | 'Z' => some .textEnd
    | 'b' => some (.wordBoundary false ascii)
    | 'B' => some (.wordBoundary true ascii)
    | _ => none
  if let some a := anchor? then return (s.add (.anchor a), c)
  if let some item := kindEscape? letter then return (s.add (.one s.rules (.set [item] false)), c)
  let literal (code : Nat) : ReaderState := { s with current := s.current.literal code }
  if let some code := controlEscape? letter then return (literal code, c)
  if let some reading := commonEscape? s.unicode letter position c then
    let (code, c) ← reading
    return (literal code, c)
  if letter.isDigit then s.readDigit position letter c
  else return (literal (← literalEscape letter position), c)

/-- Numbers of rounds stay below this one. -/
def roundLimit : Nat := 4294967295

/-- A bound of a repetition from its digits. -/
def bound (digits : List Char) : Except PatternError Nat :=
  if Numeral.maxDecimalDigits < digits.length then .error ⟨.boundTooLong digits.length, none⟩
  else
    let n := codeOf 10 digits
    if roundLimit ≤ n then .error ⟨.tooManyRounds, none⟩ else .ok n

/-- Bounds behind an opening brace; none if the brace stands for itself. -/
def readBounds? (c : PatternCursor) :
    Except PatternError (Option (Nat × Option Nat × PatternCursor)) := do
  if c.char? = some '\x7d' then return none
  let (low, after) ← c.takeAll Char.isDigit
  let (comma, after) ← after.accept ','
  let (high, after) ← if comma then after.takeAll Char.isDigit else pure (low, after)
  let (closed, after) ← after.accept '\x7d'
  if !closed then return none
  let least ← if low.isEmpty then pure 0 else bound low
  if high.isEmpty then return some (least, none, after)
  let most ← bound high
  if most < least then throw ⟨.repeatBounds, some c.position⟩
  return some (least, some most, after)

/-- Repeats the last item; a mark behind the repetition tells how. -/
def readMode (s : ReaderState) (position least : Nat) (most : Option Nat) (c : PatternCursor) :
    Except PatternError (ReaderState × PatternCursor) := do
  let _ ← s.current.repeatLast position least most .greedy
  let (lazy, c) ← c.accept '?'
  let (possessive, c) ← if lazy then pure (false, c) else c.accept '+'
  let mode : RepeatMode := if lazy then .lazy else if possessive then .possessive else .greedy
  return ({ s with current := ← s.current.repeatLast position least most mode }, c)

/-- Reads what a character at a position stands for, and as much behind it as belongs to it. -/
def readChar (s : ReaderState) (position : Nat) (x : Char) (c : PatternCursor) :
    Except PatternError (ReaderState × PatternCursor) := do
  let multiline := s.current.flags.contains .multiline
  match x with
  | '[' =>
      let (test, c) ← readSet s.unicode position c
      return (s.add (.one s.rules test), c)
  | '(' =>
      let (extended, c) ← c.accept '?'
      if extended then s.readExtension position c else return (← s.openCapture none position, c)
  | '*' => s.readMode position 0 none c
  | '+' => s.readMode position 1 none c
  | '?' => s.readMode position 0 (some 1) c
  | '\x7b' =>
      match ← readBounds? c with
      | none => return ({ s with current := s.current.literal x.toNat }, c)
      | some (least, most, c) => s.readMode position least most c
  | '.' => return (s.add (.one s.rules (.any (s.current.flags.contains .dotAll))), c)
  | '^' => return (s.add (.anchor (if multiline then .lineStart else .textStart)), c)
  | '$' => return (s.add (.anchor (if multiline then .lineEnd else .lastLineEnd)), c)
  | x => return ({ s with current := s.current.literal x.toNat }, c)

/-- Whether a token is skipped where patterns are written with room. -/
def isRoom : PatternToken → Bool
  | .plain x => x == ' ' || ('\t' ≤ x && x ≤ '\r')
  | _ => false

/-- Reads one token, and as many of those behind it as belong to it. -/
def step (s : ReaderState) (t : PatternToken) (c : PatternCursor) :
    Except PatternError (ReaderState × PatternCursor) := do
  let isChoice := match s.current.kind with
    | .choice _ => true
    | _ => false
  if t = .plain '|' then
    if isChoice && !s.current.alternatives.isEmpty then throw ⟨.thirdBranch, some c.position⟩
    let alternative := OpenGroup.sequence s.current.items
    return ({ s with current := { s.current with
      alternatives := alternative :: s.current.alternatives, items := [] } }, ← c.skip)
  if t = .plain ')' then
    match s.outer with
    | [] =>
        s.checkFlags s.current.flags
        throw ⟨.unbalancedParenthesis, some c.position⟩
    | parent :: outer => return (s.closeGroup parent outer, ← c.skip)
  let after ← c.skip
  let verbose := s.current.flags.contains .verbose
  if verbose && isRoom t then return (s, after)
  if verbose && t == .plain '#' then
    let (_, after) ← after.skipPast '\n' (after.rest.length + 1)
    return (s, after)
  match t with
  | .plain x => s.readChar c.position x after
  | .escaped letter => s.readEscape c.position letter after
  | .dangling => throw ⟨.danglingEscape, some c.position⟩

/-- The pattern that has been read, once all groups are closed. -/
def finish (s : ReaderState) : Except PatternError Pattern := do
  match s.outer with
  | _ :: _ => throw ⟨.unterminatedGroup, some s.current.opened⟩
  | [] =>
      s.checkFlags s.current.flags
      if let some (number, position) := s.awaited.find? fun e => s.groups.length < e.1 then
        throw ⟨.unknownGroup number, some position⟩
      let p := s.current.pattern
      match p.unusable? (s.current.flags.contains .template) with
      | some fault => throw ⟨fault, none⟩
      | none => return p

/-- Reads to the end; every token takes at most one unit of fuel. -/
def read : Nat → ReaderState → PatternCursor → Except PatternError Pattern
  | 0, s, _ => s.finish
  | fuel + 1, s, c =>
      match c.next? with
      | none => s.finish
      | some t => do
          let (s, c) ← s.step t c
          read fuel s c

end ReaderState

/-- Reads a pattern for texts or, without `unicode`, for byte strings. -/
def parse (unicode : Bool) (source : List Char) : Except PatternError Pattern := do
  let c ← PatternCursor.start source
  ReaderState.read (c.rest.length + 1) { unicode := unicode } c

end Pattern

end PhpAudit
