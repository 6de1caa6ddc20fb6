import PhpAudit.Text.CaseTable

/-!
Lower and upper case of texts. Characters map one by one, but for the capital sigma, whose lower
case depends on its place in the word, and for those whose mapping has several characters.
-/

namespace PhpAudit

namespace Text

def CaseRun.mapped? (run : CaseRun) (code : Nat) : Option Nat :=
  if run.first ≤ code ∧ code ≤ run.last ∧ (code - run.first) % run.step = 0 then
    some ((code : Int) + run.shift).toNat
  else none

def shiftCase (runs : List CaseRun) (c : Char) : Char :=
  match runs.findSome? (·.mapped? c.toNat) with
  | some code => Char.ofNat code
  | none => c

def isCased (c : Char) : Bool := CodeRange.anyCovers casedRanges c

def isSkipped (c : Char) : Bool := CodeRange.anyCovers skippedRanges c

/-- Lower case of a character on its own; the capital I with dot keeps its dot. -/
def lowerChar (c : Char) : List Char :=
  if c.toNat < 0x80 then [c.toLower]
  else if c.toNat = 0x130 then ['i', Char.ofNat 0x307]
  else [shiftCase lowerRuns c]

/-- A sigma ends a word when a cased character comes before it and none after it, skipping what is
ignored on both sides. `before` lists the earlier characters from the nearest on. -/
def sigmaIsFinal (before after : List Char) : Bool :=
  match before.dropWhile isSkipped with
  | [] => false
  | c :: _ =>
      isCased c && match after.dropWhile isSkipped with
        | [] => true
        | d :: _ => !isCased d

def lowerFrom (before : List Char) : List Char → List Char
  | [] => []
  | c :: rest =>
      if c.toNat = 0x3A3 then
        Char.ofNat (if sigmaIsFinal before rest then 0x3C2 else 0x3C3) :: lowerFrom (c :: before) rest
      else lowerChar c ++ lowerFrom (c :: before) rest

def lowerChars (cs : List Char) : List Char := lowerFrom [] cs

def lower (text : String) : String := String.ofList (lowerChars text.toList)

def upperChar (c : Char) : List Char :=
  if c.toNat < 0x80 then [c.toUpper]
  else match upperSequences.lookup c.toNat with
    | some codes => codes.map Char.ofNat
    | none => [shiftCase upperRuns c]

def upperChars (cs : List Char) : List Char := cs.flatMap upperChar

end Text

end PhpAudit
