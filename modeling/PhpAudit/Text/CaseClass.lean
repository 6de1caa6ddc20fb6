import PhpAudit.Text.Case

/-!
Letters that differ only in case. Two characters are variants of one letter if their lower cases
are equal, or are small letters that share a capital, such as the two small sigmas.
-/

namespace PhpAudit

namespace Text

/-- Lower case as a single code point. -/
def lowerCode (code : Nat) : Nat :=
  if code = 0x130 then 0x69 else (lowerRuns.findSome? (·.mapped? code)).getD code

/-- Upper case, where it is a single code point. -/
def upperCode (code : Nat) : Nat := (upperRuns.findSome? (·.mapped? code)).getD code

/-- Small letters that share a capital. -/
def sharedCapitals : List (List Nat) :=
  [[0x69, 0x131], [0x73, 0x17F], [0xB5, 0x3BC], [0x345, 0x3B9, 0x1FBE], [0x390, 0x1FD3],
    [0x3B0, 0x1FE3], [0x3B2, 0x3D0], [0x3B5, 0x3F5], [0x3B8, 0x3D1], [0x3BA, 0x3F0],
    [0x3C0, 0x3D6], [0x3C1, 0x3F1], [0x3C2, 0x3C3], [0x3C6, 0x3D5], [0x432, 0x1C80],
    [0x434, 0x1C81], [0x43E, 0x1C82], [0x441, 0x1C83], [0x442, 0x1C84, 0x1C85], [0x44A, 0x1C86],
    [0x463, 0x1C87], [0x1C88, 0xA64B], [0x1E61, 0x1E9B], [0xFB05, 0xFB06]]

/-- The small letters that share a capital with the given one, itself among them. -/
def smallVariants (code : Nat) : List Nat := (sharedCapitals.find? (·.contains code)).getD [code]

/-- The code point that a run takes to the given one. -/
def CaseRun.source? (run : CaseRun) (code : Nat) : Option Nat :=
  let source := ((code : Int) - run.shift).toNat
  if run.mapped? source = some code then some source else none

/-- Every code point whose lower case is the given one, apart from itself. -/
def capitals (code : Nat) : List Nat :=
  lowerRuns.filterMap (·.source? code) ++ (if code = 0x69 then [0x130] else [])

/-- All variants of the letter that a code point stands for. -/
def caseVariants (code : Nat) : List Nat :=
  (smallVariants (lowerCode code)).flatMap fun small => small :: capitals small

end Text

end PhpAudit
