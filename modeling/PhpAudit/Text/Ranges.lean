/-!
Character classes given as ascending lists of code point ranges, both ends included.
-/

namespace PhpAudit

structure CodeRange where
  first : Nat
  last : Nat

namespace CodeRange

def covers (range : CodeRange) (code : Nat) : Bool :=
  decide (range.first ≤ code) && decide (code ≤ range.last)

def anyCovers (ranges : List CodeRange) (c : Char) : Bool :=
  ranges.any (·.covers c.toNat)

end CodeRange

end PhpAudit
