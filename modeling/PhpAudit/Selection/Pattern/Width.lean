import PhpAudit.Selection.Pattern
import PhpAudit.Selection.Pattern.Fault

/-!
How many characters a pattern can match, and the faults that show once a pattern has been read.
-/

namespace PhpAudit

/-- The least and the greatest number of characters. -/
structure Width where
  least : Nat
  most : Nat
  deriving DecidableEq, Repr

namespace Width

/-- Stands for every greater width too. -/
def limit : Nat := Nat.pow 2 64

def capped (w : Width) : Width := ⟨min w.least limit, min w.most limit⟩

def zero : Width := ⟨0, 0⟩

def plus (a b : Width) : Width := capped ⟨a.least + b.least, a.most + b.most⟩

def either (a b : Width) : Width := ⟨min a.least b.least, max a.most b.most⟩

def rounds (w : Width) (least : Nat) (most : Option Nat) : Width :=
  capped ⟨w.least * least, match most with
    | some n => w.most * n
    | none => if w.most = 0 then 0 else limit⟩

end Width

namespace Pattern

/-- The width of a pattern, given those of the groups it refers to. -/
def width (groups : Nat → Width) : Pattern → Width
  | .empty | .anchor _ | .ahead _ _ | .behind _ _ _ _ => .zero
  | .one _ _ => ⟨1, 1⟩
  | .group p | .capture _ p | .atomic p => p.width groups
  | .again n _ => groups n
  | .choice _ p q => (p.width groups).either (q.width groups)
  | .seq p q => (p.width groups).plus (q.width groups)
  | .alt p q => (p.width groups).either (q.width groups)
  | .repeated p least most _ => (p.width groups).rounds least most

/-- The farthest that a pattern can look behind. -/
def farthestBehind : Nat := Nat.pow 2 32 - 1

def RepeatMode.operator : RepeatMode → String
  | .greedy => "MAX_REPEAT"
  | .lazy => "MIN_REPEAT"
  | .possessive => "POSSESSIVE_REPEAT"

/-- The first part of a pattern, from the left, that cannot be used: looking behind needs one width,
and a template has no repetitions. -/
def unusable? (template : Bool) : Pattern → Option PatternFault
  | .empty | .one _ _ | .anchor _ | .again _ _ => none
  | .group p | .capture _ p | .ahead _ p | .atomic p => p.unusable? template
  | .behind _ least most p =>
      if farthestBehind < least then some .farLookBehind
      else if least ≠ most then some .variableLookBehind
      else p.unusable? template
  | .choice _ p q | .seq p q | .alt p q => (p.unusable? template).or (q.unusable? template)
  | .repeated p _ _ mode =>
      if template then some (.repeatInTemplate (RepeatMode.operator mode)) else p.unusable? template

end Pattern

end PhpAudit
