import PhpAudit.Value.Reading

/-!
Timing samples per rule and phase, in the order they were taken.
-/

namespace PhpAudit

/-- What is timed. -/
inductive Phase where
  | parse
  | check
  | total
  deriving DecidableEq, Repr

def Phase.name : Phase → String
  | .parse => "parse_time"
  | .check => "check_time"
  | .total => "total_time"

abbrev Timings := Mapping String (Mapping String (List Float))

namespace Timings

def add (t : Timings) (rule phase : String) (seconds : Float) : Timings :=
  Mapping.adjust t rule [] fun phases => Mapping.adjust phases phase [] (· ++ [seconds])

def record (t : Timings) (rule : String) (phase : Phase) (seconds : Float) : Timings :=
  add t rule phase.name seconds

/-- Records whatever was measured; what is no number counts as zero seconds. -/
def recordValue (t : Timings) (rule phase seconds : Value) : Timings :=
  add t rule.display phase.display (seconds.toFloat?.getD 0.0)

def samples (t : Timings) (rule phase : String) : List Float :=
  (Mapping.get? ((Mapping.get? t rule).getD []) phase).getD []

/-- Sum of the samples from the first on; no samples sum to the integer zero. -/
def sum (samples : List Float) : Value :=
  match samples with
  | [] => .int 0
  | _ => .float (samples.foldl (· + ·) 0.0)

end Timings

end PhpAudit
