/-!
Mappings that remember insertion order: lists of pairs in which a key keeps the place where it was
first put.
-/

namespace PhpAudit

abbrev Mapping (κ ν : Type) := List (κ × ν)

namespace Mapping

variable {κ ν : Type} [DecidableEq κ]

def get? (m : Mapping κ ν) (key : κ) : Option ν :=
  match m with
  | [] => none
  | (k, v) :: rest => if k = key then some v else get? rest key

def has (m : Mapping κ ν) (key : κ) : Bool := (get? m key).isSome

def keys (m : Mapping κ ν) : List κ := m.map (·.1)

/-- Replaces the value of a key in place, or adds the pair at the end. -/
def put (m : Mapping κ ν) (key : κ) (value : ν) : Mapping κ ν :=
  match m with
  | [] => [(key, value)]
  | (k, v) :: rest => if k = key then (k, value) :: rest else (k, v) :: put rest key value

/-- Puts the pairs of `other` one after another. -/
def overlay (m other : Mapping κ ν) : Mapping κ ν := other.foldl (fun acc e => put acc e.1 e.2) m

/-- Changes the value of a key, starting from `start` where it has none. -/
def adjust (m : Mapping κ ν) (key : κ) (start : ν) (f : ν → ν) : Mapping κ ν :=
  put m key (f ((get? m key).getD start))

end Mapping

/-- The elements without repetition, each at its first place. -/
def firstOccurrences {α : Type} [BEq α] : List α → List α
  | [] => []
  | x :: xs => x :: (firstOccurrences xs).filter (!· == x)

end PhpAudit
