import PhpAudit.Mapping
import PhpAudit.Selection.Pattern

/-!
Where patterns match. A pattern is tabulated over a text: for every place, the places where a match
from there can end, most preferred first. Patterns that refer back to the text of a group have no
such table; for them a match is followed together with the texts its groups have matched.
-/

namespace PhpAudit

/-- For every place of a text the places where a match from there can end, without repetitions. -/
abbrev Ends := Array (List Nat)

namespace Ends

def row (ends : Ends) (place : Nat) : List Nat := ends[place]?.getD []

/-- The rows for the places of a text of `size` characters. -/
def tabulate (size : Nat) (f : Nat → List Nat) : Ends := (Array.range (size + 1)).map f

/-- The places without repetitions; `seen` has a bit for each place that came before. -/
def distinct (seen : Nat) : List Nat → List Nat
  | [] => []
  | place :: rest =>
      if seen.testBit place then distinct seen rest
      else place :: distinct (seen ||| 1 <<< place) rest

/-- Matches that end where they start. -/
def here (size : Nat) : Ends := tabulate size fun place => [place]

/-- One match after another. -/
def andThen (size : Nat) (first second : Ends) : Ends :=
  tabulate size fun place => distinct 0 ((first.row place).flatMap second.row)

def orElse (size : Nat) (first second : Ends) : Ends :=
  tabulate size fun place => distinct 0 (first.row place ++ second.row place)

/-- A number of matches in a row. -/
def times (size : Nat) (body : Ends) : Nat → Ends
  | 0 => here size
  | n + 1 => andThen size (times size body n) body

/-- Another round from a place, or none; a round that does not move on is the last. -/
def goOn (mode : RepeatMode) (place : Nat) (next : Nat → List Nat) (round : List Nat) : List Nat :=
  let further := round.flatMap fun stop => if stop = place then [place] else next stop
  distinct 0 <| match mode with
    | .lazy => place :: further
    | _ => further ++ [place]

/-- At most a number of rounds. -/
def atMost (size : Nat) (mode : RepeatMode) (body : Ends) : Nat → Ends
  | 0 => here size
  | n + 1 =>
      let fewer := atMost size mode body n
      tabulate size fun place => goOn mode place fewer.row (body.row place)

/-- Any number of rounds, from the last place to the first, since rounds move forward. -/
def closure (size : Nat) (mode : RepeatMode) (body : Ends) : Ends :=
  let later := (List.range (size + 1)).foldl
    (fun (later : Ends) (k : Nat) =>
      let place := size - k
      later.push (goOn mode place (fun stop => later.row (size - stop)) (body.row place))) #[]
  later.reverse

/-- Where rounds lead of which each takes its most preferred match: first those required, then
those allowed. -/
def possess (body : Ends) : Nat → Nat → Nat → Option Nat
  | required + 1, allowed, place =>
      match (body.row place).head? with
      | some stop => possess body required allowed stop
      | none => none
  | 0, allowed + 1, place =>
      match (body.row place).head? with
      | some stop => if stop = place then some place else possess body 0 allowed stop
      | none => some place
  | 0, 0, place => some place

/-- Repetitions. More rounds than the text has characters bring nothing new. -/
def repeated (size : Nat) (body : Ends) (least : Nat) (most : Option Nat) (mode : RepeatMode) :
    Ends :=
  let required := min least (size + 1)
  let allowed := match most with
    | some n => min (n - least) (size + 1)
    | none => size + 1
  match mode with
  | .possessive => tabulate size fun place => (possess body required allowed place).toList
  | mode =>
      andThen size (times size body required)
        (if size < allowed then closure size mode body else atMost size mode body allowed)

end Ends

namespace Pattern

/-- Whether the pattern refers to the text of a group. -/
def refersBack : Pattern → Bool
  | .empty | .one .. | .anchor _ => false
  | .again .. | .choice .. => true
  | .group p | .capture _ p | .ahead _ p | .behind _ _ _ p | .atomic p => p.refersBack
  | .seq p q | .alt p q => p.refersBack || q.refersBack
  | .repeated p _ _ _ => p.refersBack

/-- The table of a pattern that does not refer back. -/
def ends (text : Array Char) : Pattern → Ends
  | .empty => Ends.here text.size
  | .one rules t =>
      Ends.tabulate text.size fun place =>
        match text[place]? with
        | some c => if t.accepts rules c then [place + 1] else []
        | none => []
  | .anchor a => Ends.tabulate text.size fun place => if a.holds text place then [place] else []
  | .group p => ends text p
  | .capture _ p => ends text p
  | .again _ _ => #[]
  | .choice _ _ _ => #[]
  | .ahead negated p =>
      let body := ends text p
      Ends.tabulate text.size fun place =>
        if (body.row place).isEmpty == negated then [place] else []
  | .behind negated width _ p =>
      let body := ends text p
      Ends.tabulate text.size fun place =>
        if (place < width || (body.row (place - width)).isEmpty) == negated then [place] else []
  | .atomic p =>
      let body := ends text p
      Ends.tabulate text.size fun place => (body.row place).take 1
  | .seq p q => Ends.andThen text.size (ends text p) (ends text q)
  | .alt p q => Ends.orElse text.size (ends text p) (ends text q)
  | .repeated p least most mode => Ends.repeated text.size (ends text p) least most mode

end Pattern

/-- A place reached by a match, with the spans its groups have matched. -/
structure Spot where
  place : Nat
  spans : Mapping Nat (Nat × Nat) := []
  deriving DecidableEq, Repr

namespace Spot

/-- Where the rest of a pattern leads from a spot, if it matches there. -/
abbrev Rest := Spot → Option Spot

/-- Rounds of a repetition, first those required, then those allowed, and then the rest of the
pattern. A round that does not move on is the last. -/
def rounds (mode : RepeatMode) (round : Spot → Rest → Option Spot) (rest : Rest) :
    Nat → Nat → Spot → Option Spot
  | required + 1, allowed, s => round s (rounds mode round rest required allowed)
  | 0, allowed + 1, s =>
      let further (_ : Unit) : Option Spot :=
        round s fun t => if t.place = s.place then rest t else rounds mode round rest 0 allowed t
      match mode with
      | .lazy => (rest s).orElse further
      | _ => (further ()).orElse fun _ => rest s
  | 0, 0, s => rest s

/-- Rounds of which each takes its most preferred match. -/
def possess (round : Rest) : Nat → Nat → Spot → Option Spot
  | required + 1, allowed, s => (round s).bind (possess round required allowed)
  | 0, allowed + 1, s =>
      match round s with
      | some t => if t.place = s.place then some t else possess round 0 allowed t
      | none => some s
  | 0, 0, s => some s

/-- The end of the text of a span, if it stands at a place once more. -/
def again? (text : Array Char) (rules : CharRules) (place : Nat) (span : Nat × Nat) : Option Nat :=
  let width := span.2 - span.1
  let same := (List.range width).all fun k =>
    match text[span.1 + k]?, text[place + k]? with
    | some a, some b => rules.lower a.toNat == rules.lower b.toNat
    | _, _ => false
  if same then some (place + width) else none

end Spot

namespace Pattern

/-- The most preferred match from a spot after which the rest of the pattern matches too. -/
def follow (text : Array Char) : Pattern → Spot → Spot.Rest → Option Spot
  | .empty, s, rest => rest s
  | .one rules t, s, rest =>
      match text[s.place]? with
      | some c => if t.accepts rules c then rest { s with place := s.place + 1 } else none
      | none => none
  | .anchor a, s, rest => if a.holds text s.place then rest s else none
  | .group p, s, rest => follow text p s rest
  | .capture n p, s, rest =>
      follow text p s fun t => rest { t with spans := Mapping.put t.spans n (s.place, t.place) }
  | .again n rules, s, rest =>
      ((Mapping.get? s.spans n).bind (Spot.again? text rules s.place)).bind fun stop =>
        rest { s with place := stop }
  | .choice n p q, s, rest =>
      if Mapping.has s.spans n then follow text p s rest else follow text q s rest
  | .ahead negated p, s, rest =>
      match follow text p s some with
      | none => if negated then rest s else none
      | some t => if negated then none else rest { t with place := s.place }
  | .behind negated width _ p, s, rest =>
      let found :=
        if s.place < width then none else follow text p { s with place := s.place - width } some
      match found with
      | none => if negated then rest s else none
      | some t => if negated then none else rest { t with place := s.place }
  | .atomic p, s, rest => (follow text p s some).bind rest
  | .seq p q, s, rest => follow text p s fun t => follow text q t rest
  | .alt p q, s, rest => (follow text p s rest).orElse fun _ => follow text q s rest
  | .repeated p least most mode, s, rest =>
      let required := min least (text.size + 1)
      let allowed := match most with
        | some n => min (n - least) (text.size + 1)
        | none => text.size + 1
      match mode with
      | .possessive =>
          (Spot.possess (fun t => follow text p t some) required allowed s).bind rest
      | mode => Spot.rounds mode (follow text p) rest required allowed s

/-- Whether the pattern occurs somewhere in the text. -/
def occurs (p : Pattern) (text : List Char) : Bool :=
  let chars := text.toArray
  let places := List.range (chars.size + 1)
  if p.refersBack then places.any fun place => (follow chars p { place := place } some).isSome
  else
    let table := ends chars p
    places.any fun place => !(table.row place).isEmpty

end Pattern

end PhpAudit
