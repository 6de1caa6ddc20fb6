/-!
Searching, cutting and replacing in texts, on lists of characters.
-/

namespace PhpAudit

namespace Text

/-- Whether `needle` stands somewhere in the list. -/
def occursIn {α : Type} [BEq α] (needle : List α) : List α → Bool
  | [] => needle.isEmpty
  | x :: xs => needle.isPrefixOf (x :: xs) || occursIn needle xs

def contains (text needle : String) : Bool := occursIn needle.toList text.toList

/-- Removes every occurrence of a non-empty `needle`, from the left and without overlap. -/
def removeAll (needle : List Char) : List Char → List Char
  | [] => []
  | c :: cs =>
      if !needle.isEmpty && needle.isPrefixOf (c :: cs) then
        removeAll needle (cs.drop (needle.length - 1))
      else c :: removeAll needle cs
  termination_by cs => cs.length
  decreasing_by
    · simp only [List.length_drop, List.length_cons]; omega
    · exact Nat.lt_succ_self _

/-- Splits at the first `sep`: what precedes it, and what follows it if it occurs. -/
def cutAt (sep : Char) (cs : List Char) : List Char × Option (List Char) :=
  let head := cs.takeWhile (· != sep)
  match cs.dropWhile (· != sep) with
  | [] => (head, none)
  | _ :: rest => (head, some rest)

/-- What follows the last `sep`, or everything. -/
def afterLast (sep : Char) (cs : List Char) : List Char :=
  (cs.reverse.takeWhile (· != sep)).reverse

/-- The last component of a path. -/
def baseName (path : String) : String := String.ofList (afterLast '/' path.toList)

end Text

end PhpAudit
