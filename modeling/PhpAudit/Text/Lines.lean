/-!
Two notions of line. A source text has rows, divided by newlines alone; a quoted snippet is a line,
which ends at any of the ten line boundaries.
-/

namespace PhpAudit

namespace Text

/-- Newline, vertical tab, form feed, carriage return, the file, group and record separators, next
line, and the line and paragraph separators. -/
def isLineBoundary (c : Char) : Bool :=
  let code := c.toNat
  (0x0A ≤ code && code ≤ 0x0D) || (0x1C ≤ code && code ≤ 0x1E) || code == 0x85 ||
    code == 0x2028 || code == 0x2029

/-- The lines of a text. A carriage return and the newline behind it are one boundary, and what ends
with a boundary has no line after it; so an empty text has none. -/
def splitLines : List Char → List (List Char)
  | [] => []
  | '\r' :: '\n' :: rest => [] :: splitLines rest
  | c :: rest =>
      if isLineBoundary c then [] :: splitLines rest
      else match splitLines rest with
        | [] => [[c]]
        | line :: others => (c :: line) :: others

/-- The pieces between the elements equal to `sep`; one more than there are such elements. -/
def splitOnElem {α : Type} [BEq α] (sep : α) : List α → List (List α)
  | [] => [[]]
  | x :: xs =>
      let pieces := splitOnElem sep xs
      if x == sep then [] :: pieces
      else match pieces with
        | [] => [[x]]
        | piece :: rest => (x :: piece) :: rest

/-- A row without the carriage return that ends it, if one does. -/
def dropReturn (row : List Char) : List Char :=
  if row.getLast? = some '\r' then row.dropLast else row

/-- Rows of a text; an empty row after the last newline is not counted. -/
def rows (cs : List Char) : List (List Char) :=
  let all := (splitOnElem '\n' cs).map dropReturn
  if all.getLast? = some [] then all.dropLast else all

end Text

end PhpAudit
