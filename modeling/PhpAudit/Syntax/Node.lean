import PhpAudit.Text.Lines
import PhpAudit.Text.Utf8

/-!
Syntax trees. A node has the kind its grammar gives it, its place in the source, and its named
children with the fields they stand under. Lines count from 1. The text of a node is cut from the
source of the whole tree.
-/

namespace PhpAudit

structure Node where
  kind : String
  startByte : Nat
  endByte : Nat
  startLine : Nat
  endLine : Nat
  children : List Node
  /-- The field of each child, in step with the children. -/
  fields : List (Option String)
  isError : Bool
  isMissing : Bool

namespace Node

/-- The bytes from `start` up to `stop`, as far as the source goes. -/
def slice (source : Bytes) (start stop : Nat) : Bytes := (source.take stop).drop start

def text (source : Bytes) (node : Node) : String :=
  Utf8.decode (slice source node.startByte node.endByte)

/-- Lines between the first and the last; negative if they are out of order. -/
def lineCount (node : Node) : Int := (node.endLine : Int) - node.startLine

def isKind (node : Node) (kinds : List String) : Bool := kinds.contains node.kind

def childrenByField (node : Node) (name : String) : List Node :=
  ((node.children.zip node.fields).filter fun e => e.2 == some name).map (·.1)

/-- The first child kept under the field. -/
def childByField? (node : Node) (name : String) : Option Node :=
  ((node.children.zip node.fields).find? fun e => e.2 == some name).map (·.1)

def fieldText? (source : Bytes) (node : Node) (name : String) : Option String :=
  (node.childByField? name).map (text source)

def childrenOfKind (node : Node) (kinds : List String) : List Node :=
  node.children.filter (·.isKind kinds)

def firstChildOfKind? (node : Node) (kinds : List String) : Option Node :=
  node.children.find? (·.isKind kinds)

/-- Kind and lines, for diagnostics. -/
def summary (node : Node) : String :=
  "<Node " ++ node.kind ++ " " ++ toString node.startLine ++ "-" ++ toString node.endLine ++ ">"

mutual

/-- Number of nodes of a tree. -/
def size : Node → Nat
  | ⟨_, _, _, _, _, children, _, _, _⟩ => 1 + sizeAll children

def sizeAll : List Node → Nat
  | [] => 0
  | node :: rest => size node + sizeAll rest

end

theorem size_eq (node : Node) : node.size = 1 + sizeAll node.children := by
  cases node; rw [size]

theorem sizeAll_append (xs ys : List Node) : sizeAll (xs ++ ys) = sizeAll xs + sizeAll ys := by
  induction xs with
  | nil => simp [sizeAll]
  | cons x xs ih => simp [sizeAll, ih, Nat.add_assoc]

end Node

/-- A tree together with the bytes it was read from. -/
structure SyntaxTree where
  root : Node
  source : Bytes

namespace SyntaxTree

def text (tree : SyntaxTree) : String := Utf8.decode tree.source

/-- Rows of the source as the grammar counts them. -/
def lines (tree : SyntaxTree) : List (List Char) := Text.rows (Utf8.decodeChars tree.source)

end SyntaxTree

end PhpAudit
