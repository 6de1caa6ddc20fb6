import PhpAudit.Syntax.Node

/-!
What a grammar returns for a source text: a concrete tree with every token, and whether it had to
recover from an error. Conversion keeps the root, and below it the named nodes and the placeholders
of missing ones; a token that is dropped takes its subtree with it.

Conversion moves a cursor over the concrete tree, with the unfinished nodes on a stack. Nothing but
the order of the moves holds the two together.
-/

namespace PhpAudit

/-- A node of the concrete tree, with the field its parent keeps it under; rows count from 0. -/
structure RawNode where
  kind : String
  field : Option String
  startByte : Nat
  endByte : Nat
  startRow : Nat
  endRow : Nat
  isNamed : Bool
  isError : Bool
  isMissing : Bool
  children : List RawNode

namespace RawNode

mutual

def size : RawNode → Nat
  | ⟨_, _, _, _, _, _, _, _, _, children⟩ => 1 + sizeAll children

def sizeAll : List RawNode → Nat
  | [] => 0
  | node :: rest => size node + sizeAll rest

end

theorem size_eq (node : RawNode) : node.size = 1 + sizeAll node.children := by
  cases node; rw [size]

/-- Whether the node stays below its parent. -/
def isKept (node : RawNode) : Bool := node.isNamed || node.isMissing

end RawNode

/-- A place in a concrete tree: the node there, the siblings after it, and the nodes above it, the
nearest first, each with the siblings after it. -/
structure Cursor where
  node : RawNode
  later : List RawNode
  above : List (RawNode × List RawNode)

namespace Cursor

def onRoot (root : RawNode) : Cursor := ⟨root, [], []⟩

def firstChild? (cursor : Cursor) : Option Cursor :=
  match cursor.node.children with
  | [] => none
  | child :: others => some ⟨child, others, (cursor.node, cursor.later) :: cursor.above⟩

def nextSibling? (cursor : Cursor) : Option Cursor :=
  match cursor.later with
  | [] => none
  | next :: others => some ⟨next, others, cursor.above⟩

/-- The place one level up; on the root the cursor stays. -/
def parent (cursor : Cursor) : Cursor :=
  match cursor.above with
  | [] => cursor
  | (node, later) :: rest => ⟨node, later, rest⟩

def sizeAbove : List (RawNode × List RawNode) → Nat
  | [] => 0
  | (_, later) :: rest => RawNode.sizeAll later + sizeAbove rest

/-- Nodes that come after the current one and all below it. -/
def toCome (cursor : Cursor) : Nat := RawNode.sizeAll cursor.later + sizeAbove cursor.above

theorem size_firstChild? {cursor child : Cursor} (h : cursor.firstChild? = some child) :
    child.node.size + child.toCome + 1 = cursor.node.size + cursor.toCome := by
  unfold firstChild? at h
  split at h
  · cases h
  · next first others hchildren =>
      cases h
      simp only [toCome, sizeAbove, RawNode.size_eq cursor.node, hchildren, RawNode.sizeAll]
      omega

theorem size_nextSibling? {cursor next : Cursor} (h : cursor.nextSibling? = some next) :
    next.node.size + next.toCome = cursor.toCome := by
  unfold nextSibling? at h
  split at h
  · cases h
  · next first others hlater =>
      cases h
      simp only [toCome, hlater, RawNode.sizeAll]
      omega

theorem toCome_parent_le (cursor : Cursor) : cursor.parent.toCome ≤ cursor.toCome := by
  unfold parent
  split
  · exact Nat.le_refl _
  · next node later rest habove =>
      simp only [toCome, habove, sizeAbove]
      omega

end Cursor

/-- An unfinished node: the field it stands under, and what is kept of its children so far with
their fields, the last one first. -/
structure Frame where
  node : RawNode
  field : Option String
  children : List Node := []
  fields : List (Option String) := []

namespace Frame

/-- The frame of a node that the cursor has just reached. -/
def ofNode (node : RawNode) : Frame where
  node := node
  field := node.field

def finish (frame : Frame) : Node where
  kind := frame.node.kind
  startByte := frame.node.startByte
  endByte := frame.node.endByte
  startLine := frame.node.startRow + 1
  endLine := frame.node.endRow + 1
  children := frame.children.reverse
  fields := frame.fields.reverse
  isError := frame.node.isError
  isMissing := frame.node.isMissing

/-- Hands a finished child to the frame, which takes it if it is kept. -/
def receive (frame child : Frame) : Frame :=
  if child.node.isKept then
    { frame with
      children := child.finish :: frame.children
      fields := child.field :: frame.fields }
  else frame

end Frame

namespace RawNode

mutual

/-- Goes down to the first leaf. The topmost frame stands apart from those below it. -/
def descend (cursor : Cursor) (top : Frame) (frames : List Frame) : Node :=
  match _hc : cursor.firstChild? with
  | some child => descend child (.ofNode child.node) (top :: frames)
  | none => climb cursor top frames
  termination_by (cursor.node.size + cursor.toCome, 0)
  decreasing_by
    · have := Cursor.size_firstChild? _hc
      exact Prod.Lex.left _ _ (by omega)
    · have := size_eq cursor.node
      exact Prod.Lex.left _ _ (by omega)

/-- Finishes nodes up to one that has a next sibling. The root is the answer. -/
def climb (cursor : Cursor) (top : Frame) (frames : List Frame) : Node :=
  match frames with
  | [] => top.finish
  | frame :: rest =>
      let frame := frame.receive top
      match _hn : cursor.nextSibling? with
      | some next => descend next (.ofNode next.node) (frame :: rest)
      | none => climb cursor.parent frame rest
  termination_by (cursor.toCome, frames.length + 1)
  decreasing_by
    · rw [Cursor.size_nextSibling? _hn]
      exact Prod.Lex.right _ (Nat.succ_pos _)
    · rcases Nat.lt_or_eq_of_le cursor.toCome_parent_le with hless | hsame
      · exact Prod.Lex.left _ _ hless
      · rw [hsame]
        exact Prod.Lex.right _ (by simp)

end

/-- The tree of kept nodes. -/
def convert (root : RawNode) : Node := descend (.onRoot root) { node := root, field := none } []

end RawNode

/-- A grammar's answer for one source text. -/
structure Reading where
  root : RawNode
  hasError : Bool

end PhpAudit
