import PhpAudit.Syntax.Grammar
import PhpAudit.Syntax.Traversal

/-!
What conversion makes of a concrete tree, said by recursion. The cursor and the stack of frames are
moved apart from each other; still, whenever a subtree has been walked, the cursor is back on its
root and the frame on top has just the kept children of that root. So conversion is pruning, and the
nodes of its result are the nodes of the concrete tree that no dropped token stands above.
-/

namespace PhpAudit

namespace Node

theorem walk_eq (node : Node) : node.walk = node :: walkFrom node.children := by
  rw [walk, walkFrom, List.append_nil]

theorem walkFrom_append (nodes others : List Node) :
    walkFrom (nodes ++ others) = walkFrom nodes ++ walkFrom others := by
  induction nodes using walkFrom.induct with
  | case1 => simp [walkFrom]
  | case2 node rest ih =>
      rw [List.cons_append, walkFrom, walkFrom, ← List.append_assoc, ih, List.cons_append]

theorem walkFrom_cons (node : Node) (rest : List Node) :
    walkFrom (node :: rest) = node.walk ++ walkFrom rest :=
  walkFrom_append [node] rest

end Node

namespace RawNode

theorem size_le_sizeAll {node : RawNode} {nodes : List RawNode} (h : node ∈ nodes) :
    node.size ≤ sizeAll nodes := by
  induction nodes with
  | nil => cases h
  | cons first rest ih =>
      rw [sizeAll]
      rcases List.mem_cons.mp h with rfl | hrest
      · exact Nat.le_add_right _ _
      · exact Nat.le_trans (ih hrest) (Nat.le_add_left _ _)

/-- What holds of a node whenever it holds of its children holds of every node. -/
theorem childInduction {motive : RawNode → Prop}
    (step : ∀ node, (∀ child ∈ node.children, motive child) → motive node) (node : RawNode) :
    motive node := by
  suffices ∀ bound (node : RawNode), node.size ≤ bound → motive node from
    this _ node (Nat.le_refl _)
  intro bound
  induction bound with
  | zero =>
      intro node hsize
      rw [size_eq] at hsize
      omega
  | succ bound ih =>
      intro node hsize
      refine step node fun child hchild => ih child ?_
      have := size_le_sizeAll hchild
      rw [size_eq] at hsize
      omega

mutual

/-- The tree of kept nodes. Rows become lines, which count from 1; all else is copied. -/
def prune : RawNode → Node
  | ⟨kind, _, startByte, endByte, startRow, endRow, _, isError, isMissing, children⟩ => {
      kind := kind
      startByte := startByte
      endByte := endByte
      startLine := startRow + 1
      endLine := endRow + 1
      children := pruneAll children
      fields := (children.filter isKept).map (·.field)
      isError := isError
      isMissing := isMissing }

/-- The trees of those nodes that are kept; the others are dropped with all that is below them. -/
def pruneAll : List RawNode → List Node
  | [] => []
  | node :: rest => if node.isKept then prune node :: pruneAll rest else pruneAll rest

end

theorem prune_eq (node : RawNode) : node.prune = {
    kind := node.kind
    startByte := node.startByte
    endByte := node.endByte
    startLine := node.startRow + 1
    endLine := node.endRow + 1
    children := pruneAll node.children
    fields := (node.children.filter isKept).map (·.field)
    isError := node.isError
    isMissing := node.isMissing } := by
  cases node
  rw [prune]

theorem pruneAll_eq (nodes : List RawNode) : pruneAll nodes = (nodes.filter isKept).map prune := by
  induction nodes with
  | nil => rfl
  | cons node rest ih =>
      rw [pruneAll]
      split
      · next hkept => rw [List.filter_cons_of_pos hkept, List.map_cons, ih]
      · next hdropped => rw [List.filter_cons_of_neg hdropped, ih]

/-- The frame of a node all of whose children have been walked. -/
def filled (node : RawNode) (field : Option String) : Frame where
  node := node
  field := field
  children := (pruneAll node.children).reverse
  fields := ((node.children.filter isKept).map (·.field)).reverse

theorem finish_filled (node : RawNode) (field : Option String) :
    (node.filled field).finish = node.prune := by
  rw [prune_eq, Frame.finish, filled, List.reverse_reverse, List.reverse_reverse]

/-- The frame after the nodes, all of them walked, have been handed to it one by one. -/
def receiveAll (frame : Frame) (nodes : List RawNode) : Frame :=
  nodes.foldl (fun frame node => frame.receive (node.filled node.field)) frame

theorem receiveAll_eq (frame : Frame) (nodes : List RawNode) : receiveAll frame nodes = {
    frame with
    children := (pruneAll nodes).reverse ++ frame.children
    fields := ((nodes.filter isKept).map (·.field)).reverse ++ frame.fields } := by
  induction nodes generalizing frame with
  | nil => rfl
  | cons node rest ih =>
      have hstep : receiveAll frame (node :: rest) =
          receiveAll (frame.receive (node.filled node.field)) rest := rfl
      have hnode : (node.filled node.field).node = node := rfl
      rw [hstep, ih, pruneAll, Frame.receive, hnode, finish_filled]
      cases hkept : node.isKept with
      | true => simp [hkept, filled]
      | false => simp [hkept]

section Moves

variable {node : RawNode} {later : List RawNode} {above : List (RawNode × List RawNode)}
  {top frame : Frame} {frames : List Frame}

theorem descend_of_leaf (h : node.children = []) :
    descend ⟨node, later, above⟩ top frames = climb ⟨node, later, above⟩ top frames := by
  have hnone : (⟨node, later, above⟩ : Cursor).firstChild? = none := by
    simp only [Cursor.firstChild?, h]
  rw [descend]
  split
  · next child hsome =>
      rw [hnone] at hsome
      cases hsome
  · rfl

theorem descend_of_children {child : RawNode} {others : List RawNode}
    (h : node.children = child :: others) :
    descend ⟨node, later, above⟩ top frames =
      descend ⟨child, others, (node, later) :: above⟩ (.ofNode child) (top :: frames) := by
  have hfirst : (⟨node, later, above⟩ : Cursor).firstChild? =
      some ⟨child, others, (node, later) :: above⟩ := by
    simp only [Cursor.firstChild?, h]
  rw [descend]
  split
  · next child hsome =>
      rw [hfirst] at hsome
      cases hsome
      rfl
  · next hnone =>
      rw [hfirst] at hnone
      cases hnone

theorem climb_root (cursor : Cursor) : climb cursor top [] = top.finish := by
  rw [climb]

theorem climb_next {next : RawNode} {others : List RawNode} :
    climb ⟨node, next :: others, above⟩ top (frame :: frames) =
      descend ⟨next, others, above⟩ (.ofNode next) (frame.receive top :: frames) := by
  rw [climb]
  split
  · next sibling hsome =>
      cases hsome
      rfl
  · next hnone => cases hnone

theorem climb_last {up : RawNode} {ups : List RawNode} :
    climb ⟨node, [], (up, ups) :: above⟩ top (frame :: frames) =
      climb ⟨up, ups, above⟩ (frame.receive top) frames := by
  rw [climb]
  split
  · next sibling hsome => cases hsome
  · rfl

/-- A node that has been walked: the cursor is back on it, and its frame has its kept children. -/
def Walked (node : RawNode) : Prop :=
  ∀ later above field frames,
    descend ⟨node, later, above⟩ { node := node, field := field } frames =
      climb ⟨node, later, above⟩ (node.filled field) frames

/-- From the first of some siblings on, the cursor comes back to their parent, whose frame has
received all of them. -/
theorem descend_siblings {up : RawNode} {ups : List RawNode} (hnode : node.Walked)
    (hlater : ∀ sibling ∈ later, sibling.Walked) :
    descend ⟨node, later, (up, ups) :: above⟩ (.ofNode node) (frame :: frames) =
      climb ⟨up, ups, above⟩ (receiveAll frame (node :: later)) frames := by
  induction later generalizing node frame with
  | nil =>
      rw [Frame.ofNode, hnode, climb_last]
      rfl
  | cons next others ih =>
      obtain ⟨hnext, hothers⟩ := List.forall_mem_cons.mp hlater
      rw [Frame.ofNode, hnode, climb_next, ih hnext hothers]
      rfl

theorem walked (node : RawNode) : node.Walked := by
  induction node using childInduction with
  | step node ih =>
      intro later above field frames
      cases hchildren : node.children with
      | nil =>
          rw [descend_of_leaf hchildren, filled, hchildren]
          rfl
      | cons child others =>
          rw [hchildren] at ih
          obtain ⟨hchild, hothers⟩ := List.forall_mem_cons.mp ih
          rw [descend_of_children hchildren, descend_siblings hchild hothers, ← hchildren,
            receiveAll_eq, List.append_nil, List.append_nil, filled]

end Moves

theorem convert_eq_prune (root : RawNode) : root.convert = root.prune := by
  rw [convert, Cursor.onRoot, walked, climb_root, finish_filled]

/-- A node at its place in a tree: the nodes below the root that lead to it, itself included, the
nearest first. The root has none. -/
structure Occurrence where
  node : RawNode
  lineage : List RawNode

/-- Whether no node on the way is dropped. -/
def Occurrence.survives (o : Occurrence) : Bool := o.lineage.all isKept

mutual

/-- A node and all below it, each before its children and these from left to right. -/
def occurrencesFrom (lineage : List RawNode) : RawNode → List Occurrence
  | node@⟨_, _, _, _, _, _, _, _, _, children⟩ =>
      ⟨node, lineage⟩ :: occurrencesBelow lineage children

def occurrencesBelow (lineage : List RawNode) : List RawNode → List Occurrence
  | [] => []
  | node :: rest => occurrencesFrom (node :: lineage) node ++ occurrencesBelow lineage rest

end

/-- All nodes of a tree in pre-order. -/
def occurrences (root : RawNode) : List Occurrence := occurrencesFrom [] root

theorem occurrencesFrom_eq (lineage : List RawNode) (node : RawNode) :
    occurrencesFrom lineage node = ⟨node, lineage⟩ :: occurrencesBelow lineage node.children := by
  cases node
  rw [occurrencesFrom]

/-- What is below a dropped node does not survive. -/
theorem filter_occurrencesFrom_of_dropped (node : RawNode) {lineage : List RawNode}
    (h : lineage.all isKept = false) :
    (occurrencesFrom lineage node).filter Occurrence.survives = [] := by
  induction node using childInduction generalizing lineage with
  | step node ih =>
      have hbelow (nodes : List RawNode) (hnodes : ∀ child ∈ nodes, child ∈ node.children) :
          (occurrencesBelow lineage nodes).filter Occurrence.survives = [] := by
        induction nodes with
        | nil => rfl
        | cons child rest ihrest =>
            obtain ⟨hchild, hrest⟩ := List.forall_mem_cons.mp hnodes
            have hlineage : (child :: lineage).all isKept = false := by
              rw [List.all_cons, h, Bool.and_false]
            rw [occurrencesBelow, List.filter_append, ih child hchild hlineage, ihrest hrest]
            rfl
      rw [occurrencesFrom_eq, List.filter_cons_of_neg (by simp [Occurrence.survives, h]),
        hbelow node.children fun _ hchild => hchild]

/-- The pre-order of a pruned tree lists the nodes that survive, each of them pruned. -/
theorem walk_prune (node : RawNode) {lineage : List RawNode} (h : lineage.all isKept = true) :
    node.prune.walk =
      ((occurrencesFrom lineage node).filter Occurrence.survives).map (·.node.prune) := by
  induction node using childInduction generalizing lineage with
  | step node ih =>
      have hbelow (nodes : List RawNode) (hnodes : ∀ child ∈ nodes, child ∈ node.children) :
          Node.walkFrom (pruneAll nodes) =
            ((occurrencesBelow lineage nodes).filter Occurrence.survives).map (·.node.prune) := by
        induction nodes with
        | nil =>
            rw [pruneAll, Node.walkFrom]
            rfl
        | cons child rest ihrest =>
            obtain ⟨hchild, hrest⟩ := List.forall_mem_cons.mp hnodes
            rw [pruneAll, occurrencesBelow, List.filter_append, List.map_append]
            cases hkept : child.isKept with
            | true =>
                have hlineage : (child :: lineage).all isKept = true := by
                  rw [List.all_cons, hkept, h, Bool.and_true]
                rw [if_pos rfl, Node.walkFrom_cons, ih child hchild hlineage, ihrest hrest]
            | false =>
                have hlineage : (child :: lineage).all isKept = false := by
                  rw [List.all_cons, hkept, Bool.false_and]
                rw [if_neg Bool.false_ne_true, filter_occurrencesFrom_of_dropped child hlineage,
                  ihrest hrest]
                rfl
      have hself : (⟨node, lineage⟩ : Occurrence).survives = true := h
      rw [Node.walk_eq, occurrencesFrom_eq, List.filter_cons_of_pos hself, List.map_cons,
        ← hbelow node.children fun _ hchild => hchild, prune_eq]

theorem length_fields_prune (node : RawNode) :
    node.prune.fields.length = node.prune.children.length := by
  rw [prune_eq, pruneAll_eq, List.length_map, List.length_map]

/-- Conversion ends on every concrete tree with the pruned tree. In each node of it there are as
many fields as children; and its pre-order is that of the concrete tree, less the nodes that are
dropped or stand below a dropped one. -/
theorem convert_prunes (root : RawNode) :
    root.convert = root.prune ∧
      (∀ node ∈ root.convert.walk, node.fields.length = node.children.length) ∧
      root.convert.walk = (root.occurrences.filter Occurrence.survives).map (·.node.prune) := by
  have hwalk : root.convert.walk =
      (root.occurrences.filter Occurrence.survives).map (·.node.prune) := by
    rw [convert_eq_prune]
    exact root.walk_prune rfl
  refine ⟨root.convert_eq_prune, fun node hnode => ?_, hwalk⟩
  rw [hwalk] at hnode
  obtain ⟨o, _, rfl⟩ := List.mem_map.mp hnode
  exact o.node.length_fields_prune

end RawNode

end PhpAudit
