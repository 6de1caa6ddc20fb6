import PhpAudit.Proofs.TreeConversion
import PhpAudit.Proofs.UnwritableLiterals

/-!
Positions in a tree. A position says how to get from the top to a node, child by child, so two nodes
that look the same still have different positions. The lexicographic order of positions is the
pre-order of the nodes: a node comes before all below it, and these from left to right.

A visit that collects nodes and leaves out hidden ones meets each position that nothing hidden
stands on or above, once and in this order. A walk meets every position.
-/

namespace PhpAudit

namespace Node

/-- What holds of a node whenever it holds of its children holds of every node. -/
theorem childInduction {motive : Node → Prop}
    (step : ∀ node, (∀ child ∈ node.children, motive child) → motive node) (node : Node) :
    motive node :=
  @Node.rec motive (fun nodes => ∀ child ∈ nodes, motive child)
    (fun kind startByte endByte startLine endLine children fields isError isMissing ih =>
      step ⟨kind, startByte, endByte, startLine, endLine, children, fields, isError, isMissing⟩ ih)
    (fun _ hchild => absurd hchild List.not_mem_nil)
    (fun _ _ hfirst hrest => List.forall_mem_cons.mpr ⟨hfirst, hrest⟩) node

/-- The node at a position, which lists the indexes of the children on the way down. -/
def nodeAt? (node : Node) : List Nat → Option Node
  | [] => some node
  | index :: rest => node.children[index]?.bind fun child => child.nodeAt? rest

theorem nodeAt?_cons_eq_some_iff {node found : Node} {index : Nat} {rest : List Nat} :
    node.nodeAt? (index :: rest) = some found ↔
      ∃ child, node.children[index]? = some child ∧ child.nodeAt? rest = some found := by
  simp [nodeAt?, Option.bind_eq_some_iff]

/-- Going on from a position is going down from the node there. -/
theorem nodeAt?_append (node : Node) (front back : List Nat) :
    node.nodeAt? (front ++ back) = (node.nodeAt? front).bind (·.nodeAt? back) := by
  induction front generalizing node with
  | nil => rfl
  | cons index rest ih =>
      rw [List.cons_append, nodeAt?, nodeAt?]
      cases node.children[index]? with
      | none => rfl
      | some child => exact ih child

mutual

/-- The nodes that are met from a node on when what is hidden is left out with all below it, each
with its position. -/
def exposedPlaces (hides : Node → Bool) : Node → List (List Nat × Node)
  | node@⟨_, _, _, _, _, children, _, _, _⟩ =>
      if hides node then [] else ([], node) :: placesBelow hides 0 children

/-- The same for some siblings, of which the first has the given index. -/
def placesBelow (hides : Node → Bool) (index : Nat) : List Node → List (List Nat × Node)
  | [] => []
  | child :: rest =>
      (exposedPlaces hides child).map (fun place => (index :: place.1, place.2)) ++
        placesBelow hides (index + 1) rest

end

variable {hides : Node → Bool}

theorem exposedPlaces_of_hidden {node : Node} (h : hides node = true) :
    exposedPlaces hides node = [] := by
  cases node
  rw [exposedPlaces, if_pos h]

theorem exposedPlaces_of_shown {node : Node} (h : hides node = false) :
    exposedPlaces hides node = ([], node) :: placesBelow hides 0 node.children := by
  cases node
  rw [exposedPlaces, if_neg (by simp [h])]

theorem mem_placesBelow {index : Nat} {nodes : List Node} {position : List Nat} {found : Node} :
    (position, found) ∈ placesBelow hides index nodes ↔
      ∃ offset rest child, position = (index + offset) :: rest ∧ nodes[offset]? = some child ∧
        (rest, found) ∈ exposedPlaces hides child := by
  induction nodes generalizing index with
  | nil => simp [placesBelow]
  | cons first others ih =>
      rw [placesBelow, List.mem_append, List.mem_map, ih]
      constructor
      · rintro (⟨⟨rest, node⟩, hplace, hsame⟩ | ⟨offset, rest, child, rfl, hchild, hplace⟩)
        · cases hsame
          exact ⟨0, rest, first, rfl, rfl, hplace⟩
        · refine ⟨offset + 1, rest, child, ?_, hchild, hplace⟩
          rw [Nat.add_right_comm, Nat.add_assoc]
      · rintro ⟨offset, rest, child, rfl, hchild, hplace⟩
        cases offset with
        | zero =>
            cases hchild
            exact .inl ⟨(rest, found), hplace, rfl⟩
        | succ offset =>
            refine .inr ⟨offset, rest, child, ?_, hchild, hplace⟩
            rw [Nat.add_right_comm, Nat.add_assoc]

/-- Nothing hidden stands on the way to a position, both ends included. -/
def Unhidden (hides : Node → Bool) (node : Node) (position : List Nat) : Prop :=
  ∀ outer, outer <+: position → ∀ passed, node.nodeAt? outer = some passed → hides passed = false

theorem unhidden_nil {node : Node} : Unhidden hides node [] ↔ hides node = false := by
  constructor
  · intro h
    exact h [] List.nil_prefix node rfl
  · intro h outer houter passed hpassed
    rw [List.prefix_nil.mp houter] at hpassed
    cases hpassed
    exact h

theorem unhidden_cons {node : Node} {index : Nat} {rest : List Nat} :
    Unhidden hides node (index :: rest) ↔ hides node = false ∧
      ∀ child, node.children[index]? = some child → Unhidden hides child rest := by
  constructor
  · intro h
    refine ⟨h [] List.nil_prefix node rfl, fun child hchild outer houter passed hpassed => ?_⟩
    exact h (index :: outer) (List.cons_prefix_cons.mpr ⟨rfl, houter⟩) passed
      (nodeAt?_cons_eq_some_iff.mpr ⟨child, hchild, hpassed⟩)
  · rintro ⟨hnode, hbelow⟩ outer houter passed hpassed
    rcases List.prefix_cons_iff.mp houter with rfl | ⟨inner, rfl, hinner⟩
    · cases hpassed
      exact hnode
    · obtain ⟨child, hchild, hpassed⟩ := nodeAt?_cons_eq_some_iff.mp hpassed
      exact hbelow child hchild inner hinner passed hpassed

/-- A place is met exactly if its position leads to its node and nothing on the way is hidden. -/
theorem mem_exposedPlaces {node : Node} {position : List Nat} {found : Node} :
    (position, found) ∈ exposedPlaces hides node ↔
      node.nodeAt? position = some found ∧ Unhidden hides node position := by
  induction node using childInduction generalizing position with
  | step node ih =>
      cases hhides : hides node with
      | true =>
          rw [exposedPlaces_of_hidden hhides]
          refine iff_of_false List.not_mem_nil fun h => ?_
          have hshown := h.2 [] List.nil_prefix node rfl
          rw [hhides] at hshown
          cases hshown
      | false =>
          rw [exposedPlaces_of_shown hhides, List.mem_cons, mem_placesBelow]
          cases position with
          | nil => simp [nodeAt?, unhidden_nil, hhides, eq_comm]
          | cons index rest =>
              rw [unhidden_cons, nodeAt?_cons_eq_some_iff]
              constructor
              · rintro (hself | ⟨offset, inner, child, hposition, hchild, hplace⟩)
                · cases hself
                · rw [Nat.zero_add] at hposition
                  cases hposition
                  obtain ⟨hat, hshown⟩ := (ih child (List.mem_of_getElem? hchild)).mp hplace
                  refine ⟨⟨child, hchild, hat⟩, hhides, fun other hother => ?_⟩
                  rw [hchild] at hother
                  cases hother
                  exact hshown
              · rintro ⟨⟨child, hchild, hat⟩, _, hshown⟩
                refine .inr ⟨index, rest, child, by rw [Nat.zero_add], hchild, ?_⟩
                exact (ih child (List.mem_of_getElem? hchild)).mpr ⟨hat, hshown child hchild⟩

/-- Places are met in the order of their positions. -/
theorem pairwise_exposedPlaces (hides : Node → Bool) (node : Node) :
    (exposedPlaces hides node).Pairwise fun first second => first.1 < second.1 := by
  induction node using childInduction with
  | step node ih =>
      have hbelow (index : Nat) (nodes : List Node)
          (hnodes : ∀ child ∈ nodes, child ∈ node.children) :
          (placesBelow hides index nodes).Pairwise fun first second => first.1 < second.1 := by
        induction nodes generalizing index with
        | nil => exact .nil
        | cons child others ihothers =>
            obtain ⟨hchild, hothers⟩ := List.forall_mem_cons.mp hnodes
            rw [placesBelow, List.pairwise_append, List.pairwise_map]
            refine ⟨(ih child hchild).imp fun h => ?_, ihothers (index + 1) hothers, ?_⟩
            · exact List.cons_lt_cons_iff.mpr (.inr ⟨rfl, h⟩)
            · rintro first hfirst ⟨position, found⟩ hsecond
              obtain ⟨place, _, rfl⟩ := List.mem_map.mp hfirst
              obtain ⟨offset, rest, _, rfl, _⟩ := mem_placesBelow.mp hsecond
              exact List.cons_lt_cons_iff.mpr (.inl (by omega))
      cases hhides : hides node with
      | true =>
          rw [exposedPlaces_of_hidden hhides]
          exact .nil
      | false =>
          rw [exposedPlaces_of_shown hhides, List.pairwise_cons]
          refine ⟨?_, hbelow 0 node.children fun _ hchild => hchild⟩
          rintro ⟨position, found⟩ hplace
          obtain ⟨offset, rest, _, rfl, _⟩ := mem_placesBelow.mp hplace
          exact List.nil_lt_cons _ _

/-- The nodes that are met, without their positions. -/
def exposedNodes (hides : Node → Bool) (node : Node) : List Node :=
  (exposedPlaces hides node).map (·.2)

theorem map_snd_placesBelow (hides : Node → Bool) (index : Nat) (nodes : List Node) :
    (placesBelow hides index nodes).map (·.2) = nodes.flatMap (exposedNodes hides) := by
  induction nodes generalizing index with
  | nil => rfl
  | cons child others ih =>
      rw [placesBelow, List.map_append, List.map_map, ih, List.flatMap_cons]
      rfl

theorem exposedNodes_of_hidden {node : Node} (h : hides node = true) :
    exposedNodes hides node = [] := by
  rw [exposedNodes, exposedPlaces_of_hidden h, List.map_nil]

theorem exposedNodes_of_shown {node : Node} (h : hides node = false) :
    exposedNodes hides node = [node] ++ node.children.flatMap (exposedNodes hides) := by
  rw [exposedNodes, exposedPlaces_of_shown h, List.map_cons, map_snd_placesBelow]
  rfl

/-- A collecting visit finds those it picks among the nodes that are met, in their order. -/
theorem visitFrom_collector (hides picks : Node → Bool) (found pending : List Node) :
    visitFrom (collector hides picks) found pending =
      found ++ (pending.flatMap (exposedNodes hides)).filter picks := by
  induction found, pending using visitFrom.induct (collector hides picks) with
  | case1 found => simp [visitFrom]
  | case2 found top rest answer hgoes ih =>
      cases hhides : hides top with
      | true =>
          rw [show answer = _ from collector_hidden hhides] at hgoes
          cases hgoes
      | false =>
          have hanswer : answer = _ := collector_shown hhides
          rw [visitFrom, if_pos hgoes, ih, hanswer, List.flatMap_cons,
            exposedNodes_of_shown hhides, List.flatMap_append]
          simp only [List.filter_append, List.append_assoc]
  | case3 found top rest answer hstops ih =>
      cases hhides : hides top with
      | false =>
          rw [show answer = _ from collector_shown hhides] at hstops
          exact absurd rfl hstops
      | true =>
          have hanswer : answer = _ := collector_hidden hhides
          rw [visitFrom, if_neg hstops, ih, hanswer, List.flatMap_cons,
            exposedNodes_of_hidden hhides, List.nil_append]

/-- All nodes of a tree with their positions. -/
def places (node : Node) : List (List Nat × Node) := exposedPlaces (fun _ => false) node

theorem mem_places {node found : Node} {position : List Nat} :
    (position, found) ∈ node.places ↔ node.nodeAt? position = some found := by
  rw [places, mem_exposedPlaces]
  exact and_iff_left fun _ _ _ _ => rfl

theorem pairwise_places (node : Node) :
    node.places.Pairwise fun first second => first.1 < second.1 :=
  pairwise_exposedPlaces _ node

theorem walkFrom_eq_flatMap (nodes : List Node) : walkFrom nodes = nodes.flatMap walk := by
  induction nodes with
  | nil => simp [walkFrom]
  | cons node rest ih => rw [walkFrom_cons, ih, List.flatMap_cons]

/-- A walk goes through the places in their order. -/
theorem walk_eq_places (node : Node) : node.walk = node.places.map (·.2) := by
  induction node using childInduction with
  | step node ih =>
      have hchildren : node.children.flatMap walk =
          node.children.flatMap (exposedNodes fun _ => false) :=
        List.flatMap_congr ih
      rw [walk_eq, walkFrom_eq_flatMap, hchildren]
      exact (exposedNodes_of_shown rfl).symm

theorem mem_walk_iff {node found : Node} :
    found ∈ node.walk ↔ ∃ position, node.nodeAt? position = some found := by
  rw [walk_eq_places, List.mem_map]
  constructor
  · rintro ⟨⟨position, other⟩, hplace, rfl⟩
    exact ⟨position, mem_places.mp hplace⟩
  · rintro ⟨position, hat⟩
    exact ⟨(position, found), mem_places.mpr hat, rfl⟩

/-- A search by kind and a condition picks places. -/
theorem filter_findKind (node : Node) (kinds : List String) (p : Node → Bool) :
    (node.findKind kinds).filter p =
      (node.places.filter fun place => place.2.isKind kinds && p place.2).map (·.2) := by
  rw [findKind, List.filter_filter, walk_eq_places, List.filter_map]
  congr 1
  apply List.filter_congr
  intro place _
  exact Bool.and_comm _ _

end Node

end PhpAudit
