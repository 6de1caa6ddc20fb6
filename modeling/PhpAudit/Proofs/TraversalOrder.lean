import PhpAudit.Proofs.TreePositions

/-!
Traversals against recursion. A traversal keeps the trees still to come on a list and never calls
itself. Here it is compared with the recursion that goes down a tree child by child: what is on the
list stands for the recursive traversals still to be made, the first of them first.

A visitor carries a state, so that its answer may depend on every node it has seen. Which nodes it
is called on is read off a visit in which it also writes each call down. By recursion these calls
form a tour, in which every call has its position; a tour is the pre-order of the tree less what
stands below a node that was answered false.
-/

namespace PhpAudit

namespace Node

mutual

/-- A node and then all below it, child by child. -/
def preorder : Node → List Node
  | node@⟨_, _, _, _, _, children, _, _, _⟩ => node :: preorderAll children

def preorderAll : List Node → List Node
  | [] => []
  | node :: rest => preorder node ++ preorderAll rest

end

theorem preorder_eq (node : Node) : node.preorder = node :: preorderAll node.children := by
  cases node
  rw [preorder]

theorem preorderAll_append (nodes others : List Node) :
    preorderAll (nodes ++ others) = preorderAll nodes ++ preorderAll others := by
  induction nodes with
  | nil => rfl
  | cons node rest ih => rw [List.cons_append, preorderAll, preorderAll, ih, List.append_assoc]

/-- A list of trees to come is the pre-orders of these trees, one after another. -/
theorem walkFrom_eq_preorderAll (pending : List Node) : walkFrom pending = preorderAll pending := by
  induction pending using walkFrom.induct with
  | case1 => rw [walkFrom, preorderAll]
  | case2 node rest ih =>
      rw [walkFrom, ih, preorderAll_append, preorderAll, preorder_eq, List.cons_append]

theorem walk_eq_preorder (root : Node) : root.walk = root.preorder := by
  rw [walk, walkFrom_eq_preorderAll, preorderAll, preorderAll, List.append_nil]

/-- One call of a visitor: where it is made, on which node, and what is answered. -/
structure Call where
  position : List Nat
  node : Node
  answer : Bool

namespace Call

/-- The call as seen from the parent, for which it is made in the child of the given index. -/
def under (index : Nat) (call : Call) : Call := { call with position := index :: call.position }

def place (call : Call) : List Nat × Node := (call.position, call.node)

/-- What a visitor can tell of the call. -/
def entry (call : Call) : Node × Bool := (call.node, call.answer)

/-- The call was answered false, and the position is below it. -/
def Bars (call : Call) (position : List Nat) : Prop :=
  call.answer = false ∧ call.position ≠ position ∧ call.position <+: position

instance (call : Call) (position : List Nat) : Decidable (call.Bars position) :=
  inferInstanceAs (Decidable (_ ∧ _))

theorem not_bars_nil (call : Call) : ¬call.Bars [] := by
  rintro ⟨_, hother, hprefix⟩
  exact hother (List.prefix_nil.mp hprefix)

theorem bars_under_cons {call : Call} {index first : Nat} {rest : List Nat} :
    (call.under index).Bars (first :: rest) ↔ index = first ∧ call.Bars rest := by
  unfold Bars under
  rw [List.cons_prefix_cons, ne_eq, List.cons.injEq]
  constructor
  · rintro ⟨hanswer, hother, hindex, hprefix⟩
    exact ⟨hindex, hanswer, fun hsame => hother ⟨hindex, hsame⟩, hprefix⟩
  · rintro ⟨hindex, hanswer, hother, hprefix⟩
    exact ⟨hanswer, fun hsame => hother hsame.2, hindex, hprefix⟩

end Call

/-- Whether none of the calls bars the place. -/
def unbarred (calls : List Call) (place : List Nat × Node) : Bool :=
  decide (∀ call ∈ calls, ¬call.Bars place.1)

theorem unbarred_append (calls others : List Call) (place : List Nat × Node) :
    unbarred (calls ++ others) place = (unbarred calls place && unbarred others place) := by
  simp only [unbarred, List.forall_mem_append, Bool.decide_and]

/-- A call that was not answered false bars nothing. -/
theorem unbarred_cons_of_true {call : Call} (calls : List Call) (h : call.answer = true) :
    unbarred (call :: calls) = unbarred calls := by
  funext place
  have hfree : ¬call.Bars place.1 := fun hbars => Bool.false_ne_true (hbars.1.symm.trans h)
  simp only [unbarred, List.forall_mem_cons, hfree, not_false_eq_true, true_and]

theorem unbarred_nil_position (calls : List Call) (found : Node) :
    unbarred calls ([], found) = true :=
  decide_eq_true fun call _ => call.not_bars_nil

theorem unbarred_map_under (calls : List Call) (index : Nat) (rest : List Nat) (found : Node) :
    unbarred (calls.map (Call.under index)) (index :: rest, found) =
      unbarred calls (rest, found) := by
  simp only [unbarred, List.forall_mem_map, Call.bars_under_cons, true_and]

theorem unbarred_map_under_of_ne (calls : List Call) {index first : Nat} (rest : List Nat)
    (found : Node) (h : index ≠ first) :
    unbarred (calls.map (Call.under index)) (first :: rest, found) = true := by
  simp only [unbarred, List.forall_mem_map, Call.bars_under_cons, h, false_and, not_false_eq_true,
    implies_true, decide_true]

section Visits

variable {σ : Type} (visitor : σ → Node → σ × Bool)

mutual

/-- The calls of a visitor in a tree, and the state in which they leave it: first on the node, and
then, unless the answer is false, in its children one after another. -/
def tour (state : σ) : Node → List Call × σ
  | node@⟨_, _, _, _, _, children, _, _, _⟩ =>
      let answer := visitor state node
      if answer.2 then
        let below := tourBelow answer.1 0 children
        (⟨[], node, true⟩ :: below.1, below.2)
      else ([⟨[], node, false⟩], answer.1)

/-- The same for some siblings, of which the first has the given index. -/
def tourBelow (state : σ) (index : Nat) : List Node → List Call × σ
  | [] => ([], state)
  | child :: rest =>
      let here := tour state child
      let later := tourBelow here.2 (index + 1) rest
      (here.1.map (Call.under index) ++ later.1, later.2)

end

/-- The visitor made to write down what it is called on and what it answers. -/
def noting (state : σ × List (Node × Bool)) (node : Node) : (σ × List (Node × Bool)) × Bool :=
  let answer := visitor state.1 node
  ((answer.1, state.2 ++ [(node, answer.2)]), answer.2)

variable {state : σ} {node : Node}

theorem tour_of_true (h : (visitor state node).2 = true) :
    tour visitor state node =
      (⟨[], node, true⟩ :: (tourBelow visitor (visitor state node).1 0 node.children).1,
        (tourBelow visitor (visitor state node).1 0 node.children).2) := by
  cases node
  rw [tour]
  exact if_pos h

theorem tour_of_false (h : (visitor state node).2 = false) :
    tour visitor state node = ([⟨[], node, false⟩], (visitor state node).1) := by
  cases node
  rw [tour]
  exact if_neg (by rw [h]; exact Bool.false_ne_true)

theorem visitFrom_cons_of_true (rest : List Node) (h : (visitor state node).2 = true) :
    visitFrom visitor state (node :: rest) =
      visitFrom visitor (visitor state node).1 (node.children ++ rest) := by
  rw [visitFrom]
  exact if_pos h

theorem visitFrom_cons_of_false (rest : List Node) (h : (visitor state node).2 = false) :
    visitFrom visitor state (node :: rest) = visitFrom visitor (visitor state node).1 rest := by
  rw [visitFrom]
  exact if_neg (by rw [h]; exact Bool.false_ne_true)

/-- What comes later on the list is visited in the state the earlier trees leave. -/
theorem visitFrom_append (state : σ) (nodes others : List Node) :
    visitFrom visitor state (nodes ++ others) =
      visitFrom visitor (visitFrom visitor state nodes) others := by
  induction state, nodes using visitFrom.induct visitor with
  | case1 state => rw [List.nil_append, visitFrom.eq_1 visitor state]
  | case2 state node rest answer hgoes ih =>
      rw [List.cons_append, visitFrom_cons_of_true visitor _ hgoes,
        visitFrom_cons_of_true visitor _ hgoes, ← List.append_assoc, ih]
  | case3 state node rest answer hstops ih =>
      have hstops : (visitor state node).2 = false := Bool.eq_false_iff.mpr hstops
      rw [List.cons_append, visitFrom_cons_of_false visitor _ hstops,
        visitFrom_cons_of_false visitor _ hstops, ih]

/-- Writing down does not change what a visitor does. -/
theorem fst_visitFrom_noting (state : σ) (log : List (Node × Bool)) (pending : List Node) :
    (visitFrom (noting visitor) (state, log) pending).1 = visitFrom visitor state pending := by
  induction state, pending using visitFrom.induct visitor generalizing log with
  | case1 state => rw [visitFrom, visitFrom]
  | case2 state node rest answer hgoes ih =>
      have hnoted : (noting visitor (state, log) node).2 = true := hgoes
      rw [visitFrom_cons_of_true visitor rest hgoes, visitFrom_cons_of_true _ rest hnoted]
      exact ih _
  | case3 state node rest answer hstops ih =>
      have hstops : (visitor state node).2 = false := Bool.eq_false_iff.mpr hstops
      have hnoted : (noting visitor (state, log) node).2 = false := hstops
      rw [visitFrom_cons_of_false visitor rest hstops, visitFrom_cons_of_false _ rest hnoted]
      exact ih _

/-- From the node on, alone on the list, the visitor is called along its tour. -/
def Toured (node : Node) : Prop :=
  ∀ state log, visitFrom (noting visitor) (state, log) [node] =
    ((tour visitor state node).2, log ++ (tour visitor state node).1.map Call.entry)

/-- Each sibling is visited in the state, and with the log, that the one before it leaves. -/
theorem visitFrom_siblings {nodes : List Node} (h : ∀ child ∈ nodes, Toured visitor child)
    (index : Nat) (state : σ) (log : List (Node × Bool)) :
    visitFrom (noting visitor) (state, log) nodes =
      ((tourBelow visitor state index nodes).2,
        log ++ (tourBelow visitor state index nodes).1.map Call.entry) := by
  induction nodes generalizing index state log with
  | nil => rw [visitFrom, tourBelow, List.map_nil, List.append_nil]
  | cons child rest ih =>
      obtain ⟨hchild, hrest⟩ := List.forall_mem_cons.mp h
      have hsplit := visitFrom_append (noting visitor) (state, log) [child] rest
      rw [List.singleton_append] at hsplit
      rw [hsplit, hchild, ih hrest (index + 1), tourBelow, List.map_append, List.map_map,
        List.append_assoc]
      rfl

theorem toured (node : Node) : Toured visitor node := by
  induction node using childInduction with
  | step node ih =>
      intro state log
      cases hanswer : (visitor state node).2 with
      | true =>
          have hnoted : (noting visitor (state, log) node).2 = true := hanswer
          rw [visitFrom_cons_of_true _ [] hnoted, List.append_nil, tour_of_true visitor hanswer,
            List.map_cons, noting, hanswer, visitFrom_siblings visitor ih 0, List.append_assoc]
          rfl
      | false =>
          have hnoted : (noting visitor (state, log) node).2 = false := hanswer
          rw [visitFrom_cons_of_false _ [] hnoted, visitFrom, tour_of_false visitor hanswer, noting,
            hanswer]
          rfl

/-- Calls below some siblings bar nothing in an earlier one. -/
theorem unbarred_tourBelow_of_lt {index first : Nat} (nodes : List Node) (rest : List Nat)
    (found : Node) (h : first < index) :
    unbarred (tourBelow visitor state index nodes).1 (first :: rest, found) = true := by
  induction nodes generalizing state index with
  | nil => rfl
  | cons child others ih =>
      rw [tourBelow, unbarred_append, unbarred_map_under_of_ne _ _ _ (Nat.ne_of_gt h),
        ih (Nat.lt_succ_of_lt h), Bool.and_true]

/-- From every state on, the tour of the node meets those places that it does not bar, in the order
of their positions. -/
def MeetsUnbarred (node : Node) : Prop :=
  ∀ state, (tour visitor state node).1.map Call.place =
    node.places.filter (unbarred (tour visitor state node).1)

theorem map_place_tourBelow {nodes : List Node} (h : ∀ child ∈ nodes, MeetsUnbarred visitor child)
    (index : Nat) (state : σ) :
    (tourBelow visitor state index nodes).1.map Call.place =
      (placesBelow (fun _ => false) index nodes).filter
        (unbarred (tourBelow visitor state index nodes).1) := by
  induction nodes generalizing index state with
  | nil => rfl
  | cons child rest ih =>
      obtain ⟨hchild, hrest⟩ := List.forall_mem_cons.mp h
      rw [tourBelow, placesBelow, List.map_append, List.filter_append, List.filter_map,
        List.map_map]
      congr 1
      · -- In the first sibling only its own calls can bar anything.
        have hplace : Call.place ∘ Call.under index =
            (fun place => (index :: place.1, place.2)) ∘ Call.place := rfl
        rw [hplace, ← List.map_map, hchild]
        refine congrArg _ (List.filter_congr ?_)
        rintro ⟨position, found⟩ _
        rw [Function.comp_apply, unbarred_append, unbarred_map_under,
          unbarred_tourBelow_of_lt visitor rest position found (Nat.lt_succ_self index),
          Bool.and_true]
      · -- And these bar nothing in the others.
        rw [ih hrest]
        apply List.filter_congr
        rintro ⟨position, found⟩ hplace
        obtain ⟨offset, inner, _, rfl, _⟩ := mem_placesBelow.mp hplace
        rw [unbarred_append, unbarred_map_under_of_ne _ _ _ (by omega), Bool.true_and]

/-- A node that was answered false bars all below it. -/
theorem filter_unbarred_of_false (node : Node) (nodes : List Node) :
    (placesBelow (fun _ => false) 0 nodes).filter (unbarred [⟨[], node, false⟩]) = [] := by
  rw [List.filter_eq_nil_iff]
  rintro ⟨position, found⟩ hplace hfree
  obtain ⟨offset, inner, _, rfl, _⟩ := mem_placesBelow.mp hplace
  exact of_decide_eq_true hfree _ List.mem_cons_self
    ⟨rfl, (List.cons_ne_nil _ _).symm, List.nil_prefix⟩

theorem meetsUnbarred (node : Node) : MeetsUnbarred visitor node := by
  induction node using childInduction with
  | step node ih =>
      intro state
      have hplaces : node.places = ([], node) :: placesBelow (fun _ => false) 0 node.children :=
        exposedPlaces_of_shown rfl
      rw [hplaces, List.filter_cons_of_pos (unbarred_nil_position _ _)]
      cases hanswer : (visitor state node).2 with
      | true =>
          rw [tour_of_true visitor hanswer, List.map_cons, unbarred_cons_of_true _ rfl,
            map_place_tourBelow visitor ih]
          rfl
      | false =>
          rw [tour_of_false visitor hanswer, filter_unbarred_of_false]
          rfl

end Visits

/-- The traversals of a tree against recursion. A walk is the recursive pre-order; it goes through
the places of the tree, and a position that leads to a node is that of one place and of no other.
What is found is the pre-order filtered, or the first node that the filter leaves. A visit takes
every visitor, in every state, to the state in which its tour leaves it, and the calls that the
visitor writes down are those of the tour; and a tour is the pre-order of the tree, less the places
below a node that was answered false. -/
theorem traversals_in_preorder (root : Node) :
    root.walk = root.preorder ∧
      (root.walk = root.places.map (·.2) ∧ (root.places.map (·.1)).Nodup ∧
        ∀ position node, (position, node) ∈ root.places ↔ root.nodeAt? position = some node) ∧
      (∀ p, root.findAll p = root.preorder.filter p) ∧
      (∀ kinds, root.findKind kinds = root.preorder.filter fun node => node.kind ∈ kinds) ∧
      (∀ p, root.findFirst? p = (root.preorder.filter p).head?) ∧
      ∀ (σ : Type) (visitor : σ → Node → σ × Bool) (state : σ),
        visit visitor state root = (tour visitor state root).2 ∧
          visit (noting visitor) (state, []) root =
            ((tour visitor state root).2, (tour visitor state root).1.map Call.entry) ∧
          (tour visitor state root).1.map Call.place =
            root.places.filter (unbarred (tour visitor state root).1) := by
  have hwalk := root.walk_eq_preorder
  refine ⟨hwalk, ⟨root.walk_eq_places, ?_, fun _ _ => mem_places⟩, ?_, ?_, ?_, ?_⟩
  · rw [List.nodup_iff_pairwise_ne, List.pairwise_map]
    refine root.pairwise_places.imp fun hless hsame => ?_
    rw [hsame] at hless
    exact List.lt_irrefl _ hless
  · intro p
    rw [findAll, hwalk]
  · intro kinds
    rw [findKind, hwalk]
    refine List.filter_congr fun node _ => ?_
    exact List.contains_eq_mem node.kind kinds
  · intro p
    rw [findFirst?, hwalk, List.head?_filter]
  · intro σ visitor state
    have hnoted := toured visitor root state []
    refine ⟨?_, hnoted, meetsUnbarred visitor root state⟩
    rw [visit, ← fst_visitFrom_noting visitor state [], hnoted]

end Node

end PhpAudit
