import PhpAudit.Syntax.Node

/-!
Traversals in source order. They keep the nodes still to come on a list, so that deeply nested
trees need no deep recursion, and end because the number of nodes to come shrinks.
-/

namespace PhpAudit

namespace Node

/-- Pre-order of the trees on the list, the first one first. -/
def walkFrom : List Node → List Node
  | [] => []
  | node :: rest => node :: walkFrom (node.children ++ rest)
  termination_by pending => sizeAll pending
  decreasing_by simp only [sizeAll, sizeAll_append, size_eq]; omega

/-- All nodes of a tree, each before its children and these from left to right. -/
def walk (root : Node) : List Node := walkFrom [root]

/-- Folds a visitor over the trees on the list; where it answers false the subtree is left out. -/
def visitFrom {σ : Type} (visitor : σ → Node → σ × Bool) (state : σ) : List Node → σ
  | [] => state
  | node :: rest =>
      let answer := visitor state node
      if answer.2 then visitFrom visitor answer.1 (node.children ++ rest)
      else visitFrom visitor answer.1 rest
  termination_by pending => sizeAll pending
  decreasing_by
    · simp only [sizeAll, sizeAll_append, size_eq]; omega
    · simp only [sizeAll, size_eq]; omega

def visit {σ : Type} (visitor : σ → Node → σ × Bool) (state : σ) (root : Node) : σ :=
  visitFrom visitor state [root]

def findAll (root : Node) (p : Node → Bool) : List Node := (walk root).filter p

def findFirst? (root : Node) (p : Node → Bool) : Option Node := (walk root).find? p

def findKind (root : Node) (kinds : List String) : List Node :=
  (walk root).filter fun node => kinds.contains node.kind

end Node

end PhpAudit
