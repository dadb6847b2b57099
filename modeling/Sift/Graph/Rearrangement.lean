import Sift.Graph.Basic
import Sift.Query.Rearrangement

/-!
# Rearranging graphs

The rearrangements of trees, by moving the links between nodes. A double `not` is left out. By the
laws of De Morgan a `not` becomes the connective and the connective becomes the `not` of its left
side; only the `not` of the right side is a new node.
-/

namespace Sift

namespace Graph

variable {α : Type}

/-- Turns the `not` of a connective into a connective of two `not`s. -/
def moveNot (g : Graph α) (id inner : Nat) (c : Connective) : Graph α :=
  match g.children inner with
  | [left, right] =>
    let g := (g.takeChildren inner).removeChild id inner
    let g := ((g.setKind id (.join c.dual)).setKind inner .not).addChild inner left
    let negated := g.nodes.size
    let g := (g.add .not ⟨(g.site right).span, []⟩).addChild negated right
    (g.addChild id inner).addChild id negated
  | _ => g

/-- Moves every `not` below a node to a leaf, unless that takes more than `depth` calls inside each
other. -/
def pushNot : Nat → Graph α → Nat → Option (Graph α)
  | 0, _, _ => none
  | depth + 1, g, id =>
    match g.kind? id with
    | some .not =>
      match g.children id with
      | [] => some g
      | child :: _ =>
        match g.kind? child with
        | some .not =>
          match g.children child with
          | [] => some g
          | grandchild :: _ => (g.replaceNode id grandchild).pushNot depth grandchild
        | some (.join c) =>
          let g := g.moveNot id child c
          (g.children id).foldlM (pushNot depth) g
        | _ => some g
    | some (.join _) => (g.children id).foldlM (pushNot depth) g
    | _ => some g

/-- Whether a node is a `not`. -/
def isNot (g : Graph α) (id : Nat) : Bool :=
  match g.kind? id with
  | some .not => true
  | _ => false

/-- Exchanges the children of a connective, if the left one alone is a `not`. -/
def swapSides (g : Graph α) (id : Nat) (children : List Nat) : Graph α :=
  match g.kind? id, children with
  | some (.join _), [left, right] =>
    if g.isNot left && !g.isNot right then g.swapChildren id else g
  | _, _ => g

/-- Moves negated sides of connectives to the right of others, below a node, unless that takes more
than `depth` calls inside each other. -/
def swapNot : Nat → Graph α → Nat → Option (Graph α)
  | 0, _, _ => none
  | depth + 1, g, id => do
    let children := g.children id
    let g ← children.foldlM (swapNot depth) g
    return g.swapSides id children

/-- Does something at the root, if there is one. The depth that it may go to is the number of nodes,
which a tree does not exceed. -/
def atRoot (g : Graph α) (op : Nat → Graph α → Nat → Option (Graph α)) : Option (Graph α) :=
  match g.root? with
  | none => some g
  | some id => op g.nodes.size g id

/-- Moves every `not` to a leaf, then negated sides to the right; each only if it is asked for. -/
def rearrange (g : Graph α) (push swap : Bool) : Option (Graph α) :=
  (if push then g.atRoot pushNot else some g).bind fun g =>
    if swap then g.atRoot swapNot else some g

/-- The graph rearranged again and again. -/
def rearrangeAll (g : Graph α) (moves : List (Bool × Bool)) : Option (Graph α) :=
  moves.foldlM (fun g (push, swap) => g.rearrange push swap) g

end Graph

end Sift
