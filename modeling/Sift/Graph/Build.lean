import Sift.Graph.Basic
import Sift.Query.Basic

/-!
# Building graphs

A graph is built from the outline of a text, level by level. Every term and every combinator is a
node. The nodes of a level stand in a row, in which a combinator without children takes those beside
it as its operands. The errors on the way are those of reading the outline.

When the tree is whole, it is looked through once more, and its empty leaves are removed one by one.
A `not` goes with its operand, and the last operand of a connective takes its place.
-/

namespace Sift

namespace Combinator

/-- The nodes of a combinator. -/
def kind {α : Type} : Combinator → NodeKind α
  | not => .not
  | join c => .join c

/-- Whether a combinator is a connective. -/
def isJoin : Combinator → Bool
  | not => false
  | join _ => true

end Combinator

namespace Graph

variable {α : Type}

/-- The combinator that a node is, if it has no operands yet. -/
def open? (g : Graph α) (id : Nat) : Option Combinator :=
  match g.node? id with
  | some ⟨.not, _, _, []⟩ => some .not
  | some ⟨.join c, _, _, []⟩ => some (.join c)
  | _ => none

/-- The row with an `and` between a term and a next item that is no connective. -/
def insertAnd (g : Graph α) : List Nat → Graph α × List Nat
  | x :: y :: rest =>
    if (g.open? x).isNone && !(g.open? y).any Combinator.isJoin then
      let (g', row) := (g.add (.join .and) (.gap (g.site x) (g.site y))).insertAnd (y :: rest)
      (g', x :: g.nodes.size :: row)
    else
      let (g, row) := g.insertAnd (y :: rest)
      (g, x :: row)
  | row => (g, row)

/-- The row in which every `not` has taken the term behind it. -/
def applyNot (g : Graph α) : List Nat → Graph α × List Nat
  | [] => (g, [])
  | id :: rest =>
    let (g, rest) := g.applyNot rest
    if g.open? id = some .not then
      match rest with
      | operand :: rest =>
        if (g.open? operand).isNone then (g.addChild id operand, id :: rest)
        else (g, operand :: rest)
      | [] => (g, [])
    else (g, id :: rest)

/-- The row behind `left?`, in which every `c` has taken the terms at its sides, together with
`left?`. -/
def applyJoin (g : Graph α) (c : Connective) (left? : Option Nat) : List Nat → Graph α × List Nat
  | [] => (g, left?.toList)
  | id :: rest =>
    if g.open? id = some (.join c) then
      match left?, rest with
      | some l, r :: rest =>
        if (g.open? l).isNone && (g.open? r).isNone then
          ((g.addChild id l).addChild id r).applyJoin c (some id) rest
        else g.applyJoin c (some l) (r :: rest)
      | left?, rest => g.applyJoin c left? rest
    else
      let (g, row) := g.applyJoin c (some id) rest
      (g, left?.toList ++ row)

/-- The one node that a row comes together to, if it is not empty. Of a row that does not come
together there is no result. -/
def combine (g : Graph α) (row : List Nat) : Graph α × Option (Option Nat) :=
  let (g, row) := g.insertAnd row
  let (g, row) := g.applyNot row
  let (g, row) := g.applyJoin .and none row
  let (g, row) := g.applyJoin .or none row
  match row with
  | [] => (g, some none)
  | [id] => (g, some (some id))
  | _ :: _ :: _ => (g, none)

/-- The row of nodes of a level, unless the outline breaks off. -/
def plant (read : Term → Except QueryError (Option α)) (g : Graph (Option α)) :
    Outline → Graph (Option α) × Option (List Nat)
  | .done => (g, some [])
  | .broken _ => (g, none)
  | .blank _ next => g.plant read next
  | .combinator k s next =>
    let (g', row?) := (g.add k.kind s).plant read next
    (g', row?.map (g.nodes.size :: ·))
  | .term t next =>
    let (g', row?) := (g.add (.leaf ((read t).toOption.bind id)) t.site).plant read next
    (g', row?.map (g.nodes.size :: ·))
  | .group inner next =>
    match g.plant read inner with
    | (g, none) => (g, none)
    | (g, some row) =>
      match g.combine row with
      | (g, none) => (g, none)
      | (g, some id?) =>
        let (g, row?) := g.plant read next
        (g, row?.map (id?.toList ++ ·))

/-- The tree of a text, in which all of the nodes are linked. -/
def grow (read : Term → Except QueryError (Option α)) (o : Outline) : Graph (Option α) :=
  match plant read {} o with
  | (g, none) => g
  | (g, some row) =>
    let (g, root?) := g.combine row
    g.setRoot (root?.bind id)

/-- The errors of the nodes that can be reached, parents first. Every one must have as many children
as its kind asks for. -/
def validate {κ ε : Type} (g : Graph (Option (Leaf κ ε))) : Option (List QueryError) :=
  g.walk.map fun walk => walk.filterMap fun id => (g.node? id).bind Entry.objection?

/-- Removes a node with all that is below it. Nothing remains of a node that has lost all of its
children, and of a connective that has lost one the other remains. There is no result if more than
`height` nodes, one above the other, would be removed. -/
def removeSubtree : Nat → Graph α → Nat → Option (Graph α)
  | 0, _, _ => none
  | height + 1, g, id =>
    match g.parent? id with
    | none => some (if g.root? = some id then g.setRoot none else g)
    | some parent =>
      let g := g.removeChild parent id
      match g.children parent, g.kind? parent with
      | [], _ => g.removeSubtree height parent
      | [_], some .not => some g
      | [remaining], _ => some (g.replaceNode parent remaining)
      | _ :: _ :: _, _ => some g

/-- Whether a node is an empty leaf. -/
def isEmptyLeaf (g : Graph (Option α)) (id : Nat) : Bool :=
  match g.kind? id with
  | some (.leaf none) => true
  | _ => false

/-- The graph without its empty leaves. No branch of a tree is higher than the number of nodes. -/
def prune (g : Graph (Option α)) : Option (Graph (Option α)) := do
  let walk ← g.walk
  (walk.filter g.isEmptyLeaf).foldlM (fun g id => g.removeSubtree g.nodes.size id) g

end Graph

/-- The graph of a text. -/
def Engine.graph? {κ ε : Type} (e : Engine κ ε) (text : String) :
    Option (Graph (Option (Leaf κ ε))) :=
  (Graph.grow e.readTerm (e.outline text)).prune

end Sift
