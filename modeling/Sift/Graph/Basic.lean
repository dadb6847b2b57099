import Sift.Query.Listing

/-!
# Query graphs

A graph keeps the nodes of a tree in one array, where each is known by its position. Nodes refer to
those below them and to the one above. Changes only move these links: a node that is left out stays
in the array with whatever links it has, and cannot be reached from the root any more.
-/

namespace Sift

/-- Nodes, and the one that a tree of them begins with. -/
structure Graph (α : Type) where
  nodes : Array (Entry α) := #[]
  root? : Option Nat := none

namespace Graph

variable {α : Type}

/-- The node at a position. -/
def node? (g : Graph α) (id : Nat) : Option (Entry α) := g.nodes[id]?

/-- What the node at a position is. -/
def kind? (g : Graph α) (id : Nat) : Option (NodeKind α) := (g.node? id).map Entry.kind

/-- The node above the one at a position. -/
def parent? (g : Graph α) (id : Nat) : Option Nat := (g.node? id).bind Entry.parent?

/-- The nodes below the one at a position, from left to right. -/
def children (g : Graph α) (id : Nat) : List Nat := ((g.node? id).map Entry.children).getD []

/-- Where the node at a position comes from. -/
def site (g : Graph α) (id : Nat) : Site := ((g.node? id).map Entry.site).getD ⟨⟨0, 0⟩, []⟩

/-- Puts a node without links behind the others. -/
def add (g : Graph α) (kind : NodeKind α) (site : Site) : Graph α :=
  { g with nodes := g.nodes.push ⟨kind, site, none, []⟩ }

/-- Changes the node at a position. -/
def update (g : Graph α) (id : Nat) (f : Entry α → Entry α) : Graph α :=
  { g with nodes := g.nodes.modify id f }

/-- Makes a node one of another kind. -/
def setKind (g : Graph α) (id : Nat) (kind : NodeKind α) : Graph α :=
  g.update id fun n => { n with kind }

/-- Lets a node refer to another one above it, or to none. -/
def setParent (g : Graph α) (id : Nat) (parent? : Option Nat) : Graph α :=
  g.update id fun n => { n with parent? }

/-- Begins the tree with another node, or with none. -/
def setRoot (g : Graph α) (root? : Option Nat) : Graph α :=
  match root? with
  | none => { g with root? := none }
  | some id => { g.setParent id none with root? := some id }

/-- Puts a node below another one, as its last child. -/
def addChild (g : Graph α) (parent child : Nat) : Graph α :=
  (g.update parent fun n => { n with children := n.children ++ [child] }).setParent child parent

/-- Takes a node from the children of another one. -/
def removeChild (g : Graph α) (parent child : Nat) : Graph α :=
  (g.update parent fun n => { n with children := n.children.filter (· != child) }).setParent child
    none

/-- Takes all children from a node. -/
def takeChildren (g : Graph α) (id : Nat) : Graph α :=
  (g.children id).foldl (fun g child => g.setParent child none)
    (g.update id fun n => { n with children := [] })

/-- Takes a node from its place, if it has one. -/
def detach (g : Graph α) (id : Nat) : Graph α :=
  match g.parent? id with
  | none => g
  | some parent => g.removeChild parent id

/-- Puts a node into the place of another one, below the same node or as the root. The other one is
left without a place. -/
def replaceNode (g : Graph α) (old replacement : Nat) : Graph α :=
  let g := g.detach replacement
  match g.parent? old with
  | some parent =>
    ((g.setParent old none).update parent fun n =>
      { n with children := n.children.map fun child => if child = old then replacement else child })
      |>.setParent replacement parent
  | none => if g.root? = some old then g.setRoot replacement else g

/-- Exchanges the children of a node. -/
def swapChildren (g : Graph α) (id : Nat) : Graph α :=
  g.update id fun n => { n with children := n.children.reverse }

/-- The nodes below those of a row, with the row, each before what is below it. There are none if a
position is that of no node, or if more than `limit` nodes would be visited. -/
def walkFrom (g : Graph α) : Nat → List Nat → Option (List Nat)
  | _, [] => some []
  | 0, _ :: _ => none
  | limit + 1, id :: stack => do
    let n ← g.node? id
    let later ← g.walkFrom limit (n.children ++ stack)
    return id :: later

/-- The nodes that can be reached from the root, parents before children. In a tree they are at most
as many as there are nodes; where the links go in a circle there is no result. -/
def walk (g : Graph α) : Option (List Nat) := g.walkFrom g.nodes.size g.root?.toList

/-- A node with the places in a walk for the positions of its links. -/
def entry? (g : Graph α) (walk : List Nat) (id : Nat) : Option (Entry α) :=
  (g.node? id).map fun n =>
    { n with parent? := n.parent?.map walk.idxOf, children := n.children.map walk.idxOf }

/-- The nodes of a walk from the root, each known by its place in the walk. -/
def entries (g : Graph α) : Option (List (Entry α)) :=
  g.walk.bind fun walk => walk.mapM (g.entry? walk)

end Graph

end Sift
