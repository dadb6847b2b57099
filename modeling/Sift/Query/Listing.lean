import Sift.Query.Tree

/-!
# Listing trees

The nodes of a tree in one row, each before those below it and the left side before the right. Nodes
are known by their positions in the row.
-/

namespace Sift

/-- What a node is. -/
inductive NodeKind (α : Type) where
  | join (c : Connective)
  | not
  | leaf (a : α)

/-- A node of a listed tree. -/
structure Entry (α : Type) where
  kind : NodeKind α
  site : Site
  parent? : Option Nat
  children : List Nat

namespace Tree

variable {α : Type}

/-- The nodes of a tree whose root has the given parent and the position `start`. -/
def entriesFrom (parent? : Option Nat) (start : Nat) : Tree α → List (Entry α)
  | leaf s a => [⟨.leaf a, s, parent?, []⟩]
  | not s t => ⟨.not, s, parent?, [start + 1]⟩ :: t.entriesFrom (some start) (start + 1)
  | join c s l r =>
    ⟨.join c, s, parent?, [start + 1, start + 1 + l.size]⟩ ::
      (l.entriesFrom (some start) (start + 1) ++
        r.entriesFrom (some start) (start + 1 + l.size))

/-- The nodes of a tree. -/
def entries (t : Tree α) : List (Entry α) := t.entriesFrom none 0

end Tree
end Sift
