import Sift.Query.Outline

/-!
# Query trees

A query is a tree of terms under `and`, `or` and `not`. Every node keeps the site it comes from.
-/

namespace Sift

/-- A tree over leaves of type `α`. -/
inductive Tree (α : Type) where
  | leaf (site : Site) (a : α)
  | not (site : Site) (t : Tree α)
  | join (c : Connective) (site : Site) (l r : Tree α)

namespace Tree

variable {α β : Type}

/-- Where the root of a tree comes from. -/
def site : Tree α → Site
  | leaf s _ => s
  | not s _ => s
  | join _ s _ _ => s

/-- The leaves of a tree from left to right, with their sites. -/
def leaves : Tree α → List (Site × α)
  | leaf s a => [(s, a)]
  | not _ t => t.leaves
  | join _ _ l r => l.leaves ++ r.leaves

/-- The number of nodes of a tree. -/
def size : Tree α → Nat
  | leaf _ _ => 1
  | not _ t => t.size + 1
  | join _ _ l r => l.size + r.size + 1

/-- A text of the tree: that of a leaf is its source, and every connective has parentheses. -/
def identifier : Tree α → List Char
  | leaf s _ => s.source
  | not _ t => "not ".toList ++ t.identifier
  | join c _ l r =>
    ['('] ++ l.identifier ++ [' '] ++ c.keyword.toList ++ [' '] ++ r.identifier ++ [')']

/-- The tree without its empty leaves: a `not` goes with its operand, and a connective that loses a
side is replaced by the other. -/
def prune : Tree (Option α) → Option (Tree α)
  | leaf s a? => a?.map (leaf s)
  | not s t => t.prune.map (not s)
  | join c s l r =>
    match l.prune, r.prune with
    | some l, some r => some (join c s l r)
    | some l, none => some l
    | none, r? => r?

end Tree
end Sift
