import Sift.Proofs.Linked

/-!
# What pruning leaves

The graph of a text is the graph in which all of its terms have come together, pruned node by node.
What is left is what the recursive `prune` leaves of the tree (`Engine.graph_is_pruned`): the leaves
that are not empty, in order, below the connectives that still have two sides. Nothing is left just
if all leaves are empty.
-/

namespace Sift

namespace Tree

variable {α : Type}

/-- A leaf that is not empty. -/
def kept? (leaf : Site × Option α) : Option (Site × α) := leaf.2.map (leaf.1, ·)

/-- Pruning keeps the leaves that are not empty, in order. -/
lemma leaves_prune (t : Tree (Option α)) :
    t.prune.toList.flatMap leaves = t.leaves.filterMap kept? := by
  induction t with
  | leaf s a? => cases a? <;> rfl
  | not s t ih =>
    rw [leaves, ← ih, prune]
    cases t.prune <;> rfl
  | join c s l r ihl ihr =>
    rw [leaves, List.filterMap_append, ← ihl, ← ihr, prune]
    cases l.prune <;> cases r.prune <;> simp [leaves]

/-- Nothing is left of a tree just if all of its leaves are empty. -/
lemma prune_eq_none_iff {t : Tree (Option α)} :
    t.prune = none ↔ ∀ leaf ∈ t.leaves, leaf.2 = none := by
  have kept : t.prune = none ↔ t.prune.toList.flatMap leaves = [] := by
    cases t.prune with
    | none => simp
    | some t' => simp [t'.leaves_ne_nil]
  rw [kept, leaves_prune, List.filterMap_eq_nil_iff]
  simp only [kept?, Option.map_eq_none_iff]

end Tree

/-- A graph without a root shows no layout. -/
lemma Graph.Shows.root?_eq_none_iff {α : Type} {g : Graph α} {l? : Option (Layout α)}
    (h : g.Shows l?) : g.root? = none ↔ l? = none := by
  cases l? with
  | none => exact iff_of_true h rfl
  | some l => simp [(show g.Rooted l from h).root]

namespace Engine

variable {κ ε : Type}

/-- The graph of a text is the pruned graph of its terms: its nodes are those that the recursive
`prune` leaves, at their old positions, and make up the pruned tree. It is empty just if all leaves
were. -/
theorem graph_is_pruned (e : Engine κ ε) (text : String) :
    ∃ whole? : Option (Layout (Option (Leaf κ ε))), ∃ tree? : Option (Tree (Option (Leaf κ ε))),
      ∃ g, (e.reading text).result?.bind id = tree? ∧
      (Graph.grow e.readTerm (e.outline text)).Shows whole? ∧ whole?.map Layout.tree = tree? ∧
      e.graph? text = some g ∧ g.Shows (whole?.bind Layout.prune) ∧
      (whole?.bind Layout.prune).map Layout.tree = (tree?.bind Tree.prune).map (Tree.map some) ∧
      (e.query text).tree? = tree?.bind Tree.prune ∧
      g.entries = some (((tree?.bind Tree.prune).map (Tree.map some)).toList.flatMap
        Tree.entries) ∧
      (g.root? = none ↔ ∀ tree ∈ tree?, ∀ leaf ∈ tree.leaves, leaf.2 = none) ∧
      ((e.query text).isEmpty = true ↔ ∀ tree ∈ tree?, ∀ leaf ∈ tree.leaves, leaf.2 = none) := by
  obtain ⟨whole?, shown, same⟩ := Graph.carries_grow e.readTerm (e.outline text)
  have same : whole?.map Layout.tree = (e.reading text).result?.bind id := same
  obtain ⟨g, pruned, shown'⟩ := Graph.shows_prune shown
  have tree : (whole?.bind Layout.prune).map Layout.tree =
      (((e.reading text).result?.bind id).bind Tree.prune).map (Tree.map some) := by
    rw [← same]
    cases whole? with
    | none => rfl
    | some l => exact l.tree_prune
  have empty : ((e.reading text).result?.bind id).bind Tree.prune = none ↔
      ∀ tree ∈ (e.reading text).result?.bind id, ∀ leaf ∈ tree.leaves, leaf.2 = none := by
    cases (e.reading text).result?.bind id with
    | none => simp
    | some t => simpa using Tree.prune_eq_none_iff
  have carried : g.Carries _ := ⟨_, shown', tree⟩
  refine ⟨whole?, _, g, rfl, shown, same, pruned, shown', tree, rfl, carried.entries, ?_, ?_⟩
  · rw [shown'.root?_eq_none_iff, ← empty, ← Option.map_eq_none_iff (f := Layout.tree), tree,
      Option.map_eq_none_iff]
  · rw [Query.isEmpty, Option.isNone_iff_eq_none, ← empty]
    rfl

end Engine

end Sift
