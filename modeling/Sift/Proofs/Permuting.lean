import Mathlib.Logic.Relation
import Sift.Proofs.Linked
import Sift.Proofs.Rearranging

/-!
# Leaves of rearranged graphs

Rearranging moves the links between nodes and makes other connectives and `not`s of those that there
are, but no leaf is touched. Moving every `not` to a leaf keeps the leaves in their order. Moving
negated sides to the right is a row of exchanges (`Graph.Exchange`), each of the sides of one
connective with all that is below them. So the words that are searched for are the same, and the
operations of filters are, too.
-/

namespace Sift

/-- Changing the leaves of a tree leaves their places. -/
lemma Tree.leaves_map {α β : Type} {f : α → β} (t : Tree α) :
    (t.map f).leaves = t.leaves.map fun leaf => (leaf.1, f leaf.2) := by
  induction t with
  | leaf s a => rfl
  | not s t ih => exact ih
  | join c s l r ihl ihr => rw [map, leaves, leaves, ihl, ihr, List.map_append]

/-- No position is that of two leaves. -/
lemma Layout.leaves_sublist {α : Type} (t : Layout α) :
    (t.marked.leaves.map fun leaf => leaf.2.1).Sublist t.ids := by
  induction t with
  | leaf i s a => exact .refl _
  | not i s t ih => exact ih.cons i
  | join i c s l r ihl ihr =>
    rw [marked, Tree.leaves, List.map_append]
    exact (ihl.append ihr).cons i

namespace Graph

variable {α : Type} {g g' : Graph α} {i j : Nat}

/-- The leaf at a position, with its site and its position. -/
def leaf? (g : Graph α) (id : Nat) : Option (Site × Nat × α) :=
  (g.node? id).bind fun n =>
    match n.kind with
    | .leaf a => some (n.site, id, a)
    | _ => none

/-- The leaves that a walk from the root visits, from left to right. -/
def leaves (g : Graph α) : Option (List (Site × Nat × α)) :=
  g.walk.map fun walk => walk.filterMap g.leaf?

/-- The leaves of a graph's layout are those of the layout, with their positions. -/
lemma Holds.leaves {p? : Option Nat} {t : Layout α} (h : g.Holds p? t) :
    t.ids.filterMap g.leaf? = t.marked.leaves := by
  induction t generalizing p? with
  | leaf i s a =>
    have root : g.leaf? i = some (s, i, a) := by simp [leaf?, show g.node? i = _ from h, Layout.entry]
    rw [Layout.ids, List.filterMap_cons_some root]
    rfl
  | not i s t ih =>
    have root : g.leaf? i = none := by simp [leaf?, h.1, Layout.entry]
    rw [Layout.ids, List.filterMap_cons_none root]
    exact ih h.2
  | join i c s l r ihl ihr =>
    have root : g.leaf? i = none := by simp [leaf?, h.1, Layout.entry]
    rw [Layout.ids, List.filterMap_cons_none root, List.filterMap_append, ihl h.2.1, ihr h.2.2]
    rfl

/-- The leaves of a graph are those of the layout that it shows. -/
lemma Shows.leaves {l? : Option (Layout α)} (h : g.Shows l?) :
    g.leaves = some ((l?.map Layout.marked).toList.flatMap Tree.leaves) := by
  rw [Graph.leaves, h.walk, Option.map_some]
  cases l? with
  | none => rfl
  | some t => simp [(h.rooted rfl).holds.leaves]

/-- The sides of a connective that can be reached are exchanged, each with all that is below it. -/
inductive Exchange (g : Graph α) : Graph α → Prop
  | sides {i : Nat} {c : Connective} :
    g.Reaches i → g.kind? i = some (.join c) → Exchange g (g.swapChildren i)

/-- Exchanging the children of a node leaves all nodes within reach. -/
lemma Reaches.swapChildren (h : g.Reaches i) : (g.swapChildren j).Reaches i := by
  induction h with
  | root e => exact .root e
  | @child p i _ mem ih =>
    refine .child ih ?_
    rw [children, Graph.swapChildren, node?_update]
    split
    · rw [children] at mem
      cases e : g.node? p with
      | none => simp [e] at mem
      | some n => simpa [e] using mem
    · exact mem

/-- Any exchanges leave all nodes within reach. -/
lemma Reaches.exchanged (h : g.Reaches i) (exchanges : Relation.ReflTransGen Exchange g g') :
    g'.Reaches i := by
  induction exchanges with
  | refl => exact h
  | tail _ step ih =>
    cases step
    exact ih.swapChildren

/-- What comes of exchanges at one node after the other comes of exchanges. -/
lemma exchanges_of_row {op : Graph α → Nat → Option (Graph α)} {row : List Nat}
    (each : ∀ {g g' i}, g.Reaches i → op g i = some g' → Relation.ReflTransGen Exchange g g')
    (below : ∀ i ∈ row, g.Reaches i) (h : row.foldlM op g = some g') :
    Relation.ReflTransGen Exchange g g' := by
  induction row generalizing g with
  | nil =>
    obtain rfl := Option.some.inj h
    exact .refl
  | cons i row ih =>
    obtain ⟨reached, below⟩ := List.forall_mem_cons.1 below
    rw [List.foldlM_cons] at h
    obtain ⟨g₁, first, later⟩ := Option.bind_eq_some_iff.1 h
    have exchanges := each reached first
    exact exchanges.trans (ih (fun j mem => (below j mem).exchanged exchanges) later)

/-- What comes of moving negated sides to the right comes of exchanges. -/
lemma exchanges_of_swapNot {depth : Nat} (reached : g.Reaches i)
    (h : g.swapNot depth i = some g') : Relation.ReflTransGen Exchange g g' := by
  induction depth generalizing g g' i with
  | zero => cases h
  | succ depth ih =>
    rw [swapNot] at h
    obtain ⟨g₁, moved, last⟩ := Option.bind_eq_some_iff.1 h
    obtain rfl := Option.some.inj last
    have exchanges := exchanges_of_row ih (fun j mem => .child reached mem) moved
    -- the sides of the node itself are exchanged last, if they are
    unfold swapSides
    split
    · next kind _ =>
      split
      · exact exchanges.tail (.sides (reached.exchanged exchanges) kind)
      · exact exchanges
    · exact exchanges

/-- Rearranging without moving a `not` is a row of exchanges. -/
lemma exchanges_of_rearrange {swap : Bool} (h : g.rearrange false swap = some g') :
    Relation.ReflTransGen Exchange g g' := by
  cases swap with
  | false =>
    obtain rfl := Option.some.inj h
    exact .refl
  | true =>
    have h : g.atRoot swapNot = some g' := h
    rw [atRoot] at h
    split at h
    · obtain rfl := Option.some.inj h
      exact .refl
    · next root => exact exchanges_of_swapNot (.root root) h

/-- The leaves of a rearranged graph are those of the rearranged tree, each with its position. -/
lemma Carries.leaves_rearrange {t? : Option (Tree α)} (h : g.Carries t?) {push swap : Bool}
    (moved : g.rearrange push swap = some g') :
    ∃ m? : Option (Tree (Nat × α)), g.leaves = some (m?.toList.flatMap Tree.leaves) ∧
      g'.leaves = some (m?.toList.flatMap fun t => (t.rearrange push swap).leaves) := by
  obtain ⟨l?, shown, -⟩ := h
  obtain ⟨g₁, l'?, moved₁, shown', same⟩ := shows_rearrange shown push swap
  obtain rfl := Option.some.inj (moved₁.symm.trans moved)
  refine ⟨l?.map Layout.marked, shown.leaves, ?_⟩
  rw [shown'.leaves, same]
  cases l? <;> rfl

/-- Moving every `not` to a leaf keeps the order of the leaves. -/
lemma Carries.leaves_push {t? : Option (Tree α)} (h : g.Carries t?) {push : Bool}
    (moved : g.rearrange push false = some g') : g'.leaves = g.leaves := by
  obtain ⟨m?, before, after⟩ := h.leaves_rearrange moved
  have same (t : Tree (Nat × α)) : (t.rearrange push false).leaves = t.leaves := by
    cases push with
    | false => rfl
    | true => exact t.leaves_moves.1
  rw [before, after, funext same]

/-- The same leaves are listed, perhaps in another order. -/
lemma Carries.leaves_perm {t? : Option (Tree α)} (h : g.Carries t?) {push swap : Bool}
    (moved : g.rearrange push swap = some g') {leaves leaves' : List (Site × Nat × α)}
    (before : g.leaves = some leaves) (after : g'.leaves = some leaves') : leaves'.Perm leaves := by
  obtain ⟨m?, before', after'⟩ := h.leaves_rearrange moved
  obtain rfl := Option.some.inj (before.symm.trans before')
  obtain rfl := Option.some.inj (after.symm.trans after')
  cases m? with
  | none => exact .refl _
  | some t => simpa using t.leaves_rearrange push swap

end Graph

namespace Query

variable {κ ε : Type}

/-- The leaves of the tree, if there is one. -/
def leaves (q : Query κ ε) : List (Site × Leaf κ ε) := q.tree?.toList.flatMap Tree.leaves

/-- The operations of the filters, from left to right. -/
def operations (q : Query κ ε) : List (Operation κ ε) :=
  q.leaves.filterMap fun
    | (_, .filter o) => some o
    | _ => none

/-- Rearranging a query keeps its leaves, up to their order. -/
lemma leaves_rearrange (q : Query κ ε) (push swap : Bool) :
    (q.rearrange push swap).leaves.Perm q.leaves := by
  unfold leaves rearrange
  cases q.tree? with
  | none => exact .refl _
  | some t => simpa using t.leaves_rearrange push swap

/-- Sorting does not depend on the order. -/
lemma mergeSort_eq_of_perm {xs ys : List String} (h : xs.Perm ys) :
    xs.mergeSort (fun a b => decide (a ≤ b)) = ys.mergeSort (fun a b => decide (a ≤ b)) := by
  have sorted (zs : List String) :
      (zs.mergeSort fun a b => decide (a ≤ b)).Pairwise fun a b => decide (a ≤ b) = true := by
    refine List.pairwise_mergeSort (fun a b c => ?_) (fun a b => ?_) zs
    · simpa using String.le_trans
    · simpa using String.le_total a b
  refine List.Perm.eq_of_pairwise (fun a b _ _ => ?_) (sorted xs) (sorted ys) ?_
  · simpa using String.le_antisymm
  · exact (List.mergeSort_perm xs _).trans (h.trans (List.mergeSort_perm ys _).symm)

/-- Rearranging a query keeps its search words. -/
lemma searchWords_rearrange (q : Query κ ε) (push swap : Bool) :
    (q.rearrange push swap).searchWords = q.searchWords := by
  have leaves (q : Query κ ε) : (q.tree?.map Tree.leaves).getD [] = q.leaves := by
    unfold leaves
    cases q.tree? <;> simp
  rw [searchWords, searchWords, leaves, leaves]
  exact congrArg dedupSorted (mergeSort_eq_of_perm ((q.leaves_rearrange push swap).filterMap _))

end Query

/-- The leaves of the graph of a query are those of its tree, each at a position of its own. -/
lemma Graph.Carries.leaves {κ ε : Type} {q : Query κ ε} {g : Graph (Option (Leaf κ ε))}
    (h : g.Carries (q.tree?.map (Tree.map some))) :
    ∃ leaves, g.leaves = some leaves ∧ (leaves.map fun leaf => leaf.2.1).Nodup ∧
      leaves.map (fun leaf => (leaf.1, leaf.2.2)) =
        q.leaves.map fun leaf => (leaf.1, some leaf.2) := by
  obtain ⟨l?, shown, same⟩ := h
  refine ⟨_, shown.leaves, ?_, ?_⟩
  · cases l? with
    | none => exact List.nodup_nil
    | some t =>
      have nodup := t.leaves_sublist.nodup (shown.rooted rfl).nodup
      simpa using nodup
  · rw [Query.leaves]
    cases l? with
    | none =>
      rw [Option.map_eq_none_iff.1 same.symm]
      rfl
    | some t =>
      obtain ⟨tree, e, same⟩ := Option.map_eq_some_iff.1 same.symm
      have leaves := congrArg Tree.leaves (t.map_marked.trans same.symm)
      rw [Tree.leaves_map, Tree.leaves_map] at leaves
      simpa [e] using leaves

namespace Engine

variable {κ ε : Type} (e : Engine κ ε) (text : String)

/-- Rearranging the graph of a text moves what is above the leaves: the same nodes are leaves, each
at one place of the tree with its kind and its site. Their order changes only where the sides of a
connective are exchanged, and neither words nor operations of filters get lost or come twice. -/
theorem rearranging_keeps_leaves (moves : List (Bool × Bool)) (push swap : Bool) :
    ∃ q q' g pushed g' leaves leaves',
      (e.query text).rearrangeAll moves = q ∧ q.rearrange push swap = q' ∧
      (e.graph? text).bind (·.rearrangeAll moves) = some g ∧
      g.rearrange push false = some pushed ∧ pushed.rearrange false swap = some g' ∧
      g.rearrange push swap = some g' ∧ g.Linked ∧ pushed.Linked ∧ g'.Linked ∧
      g.leaves = some leaves ∧ pushed.leaves = some leaves ∧ g'.leaves = some leaves' ∧
      (leaves.map fun leaf => leaf.2.1).Nodup ∧ leaves'.Perm leaves ∧
      Relation.ReflTransGen Graph.Exchange pushed g' ∧
      leaves'.map (fun leaf => (leaf.1, leaf.2.2)) =
        q'.leaves.map (fun leaf => (leaf.1, some leaf.2)) ∧
      q'.searchWords = q.searchWords ∧ q'.operations.Perm q.operations := by
  obtain ⟨g, found, carried⟩ := e.carries_rearrangeAll text moves
  generalize (e.query text).rearrangeAll moves = q at carried
  obtain ⟨pushed, moved, carriedP⟩ := q.carries_rearrange carried push false
  obtain ⟨g', whole, carried'⟩ := q.carries_rearrange carried push swap
  have exchanged : pushed.rearrange false swap = some g' := by
    rw [Graph.rearrange_eq_bind, moved] at whole
    exact whole
  obtain ⟨leaves, listed, nodup, -⟩ := carried.leaves
  obtain ⟨leaves', listed', -, same⟩ := carried'.leaves
  refine ⟨q, _, g, pushed, g', leaves, leaves', rfl, rfl, found, moved, exchanged, whole,
    Graph.linked_of_carries carried, Graph.linked_of_carries carriedP,
    Graph.linked_of_carries carried', listed, (carried.leaves_push moved).trans listed, listed',
    nodup, carried.leaves_perm whole listed listed', Graph.exchanges_of_rearrange exchanged, same,
    q.searchWords_rearrange push swap, ?_⟩
  exact (q.leaves_rearrange push swap).filterMap _

end Engine

end Sift
