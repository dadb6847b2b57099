import Sift.Proofs.Linked

/-!
# Graphs that no rearrangement changes

Whether the links of a graph are those of a tree can be said without its layout (`Graph.IsTree`);
such a graph has one (`Graph.IsTree.exists_layout`). Moving every `not` to a leaf does so in a tree
of any shape, and moving negated sides to the right does not undo it. After both passes no `not` is
left to move and no sides are left to exchange, so that the operations find nothing to do and return
the graph that they are given.
-/

namespace Sift

namespace Tree

variable {α : Type}

/-- Whether every `not` is that of a leaf. -/
def NotsAtLeaves : Tree α → Prop
  | leaf _ _ => True
  | not _ t => ∃ s a, t = leaf s a
  | join _ _ l r => l.NotsAtLeaves ∧ r.NotsAtLeaves

/-- Whether no negated side is to the left of one that is not negated. -/
def NotsAtRight : Tree α → Prop
  | leaf _ _ => True
  | not _ t => t.NotsAtRight
  | join _ _ l r => l.NotsAtRight ∧ r.NotsAtRight ∧ (l.isNot = true → r.isNot = true)

/-- Both kinds of moves bring every `not` to a leaf. -/
lemma notsAtLeaves_moves (t : Tree α) :
    t.pushNot.NotsAtLeaves ∧ ∀ s, (t.pushNotInto s).NotsAtLeaves := by
  induction t with
  | leaf s a => exact ⟨trivial, fun _ => ⟨s, a, rfl⟩⟩
  | not s t ih => exact ⟨ih.2 s, fun _ => ih.1⟩
  | join c s l r ihl ihr => exact ⟨⟨ihl.1, ihr.1⟩, fun _ => ⟨ihl.2 s, ihr.2 r.newNotSite⟩⟩

/-- Exchanging sides leaves every `not` above a leaf. -/
lemma NotsAtLeaves.swapNot {t : Tree α} (h : t.NotsAtLeaves) : t.swapNot.NotsAtLeaves := by
  induction t with
  | leaf s a => trivial
  | not s t ih =>
    obtain ⟨s', a, rfl⟩ := h
    exact ⟨s', a, rfl⟩
  | join c s l r ihl ihr =>
    rw [Tree.swapNot, swapSides]
    split
    · exact ⟨ihr h.2, ihl h.1⟩
    · exact ⟨ihl h.1, ihr h.2⟩

/-- After exchanging sides no negated side is to the left of one that is not negated. -/
lemma notsAtRight_swapNot (t : Tree α) : t.swapNot.NotsAtRight := by
  induction t with
  | leaf s a => trivial
  | not s t ih => exact ih
  | join c s l r ihl ihr =>
    rw [swapNot, swapSides]
    split
    · next exchanged =>
      rw [Bool.and_eq_true] at exchanged
      exact ⟨ihr, ihl, fun _ => exchanged.1⟩
    · next kept => exact ⟨ihl, ihr, fun left => by simpa [left] using kept⟩

end Tree

namespace Graph

variable {α : Type} {g : Graph α} {t : Layout α} {p? : Option Nat}

/-- The links are those of a tree, if there is a root. -/
structure IsTree (g : Graph α) : Prop where
  /-- The root has no parent. -/
  root : ∀ i, g.root? = some i → g.parent? i = none
  /-- What a node lists has it as its parent. -/
  child : ∀ i, g.Reaches i → ∀ j ∈ g.children i, g.parent? j = some i
  /-- Every node has as many children as its kind asks for. -/
  arity : ∀ i, g.Reaches i → ∃ n, g.node? i = some n ∧ n.children.length = n.kind.arity
  /-- A walk comes to an end and visits no node twice. -/
  walk : ∃ ids, g.walk = some ids ∧ ids.Nodup

/-- A node takes the layouts below it, as many as its kind asks for. -/
lemma exists_over {i : Nat} {n : Entry α} {below : List (Layout α)} (node : g.node? i = some n)
    (children : n.children = below.map Layout.id) (arity : n.children.length = n.kind.arity)
    (holds : ∀ t ∈ below, g.Holds (some i) t) :
    ∃ t : Layout α, t.id = i ∧ t.ids = i :: below.flatMap Layout.ids ∧ g.Holds n.parent? t := by
  obtain ⟨kind, site, parent?, _⟩ := n
  obtain rfl : _ = below.map Layout.id := children
  rw [List.length_map] at arity
  cases kind with
  | leaf a =>
    obtain rfl := List.length_eq_zero_iff.1 arity
    exact ⟨.leaf i site a, rfl, rfl, node⟩
  | not =>
    obtain ⟨t, rfl⟩ := List.length_eq_one_iff.1 arity
    exact ⟨.not i site t, rfl, by simp [Layout.ids], node, holds t (by simp)⟩
  | join c =>
    obtain ⟨l, r, rfl⟩ := List.length_eq_two.1 arity
    exact ⟨.join i c site l r, rfl, by simp [Layout.ids], node, holds l (by simp),
      holds r (by simp)⟩

namespace IsTree

/-- What a walk of a row visits are layouts, one for each node of the row. -/
lemma exists_row (tree : g.IsTree) {limit : Nat} {row ids : List Nat}
    (walk : g.walkFrom limit row = some ids) (reached : ∀ i ∈ row, g.Reaches i) :
    ∃ ts : List (Layout α), ts.map Layout.id = row ∧ ts.flatMap Layout.ids = ids ∧
      ∀ t ∈ ts, g.Holds (g.parent? t.id) t := by
  induction limit generalizing row ids with
  | zero =>
    cases row with
    | nil => exact ⟨[], rfl, Option.some.inj walk, nofun⟩
    | cons i row => cases walk
  | succ limit ih =>
    cases row with
    | nil => exact ⟨[], rfl, Option.some.inj walk, nofun⟩
    | cons i row =>
      obtain ⟨reachedRoot, reachedRow⟩ := List.forall_mem_cons.1 reached
      obtain ⟨n, node, arity⟩ := tree.arity i reachedRoot
      have listed : g.children i = n.children := children_of_node? node
      rw [walkFrom_cons node] at walk
      obtain ⟨later, walkLater, rfl⟩ := Option.map_eq_some_iff.1 walk
      obtain ⟨ts, roots, rfl, holds⟩ := ih walkLater <| List.forall_mem_append.2
        ⟨fun j mem => .child reachedRoot (listed ▸ mem), reachedRow⟩
      -- the layouts behind the node are those of its children, then those of the rest of the row
      obtain ⟨below, rest, rfl, children, rfl⟩ := List.map_eq_append_iff.1 roots
      obtain ⟨holdsBelow, holdsRest⟩ := List.forall_mem_append.1 holds
      have holdsBelow : ∀ t ∈ below, g.Holds (some i) t := by
        intro t mem
        have child : t.id ∈ g.children i := by
          rw [listed, ← children]
          exact List.mem_map_of_mem mem
        rw [← tree.child i reachedRoot t.id child]
        exact holdsBelow t mem
      obtain ⟨t, rfl, ids, holds⟩ := exists_over node children.symm arity holdsBelow
      have above : g.parent? t.id = n.parent? := by rw [Graph.parent?, node, Option.bind_some]
      refine ⟨t :: rest, rfl, ?_, List.forall_mem_cons.2 ⟨above ▸ holds, holdsRest⟩⟩
      rw [List.flatMap_cons, ids, List.flatMap_append, List.cons_append]

/-- A graph that is a tree has a layout, or no root. -/
lemma exists_layout (tree : g.IsTree) : ∃ l?, g.Shows l? := by
  cases root : g.root? with
  | none => exact ⟨none, root⟩
  | some i =>
    obtain ⟨ids, walk, nodup⟩ := tree.walk
    rw [Graph.walk, root] at walk
    obtain ⟨ts, roots, visited, holds⟩ := tree.exists_row walk (by simpa using .root root)
    obtain ⟨t, rfl, rfl⟩ := List.map_eq_singleton_iff.1 roots
    have holds := holds t List.mem_cons_self
    rw [tree.root t.id root] at holds
    rw [List.flatMap_singleton] at visited
    exact ⟨some t, root, holds, visited ▸ nodup⟩

end IsTree

/-- A graph that shows a layout is a tree. -/
lemma Shows.isTree {l? : Option (Layout α)} (h : g.Shows l?) : g.IsTree where
  root i e := by
    obtain ⟨t, mem, _⟩ := h.reaches_iff.1 (.root e)
    have rooted := h.rooted mem
    obtain rfl := Option.some.inj (rooted.root.symm.trans e)
    exact rooted.holds.parent?_id
  child i reached j child := by
    obtain ⟨t, mem, inside⟩ := h.reaches_iff.1 reached
    exact ((h.rooted mem).child inside child).2
  arity i reached := by
    obtain ⟨t, mem, inside⟩ := h.reaches_iff.1 reached
    obtain ⟨n, node, arity, _⟩ := (h.rooted mem).arity inside
    exact ⟨n, node, arity⟩
  walk := by
    refine ⟨_, h.walk, ?_⟩
    cases l? with
    | none => exact List.nodup_nil
    | some t => simpa using (h.rooted rfl).nodup

/-- Every `not` is that of a leaf. -/
def NotsAtLeaves (g : Graph α) : Prop :=
  ∀ i, g.Reaches i → g.isNot i = true → ∃ j a, g.children i = [j] ∧ g.kind? j = some (.leaf a)

/-- No connective has a `not` to the left of something else. -/
def NotsAtRight (g : Graph α) : Prop :=
  ∀ i c, g.Reaches i → g.kind? i = some (.join c) →
    ∃ l r, g.children i = [l, r] ∧ (g.isNot l = true → g.isNot r = true)

namespace Holds

/-- What a tree passes on to those below it holds of the layout at every position. -/
lemma exists_at {P : Tree (Nat × α) → Prop} (ofNot : ∀ {s t}, P (.not s t) → P t)
    (ofJoin : ∀ {c s l r}, P (.join c s l r) → P l ∧ P r) (h : g.Holds p? t) (settled : P t.marked)
    {i : Nat} (mem : i ∈ t.ids) : ∃ q? t', t'.id = i ∧ g.Holds q? t' ∧ P t'.marked := by
  induction t generalizing p? with
  | leaf j s a =>
    obtain rfl := List.mem_singleton.1 mem
    exact ⟨p?, _, rfl, h, settled⟩
  | not j s t ih =>
    obtain rfl | mem := List.mem_cons.1 mem
    · exact ⟨p?, _, rfl, h, settled⟩
    · exact ih h.2 (ofNot settled) mem
  | join j c s l r ihl ihr =>
    obtain rfl | mem := List.mem_cons.1 mem
    · exact ⟨p?, _, rfl, h, settled⟩
    · obtain mem | mem := List.mem_append.1 mem
      · exact ihl h.2.1 (ofJoin settled).1 mem
      · exact ihr h.2.2 (ofJoin settled).2 mem

/-- A `not` in a settled layout is above a leaf. -/
lemma notsAtLeaves (h : g.Holds p? t) (settled : t.marked.NotsAtLeaves) {i : Nat} (mem : i ∈ t.ids)
    (isNot : g.isNot i = true) : ∃ j a, g.children i = [j] ∧ g.kind? j = some (.leaf a) := by
  have ofNot {s : Site} {t : Tree (Nat × α)} (h : (Tree.not s t).NotsAtLeaves) :
      t.NotsAtLeaves := by
    obtain ⟨s', a, rfl⟩ := h
    trivial
  obtain ⟨q?, t', rfl, holds, settled⟩ := h.exists_at ofNot id settled mem
  cases t' with
  | leaf i s a => cases holds.isNot_id.symm.trans isNot
  | not i s t =>
    obtain ⟨s', a, leaf⟩ := settled
    cases t with
    | leaf j s' a => exact ⟨j, a, holds.children_id, holds.2.kind?_id⟩
    | not | join => cases leaf
  | join i c s l r => cases holds.isNot_id.symm.trans isNot

/-- A negated left side in a settled layout has a negated right side beside it. -/
lemma notsAtRight (h : g.Holds p? t) (settled : t.marked.NotsAtRight) {i : Nat} (mem : i ∈ t.ids)
    {c : Connective} (kind : g.kind? i = some (.join c)) :
    ∃ l r, g.children i = [l, r] ∧ (g.isNot l = true → g.isNot r = true) := by
  obtain ⟨q?, t', rfl, holds, settled⟩ := h.exists_at id (fun h => ⟨h.1, h.2.1⟩) settled mem
  cases t' with
  | leaf i s a => cases holds.kind?_id.symm.trans kind
  | not i s t => cases holds.kind?_id.symm.trans kind
  | join i c' s l r =>
    refine ⟨l.id, r.id, holds.children_id, ?_⟩
    rw [holds.2.1.isNot_id, holds.2.2.isNot_id]
    exact settled.2.2

/-- There is no `not` to move. -/
lemma pushNot_eq (h : g.Holds p? t) (settled : t.marked.NotsAtLeaves) {depth : Nat}
    (within : t.ids.length ≤ depth) : g.pushNot depth t.id = some g := by
  induction t generalizing p? depth with
  | leaf i s a =>
    obtain ⟨depth, rfl⟩ := Layout.exists_of_length_le within
    rw [pushNot, h.kind?_id]
    rfl
  | not i s t ih =>
    obtain ⟨depth, rfl⟩ := Layout.exists_of_length_le within
    obtain ⟨s', a, leaf⟩ := settled
    cases t with
    | leaf j s' a =>
      have kind : g.kind? j = some (.leaf a) := h.2.kind?_id
      rw [pushNot, h.kind?_id, h.children_id]
      simp [Layout.entry, kind]
    | not | join => cases leaf
  | join i c s l r ihl ihr =>
    obtain ⟨depth, rfl⟩ := Layout.exists_of_length_le within
    obtain ⟨withinL, withinR⟩ := Layout.sides_length_le within
    rw [pushNot, h.kind?_id, h.children_id]
    simp [Layout.entry, ihl h.2.1 settled.1 withinL, ihr h.2.2 settled.2 withinR]

/-- There are no sides to exchange. -/
lemma swapNot_eq (h : g.Holds p? t) (settled : t.marked.NotsAtRight) {depth : Nat}
    (within : t.ids.length ≤ depth) : g.swapNot depth t.id = some g := by
  induction t generalizing p? depth with
  | leaf i s a =>
    obtain ⟨depth, rfl⟩ := Layout.exists_of_length_le within
    have sides : [].foldlM (swapNot depth) g = some g := rfl
    rw [swapNot_of_sides h.children_id sides]
    simp only [swapSides, h.kind?_id, Layout.entry]
  | not i s t ih =>
    obtain ⟨depth, rfl⟩ := Layout.exists_of_length_le within
    have inner := ih h.2 settled (Nat.le_of_succ_le_succ within)
    have sides : [t.id].foldlM (swapNot depth) g = some g := by simp [inner]
    rw [swapNot_of_sides h.children_id sides]
    simp only [swapSides, h.kind?_id, Layout.entry]
  | join i c s l r ihl ihr =>
    obtain ⟨depth, rfl⟩ := Layout.exists_of_length_le within
    obtain ⟨withinL, withinR⟩ := Layout.sides_length_le within
    have left := ihl h.2.1 settled.1 withinL
    have right := ihr h.2.2 settled.2.1 withinR
    have sides : [l.id, r.id].foldlM (swapNot depth) g = some g := by simp [left, right]
    rw [swapNot_of_sides h.children_id sides]
    simp only [swapSides, h.kind?_id, h.2.1.isNot_id, h.2.2.isNot_id, Layout.entry]
    refine congrArg some (if_neg ?_)
    simpa using settled.2.2

end Holds

namespace Shows

variable {l? : Option (Layout α)}

/-- A graph with a settled layout has every `not` above a leaf. -/
lemma notsAtLeaves (h : g.Shows l?) (settled : ∀ l ∈ l?, l.marked.NotsAtLeaves) :
    g.NotsAtLeaves := by
  intro i reached isNot
  obtain ⟨l, mem, inside⟩ := h.reaches_iff.1 reached
  exact (h.rooted mem).holds.notsAtLeaves (settled l mem) inside isNot

/-- A graph with a settled layout has no negated side to the left of one that is not negated. -/
lemma notsAtRight (h : g.Shows l?) (settled : ∀ l ∈ l?, l.marked.NotsAtRight) :
    g.NotsAtRight := by
  intro i c reached kind
  obtain ⟨l, mem, inside⟩ := h.reaches_iff.1 reached
  exact (h.rooted mem).holds.notsAtRight (settled l mem) inside kind

/-- A pass that finds nothing to do at the root leaves the graph. -/
lemma atRoot_eq {op : Nat → Graph α → Nat → Option (Graph α)} (h : g.Shows l?)
    (idle : ∀ l ∈ l?, g.Rooted l → op g.nodes.size g l.id = some g) : g.atRoot op = some g := by
  cases l? with
  | none => rw [atRoot, show g.root? = none from h]
  | some l =>
    have rooted := h.rooted rfl
    rw [atRoot, rooted.root]
    exact idle l rfl rooted

/-- Neither pass has anything to do. -/
lemma rearrange_eq (h : g.Shows l?) (leaves : ∀ l ∈ l?, l.marked.NotsAtLeaves)
    (right : ∀ l ∈ l?, l.marked.NotsAtRight) (push swap : Bool) :
    g.rearrange push swap = some g := by
  have pushed : g.atRoot pushNot = some g := h.atRoot_eq fun l mem rooted =>
    rooted.holds.pushNot_eq (leaves l mem) rooted.length_le
  have swapped : g.atRoot swapNot = some g := h.atRoot_eq fun l mem rooted =>
    rooted.holds.swapNot_eq (right l mem) rooted.length_le
  cases push <;> cases swap <;> simp [rearrange, pushed, swapped]

/-- What holds of the rearranged tree holds of the layout of the rearranged graph. -/
lemma exists_rearrange (h : g.Shows l?) (push swap : Bool) {P : Tree (Nat × α) → Prop}
    (moved : ∀ l ∈ l?, P (l.marked.rearrange push swap)) :
    ∃ g' l'?, g.rearrange push swap = some g' ∧ g'.Shows l'? ∧ ∀ l ∈ l'?, P l.marked := by
  obtain ⟨g', l'?, e, shown, same⟩ := shows_rearrange h push swap
  refine ⟨g', l'?, e, shown, fun l mem => ?_⟩
  have mem' : l.marked ∈ l'?.map Layout.marked := Option.mem_map_of_mem _ mem
  rw [same] at mem'
  obtain ⟨l₀, mem₀, same₀⟩ := Option.map_eq_some_iff.1 (Option.mem_def.1 mem')
  exact same₀ ▸ moved l₀ mem₀

end Shows

/-- In every tree both passes come to an end: the first with every `not` at a leaf, the second with
the negated sides at the right as well, and nothing is left to do for any of them. -/
theorem rearranging_settles (g : Graph α) (tree : g.IsTree) :
    ∃ pushed swapped,
      g.rearrange true false = some pushed ∧ pushed.IsTree ∧ pushed.NotsAtLeaves ∧
      pushed.rearrange false true = some swapped ∧ swapped.IsTree ∧ swapped.NotsAtLeaves ∧
      swapped.NotsAtRight ∧ g.rearrange true true = some swapped ∧
      ∀ push swap, swapped.rearrange push swap = some swapped := by
  obtain ⟨l?, shown⟩ := tree.exists_layout
  obtain ⟨pushed, p?, push, shownP, leavesP⟩ :=
    shown.exists_rearrange true false (P := Tree.NotsAtLeaves) fun l _ =>
      l.marked.notsAtLeaves_moves.1
  obtain ⟨swapped, s?, swap, shownS, settled⟩ :=
    shownP.exists_rearrange false true (P := fun t => t.NotsAtLeaves ∧ t.NotsAtRight) fun l mem =>
      ⟨(leavesP l mem).swapNot, l.marked.notsAtRight_swapNot⟩
  have leaves l mem := (settled l mem).1
  have right l mem := (settled l mem).2
  refine ⟨pushed, swapped, push, shownP.isTree, shownP.notsAtLeaves leavesP, swap, shownS.isTree,
    shownS.notsAtLeaves leaves, shownS.notsAtRight right, ?_, shownS.rearrange_eq leaves right⟩
  rw [rearrange_eq_bind, push]
  exact swap

/-- A `not` above two connectives. -/
def negation : Graph String :=
  let site : Site := ⟨⟨0, 0⟩, []⟩
  { nodes := #[⟨.leaf "a", site, some 4, []⟩, ⟨.leaf "b", site, some 3, []⟩,
      ⟨.leaf "c", site, some 3, []⟩, ⟨.join .or, site, some 4, [1, 2]⟩,
      ⟨.join .and, site, some 5, [0, 3]⟩, ⟨.not, site, none, [4]⟩]
    root? := some 5 }

/-- A graph in which every `not` is far from the leaves. -/
theorem settling_of_negation :
    negation.IsTree ∧ ∃ pushed swapped,
      negation.rearrange true false = some pushed ∧ pushed.IsTree ∧ pushed.NotsAtLeaves ∧
      pushed.rearrange false true = some swapped ∧ swapped.IsTree ∧ swapped.NotsAtLeaves ∧
      swapped.NotsAtRight ∧ negation.rearrange true true = some swapped ∧
      ∀ push swap, swapped.rearrange push swap = some swapped := by
  let site : Site := ⟨⟨0, 0⟩, []⟩
  have shown : negation.Shows <| some <| .not 5 site <| .join 4 .and site (.leaf 0 site "a") <|
      .join 3 .or site (.leaf 1 site "b") (.leaf 2 site "c") :=
    ⟨rfl, ⟨rfl, rfl, rfl, rfl, rfl, rfl⟩, by decide⟩
  exact ⟨shown.isTree, rearranging_settles negation shown.isTree⟩

end Graph

/-- The graph of a text is a tree, however often it is rearranged. -/
theorem Engine.graph_is_tree {κ ε : Type} (e : Engine κ ε) (text : String)
    (moves : List (Bool × Bool)) :
    ∃ g, (e.graph? text).bind (·.rearrangeAll moves) = some g ∧ g.IsTree := by
  obtain ⟨g, found, l?, shown, -⟩ := e.carries_rearrangeAll text moves
  exact ⟨g, found, shown.isTree⟩

end Sift
