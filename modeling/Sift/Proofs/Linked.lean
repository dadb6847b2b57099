import Sift.Proofs.Building
import Sift.Proofs.Relinking

/-!
# Graphs as linked trees

What holds of the links of a graph that has a layout, said without layouts (`Graph.Linked`): which
nodes can be reached, who lists them, and in which order they are visited. The graph of a text is
linked when it has been built and stays so however often it is rearranged, and its nodes are those
of the tree of the query. The nodes of a text that is read to its end come together as a tree, even
where some of them lack operands (`Engine.reading_of_complete_text`).
-/

namespace Sift

namespace Graph

variable {α : Type}

/-- The nodes that can be reached from the root by going down. -/
inductive Reaches (g : Graph α) : Nat → Prop
  | root {i : Nat} : g.root? = some i → g.Reaches i
  | child {i j : Nat} : g.Reaches i → j ∈ g.children i → g.Reaches j

/-- The nodes below those of a row, with the row, in pre-order: a node, then those below it, then
those of the rest of the row. -/
inductive Visits (g : Graph α) : List Nat → List Nat → Prop
  | nil : g.Visits [] []
  | cons {i : Nat} {rest below later : List Nat} :
    g.Visits (g.children i) below → g.Visits rest later →
    g.Visits (i :: rest) (i :: (below ++ later))

/-- The links are those of a tree. -/
structure Linked (g : Graph (Option α)) : Prop where
  /-- The root has no parent. -/
  root : ∀ i, g.root? = some i → g.parent? i = none ∧ ∀ q, g.Reaches q → i ∉ g.children q
  /-- Every other node is listed once, by its parent and by no other. -/
  listed : ∀ i, g.Reaches i → g.root? ≠ some i → ∃ p, g.Reaches p ∧ g.parent? i = some p ∧
    (g.children p).count i = 1 ∧ ∀ q, g.Reaches q → i ∈ g.children q → q = p
  /-- Every node has as many children as its kind asks for. -/
  arity : ∀ i, g.Reaches i → ∃ n, g.node? i = some n ∧ n.children.length = n.kind.arity
  /-- No node is an empty leaf. -/
  filled : ∀ i, g.Reaches i → g.kind? i ≠ some (.leaf none)
  /-- A walk visits every node once, in pre-order. -/
  walk : ∃ ids, g.walk = some ids ∧ ids.Nodup ∧ (∀ i, i ∈ ids ↔ g.Reaches i) ∧
    g.Visits g.root?.toList ids

end Graph

/-- Every position of a layout is that of a hole in it. -/
lemma Layout.exists_fill {α : Type} {t : Layout α} {i : Nat} (mem : i ∈ t.ids) (k : Context α) :
    ∃ k' : Context α, ∃ t', k.fill t = k'.fill t' ∧ t'.id = i := by
  induction t generalizing k with
  | leaf j s a => exact ⟨k, .leaf j s a, rfl, (List.mem_singleton.1 mem).symm⟩
  | not j s t ih =>
    obtain rfl | mem := List.mem_cons.1 mem
    · exact ⟨k, .not i s t, rfl, rfl⟩
    · exact ih mem (.under (.not j s) k)
  | join j c s l r ihl ihr =>
    obtain rfl | mem := List.mem_cons.1 mem
    · exact ⟨k, .join i c s l r, rfl, rfl⟩
    · obtain mem | mem := List.mem_append.1 mem
      · exact ihl mem (.under (.left j c s r) k)
      · exact ihr mem (.under (.right j c s l) k)

namespace Graph

section Links

variable {α : Type} {g : Graph α} {t : Layout α} {i j : Nat}

/-- What is above a hole lists it. -/
lemma HoldsFrame.mem_children {p? : Option Nat} {f : Frame α} (h : g.HoldsFrame p? i f) :
    i ∈ g.children f.id := by
  rw [children_of_node? h.node]
  cases f <;> simp [Frame.entry]

/-- What fills a hole can be reached. -/
lemma Rooted.reaches_hole {k : Context α} (h : g.Rooted (k.fill t)) : g.Reaches t.id := by
  induction k generalizing t with
  | top => exact .root h.root
  | under f k ih =>
    have above := ih (t := f.fill t) h
    rw [f.id_fill] at above
    exact .child above (rooted_fill_iff.1 h).1.1.mem_children

/-- A child of a node of the layout is one, and refers to it. -/
lemma Rooted.child (h : g.Rooted t) (mem : i ∈ t.ids) (child : j ∈ g.children i) :
    j ∈ t.ids ∧ g.parent? j = some i := by
  obtain ⟨k, t', filled, rfl⟩ := Layout.exists_fill mem .top
  obtain rfl : t = k.fill t' := filled
  have holds := (rooted_fill_iff.1 h).2.1
  have inside {x : Nat} (mem : x ∈ t'.ids) : x ∈ (k.fill t').ids :=
    (k.ids_fill t').mem_iff.2 (List.mem_append_left _ mem)
  rw [holds.children_id] at child
  cases t' with
  | leaf i s a => cases child
  | not i s t =>
    obtain rfl := List.mem_singleton.1 child
    exact ⟨inside (List.mem_cons_of_mem _ t.id_mem_ids), holds.2.parent?_id⟩
  | join i c s l r =>
    obtain rfl | child := List.mem_cons.1 child
    · exact ⟨inside (List.mem_cons_of_mem _ (List.mem_append_left _ l.id_mem_ids)),
        holds.2.1.parent?_id⟩
    · obtain rfl := List.mem_singleton.1 child
      exact ⟨inside (List.mem_cons_of_mem _ (List.mem_append_right _ r.id_mem_ids)),
        holds.2.2.parent?_id⟩

/-- The nodes that can be reached are those of the layout. -/
lemma Rooted.reaches_iff (h : g.Rooted t) : g.Reaches i ↔ i ∈ t.ids := by
  constructor
  · intro reached
    induction reached with
    | root e =>
      obtain rfl := Option.some.inj (h.root.symm.trans e)
      exact t.id_mem_ids
    | child _ child ih => exact (h.child ih child).1
  · intro mem
    obtain ⟨k, t', filled, rfl⟩ := Layout.exists_fill mem .top
    obtain rfl : t = k.fill t' := filled
    exact h.reaches_hole

/-- Every node but the root is a child. -/
lemma Rooted.exists_parent (h : g.Rooted t) (mem : i ∈ t.ids) (other : i ≠ t.id) :
    ∃ p ∈ t.ids, i ∈ g.children p := by
  obtain ⟨k, t', filled, rfl⟩ := Layout.exists_fill mem .top
  obtain rfl : t = k.fill t' := filled
  cases k with
  | top => exact (other rfl).elim
  | under f k =>
    refine ⟨f.id, ?_, (rooted_fill_iff.1 h).1.1.mem_children⟩
    rw [((Context.under f k).ids_fill t').mem_iff]
    exact List.mem_append_right _ (List.mem_append_left _ List.mem_cons_self)

/-- Every node of the layout has as many children as its kind asks for, and no child twice. -/
lemma Rooted.arity (h : g.Rooted t) (mem : i ∈ t.ids) :
    ∃ n, g.node? i = some n ∧ n.children.length = n.kind.arity ∧ (g.children i).Nodup := by
  obtain ⟨k, t', filled, rfl⟩ := Layout.exists_fill mem .top
  obtain rfl : t = k.fill t' := filled
  obtain ⟨-, holds, nodup⟩ := rooted_fill_iff.1 h
  refine ⟨_, holds.node, ?_⟩
  rw [holds.children_id]
  cases t' with
  | leaf i s a => exact ⟨rfl, List.nodup_nil⟩
  | not i s t => exact ⟨rfl, List.nodup_singleton t.id⟩
  | join i c s l r =>
    have sides := (List.nodup_append.1 (List.nodup_cons.1 (List.nodup_append.1 nodup).1).2).2.2
    have ne : l.id ≠ r.id := sides l.id l.id_mem_ids r.id r.id_mem_ids
    exact ⟨rfl, by simpa [Layout.entry] using ne⟩

/-- The positions of a layout are in pre-order. -/
lemma Holds.visits {p? : Option Nat} (h : g.Holds p? t) {rest ids : List Nat}
    (later : g.Visits rest ids) : g.Visits (t.id :: rest) (t.ids ++ ids) := by
  have below := h.children_id
  induction t generalizing p? rest ids with
  | leaf i s a => exact .cons (below ▸ .nil) later
  | not i s t ih =>
    refine .cons (below ▸ ?_) later
    simpa [Layout.entry] using ih h.2 .nil h.2.children_id
  | join i c s l r ihl ihr =>
    have sides := ihl h.2.1 (ihr h.2.2 .nil h.2.2.children_id) h.2.1.children_id
    rw [List.append_nil] at sides
    exact .cons (below ▸ sides) later

/-- Nothing can be reached in a graph without a root. -/
lemma not_reaches_of_empty (h : g.root? = none) : ¬g.Reaches i := by
  intro reached
  induction reached with
  | root e => cases h.symm.trans e
  | child _ _ ih => exact ih

/-- A graph that shows a layout is rooted in it. -/
lemma Shows.rooted {l? : Option (Layout α)} (h : g.Shows l?) (mem : t ∈ l?) : g.Rooted t := by
  cases mem
  exact h

/-- The nodes that can be reached are those of the layout, if there is one. -/
lemma Shows.reaches_iff {l? : Option (Layout α)} (h : g.Shows l?) :
    g.Reaches i ↔ ∃ t ∈ l?, i ∈ t.ids := by
  cases l? with
  | none => simpa using not_reaches_of_empty h
  | some t => simpa using Rooted.reaches_iff h

end Links

variable {α : Type} {g : Graph (Option α)}

/-- A layout of a tree without empty leaves has none. -/
lemma gaps_of_map {t : Layout (Option α)} {tree : Tree α} (h : t.tree = tree.map some) :
    t.gaps = [] := by
  induction t generalizing tree with
  | leaf i s a? =>
    cases tree with
    | leaf s' a =>
      obtain ⟨-, rfl⟩ := Tree.leaf.inj h
      rfl
    | not | join => cases h
  | not i s t ih =>
    cases tree with
    | not s' t' => exact ih (Tree.not.inj h).2
    | leaf | join => cases h
  | join i c s l r ihl ihr =>
    cases tree with
    | join c' s' l' r' =>
      obtain ⟨-, -, left, right⟩ := Tree.join.inj h
      rw [Layout.gaps, ihl left, ihr right, List.append_nil]
    | leaf | not => cases h

/-- Nothing is to be said of a graph without a tree. -/
lemma linked_of_empty (h : g.root? = none) : g.Linked := by
  have unreached (i : Nat) : ¬g.Reaches i := not_reaches_of_empty h
  refine ⟨fun i e => ?_, fun i reached => (unreached i reached).elim,
    fun i reached => (unreached i reached).elim, fun i reached => (unreached i reached).elim,
    [], ?_, List.nodup_nil, fun i => ⟨nofun, fun reached => (unreached i reached).elim⟩, ?_⟩
  · cases h.symm.trans e
  · exact (show g.Shows none from h).walk
  · rw [h]
    exact .nil

/-- A graph of a layout without empty leaves is linked. -/
lemma Rooted.linked {t : Layout (Option α)} (h : g.Rooted t) (filled : t.gaps = []) : g.Linked where
  root i e := by
    obtain rfl := Option.some.inj (h.root.symm.trans e)
    refine ⟨h.holds.parent?_id, fun q reached child => ?_⟩
    have parent := (h.child (h.reaches_iff.1 reached) child).2
    cases h.holds.parent?_id.symm.trans parent
  listed i reached other := by
    have notRoot : i ≠ t.id := fun e => other (e ▸ h.root)
    obtain ⟨p, inside, child⟩ := h.exists_parent (h.reaches_iff.1 reached) notRoot
    -- whatever lists the node is its parent, and a node has one parent
    have parent := (h.child inside child).2
    obtain ⟨_, _, _, once⟩ := h.arity inside
    refine ⟨p, h.reaches_iff.2 inside, parent, List.count_eq_one_of_mem once child, ?_⟩
    intro q reached' child'
    have parent' := (h.child (h.reaches_iff.1 reached') child').2
    exact Option.some.inj (parent'.symm.trans parent)
  arity i reached := by
    obtain ⟨n, node, arity, _⟩ := h.arity (h.reaches_iff.1 reached)
    exact ⟨n, node, arity⟩
  filled i reached kind := by
    have none' := h.holds.filter_isEmptyLeaf.trans filled
    refine List.filter_eq_nil_iff.1 none' i (h.reaches_iff.1 reached) ?_
    rw [isEmptyLeaf, kind]
  walk := by
    have visits : g.Visits [t.id] (t.ids ++ []) := h.holds.visits .nil
    have shown : g.Shows (some t) := h
    refine ⟨t.ids, by simpa using shown.walk, h.nodup, fun i => h.reaches_iff.symm, ?_⟩
    rw [h.root, Option.toList_some]
    simpa using visits

/-- A graph of a tree without empty leaves is linked. -/
lemma linked_of_carries {t? : Option (Tree α)} (h : g.Carries (t?.map (Tree.map some))) :
    g.Linked := by
  obtain ⟨l?, shown, same⟩ := h
  cases l? with
  | none => exact linked_of_empty shown
  | some t =>
    obtain ⟨tree, -, filled⟩ := Option.map_eq_some_iff.1 same.symm
    exact Rooted.linked shown (gaps_of_map filled.symm)

section Entries

variable {β : Type} {g : Graph β} {t : Layout β}

/-- A layout has as many positions as its tree has nodes. -/
lemma length_ids (t : Layout β) : t.ids.length = t.tree.size := by
  induction t with
  | leaf i s a => rfl
  | not i s t ih => rw [Layout.ids, List.length_cons, ih, Layout.tree, Tree.size]
  | join i c s l r ihl ihr =>
    rw [Layout.ids, List.length_cons, List.length_append, ihl, ihr, Layout.tree, Tree.size]

/-- In a walk a layout begins behind what is in front of it. -/
lemma idxOf_id {walk before later : List Nat} (place : walk = before ++ (t.ids ++ later))
    (nodup : walk.Nodup) : walk.idxOf t.id = before.length := by
  rw [place] at nodup ⊢
  have out : t.id ∉ before := fun mem =>
    (List.nodup_append.1 nodup).2.2 _ mem _ (List.mem_append_left _ t.id_mem_ids) rfl
  rw [List.idxOf_append_of_notMem out]
  cases t <;> simp [Layout.ids]

/-- A node of a layout is listed with the places of its links in the walk. -/
lemma Holds.entry? {p? : Option Nat} (h : g.Holds p? t) (walk : List Nat) :
    g.entry? walk t.id = some { t.entry p? with
      parent? := p?.map walk.idxOf, children := (t.entry p?).children.map walk.idxOf } := by
  rw [Graph.entry?, h.node]
  cases t <;> rfl

/-- The entries of a layout are those of its tree, at the place where it begins in the walk. -/
lemma Holds.entries {p? : Option Nat} (h : g.Holds p? t) {walk before later : List Nat}
    (place : walk = before ++ (t.ids ++ later)) (nodup : walk.Nodup) :
    t.ids.mapM (g.entry? walk) =
      some (t.tree.entriesFrom (p?.map walk.idxOf) before.length) := by
  have here := idxOf_id place nodup
  induction t generalizing p? before later with
  | leaf i s a =>
    have first : g.entry? walk i = _ := h.entry? walk
    rw [Layout.ids, List.mapM_cons, List.mapM_nil, first]
    rfl
  | not i s t ih =>
    have place' : walk = (before ++ [i]) ++ (t.ids ++ later) := by simpa [Layout.ids] using place
    have below := idxOf_id place' nodup
    have inner := ih h.2 place' below
    have first : g.entry? walk i = _ := h.entry? walk
    have here : walk.idxOf i = before.length := here
    rw [List.length_append, List.length_singleton] at below inner
    rw [Option.map_some, here] at inner
    rw [Layout.ids, List.mapM_cons, first, inner]
    simp [Layout.entry, Layout.tree, Tree.entriesFrom, below]
  | join i c s l r ihl ihr =>
    have placeL : walk = (before ++ [i]) ++ (l.ids ++ (r.ids ++ later)) := by
      simpa [Layout.ids] using place
    have placeR : walk = (before ++ i :: l.ids) ++ (r.ids ++ later) := by
      simpa [Layout.ids] using place
    have left := idxOf_id placeL nodup
    have right := idxOf_id placeR nodup
    have innerL := ihl h.2.1 placeL left
    have innerR := ihr h.2.2 placeR right
    have first : g.entry? walk i = _ := h.entry? walk
    have here : walk.idxOf i = before.length := here
    rw [List.length_append, List.length_singleton] at left innerL
    rw [List.length_append, List.length_cons, length_ids] at right innerR
    rw [Option.map_some, here] at innerL innerR
    -- the right side begins behind the root and all of the left side
    have behind : before.length + (l.tree.size + 1) = before.length + 1 + l.tree.size := by omega
    rw [behind] at right innerR
    rw [Layout.ids, List.mapM_cons, List.mapM_append, first, innerL, innerR]
    simp [Layout.entry, Layout.tree, Tree.entriesFrom, left, right]

/-- The entries of a graph are those of its tree. -/
lemma Carries.entries {t? : Option (Tree β)} (h : g.Carries t?) :
    g.entries = some (t?.toList.flatMap Tree.entries) := by
  obtain ⟨l?, shown, rfl⟩ := h
  rw [Graph.entries, shown.walk]
  cases l? with
  | none => rfl
  | some t =>
    have rooted : g.Rooted t := shown
    have place : t.ids = [] ++ (t.ids ++ []) := by simp
    simpa [Tree.entries] using rooted.holds.entries place rooted.nodup

end Entries

section Arity

variable {β κ ε : Type} {t? : Option (Tree β)} {i : Nat}

/-- Every node of a graph with a tree has as many children as its kind asks for. -/
lemma Carries.arity {g : Graph β} (h : g.Carries t?) (reached : g.Reaches i) :
    ∃ n, g.node? i = some n ∧ n.children.length = n.kind.arity := by
  obtain ⟨l?, shown, -⟩ := h
  obtain ⟨t, is, mem⟩ := shown.reaches_iff.1 reached
  obtain ⟨n, node, arity, _⟩ := (shown.rooted is).arity mem
  exact ⟨n, node, arity⟩

/-- Nothing is wrong with the nodes of a graph with a tree. -/
lemma Carries.validate {g : Graph (Option (Leaf κ ε))} {t? : Option (Tree (Option (Leaf κ ε)))}
    (h : g.Carries t?) : g.validate = some [] := by
  have ⟨l?, shown, _⟩ := h
  rw [Graph.validate, shown.walk, Option.map_some, Option.some.injEq, List.filterMap_eq_nil_iff]
  intro i mem
  obtain ⟨t, is, inside⟩ := List.mem_flatMap.1 mem
  have reached := shown.reaches_iff.2 ⟨t, Option.mem_toList.1 is, inside⟩
  obtain ⟨n, node, arity⟩ := h.arity reached
  rw [node, Option.bind_some, Entry.objection?, if_pos arity]

end Arity

end Graph

/-- A graph with the tree of a query has it when both are rearranged. -/
lemma Query.carries_rearrange {κ ε : Type} (q : Query κ ε) {g : Graph (Option (Leaf κ ε))}
    (h : g.Carries (q.tree?.map (Tree.map some))) (push swap : Bool) :
    ∃ g', g.rearrange push swap = some g' ∧
      g'.Carries ((q.rearrange push swap).tree?.map (Tree.map some)) := by
  obtain ⟨g', moved, carried⟩ := Graph.carries_rearrange h push swap
  have same : (q.tree?.map (Tree.map some)).map (Tree.rearrange push swap) =
      (q.rearrange push swap).tree?.map (Tree.map some) := by
    rw [Query.rearrange, Option.map_map, Option.map_map]
    exact congrArg (q.tree?.map ·) (funext fun t => t.rearrange_map push swap)
  exact ⟨g', moved, same ▸ carried⟩

namespace Engine

section Complete

variable {κ ε : Type}

/-- A text that is read to its end always gives a tree, and no term of it is lost: the leaves are
the clauses and words of the text, groups included, each once and in order. The nodes of the text are
linked as those of the tree, and every one that can be reached has all of its operands, so nothing is
found when they are looked through once more. -/
theorem reading_of_complete_text (e : Engine κ ε) (text : String)
    (h : (e.outline text).isComplete = true) :
    let g := Graph.grow e.readTerm (e.outline text)
    ∃ tree?, (e.reading text).result? = some tree? ∧
      (∀ error ∈ (e.reading text).errors, error.cause ≠ .termsNotCombined) ∧
      tree?.toList.flatMap Tree.validate = [] ∧
      g.entries = some (tree?.toList.flatMap Tree.entries) ∧
      (∀ i, g.Reaches i → ∃ n, g.node? i = some n ∧ n.children.length = n.kind.arity) ∧
      g.validate = some [] ∧
      tree?.toList.flatMap Tree.leaves =
        (e.outline text).terms.map (fun t => (t.site, meaning? e.readTerm t)) ∧
      (e.outline text).terms.Pairwise Outline.Before := by
  intro g
  obtain ⟨row, result, leaves⟩ := Outline.row_of_isComplete e.readTerm h
  obtain ⟨tree?, combined, same⟩ := Item.result?_combined row
  have ofRow {row : List (Item (Option (Leaf κ ε)))} {error} (mem : error ∈ (Item.combine row).1) :
      error.cause ≠ .termsNotCombined := by
    rcases Item.cause_of_combine mem with ⟨_, e⟩ | ⟨_, _, e⟩ <;> simp [e]
  have found : (e.reading text).result? = some tree? := by
    rwa [reading, Outline.tree, Recorded.result?_andThen result]
  -- the nodes come together as the outline does, so they have a layout with the tree
  have carried : g.Carries tree? := by
    have grown := Graph.carries_grow e.readTerm (e.outline text)
    rwa [← reading, found] at grown
  refine ⟨tree?, found, ?_, ?_, carried.entries, fun i => carried.arity, carried.validate, ?_,
    Outline.pairwise_terms_scan⟩
  · rw [reading, Outline.tree, Recorded.errors_andThen result]
    refine List.forall_mem_append.2 ⟨?_, fun error mem => ofRow mem⟩
    exact Outline.forall_errors_row e.readTerm cause_of_readTerm ofRow h
  · exact List.flatMap_eq_nil_iff.2 fun t _ => t.validate_eq_nil
  · rw [same, leaves]

/-- Neither a `not` and an `or` without operands nor a refused clause loses another term, and the
nodes come together. -/
theorem reading_of_dangling_text :
    (({} : Engine Empty Unit).outline "or (zz:1 not) and b").isComplete = true ∧
      ∃ tree?, (({} : Engine Empty Unit).reading "or (zz:1 not) and b").result? = some tree? ∧
        (Graph.grow ({} : Engine Empty Unit).readTerm
          (({} : Engine Empty Unit).outline "or (zz:1 not) and b")).validate = some [] ∧
        (tree?.toList.flatMap Tree.leaves).map (fun leaf => leaf.1.source) =
          ["zz:1".toList, "b".toList] := by
  have complete : (({} : Engine Empty Unit).outline "or (zz:1 not) and b").isComplete = true := by
    decide +kernel
  obtain ⟨tree?, result, _, _, _, _, valid, leaves, _⟩ := reading_of_complete_text _ _ complete
  refine ⟨complete, tree?, result, valid, ?_⟩
  rw [leaves, List.map_map]
  decide +kernel

end Complete

variable {κ ε : Type} (e : Engine κ ε) (text : String) (moves : List (Bool × Bool))

/-- The graph of a text has the tree of its query, however often both are rearranged. -/
lemma carries_rearrangeAll : ∃ g, (e.graph? text).bind (·.rearrangeAll moves) = some g ∧
    g.Carries (((e.query text).rearrangeAll moves).tree?.map (Tree.map some)) := by
  obtain ⟨g, built, carried⟩ := Graph.carries_graph? e text
  rw [built, Option.bind_some]
  generalize e.query text = q at carried
  clear built
  induction moves generalizing g q with
  | nil => exact ⟨g, rfl, carried⟩
  | cons move moves ih =>
    obtain ⟨push, swap⟩ := move
    obtain ⟨g₁, moved, carried₁⟩ := q.carries_rearrange carried push swap
    obtain ⟨g₂, found, carried₂⟩ := ih g₁ (q.rearrange push swap) carried₁
    refine ⟨g₂, ?_, carried₂⟩
    simp only [Graph.rearrangeAll, List.foldlM_cons, moved]
    exact found

/-- The graph of a text is a linked tree, however often it is rearranged, and its nodes are those of
the rearranged query. -/
theorem graph_is_linked : ∃ g, (e.graph? text).bind (·.rearrangeAll moves) = some g ∧ g.Linked ∧
    g.entries = some ((((e.query text).rearrangeAll moves).tree?.map (Tree.map some)).toList.flatMap
      Tree.entries) := by
  obtain ⟨g, found, carried⟩ := e.carries_rearrangeAll text moves
  exact ⟨g, found, Graph.linked_of_carries carried, carried.entries⟩

end Engine

end Sift
