import Sift.Graph.Build
import Sift.Proofs.Layout

/-!
# Pruning graphs

Removing a node changes the layout around it as pruning changes a tree (`Context.put`), and takes
away one of the positions that the walk over the whole graph has found to be empty leaves, so that
the others are still there to be removed (`Graph.shows_removeAll`).
-/

namespace Sift

namespace Frame

variable {α : Type} {f : Frame α}

/-- Without what is in the hole, the node of a frame is left with what is beside the hole. -/
lemma filter_entry (p? : Option Nat) {hole : Nat} (out : hole ∉ f.ids) :
    (f.entry p? hole).children.filter (· != hole) = f.beside?.toList.map Layout.id := by
  have sibling {t : Layout α} (h : t ∈ f.beside?) : t.id ≠ hole := by
    rintro rfl
    exact out (ids_subset_of_beside? h _ t.id_mem_ids)
  cases f with
  | not i s => simp [entry, beside?]
  | left i c s r => simp [entry, beside?, sibling (t := r) rfl]
  | right i c s l => simp [entry, beside?, sibling (t := l) rfl]

/-- Something is beside the hole only below a connective. -/
lemma kind_of_beside? (p? : Option Nat) (hole : Nat) {t : Layout α} (h : f.beside? = some t) :
    ∃ c, (f.entry p? hole).kind = .join c := by
  cases f with
  | not i s => cases h
  | left i c s r => exact ⟨c, rfl⟩
  | right i c s l => exact ⟨c, rfl⟩

/-- What is left of a frame with a layout or nothing in its hole: a `not` goes with its operand, and
a connective that loses a side is replaced by the other. -/
def put (t? : Option (Layout α)) (f : Frame α) : Option (Layout α) :=
  match t? with
  | none => f.beside?
  | some t => f.fill t

end Frame

namespace Context

variable {α : Type}

/-- What is left of a context with a layout or nothing in its hole. -/
def put (t? : Option (Layout α)) : Context α → Option (Layout α)
  | top => t?
  | under f k => k.put (f.put t?)

/-- A hole that something is put into is filled. -/
lemma put_some (k : Context α) (t : Layout α) : k.put (some t) = some (k.fill t) := by
  induction k generalizing t with
  | top => rfl
  | under f k ih => exact ih (f.fill t)

end Context

namespace Layout

variable {α : Type}

/-- The positions of the empty leaves. -/
def gaps : Layout (Option α) → List Nat
  | leaf i _ none => [i]
  | leaf _ _ (some _) => []
  | not _ _ t => t.gaps
  | join _ _ _ l r => l.gaps ++ r.gaps

/-- The layout without its empty leaves. What remains keeps its positions. -/
def prune : Layout (Option α) → Option (Layout (Option α))
  | leaf i s a? => a?.map fun a => leaf i s (some a)
  | not i s t => t.prune.map (not i s)
  | join i c s l r =>
    match l.prune, r.prune with
    | some l, some r => some (join i c s l r)
    | some l, none => some l
    | none, r? => r?

/-- The tree of a pruned layout is the pruned tree. -/
lemma tree_prune (t : Layout (Option α)) :
    t.prune.map tree = t.tree.prune.map (Tree.map some) := by
  induction t with
  | leaf i s a? => cases a? <;> rfl
  | not i s t ih =>
    have inner : (t.prune.map tree).map (Tree.not s) =
        (t.tree.prune.map (Tree.map some)).map (Tree.not s) := congrArg _ ih
    simpa [prune, tree, Tree.prune, Function.comp_def, Tree.map] using inner
  | join i c s l r ihl ihr =>
    -- of either side something remains in both, or in neither
    have side {u? : Option (Layout (Option α))} {v? : Option (Tree α)}
        (h : u?.map tree = v?.map (Tree.map some)) :
        u? = none ∧ v? = none ∨ ∃ u v, u? = some u ∧ v? = some v ∧ u.tree = v.map some := by
      cases u? <;> cases v? <;> simp_all
    rcases side ihl with ⟨el, fl⟩ | ⟨l', lt, el, fl, left⟩ <;>
      rcases side ihr with ⟨er, fr⟩ | ⟨r', rt, er, fr, right⟩
    · simp [prune, tree, Tree.prune, el, fl, er, fr]
    · simp [prune, tree, Tree.prune, el, fl, er, fr, right]
    · simp [prune, tree, Tree.prune, el, fl, er, fr, left]
    · simp [prune, tree, Tree.prune, Tree.map, el, fl, er, fr, left, right]

/-- A layout with empty leaves has a hole around the first of them. Without it there is one empty
leaf less, and the rest is pruned to the same layout. -/
lemma exists_of_gaps {t : Layout (Option α)} {i : Nat} {rest : List Nat} (h : t.gaps = i :: rest) :
    ∃ s t?, t?.elim [] gaps = rest ∧ t?.bind prune = t.prune ∧
      ∀ k : Context (Option α), ∃ k' : Context (Option α), k.fill t = k'.fill (.leaf i s none) ∧
        k'.put none = k.put t? := by
  induction t generalizing rest with
  | leaf j s a? =>
    cases a? with
    | none =>
      obtain ⟨rfl, rfl⟩ := List.cons.inj h
      exact ⟨s, none, rfl, rfl, fun k => ⟨k, rfl, rfl⟩⟩
    | some a => cases h
  | not j s t ih =>
    obtain ⟨s', t?, below, same, hole⟩ := ih h
    refine ⟨s', (Frame.not j s).put t?, ?_, ?_, fun k => hole (.under (.not j s) k)⟩
    · cases t? <;> exact below
    · cases t? <;> simp [Frame.put, Frame.beside?, Frame.fill, prune, ← same]
  | join j c s l r ihl ihr =>
    rw [gaps] at h
    cases first : l.gaps with
    -- the first empty leaf is on the left if there is one, and on the right otherwise
    | nil =>
      rw [first] at h
      obtain ⟨s', t?, below, same, hole⟩ := ihr h
      refine ⟨s', (Frame.right j c s l).put t?, ?_, ?_, fun k => hole (.under (.right j c s l) k)⟩
      · cases t? with
        | none => exact first.trans below
        | some t => simpa [Frame.put, Frame.fill, gaps, first] using below
      · cases t? <;> cases e : l.prune <;>
          simp [Frame.put, Frame.beside?, Frame.fill, prune, ← same, e]
    | cons j' rest' =>
      rw [first, List.cons_append] at h
      obtain ⟨rfl, rfl⟩ := List.cons.inj h
      obtain ⟨s', t?, below, same, hole⟩ := ihl first
      refine ⟨s', (Frame.left j c s r).put t?, ?_, ?_, fun k => hole (.under (.left j c s r) k)⟩
      · cases t? with
        | none => simp [Frame.put, Frame.beside?, ← below]
        | some t => simpa [Frame.put, Frame.fill, gaps] using below
      · cases t? <;> simp [Frame.put, Frame.beside?, Frame.fill, prune, ← same]

/-- A layout without empty leaves is left as it is. -/
lemma prune_of_gaps {t : Layout (Option α)} (h : t.gaps = []) : t.prune = some t := by
  induction t with
  | leaf i s a? =>
    cases a? with
    | none => cases h
    | some a => rfl
  | not i s t ih => rw [prune, ih h, Option.map_some]
  | join i c s l r ihl ihr =>
    obtain ⟨emptyL, emptyR⟩ := List.append_eq_nil_iff.1 h
    rw [prune, ihl emptyL, ihr emptyR]

end Layout

namespace Graph

section Removing

variable {α : Type} {g : Graph α}

/-- Removing what is in a hole leaves the context with nothing in it. At most all of the nodes above
are removed too. -/
lemma shows_removeSubtree {height i : Nat} {k : Context α} (around : g.Around i k)
    (place : g.parent? i = k.parent?) (nodup : (i :: k.ids).Nodup)
    (within : (i :: k.ids).length ≤ height) :
    ∃ g', g.removeSubtree height i = some g' ∧ g'.Shows (k.put none) := by
  induction k generalizing g height i with
  | top =>
    obtain ⟨height, rfl⟩ := Nat.exists_eq_add_one.2 (Nat.zero_lt_of_lt within)
    refine ⟨g.setRoot none, ?_, rfl⟩
    rw [removeSubtree, place]
    simp [Context.parent?, show g.root? = some i from around]
  | under f k ih =>
    obtain ⟨height, rfl⟩ := Nat.exists_eq_add_one.2 (Nat.zero_lt_of_lt within)
    obtain ⟨frame, around⟩ := around
    obtain ⟨out, nodupK⟩ := List.nodup_cons.1 nodup
    obtain ⟨nodupF, nodupK, apart⟩ := List.nodup_append.1 nodupK
    rw [Context.ids, List.mem_append, not_or] at out
    have other : f.id ≠ i := List.mem_cons_self.ne_of_notMem out.1
    have node : (g.removeChild f.id i).node? f.id =
        some { f.entry k.parent? i with children := f.beside?.toList.map Layout.id } := by
      simp [other.symm, frame.node, Frame.filter_entry _ out.1]
    have below : (g.removeChild f.id i).children f.id = f.beside?.toList.map Layout.id :=
      children_of_node? node
    have place' : (g.removeChild f.id i).parent? f.id = k.parent? := by
      rw [parent?, node]
      cases f <;> rfl
    have same {xs : List Nat} (outI : i ∉ xs) (outF : f.id ∉ xs) : ∀ x ∈ xs,
        (g.removeChild f.id i).node? x = g.node? x := by
      intro x mem
      simp [(mem.ne_of_notMem outI).symm, (mem.ne_of_notMem outF).symm]
    have outF : f.id ∉ k.ids := fun mem => apart _ List.mem_cons_self _ mem rfl
    have around' : (g.removeChild f.id i).Around f.id k := around.congr rfl (same out.2 outF)
    rw [removeSubtree, place]
    simp only [Context.parent?, below, Context.put, Frame.put]
    cases beside : f.beside? with
    | none =>
      -- a `not` that has lost its operand is removed in turn
      have within' : (f.id :: k.ids).length ≤ height := by
        simp only [Context.ids, Frame.ids, List.length_cons, List.length_append] at within ⊢
        omega
      exact ih around' place' (List.nodup_cons.2 ⟨outF, nodupK⟩) within'
    | some t =>
      -- a connective that has lost a side gives its place to the other, which is below it
      obtain ⟨c, kind⟩ := Frame.kind_of_beside? k.parent? i beside
      have isJoin : (g.removeChild f.id i).kind? f.id = some (.join c) := by
        rw [kind?, node, Option.map_some, kind]
      have ids : f.ids = f.id :: t.ids := by simp [Frame.ids, beside]
      rw [ids] at nodupF out apart
      obtain ⟨outT, nodupT⟩ := List.nodup_cons.1 nodupF
      have holds := (frame.beside t beside).congr
        (same (fun mem => out.1 (List.mem_cons_of_mem _ mem)) outT)
      have nodup' : (t.ids ++ k.ids).Nodup :=
        List.nodup_append.2 ⟨nodupT, nodupK, fun a mem => apart a (List.mem_cons_of_mem _ mem)⟩
      have outF' : f.id ∉ t.ids ++ k.ids := fun mem => (List.mem_append.1 mem).elim outT outF
      simp only [Option.toList_some, List.map_cons, List.map_nil, isJoin, Context.put_some]
      exact ⟨_, rfl, rooted_replaceNode around' place' holds nodup' outF' outF'⟩

end Removing

variable {α : Type} {g : Graph (Option α)}

/-- Of the nodes of a layout those at the gaps are empty leaves. -/
lemma Holds.filter_isEmptyLeaf {p? : Option Nat} {t : Layout (Option α)} (h : g.Holds p? t) :
    t.ids.filter g.isEmptyLeaf = t.gaps := by
  induction t generalizing p? with
  | leaf i s a? =>
    have kind : g.kind? i = some (.leaf a?) := h.kind?_id
    cases a? <;> simp [Layout.ids, Layout.gaps, isEmptyLeaf, kind]
  | not i s t ih =>
    have kind : g.kind? i = some .not := h.kind?_id
    simpa [Layout.ids, Layout.gaps, isEmptyLeaf, kind] using ih h.2
  | join i c s l r ihl ihr =>
    have kind : g.kind? i = some (.join c) := h.kind?_id
    simp [Layout.ids, Layout.gaps, isEmptyLeaf, kind, ihl h.2.1, ihr h.2.2]

/-- Removing all empty leaves, one after the other, prunes the layout. -/
lemma shows_removeAll {l? : Option (Layout (Option α))} {gaps : List Nat} (h : g.Shows l?)
    (all : l?.elim [] Layout.gaps = gaps) :
    ∃ g', gaps.foldlM (fun g id => g.removeSubtree g.nodes.size id) g = some g' ∧
      g'.Shows (l?.bind Layout.prune) := by
  induction gaps generalizing g l? with
  | nil =>
    cases l? with
    | none => exact ⟨g, rfl, h⟩
    | some l =>
      refine ⟨g, rfl, ?_⟩
      rw [Option.bind_some, Layout.prune_of_gaps all]
      exact h
  | cons i rest ih =>
    cases l? with
    | none => cases all
    | some l =>
      -- the list is that of the whole walk; without its first position it is that of what is left
      obtain ⟨s, t?, fewer, same, hole⟩ := Layout.exists_of_gaps all
      obtain ⟨k, filled, closed⟩ := hole .top
      have rooted : g.Rooted (k.fill (.leaf i s none)) := filled ▸ h
      obtain ⟨around, holds, nodup⟩ := rooted_fill_iff.1 rooted
      have within := rooted.length_le
      rw [(k.ids_fill _).length_eq] at within
      obtain ⟨g₁, removed, shown⟩ := shows_removeSubtree around holds.parent?_id nodup within
      rw [closed] at shown
      obtain ⟨g', e, shown'⟩ := ih shown fewer
      rw [show (Context.top.put t?).bind Layout.prune = l.prune from same] at shown'
      refine ⟨g', ?_, shown'⟩
      have removed : g.removeSubtree g.nodes.size i = some g₁ := removed
      rw [List.foldlM_cons, removed]
      exact e

/-- A pruned graph has the pruned layout. -/
lemma shows_prune {l? : Option (Layout (Option α))} (h : g.Shows l?) :
    ∃ g', g.prune = some g' ∧ g'.Shows (l?.bind Layout.prune) := by
  have found : (l?.toList.flatMap Layout.ids).filter g.isEmptyLeaf = l?.elim [] Layout.gaps := by
    cases l? with
    | none => rfl
    | some l => simpa using (show g.Rooted l from h).holds.filter_isEmptyLeaf
  obtain ⟨g', e, shown⟩ := shows_removeAll h rfl
  refine ⟨g', ?_, shown⟩
  rw [prune, h.walk, Option.bind_eq_bind, Option.bind_some, found, e]

/-- A pruned graph has the pruned tree. -/
lemma carries_prune {t? : Option (Tree (Option α))} (h : g.Carries t?) :
    ∃ g', g.prune = some g' ∧ g'.Carries ((t?.bind Tree.prune).map (Tree.map some)) := by
  obtain ⟨l?, shown, rfl⟩ := h
  obtain ⟨g', pruned, shown'⟩ := shows_prune shown
  refine ⟨g', pruned, l?.bind Layout.prune, shown', ?_⟩
  cases l? with
  | none => rfl
  | some l => exact l.tree_prune

end Graph

end Sift
