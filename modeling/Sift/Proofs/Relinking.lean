import Sift.Graph.Rearrangement
import Sift.Proofs.Layout

/-!
# Rearranging graphs

The operations on a graph follow those on its tree. One that is done at a node changes the layout
there and leaves what is around it (`Graph.Turns`), so that it can be done below another node, one
side after the other. A double `not` and a `not` above a connective are the two steps that move
links; that the nodes that are left out keep theirs does no harm, since no layout mentions them.
-/

namespace Sift

namespace Tree

variable {α β : Type} {f : α → β}

/-- The leaves do not matter for whether a tree is negated. -/
lemma isNot_map (t : Tree α) : (t.map f).isNot = t.isNot := by
  cases t <;> rfl

/-- The leaves do not matter for moving a `not`. -/
lemma pushNot_map (t : Tree α) : (t.map f).pushNot = t.pushNot.map f ∧
    ∀ s, (t.map f).pushNotInto s = (t.pushNotInto s).map f := by
  induction t with
  | leaf s a => exact ⟨rfl, fun _ => rfl⟩
  | not s t ih => exact ⟨ih.2 s, fun _ => ih.1⟩
  | join c s l r ihl ihr =>
    refine ⟨congrArg₂ (join c s) ihl.1 ihr.1, fun s' => ?_⟩
    rw [map, pushNotInto, newNotSite, site_map, ihl.2, ihr.2]
    rfl

/-- The leaves do not matter for exchanging sides. -/
lemma swapNot_map (t : Tree α) : (t.map f).swapNot = t.swapNot.map f := by
  induction t with
  | leaf s a => rfl
  | not s t ih => exact congrArg (not s) ih
  | join c s l r ihl ihr =>
    simp only [map, swapNot, swapSides, ihl, ihr, isNot_map]
    split <;> rfl

/-- The leaves do not matter for rearranging. -/
lemma rearrange_map (t : Tree α) (push swap : Bool) :
    (t.map f).rearrange push swap = (t.rearrange push swap).map f := by
  cases push <;> cases swap <;> simp [rearrange, (pushNot_map _).1, swapNot_map]

end Tree

namespace Graph

variable {α : Type} {g : Graph α} {k : Context α} {t : Layout α}

/-- Moving a `not` below a connective leaves the root. -/
lemma root?_moveNot {i j l r : Nat} {c c' : Connective} {s : Site} {p? : Option Nat}
    (h : g.node? j = some ⟨.join c', s, p?, [l, r]⟩) : (g.moveNot i j c).root? = g.root? := by
  have below := children_of_node? h
  rw [moveNot, below]
  simp [takeChildren, below]

section MoveNot

variable {i j l r : Nat} {c : Connective} {s s' : Site} {p? : Option Nat} {nl nr : Entry α}
  (hi : g.node? i = some ⟨.not, s, p?, [j]⟩)
  (hj : g.node? j = some ⟨.join c, s', some i, [l, r]⟩)
  (hl : g.node? l = some nl) (hr : g.node? r = some nr) (distinct : [i, j, l, r].Nodup)
include hi hj hl hr distinct

/-- What becomes of the nodes when a `not` is moved below a connective. -/
lemma node?_moveNot (x : Nat) : (g.moveNot i j c).node? x =
    if x = i then some ⟨.join c.dual, s, p?, [j, g.nodes.size]⟩
    else if x = j then some ⟨.not, s', some i, [l]⟩
    else if x = l then some { nl with parent? := some j }
    else if x = r then some { nr with parent? := some g.nodes.size }
    else if x = g.nodes.size then some ⟨.not, ⟨nr.site.span, []⟩, some i, [r]⟩
    else g.node? x := by
  have below := children_of_node? hj
  have mi := Nat.ne_of_lt (lt_of_node? hi)
  have mj := Nat.ne_of_lt (lt_of_node? hj)
  have ml := Nat.ne_of_lt (lt_of_node? hl)
  have mr := Nat.ne_of_lt (lt_of_node? hr)
  simp only [List.nodup_cons, List.mem_cons, List.not_mem_nil, not_or] at distinct
  obtain ⟨⟨ij, il, ir, _⟩, ⟨jl, jr, _⟩, ⟨lr, _⟩, _⟩ := distinct
  rw [moveNot, below]
  simp only [takeChildren, below, site, List.foldl_cons, List.foldl_nil, node?_setParent,
    node?_update, node?_setKind, node?_add, node?_addChild, node?_removeChild, size_setParent,
    size_update, size_setKind, size_addChild, size_removeChild]
  by_cases xi : x = i
  · simp [xi, hi, mi, mi.symm, Ne.symm ij, Ne.symm il, Ne.symm ir]
  · by_cases xj : x = j
    · simp [xj, hj, ij, mj, mj.symm, Ne.symm ij, Ne.symm jl, Ne.symm jr]
    · by_cases xl : x = l
      · simp [xl, hl, il, jl, ml, ml.symm, Ne.symm il, Ne.symm jl, Ne.symm lr]
      · by_cases xr : x = r
        · simp [xr, hr, ir, jr, lr, mr, mr.symm, Ne.symm ir, Ne.symm jr, Ne.symm lr]
        · by_cases xm : x = g.nodes.size
          · simp [xm, hr, ir, jr, lr, mi, mj, mr, mi.symm, mj.symm, ml.symm, mr.symm]
          · simp [xi, xj, xl, xr, xm, Ne.symm xi, Ne.symm xj, Ne.symm xl, Ne.symm xr, Ne.symm xm]

end MoveNot

/-- A `not` is moved below a connective. -/
lemma rooted_moveNot {i j : Nat} {c : Connective} {s s' : Site} {l r : Layout α}
    (h : g.Rooted (k.fill (.not i s (.join j c s' l r)))) :
    (g.moveNot i j c).Rooted
      (k.fill (.join i c.dual s (.not j s' l) (.not g.nodes.size r.tree.newNotSite r))) := by
  have lt := h.lt_size
  obtain ⟨around, ⟨hi, hj, hl, hr⟩, nodup⟩ := rooted_fill_iff.1 h
  have nodup' := nodup
  simp only [Layout.ids, List.cons_append, List.nodup_cons, List.mem_cons, List.mem_append,
    not_or] at nodup'
  obtain ⟨⟨ij, ⟨il, ir⟩, ik⟩, ⟨⟨jl, jr⟩, jk⟩, rest⟩ := nodup'
  obtain ⟨sides, nodupK, apartK⟩ := List.nodup_append.1 rest
  obtain ⟨nodupL, nodupR, apart⟩ := List.nodup_append.1 sides
  have distinct : [i, j, l.id, r.id].Nodup := by
    simp [ij, (l.id_mem_ids.ne_of_notMem il).symm, (r.id_mem_ids.ne_of_notMem ir).symm,
      (l.id_mem_ids.ne_of_notMem jl).symm, (r.id_mem_ids.ne_of_notMem jr).symm,
      apart l.id l.id_mem_ids r.id r.id_mem_ids]
  have hi : g.node? i = some ⟨.not, s, k.parent?, [j]⟩ := hi
  have hj : g.node? j = some ⟨.join c, s', some i, [l.id, r.id]⟩ := hj
  have moved := node?_moveNot hi hj hl.node hr.node distinct
  have fresh : g.nodes.size ∉ (Layout.not i s (.join j c s' l r)).ids ++ k.ids :=
    fun mem => Nat.lt_irrefl _ (lt _ mem)
  have fresh' := fresh
  simp only [Layout.ids, List.cons_append, List.mem_cons, List.mem_append, not_or] at fresh'
  obtain ⟨mi, mj, ⟨ml, mr⟩, mk⟩ := fresh'
  -- what is around, the connective, its left `not` and what is below that, then the new `not`
  refine rooted_fill_iff.2 ⟨around.congr (root?_moveNot hj) fun x mem => ?_,
    ⟨?_, ⟨?_, hl.move nodupL ?_ fun x mem other => ?_⟩, ?_,
      hr.move nodupR ?_ fun x mem other => ?_⟩, ?_⟩
  · simp [moved, mem.ne_of_notMem ik, mem.ne_of_notMem jk, mem.ne_of_notMem mk,
      (apartK l.id (List.mem_append_left _ l.id_mem_ids) x mem).symm,
      (apartK r.id (List.mem_append_right _ r.id_mem_ids) x mem).symm]
  · simp [moved]
    rfl
  · simp [moved, Ne.symm ij]
    rfl
  · simp [moved, l.id_mem_ids.ne_of_notMem il, l.id_mem_ids.ne_of_notMem jl, hl.node]
  · simp [moved, mem.ne_of_notMem il, mem.ne_of_notMem jl, mem.ne_of_notMem ml, other,
      apart x mem r.id r.id_mem_ids]
  · simp [moved, mi, mj, (l.id_mem_ids.ne_of_notMem ml).symm, (r.id_mem_ids.ne_of_notMem mr).symm,
      Layout.site_entry]
    rfl
  · simp [moved, r.id_mem_ids.ne_of_notMem ir, r.id_mem_ids.ne_of_notMem jr, hr.node,
      (apart l.id l.id_mem_ids r.id r.id_mem_ids).symm]
  · simp [moved, mem.ne_of_notMem ir, mem.ne_of_notMem jr, mem.ne_of_notMem mr, other,
      (apart l.id l.id_mem_ids x mem).symm]
  · have perm : (i :: j :: l.ids ++ g.nodes.size :: (r.ids ++ k.ids)).Perm
        (g.nodes.size :: (i :: j :: l.ids ++ (r.ids ++ k.ids))) := List.perm_middle
    have all := perm.nodup_iff.2 (List.nodup_cons.2 ⟨?_, ?_⟩)
    · simpa [Layout.ids] using all
    · simpa [Layout.ids] using fresh
    · simpa [Layout.ids] using nodup

/-- An operation on the root of a layout leaves what is around it alone and gives a layout with a
property in its place. -/
def Turns (op : Graph α → Nat → Option (Graph α)) (t : Layout α) (P : Layout α → Prop) : Prop :=
  ∀ {g : Graph α} {k : Context α}, g.Rooted (k.fill t) →
    ∃ g' t', op g t.id = some g' ∧ g'.Rooted (k.fill t') ∧ P t'

/-- Both sides of a connective are turned one after the other. -/
lemma Turns.sides {op : Graph α → Nat → Option (Graph α)} {l r : Layout α} {P Q : Layout α → Prop}
    {i : Nat} {c : Connective} {s : Site} (hl : Turns op l P) (hr : Turns op r Q)
    (h : g.Rooted (k.fill (.join i c s l r))) :
    ∃ g' l' r', [l.id, r.id].foldlM op g = some g' ∧ g'.Rooted (k.fill (.join i c s l' r')) ∧
      P l' ∧ Q r' := by
  have hole : g.Rooted ((Context.under (.left i c s r) k).fill l) := h
  obtain ⟨g₁, l', e₁, h₁, left⟩ := hl hole
  have hole' : g₁.Rooted ((Context.under (.right i c s l') k).fill r) := h₁
  obtain ⟨g₂, r', e₂, h₂, right⟩ := hr hole'
  refine ⟨g₂, l', r', ?_, h₂, left, right⟩
  simp [e₁, e₂]

/-- A double `not` is left out. -/
lemma rooted_of_double {i j : Nat} {s s' : Site} (h : g.Rooted (k.fill (.not i s (.not j s' t)))) :
    (g.replaceNode i t.id).Rooted (k.fill t) := by
  obtain ⟨around, holds, nodup⟩ := rooted_fill_iff.1 h
  simp only [Layout.ids, List.cons_append, List.nodup_cons, List.mem_cons, not_or] at nodup
  obtain ⟨⟨_, outI⟩, outJ, nodup⟩ := nodup
  exact rooted_replaceNode around holds.parent?_id holds.2.2 nodup outI outJ

/-- Both kinds of moves turn a layout into that of the moved tree, with every leaf where it is. Every
call is for a layout with fewer nodes than that of the call before. -/
lemma turns_pushNot (t : Layout α) (depth : Nat) (within : t.ids.length ≤ depth) :
    Turns (pushNot depth) t (fun t' => t'.marked = t.marked.pushNot) ∧
      ∀ i s, Turns (pushNot (depth + 1)) (.not i s t)
        (fun t' => t'.marked = t.marked.pushNotInto s) := by
  induction t generalizing depth with
  | leaf j s a =>
    obtain ⟨depth, rfl⟩ := Layout.exists_of_length_le within
    constructor
    · intro g k h
      have kind := (rooted_fill_iff.1 h).2.1.kind?_id
      refine ⟨g, _, ?_, h, rfl⟩
      rw [pushNot, kind]
      rfl
    · intro i s' g k h
      have holds := (rooted_fill_iff.1 h).2.1
      refine ⟨g, _, ?_, h, rfl⟩
      rw [pushNot, holds.kind?_id, holds.children_id]
      have kind : g.kind? j = some (.leaf a) := holds.2.kind?_id
      simp [Layout.entry, kind]
  | not j s t ih =>
    obtain ⟨depth, rfl⟩ := Layout.exists_of_length_le within
    have inner : t.ids.length ≤ depth := Nat.le_of_succ_le_succ within
    refine ⟨(ih depth inner).2 j s, fun i s' g k h => ?_⟩
    -- a `not` above a `not`: both go, and what is below is turned with one step more to spare
    have holds := (rooted_fill_iff.1 h).2.1
    obtain ⟨turns, _⟩ := ih (depth + 1) (Nat.le_succ_of_le inner)
    obtain ⟨g', t', e, h', same⟩ := turns (rooted_of_double h)
    refine ⟨g', t', ?_, h', same⟩
    rw [pushNot, holds.kind?_id, holds.children_id]
    have kind := holds.2.kind?_id
    have below := holds.2.children_id
    simp only [Layout.entry, kind, below]
    exact e
  | join j c s l r ihl ihr =>
    obtain ⟨depth, rfl⟩ := Layout.exists_of_length_le within
    obtain ⟨withinL, withinR⟩ := Layout.sides_length_le within
    have ihl := ihl depth withinL
    have ihr := ihr depth withinR
    constructor
    · intro g k h
      have holds := (rooted_fill_iff.1 h).2.1
      obtain ⟨g', l', r', e, h', left, right⟩ := Turns.sides ihl.1 ihr.1 h
      refine ⟨g', _, ?_, h', congrArg₂ (Tree.join c s) left right⟩
      rw [pushNot, holds.kind?_id, holds.children_id]
      exact e
    · intro i s' g k h
      have holds := (rooted_fill_iff.1 h).2.1
      -- the `not` is moved into both sides first, and each side is turned below its own
      have moved := rooted_moveNot h
      have below : (g.moveNot i j c).children i = [j, g.nodes.size] :=
        (rooted_fill_iff.1 moved).2.1.children_id
      obtain ⟨g', l', r', e, h', left, right⟩ := Turns.sides (ihl.2 j s) (ihr.2 _ _) moved
      rw [Tree.newNotSite, ← Layout.site_marked] at right
      refine ⟨g', _, ?_, h', congrArg₂ (Tree.join c.dual s') left right⟩
      rw [pushNot, holds.kind?_id, holds.children_id]
      have kind := holds.2.kind?_id
      simp only [Layout.entry, kind]
      change ((g.moveNot i j c).children i).foldlM (pushNot (depth + 1)) (g.moveNot i j c) =
        some g'
      rw [below]
      exact e

/-- The sides of a connective are exchanged. -/
lemma rooted_swapChildren {i : Nat} {c : Connective} {s : Site} {l r : Layout α}
    (h : g.Rooted (k.fill (.join i c s l r))) :
    (g.swapChildren i).Rooted (k.fill (.join i c s r l)) := by
  obtain ⟨around, ⟨node, hl, hr⟩, nodup⟩ := rooted_fill_iff.1 h
  have perm : (i :: (l.ids ++ r.ids) ++ k.ids).Perm (i :: (r.ids ++ l.ids) ++ k.ids) :=
    (List.perm_append_comm.cons i).append_right _
  have out : i ∉ l.ids ++ r.ids ++ k.ids := (List.nodup_cons.1 nodup).1
  rw [List.mem_append, List.mem_append, not_or, not_or] at out
  obtain ⟨⟨outL, outR⟩, outK⟩ := out
  have same {xs : List Nat} (out : i ∉ xs) : ∀ x ∈ xs, (g.swapChildren i).node? x = g.node? x := by
    intro x mem
    rw [swapChildren, node?_update, if_neg (mem.ne_of_notMem out).symm]
  refine rooted_fill_iff.2 ⟨around.congr rfl (same outK), ⟨?_, hr.congr (same outR),
    hl.congr (same outL)⟩, perm.nodup_iff.1 nodup⟩
  rw [swapChildren, node?_update, if_pos rfl, node]
  rfl

/-- The graph tells negated terms from others as the layout does. -/
lemma Holds.isNot_id {p? : Option Nat} (h : g.Holds p? t) : g.isNot t.id = t.marked.isNot := by
  rw [isNot, h.kind?_id]
  cases t <;> rfl

/-- When the sides below a node are done, it exchanges its own. -/
lemma swapNot_of_sides {g' : Graph α} {depth i : Nat} {below : List Nat}
    (children : g.children i = below) (e : below.foldlM (swapNot depth) g = some g') :
    g.swapNot (depth + 1) i = some (g'.swapSides i below) := by
  rw [swapNot, children, e]
  rfl

/-- Exchanging sides turns a layout into that of the tree with its sides exchanged, with every leaf
where it is. -/
lemma turns_swapNot (t : Layout α) (depth : Nat) (within : t.ids.length ≤ depth) :
    Turns (swapNot depth) t (fun t' => t'.marked = t.marked.swapNot ∧ t'.id = t.id) := by
  induction t generalizing depth with
  | leaf j s a =>
    obtain ⟨depth, rfl⟩ := Layout.exists_of_length_le within
    intro g k h
    have holds := (rooted_fill_iff.1 h).2.1
    refine ⟨g, _, ?_, h, rfl, rfl⟩
    have below : g.children j = [] := holds.children_id
    have kind : g.kind? j = some (.leaf a) := holds.kind?_id
    rw [Layout.id, swapNot_of_sides below rfl]
    simp [swapSides, kind]
  | not j s t ih =>
    obtain ⟨depth, rfl⟩ := Layout.exists_of_length_le within
    intro g k h
    have hole : g.Rooted ((Context.under (.not j s) k).fill t) := h
    obtain ⟨g', t', e, h', same, root⟩ := ih depth (Nat.le_of_succ_le_succ within) hole
    have h' : g'.Rooted (k.fill (.not j s t')) := h'
    have below : g.children j = [t.id] := (rooted_fill_iff.1 h).2.1.children_id
    have kind : g'.kind? j = some .not := (rooted_fill_iff.1 h').2.1.kind?_id
    refine ⟨g', _, ?_, h', congrArg (Tree.not s) same, rfl⟩
    have sides : [t.id].foldlM (swapNot depth) g = some g' := by simp [e]
    rw [Layout.id, swapNot_of_sides below sides]
    simp [swapSides, kind]
  | join j c s l r ihl ihr =>
    obtain ⟨depth, rfl⟩ := Layout.exists_of_length_le within
    obtain ⟨withinL, withinR⟩ := Layout.sides_length_le within
    intro g k h
    obtain ⟨g', l', r', e, h', ⟨left, rootL⟩, right, rootR⟩ :=
      Turns.sides (ihl depth withinL) (ihr depth withinR) h
    have below : g.children j = [l.id, r.id] := (rooted_fill_iff.1 h).2.1.children_id
    -- the sides are exchanged by what they are after the pass, which keeps whether they are negated
    obtain ⟨_, holds, _⟩ := rooted_fill_iff.1 h'
    have kind : g'.kind? j = some (.join c) := holds.kind?_id
    have negated := holds.2.1.isNot_id
    have negated' := holds.2.2.isNot_id
    rw [rootL, left] at negated
    rw [rootR, right] at negated'
    rw [Layout.id, swapNot_of_sides below e]
    simp only [swapSides, kind, negated, negated', Layout.marked, Tree.swapNot, Tree.swapSides]
    split
    · exact ⟨_, _, rfl, rooted_swapChildren h', congrArg₂ (Tree.join c s) right left, rfl⟩
    · exact ⟨_, _, rfl, h', congrArg₂ (Tree.join c s) left right, rfl⟩

/-- A pass that turns every layout at its root turns the one that the graph shows. -/
lemma shows_atRoot {op : Nat → Graph α → Nat → Option (Graph α)}
    {move : Tree (Nat × α) → Tree (Nat × α)}
    (turns : ∀ t depth, t.ids.length ≤ depth →
      Turns (op depth) t fun t' => t'.marked = move t.marked)
    {l? : Option (Layout α)} (h : g.Shows l?) :
    ∃ g' l?', g.atRoot op = some g' ∧ g'.Shows l?' ∧
      l?'.map Layout.marked = l?.map fun l => move l.marked := by
  cases l? with
  | none => exact ⟨g, none, by rw [atRoot, show g.root? = none from h], h, rfl⟩
  | some l =>
    obtain ⟨g', l', e, rooted, same⟩ := turns l _ (Rooted.length_le h) (k := .top) h
    exact ⟨g', some l', by rw [atRoot, Rooted.root h]; exact e, rooted, congrArg some same⟩

/-- The two passes of rearranging can be made one by one. -/
lemma rearrange_eq_bind (g : Graph α) (push swap : Bool) :
    g.rearrange push swap = (g.rearrange push false).bind (·.rearrange false swap) := by
  cases push <;> cases swap <;> simp [rearrange]

/-- A rearranged graph has the layout of the rearranged tree, with every leaf where it is. -/
lemma shows_rearrange {l? : Option (Layout α)} (h : g.Shows l?) (push swap : Bool) :
    ∃ g' l?', g.rearrange push swap = some g' ∧ g'.Shows l?' ∧
      l?'.map Layout.marked = l?.map fun l => l.marked.rearrange push swap := by
  obtain ⟨g₁, l₁?, e₁, h₁, same₁⟩ : ∃ g' l?', g.rearrange push false = some g' ∧ g'.Shows l?' ∧
      l?'.map Layout.marked = l?.map fun l => l.marked.rearrange push false := by
    cases push
    · exact ⟨g, l?, rfl, h, rfl⟩
    · obtain ⟨g', l?', e, h', same⟩ :=
        shows_atRoot (fun t depth within => (turns_pushNot t depth within).1) h
      exact ⟨g', l?', by simpa [rearrange] using e, h', same⟩
  obtain ⟨g₂, l₂?, e₂, h₂, same₂⟩ : ∃ g' l?', g₁.rearrange false swap = some g' ∧ g'.Shows l?' ∧
      l?'.map Layout.marked = l₁?.map fun l => l.marked.rearrange false swap := by
    cases swap
    · exact ⟨g₁, l₁?, rfl, h₁, rfl⟩
    · have turns (t : Layout α) (depth : Nat) (within : t.ids.length ≤ depth) :
          Turns (swapNot depth) t fun t' => t'.marked = t.marked.swapNot := by
        intro g k rooted
        obtain ⟨g', t', e, rooted', same, _⟩ := turns_swapNot t depth within rooted
        exact ⟨g', t', e, rooted', same⟩
      exact shows_atRoot turns h₁
  refine ⟨g₂, l₂?, by rw [rearrange_eq_bind, e₁]; exact e₂, h₂, ?_⟩
  have same₁ := congrArg (Option.map fun t => t.rearrange false swap) same₁
  rw [Option.map_map, Option.map_map] at same₁
  refine same₂.trans (same₁.trans ?_)
  cases push <;> rfl

/-- A rearranged graph has the rearranged tree. -/
lemma carries_rearrange {t? : Option (Tree α)} (h : g.Carries t?) (push swap : Bool) :
    ∃ g', g.rearrange push swap = some g' ∧ g'.Carries (t?.map (Tree.rearrange push swap)) := by
  obtain ⟨l?, shown, rfl⟩ := h
  obtain ⟨g', l?', e, shown', same⟩ := shows_rearrange shown push swap
  refine ⟨g', e, l?', shown', ?_⟩
  calc l?'.map Layout.tree
    _ = (l?'.map Layout.marked).map (Tree.map Prod.snd) := by
      simp [Function.comp_def, Layout.map_marked]
    _ = (l?.map fun l => l.marked.rearrange push swap).map (Tree.map Prod.snd) := by rw [same]
    _ = (l?.map Layout.tree).map (Tree.rearrange push swap) := by
      simp [Function.comp_def, ← Tree.rearrange_map, Layout.map_marked]

end Graph

end Sift
