import Mathlib.Data.List.Nodup
import Mathlib.Data.List.Perm.Subperm
import Mathlib.Tactic.Lemma
import Sift.Graph.Basic

/-!
# Trees in graphs

A layout is a tree together with the positions of its nodes. A graph holds a layout where its nodes
have the links that the layout says (`Graph.Holds`); it is rooted in one if its root is the root of
the layout and no position occurs twice (`Graph.Rooted`). What the rest of the array holds does not
matter. A context is a layout with a hole; what a graph holds around a hole and in it can be looked
at one by one (`Graph.rooted_fill_iff`).
-/

namespace Sift

/-- The tree with its leaves changed. -/
def Tree.map {α β : Type} (f : α → β) : Tree α → Tree β
  | leaf s a => leaf s (f a)
  | not s t => not s (t.map f)
  | join c s l r => join c s (l.map f) (r.map f)

/-- A tree comes from the same place when its leaves are changed. -/
@[simp] lemma Tree.site_map {α β : Type} {f : α → β} (t : Tree α) : (t.map f).site = t.site := by
  cases t <;> rfl

/-- A tree with the positions of its nodes. -/
inductive Layout (α : Type) where
  | leaf (id : Nat) (site : Site) (a : α)
  | not (id : Nat) (site : Site) (t : Layout α)
  | join (id : Nat) (c : Connective) (site : Site) (l r : Layout α)

namespace Layout

variable {α : Type}

/-- The position of the root. -/
def id : Layout α → Nat
  | leaf i _ _ => i
  | not i _ _ => i
  | join i _ _ _ _ => i

/-- The root of a leaf is the leaf. -/
@[simp] lemma id_leaf (i : Nat) (s : Site) (a : α) : (leaf i s a).id = i := rfl

/-- The root of a `not` is the `not`. -/
@[simp] lemma id_not (i : Nat) (s : Site) (t : Layout α) : (not i s t).id = i := rfl

/-- The root of a connective's tree is the connective. -/
@[simp] lemma id_join (i : Nat) (c : Connective) (s : Site) (l r : Layout α) :
    (join i c s l r).id = i := rfl

/-- The positions, each before those below it. -/
def ids : Layout α → List Nat
  | leaf i _ _ => [i]
  | not i _ t => i :: t.ids
  | join i _ _ l r => i :: (l.ids ++ r.ids)

/-- The tree without the positions. -/
def tree : Layout α → Tree α
  | leaf _ s a => .leaf s a
  | not _ s t => .not s t.tree
  | join _ c s l r => .join c s l.tree r.tree

/-- The tree with the positions of its leaves. -/
def marked : Layout α → Tree (Nat × α)
  | leaf i s a => .leaf s (i, a)
  | not _ s t => .not s t.marked
  | join _ c s l r => .join c s l.marked r.marked

/-- Without the marks of positions the tree is that of the layout. -/
lemma map_marked (t : Layout α) : t.marked.map Prod.snd = t.tree := by
  induction t with
  | leaf i s a => rfl
  | not i s t ih => exact congrArg (Tree.not s) ih
  | join i c s l r ihl ihr => exact congrArg₂ (Tree.join c s) ihl ihr

/-- The marked tree comes from where the tree of the layout does. -/
lemma site_marked (t : Layout α) : t.marked.site = t.tree.site := by
  rw [← map_marked, Tree.site_map]

/-- The node at the root, below another one or none. -/
def entry (parent? : Option Nat) : Layout α → Entry α
  | leaf _ s a => ⟨.leaf a, s, parent?, []⟩
  | not _ s t => ⟨.not, s, parent?, [t.id]⟩
  | join _ c s l r => ⟨.join c, s, parent?, [l.id, r.id]⟩

/-- The node of the root comes from where the tree does. -/
lemma site_entry (t : Layout α) (p? : Option Nat) : (t.entry p?).site = t.tree.site := by
  cases t <;> rfl

/-- The root is one of the positions of a layout. -/
lemma id_mem_ids (t : Layout α) : t.id ∈ t.ids := by
  cases t <;> simp [id, ids]

/-- A layout has a position, so that a limit for their number is not zero. -/
lemma exists_of_length_le {t : Layout α} {limit : Nat} (h : t.ids.length ≤ limit) :
    ∃ n, limit = n + 1 :=
  Nat.exists_eq_add_one.2 (Nat.lt_of_lt_of_le (List.length_pos_of_mem t.id_mem_ids) h)

/-- Each side of a connective has fewer positions. -/
lemma sides_length_le {i : Nat} {c : Connective} {s : Site} {l r : Layout α} {n : Nat}
    (h : (join i c s l r).ids.length ≤ n + 1) : l.ids.length ≤ n ∧ r.ids.length ≤ n := by
  rw [ids, List.length_cons, List.length_append] at h
  omega

end Layout

/-- A node above a hole, with what is beside the hole. -/
inductive Frame (α : Type) where
  | not (id : Nat) (site : Site)
  | left (id : Nat) (c : Connective) (site : Site) (r : Layout α)
  | right (id : Nat) (c : Connective) (site : Site) (l : Layout α)

namespace Frame

variable {α : Type}

/-- The position of the node. -/
def id : Frame α → Nat
  | not i _ => i
  | left i _ _ _ => i
  | right i _ _ _ => i

/-- What is beside the hole. -/
def beside? : Frame α → Option (Layout α)
  | not _ _ => none
  | left _ _ _ r => r
  | right _ _ _ l => l

/-- The positions of the node and of what is beside the hole. -/
def ids (f : Frame α) : List Nat := f.id :: f.beside?.toList.flatMap Layout.ids

/-- The node above the hole, below another one or none. -/
def entry (parent? : Option Nat) (hole : Nat) : Frame α → Entry α
  | not _ s => ⟨.not, s, parent?, [hole]⟩
  | left _ c s r => ⟨.join c, s, parent?, [hole, r.id]⟩
  | right _ c s l => ⟨.join c, s, parent?, [l.id, hole]⟩

/-- The layout with another one in the hole. -/
def fill (t : Layout α) : Frame α → Layout α
  | not i s => .not i s t
  | left i c s r => .join i c s t r
  | right i c s l => .join i c s l t

/-- What is above a hole stays at the root when the hole is filled. -/
lemma id_fill (f : Frame α) (t : Layout α) : (f.fill t).id = f.id := by
  cases f <;> rfl

/-- A filled frame has the positions of what fills it and its own. -/
lemma ids_fill (f : Frame α) (t : Layout α) : (f.fill t).ids.Perm (t.ids ++ f.ids) := by
  cases f with
  | not i s => exact (List.perm_append_singleton i t.ids).symm
  | left i c s r =>
    have perm : (i :: (t.ids ++ r.ids)).Perm (t.ids ++ i :: r.ids) := List.perm_middle.symm
    simpa [ids, id, fill, Layout.ids, beside?] using perm
  | right i c s l =>
    have perm : (i :: (l.ids ++ t.ids)).Perm (t.ids ++ i :: l.ids) :=
      (List.perm_append_comm.cons i).trans List.perm_middle.symm
    simpa [ids, id, fill, Layout.ids, beside?] using perm

/-- What is beside a hole is part of the frame. -/
lemma ids_subset_of_beside? {f : Frame α} {t : Layout α} (h : t ∈ f.beside?) :
    ∀ i ∈ t.ids, i ∈ f.ids := by
  intro i mem
  rw [ids, Option.mem_def.1 h]
  simp [mem]

/-- The node of a frame refers to what is in the hole and to what is beside it. -/
lemma entry_relink {f : Frame α} {p? : Option Nat} {old replacement : Nat} (other : old ∉ f.ids) :
    { f.entry p? old with
      children := (f.entry p? old).children.map fun child =>
        if child = old then replacement else child } = f.entry p? replacement := by
  have sibling {t : Layout α} (h : t ∈ f.beside?) : t.id ≠ old := by
    rintro rfl
    exact other (ids_subset_of_beside? h _ t.id_mem_ids)
  cases f with
  | not i s => simp [entry]
  | left i c s r => simp [entry, sibling (t := r) rfl]
  | right i c s l => simp [entry, sibling (t := l) rfl]

end Frame

/-- What is around a hole: nothing, or a frame and what is around that. -/
inductive Context (α : Type) where
  | top
  | under (f : Frame α) (k : Context α)

namespace Context

variable {α : Type}

/-- The layout with another one in the hole. -/
def fill (t : Layout α) : Context α → Layout α
  | top => t
  | under f k => k.fill (f.fill t)

/-- The positions around the hole. -/
def ids : Context α → List Nat
  | top => []
  | under f k => f.ids ++ k.ids

/-- A filled context has the positions of what fills it and its own. -/
lemma ids_fill (k : Context α) (t : Layout α) : (k.fill t).ids.Perm (t.ids ++ k.ids) := by
  induction k generalizing t with
  | top => exact .of_eq (List.append_nil _).symm
  | under f k ih =>
    refine (ih (f.fill t)).trans ?_
    rw [ids, ← List.append_assoc]
    exact (f.ids_fill t).append_right _

/-- The node above the hole. -/
def parent? : Context α → Option Nat
  | top => none
  | under f _ => f.id

end Context

namespace Graph

variable {α : Type} {g g' : Graph α}

section Nodes

variable {i j : Nat} {s : Site} {kind : NodeKind α} {f : Entry α → Entry α} {p? : Option Nat}

/-- A node that is added is found behind the others. -/
@[simp] lemma node?_add :
    (g.add kind s).node? i = if i = g.nodes.size then some ⟨kind, s, none, []⟩ else g.node? i := by
  simp [node?, add, Array.getElem?_push]

/-- A change is found at its position only. -/
@[simp] lemma node?_update :
    (g.update j f).node? i = if j = i then (g.node? i).map f else g.node? i := by
  simp [node?, update, Array.getElem?_modify]

/-- A node whose parent is set refers to it. -/
@[simp] lemma node?_setParent : (g.setParent j p?).node? i =
    if j = i then (g.node? i).map fun n => { n with parent? := p? } else g.node? i :=
  node?_update

/-- A node that is set to a kind is of that kind. -/
@[simp] lemma node?_setKind : (g.setKind j kind).node? i =
    if j = i then (g.node? i).map fun n => { n with kind } else g.node? i :=
  node?_update

/-- A child that is added is the last below its parent and refers to it. -/
@[simp] lemma node?_addChild {p c : Nat} : (g.addChild p c).node? i =
    if c = i then (if p = i then (g.node? i).map fun n => { n with children := n.children ++ [c] }
        else g.node? i).map fun n => { n with parent? := some p }
      else if p = i then (g.node? i).map fun n => { n with children := n.children ++ [c] }
      else g.node? i := by
  simp only [addChild, node?_setParent, node?_update]

/-- A child that is removed is missing below its parent and refers to none. -/
@[simp] lemma node?_removeChild {p c : Nat} : (g.removeChild p c).node? i =
    if c = i then (if p = i then (g.node? i).map fun n =>
        { n with children := n.children.filter (· != c) }
        else g.node? i).map fun n => { n with parent? := none }
      else if p = i then (g.node? i).map fun n => { n with children := n.children.filter (· != c) }
      else g.node? i := by
  simp only [removeChild, node?_setParent, node?_update]

/-- A change adds no node. -/
@[simp] lemma size_update : (g.update j f).nodes.size = g.nodes.size := by
  simp [update]

/-- Setting a parent adds no node. -/
@[simp] lemma size_setParent : (g.setParent j p?).nodes.size = g.nodes.size := size_update

/-- Setting a kind adds no node. -/
@[simp] lemma size_setKind : (g.setKind j kind).nodes.size = g.nodes.size := size_update

/-- Adding a child adds no node. -/
@[simp] lemma size_addChild {p c : Nat} : (g.addChild p c).nodes.size = g.nodes.size := by
  simp [addChild]

/-- Removing a child removes no node. -/
@[simp] lemma size_removeChild {p c : Nat} : (g.removeChild p c).nodes.size = g.nodes.size := by
  simp [removeChild]

/-- A change of a node leaves the root. -/
@[simp] lemma root?_update : (g.update j f).root? = g.root? := rfl

/-- Setting a parent leaves the root. -/
@[simp] lemma root?_setParent : (g.setParent j p?).root? = g.root? := rfl

/-- Setting a kind leaves the root. -/
@[simp] lemma root?_setKind : (g.setKind j kind).root? = g.root? := rfl

/-- Adding a child leaves the root. -/
@[simp] lemma root?_addChild {p c : Nat} : (g.addChild p c).root? = g.root? := rfl

/-- Removing a child leaves the root. -/
@[simp] lemma root?_removeChild {p c : Nat} : (g.removeChild p c).root? = g.root? := rfl

/-- Adding a node leaves the root. -/
@[simp] lemma root?_add : (g.add kind s).root? = g.root? := rfl

/-- A node that is made the root loses its parent, and no other node changes. -/
@[simp] lemma node?_setRoot_some :
    (g.setRoot (some j)).node? i = (g.setParent j none).node? i := rfl

/-- The root is the one that is set. -/
@[simp] lemma root?_setRoot {root? : Option Nat} : (g.setRoot root?).root? = root? := by
  cases root? <;> rfl

/-- The children at a position are those of the node there. -/
lemma children_of_node? {n : Entry α} (h : g.node? i = some n) : g.children i = n.children := by
  rw [children, h]
  rfl

/-- Only positions in the array have nodes. -/
lemma lt_of_node? {n : Entry α} (h : g.node? i = some n) : i < g.nodes.size :=
  (Array.getElem?_eq_some_iff.1 h).1

end Nodes

/-- The nodes of a layout are in the graph, below a node or none, with the links that they have in
the layout. -/
def Holds (g : Graph α) (parent? : Option Nat) : Layout α → Prop
  | .leaf i s a => g.node? i = some ((Layout.leaf i s a).entry parent?)
  | .not i s t => g.node? i = some ((Layout.not i s t).entry parent?) ∧ g.Holds i t
  | .join i c s l r =>
    g.node? i = some ((Layout.join i c s l r).entry parent?) ∧ g.Holds i l ∧ g.Holds i r

namespace Holds

variable {p? p?' : Option Nat} {t : Layout α}

/-- The node at the root. -/
lemma node (h : g.Holds p? t) : g.node? t.id = some (t.entry p?) := by
  cases t with
  | leaf i s a => exact h
  | not i s t => exact h.1
  | join i c s l r => exact h.1

/-- The root of a layout refers to what is above it. -/
lemma parent?_id (h : g.Holds p? t) : g.parent? t.id = p? := by
  rw [parent?, h.node, Option.bind_some]
  cases t <;> rfl

/-- The children of the root of a layout are the roots below it. -/
lemma children_id (h : g.Holds p? t) : g.children t.id = (t.entry p?).children :=
  children_of_node? h.node

/-- The root of a layout is of the layout's kind. -/
lemma kind?_id (h : g.Holds p? t) : g.kind? t.id = some (t.entry p?).kind := by
  rw [kind?, h.node]
  rfl

/-- A graph with the same nodes holds the same layouts. -/
lemma congr (h : g.Holds p? t) (same : ∀ i ∈ t.ids, g'.node? i = g.node? i) :
    g'.Holds p? t := by
  induction t generalizing p? with
  | leaf i s a => exact (same i (by simp [Layout.ids])).trans h
  | not i s t ih =>
    refine ⟨(same i (by simp [Layout.ids])).trans h.1, ih h.2 fun j mem => same j ?_⟩
    exact List.mem_cons_of_mem _ mem
  | join i c s l r ihl ihr =>
    refine ⟨(same i (by simp [Layout.ids])).trans h.1, ihl h.2.1 fun j mem => same j ?_,
      ihr h.2.2 fun j mem => same j ?_⟩
    · exact List.mem_cons_of_mem _ (List.mem_append_left _ mem)
    · exact List.mem_cons_of_mem _ (List.mem_append_right _ mem)

/-- A layout is moved below another node by changing its root. -/
lemma move (h : g.Holds p? t) (nodup : t.ids.Nodup)
    (root : g'.node? t.id = (g.node? t.id).map fun n => { n with parent? := p?' })
    (same : ∀ i ∈ t.ids, i ≠ t.id → g'.node? i = g.node? i) : g'.Holds p?' t := by
  rw [h.node] at root
  cases t with
  | leaf i s a => exact root
  | not i s t =>
    have inner := (List.nodup_cons.1 nodup).1
    refine ⟨root, h.2.congr fun j mem => same j ?_ ?_⟩
    · exact List.mem_cons_of_mem _ mem
    · rintro rfl
      exact inner mem
  | join i c s l r =>
    have inner := (List.nodup_cons.1 nodup).1
    rw [List.mem_append, not_or] at inner
    refine ⟨root, h.2.1.congr fun j mem => same j ?_ ?_, h.2.2.congr fun j mem => same j ?_ ?_⟩
    · exact List.mem_cons_of_mem _ (List.mem_append_left _ mem)
    · rintro rfl
      exact inner.1 mem
    · exact List.mem_cons_of_mem _ (List.mem_append_right _ mem)
    · rintro rfl
      exact inner.2 mem

/-- Every position of a layout is that of a node. -/
lemma lt_size (h : g.Holds p? t) : ∀ i ∈ t.ids, i < g.nodes.size := by
  induction t generalizing p? with
  | leaf i s a =>
    intro j mem
    rw [List.mem_singleton.1 mem]
    exact lt_of_node? h
  | not i s t ih =>
    refine List.forall_mem_cons.2 ⟨lt_of_node? h.1, ih h.2⟩
  | join i c s l r ihl ihr =>
    refine List.forall_mem_cons.2 ⟨lt_of_node? h.1, ?_⟩
    exact List.forall_mem_append.2 ⟨ihl h.2.1, ihr h.2.2⟩

end Holds

/-- The node of a frame and what is beside its hole are in the graph, below a node or none, with the
links of the frame and one to the hole. -/
structure HoldsFrame (g : Graph α) (parent? : Option Nat) (hole : Nat) (f : Frame α) : Prop where
  node : g.node? f.id = some (f.entry parent? hole)
  beside : ∀ t ∈ f.beside?, g.Holds f.id t

namespace HoldsFrame

variable {p? : Option Nat} {hole old replacement : Nat} {f : Frame α}

/-- A frame is held as long as its nodes do not change. -/
lemma congr (h : g.HoldsFrame p? hole f) (same : ∀ i ∈ f.ids, g'.node? i = g.node? i) :
    g'.HoldsFrame p? hole f where
  node := (same f.id List.mem_cons_self).trans h.node
  beside t mem := (h.beside t mem).congr fun i inner =>
    same i (Frame.ids_subset_of_beside? mem i inner)

/-- A frame gets another node below it by changing its own node. -/
lemma relink (h : g.HoldsFrame p? old f) (nodup : f.ids.Nodup) (other : old ∉ f.ids)
    (node : g'.node? f.id = (g.node? f.id).map fun n =>
      { n with children := n.children.map fun child => if child = old then replacement else child })
    (same : ∀ i ∈ f.ids, i ≠ f.id → g'.node? i = g.node? i) :
    g'.HoldsFrame p? replacement f where
  node := by rw [node, h.node, Option.map_some, Frame.entry_relink other]
  beside t mem := (h.beside t mem).congr fun i inner => by
    refine same i (Frame.ids_subset_of_beside? mem i inner) ?_
    rintro rfl
    refine (List.nodup_cons.1 nodup).1 ?_
    rw [Option.mem_def.1 mem]
    simpa using inner

end HoldsFrame

/-- A filled frame is held if the frame is, and what fills it is below the frame. -/
lemma holds_fill_iff {p? : Option Nat} {f : Frame α} {t : Layout α} :
    g.Holds p? (f.fill t) ↔ g.HoldsFrame p? t.id f ∧ g.Holds f.id t := by
  cases f with
  | not i s => exact ⟨fun h => ⟨⟨h.1, nofun⟩, h.2⟩, fun h => ⟨h.1.node, h.2⟩⟩
  | left i c s r =>
    refine ⟨fun h => ⟨⟨h.1, ?_⟩, h.2.1⟩, fun h => ⟨h.1.node, h.2, h.1.beside r rfl⟩⟩
    rintro t ⟨⟩
    exact h.2.2
  | right i c s l =>
    refine ⟨fun h => ⟨⟨h.1, ?_⟩, h.2.2⟩, fun h => ⟨h.1.node, h.1.beside l rfl, h.2⟩⟩
    rintro t ⟨⟩
    exact h.2.1

/-- What is around a hole is in the graph, up to its root. -/
def Around (g : Graph α) (hole : Nat) : Context α → Prop
  | .top => g.root? = some hole
  | .under f k => g.HoldsFrame k.parent? hole f ∧ g.Around f.id k

/-- What is around a hole is held as long as its nodes and the root do not change. -/
lemma Around.congr {hole : Nat} {k : Context α} (h : g.Around hole k) (root : g'.root? = g.root?)
    (same : ∀ i ∈ k.ids, g'.node? i = g.node? i) : g'.Around hole k := by
  induction k generalizing hole with
  | top => exact root.trans h
  | under f k ih =>
    refine ⟨h.1.congr fun i mem => same i ?_, ih h.2 fun i mem => same i ?_⟩
    · exact List.mem_append_left _ mem
    · exact List.mem_append_right _ mem

/-- The tree of the graph has the layout. -/
structure Rooted (g : Graph α) (t : Layout α) : Prop where
  root : g.root? = some t.id
  holds : g.Holds none t
  nodup : t.ids.Nodup

/-- A graph can be looked at around a hole and in it. -/
lemma rooted_fill_iff {k : Context α} {t : Layout α} :
    g.Rooted (k.fill t) ↔
      g.Around t.id k ∧ g.Holds k.parent? t ∧ (t.ids ++ k.ids).Nodup := by
  induction k generalizing t with
  | top =>
    rw [Context.ids, List.append_nil]
    exact ⟨fun h => ⟨h.root, h.holds, h.nodup⟩, fun h => ⟨h.1, h.2.1, h.2.2⟩⟩
  | under f k ih =>
    have perm := (k.ids_fill (f.fill t)).symm.trans ((Context.under f k).ids_fill t)
    rw [Context.fill, ih, holds_fill_iff, perm.nodup_iff, f.id_fill]
    exact ⟨fun h => ⟨⟨h.2.1.1, h.1⟩, h.2.1.2, h.2.2⟩, fun h => ⟨h.1.2, ⟨h.1.1, h.2.1⟩, h.2.2⟩⟩

/-- A layout has at most as many positions as there are nodes. -/
lemma Rooted.length_le {t : Layout α} (h : g.Rooted t) : t.ids.length ≤ g.nodes.size := by
  have within : t.ids ⊆ List.range g.nodes.size :=
    fun i mem => List.mem_range.2 (h.holds.lt_size i mem)
  simpa using (h.nodup.subperm within).length_le

/-- The positions of a layout are in the array, those around it too. -/
lemma Rooted.lt_size {k : Context α} {t : Layout α} (h : g.Rooted (k.fill t)) :
    ∀ i ∈ t.ids ++ k.ids, i < g.nodes.size :=
  fun i mem => h.holds.lt_size i ((k.ids_fill t).mem_iff.2 mem)

/-- A layout below one node comes into the place of another node. -/
lemma rooted_replaceNode {k : Context α} {t : Layout α} {old q : Nat}
    (around : g.Around old k) (place : g.parent? old = k.parent?) (holds : g.Holds (some q) t)
    (nodup : (t.ids ++ k.ids).Nodup) (outOld : old ∉ t.ids ++ k.ids) (outQ : q ∉ t.ids ++ k.ids) :
    (g.replaceNode old t.id).Rooted (k.fill t) := by
  rw [List.mem_append, not_or] at outOld outQ
  have detached : g.detach t.id = g.removeChild q t.id := by
    rw [detach, holds.parent?_id]
  have place' : (g.removeChild q t.id).parent? old = k.parent? := by
    have other : t.id ≠ old := t.id_mem_ids.ne_of_notMem outOld.1
    rw [← place, parent?, parent?, node?_removeChild, if_neg other]
    split
    · cases g.node? old <;> rfl
    · rfl
  -- neither `old` nor `q` is a node of the result, so the links that they lose do not matter
  obtain ⟨nodupT, nodupK, apart⟩ := List.nodup_append.1 nodup
  have ofT {i : Nat} (mem : i ∈ t.ids) : q ≠ i ∧ old ≠ i :=
    ⟨(mem.ne_of_notMem outQ.1).symm, (mem.ne_of_notMem outOld.1).symm⟩
  have ofK {i : Nat} (mem : i ∈ k.ids) : q ≠ i ∧ old ≠ i ∧ t.id ≠ i :=
    ⟨(mem.ne_of_notMem outQ.2).symm, (mem.ne_of_notMem outOld.2).symm, apart _ t.id_mem_ids i mem⟩
  obtain ⟨qRoot, oldRoot⟩ := ofT t.id_mem_ids
  rw [rooted_fill_iff, replaceNode, detached]
  simp only [place']
  cases k with
  | top =>
    have root : (g.removeChild q t.id).root? = some old := around
    simp only [Context.parent?, root, if_true]
    refine ⟨rfl, holds.move nodupT ?_ fun i mem ne => ?_, nodup⟩
    · simp [qRoot, holds.node]
    · simp [(ofT mem).1, ne.symm]
  | under f k =>
    simp only [Context.parent?]
    have mem : f.id ∈ (Context.under f k).ids := List.mem_append_left _ List.mem_cons_self
    obtain ⟨fq, fold, ft⟩ := ofK mem
    obtain ⟨nodupF, _, apartF⟩ := List.nodup_append.1 nodupK
    obtain ⟨frame, above⟩ := around
    refine ⟨⟨frame.relink nodupF ?_ ?_ fun i mem ne => ?_,
      above.congr (by simp) fun i mem => ?_⟩,
      holds.move nodupT ?_ fun i mem ne => ?_, nodup⟩
    · exact fun mem => outOld.2 (List.mem_append_left _ mem)
    · simp [fq, fold, ft]
    · obtain ⟨notQ, notOld, notT⟩ := ofK (List.mem_append_left _ mem)
      simp [notQ, notOld, notT, ne.symm]
    · obtain ⟨notQ, notOld, notT⟩ := ofK (List.mem_append_right _ mem)
      simp [notQ, notOld, notT, apartF f.id List.mem_cons_self i mem]
    · simp [qRoot, oldRoot, ft.symm, holds.node]
    · obtain ⟨notQ, notOld⟩ := ofT mem
      simp [notQ, notOld, ne.symm, (apart i mem f.id ‹_›).symm]

/-- The tree of the graph has the layout, or there is none. -/
def Shows (g : Graph α) : Option (Layout α) → Prop
  | none => g.root? = none
  | some t => g.Rooted t

/-- The graph has the tree, or none. -/
def Carries (g : Graph α) (t? : Option (Tree α)) : Prop :=
  ∃ l?, g.Shows l? ∧ l?.map Layout.tree = t?

/-- A walk from no node visits none. -/
lemma walkFrom_nil (limit : Nat) : g.walkFrom limit [] = some [] := by
  cases limit <;> rfl

/-- A walk visits a node, then its children, then the rest of the row. -/
lemma walkFrom_cons {limit i : Nat} {n : Entry α} {stack : List Nat} (h : g.node? i = some n) :
    g.walkFrom (limit + 1) (i :: stack) =
      (g.walkFrom limit (n.children ++ stack)).map (i :: ·) := by
  rw [walkFrom, h]
  cases e : g.walkFrom limit (n.children ++ stack) <;> simp [e]

/-- A walk visits the nodes of a layout before those of the rest of the row, and uses up as much of
the limit as there are. -/
lemma Holds.walkFrom {p? : Option Nat} {t : Layout α} (h : g.Holds p? t) (limit : Nat)
    (stack : List Nat) : g.walkFrom (t.ids.length + limit) (t.id :: stack) =
      (g.walkFrom limit stack).map (t.ids ++ ·) := by
  induction t generalizing p? limit stack with
  | leaf i s a =>
    rw [show (Layout.leaf i s a).ids.length + limit = limit + 1 from Nat.add_comm 1 limit]
    exact walkFrom_cons h.node
  | not i s t ih =>
    have count : (Layout.not i s t).ids.length + limit = t.ids.length + limit + 1 :=
      Nat.add_right_comm _ 1 limit
    rw [count, walkFrom_cons h.node]
    simp only [Layout.entry, List.cons_append, List.nil_append, ih h.2, Option.map_map]
    rfl
  | join i c s l r ihl ihr =>
    have count : (Layout.join i c s l r).ids.length + limit =
        l.ids.length + (r.ids.length + limit) + 1 := by
      rw [Layout.ids, List.length_cons, List.length_append]
      omega
    rw [count, walkFrom_cons h.node]
    simp only [Layout.entry, List.cons_append, List.nil_append, ihl h.2.1, ihr h.2.2,
      Option.map_map]
    cases g.walkFrom limit stack <;> simp [Layout.ids]

/-- A walk from the root visits the positions of the layout. -/
lemma Shows.walk {l? : Option (Layout α)} (h : g.Shows l?) :
    g.walk = some (l?.toList.flatMap Layout.ids) := by
  cases l? with
  | none =>
    rw [Graph.walk, show g.root? = none from h]
    exact walkFrom_nil _
  | some t =>
    obtain ⟨limit, count⟩ := Nat.exists_eq_add_of_le (Rooted.length_le h)
    rw [Graph.walk, h.root, Option.toList_some, count, h.holds.walkFrom, walkFrom_nil]
    simp

end Graph

end Sift
