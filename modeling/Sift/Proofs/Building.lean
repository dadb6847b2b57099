import Mathlib.Data.List.Flatten
import Sift.Proofs.Pruning
import Sift.Proofs.Recovery

/-!
# Building graphs

While a graph is built its nodes stand in a row of slots, which are what the items of the outline
are in the graph (`Slot.item`). Every pass over a row does to the slots what it does to the items,
and leaves all others alone (`Graph.EndsIn`): those of the levels around, and those of the same
level that it has already gone past.
-/

namespace Sift

/-- A combinator that has no operands yet, or a term, with the positions of their nodes. -/
inductive Slot (α : Type) where
  | combinator (id : Nat) (k : Combinator) (site : Site)
  | term (t : Layout α)

namespace Slot

variable {α : Type}

/-- The position in the row. -/
def id : Slot α → Nat
  | combinator i _ _ => i
  | term t => t.id

/-- All positions. -/
def ids : Slot α → List Nat
  | combinator i _ _ => [i]
  | term t => t.ids

/-- The slot without positions. -/
def item : Slot α → Item α
  | combinator _ k s => .combinator k s
  | term t => .term t.tree

end Slot

namespace Graph

variable {α : Type} {g g' : Graph α}

/-- The nodes of a slot are in the graph, and none is above them. -/
def HoldsSlot (g : Graph α) : Slot α → Prop
  | .combinator i k s => g.node? i = some ⟨k.kind, s, none, []⟩
  | .term t => g.Holds none t

namespace HoldsSlot

variable {x : Slot α}

/-- A slot is held as long as its nodes do not change. -/
lemma congr (h : g.HoldsSlot x) (same : ∀ i ∈ x.ids, g'.node? i = g.node? i) : g'.HoldsSlot x := by
  cases x with
  | combinator i k s => exact (same i (List.mem_singleton_self i)).trans h
  | term t => exact Holds.congr h same

/-- The positions of a slot are in the array. -/
lemma lt_size (h : g.HoldsSlot x) : ∀ i ∈ x.ids, i < g.nodes.size := by
  cases x with
  | combinator i k s =>
    intro j mem
    rw [List.mem_singleton.1 mem]
    exact lt_of_node? h
  | term t => exact Holds.lt_size h

/-- The node of a slot comes from where its item does. -/
lemma site_id (h : g.HoldsSlot x) : g.site x.id = x.item.site := by
  cases x with
  | combinator i k s =>
    have node : g.node? i = _ := h
    simp [Slot.id, Slot.item, Item.site, site, node]
  | term t =>
    have node := Holds.node h
    simp [Slot.id, Slot.item, Item.site, site, node, Layout.site_entry]

/-- A combinator in a slot waits for its operands. -/
lemma open?_combinator {i : Nat} {k : Combinator} {s : Site}
    (h : g.HoldsSlot (.combinator i k s)) : g.open? i = some k := by
  have node : g.node? i = _ := h
  cases k <;> simp [open?, node, Combinator.kind]

/-- A term in a slot waits for nothing. -/
lemma open?_term {t : Layout α} (h : g.HoldsSlot (.term t)) : g.open? t.id = none := by
  rw [open?, Holds.node h]
  cases t <;> rfl

/-- The graph tells terms from combinators as the row of items does. -/
lemma isNone_open? (h : g.HoldsSlot x) : (g.open? x.id).isNone = x.item.isTerm := by
  cases x with
  | combinator i k s => simp [Slot.id, h.open?_combinator, Slot.item, Item.isTerm]
  | term t => simp [Slot.id, h.open?_term, Slot.item, Item.isTerm]

/-- The graph tells connectives from other nodes as the row of items does. -/
lemma any_open? (h : g.HoldsSlot x) :
    (g.open? x.id).any Combinator.isJoin = x.item.isConnective := by
  cases x with
  | combinator i k s => cases k <;> simp [Slot.id, h.open?_combinator, Slot.item,
      Item.isConnective, Combinator.isJoin]
  | term t => simp [Slot.id, h.open?_term, Slot.item, Item.isConnective]

end HoldsSlot

/-- The graph has the slots, in which no position occurs twice, and no root yet. -/
structure Row (g : Graph α) (slots : List (Slot α)) : Prop where
  root : g.root? = none
  holds : ∀ x ∈ slots, g.HoldsSlot x
  nodup : (slots.flatMap Slot.ids).Nodup

namespace Row

variable {x : Slot α} {slots slots' : List (Slot α)} {s : Site}

/-- The order of the slots does not matter for holding them. -/
lemma perm (h : g.Row slots) (p : slots.Perm slots') : g.Row slots' where
  root := h.root
  holds x mem := h.holds x (p.mem_iff.2 mem)
  nodup := (p.flatMap_right Slot.ids).nodup_iff.1 h.nodup

/-- The order of the slots does not matter. -/
lemma aside (xs ys others : List (Slot α)) (h : g.Row (xs ++ (ys ++ others))) :
    g.Row (ys ++ (xs ++ others)) :=
  h.perm (List.perm_append_comm_assoc xs ys others)

/-- Fewer slots are held, too. -/
lemma sublist (h : g.Row slots) (sub : slots'.Sublist slots) : g.Row slots' where
  root := h.root
  holds x mem := h.holds x (sub.subset mem)
  nodup := h.nodup.sublist (sub.flatMap Slot.ids)

/-- The slots behind the first one are held without it. -/
lemma tail (h : g.Row (x :: slots)) : g.Row slots := h.sublist (List.sublist_cons_self x slots)

/-- Slots that others have been put behind come in front of them, or are left out if there are no
others. -/
lemma behind {xs others : List (Slot α)} {ys? : Option (List (Slot α))}
    (h : g.Row (ys?.getD [] ++ (xs ++ others))) :
    g.Row ((ys?.map (xs ++ ·)).getD [] ++ others) := by
  cases ys? with
  | none => exact h.sublist (List.sublist_append_right xs others)
  | some ys =>
    rw [Option.map_some, Option.getD_some, List.append_assoc]
    exact h.aside ys xs others

/-- The positions of a row are in the array. -/
lemma lt_size (h : g.Row slots) : ∀ i ∈ slots.flatMap Slot.ids, i < g.nodes.size := by
  intro i mem
  obtain ⟨x, inner, mem⟩ := List.mem_flatMap.1 mem
  exact (h.holds x inner).lt_size i mem

/-- A new node stands beside all others. -/
lemma push {kind : NodeKind α} (h : g.Row slots) (ids : x.ids = [g.nodes.size])
    (node : (g.add kind s).HoldsSlot x) : (g.add kind s).Row (x :: slots) where
  root := h.root
  holds := by
    refine List.forall_mem_cons.2 ⟨node, fun y mem => (h.holds y mem).congr fun i inner => ?_⟩
    have lt := (h.holds y mem).lt_size i inner
    rw [node?_add, if_neg (Nat.ne_of_lt lt)]
  nodup := by
    rw [List.flatMap_cons, ids]
    exact List.nodup_cons.2 ⟨fun mem => Nat.lt_irrefl _ (h.lt_size _ mem), h.nodup⟩

/-- A combinator that is added is one more slot. -/
lemma push_combinator {k : Combinator} (h : g.Row slots) :
    (g.add k.kind s).Row (.combinator g.nodes.size k s :: slots) :=
  h.push rfl (by simp [HoldsSlot])

/-- A leaf that is added is one more slot. -/
lemma push_leaf {a : α} (h : g.Row slots) :
    (g.add (.leaf a) s).Row (.term (.leaf g.nodes.size s a) :: slots) :=
  h.push rfl (by simp [HoldsSlot, Holds, Layout.entry])

/-- A `not` takes its operand. -/
lemma take_not {i : Nat} {t : Layout α} (h : g.Row (.combinator i .not s :: .term t :: slots)) :
    (g.addChild i t.id).Row (.term (.not i s t) :: slots) := by
  obtain ⟨first, rest⟩ := List.forall_mem_cons.1 h.holds
  obtain ⟨term, rest⟩ := List.forall_mem_cons.1 rest
  have node : g.node? i = some ⟨.not, s, none, []⟩ := first
  have term : g.Holds none t := term
  have nodup : (i :: (t.ids ++ slots.flatMap Slot.ids)).Nodup := h.nodup
  obtain ⟨out, nodup'⟩ := List.nodup_cons.1 nodup
  obtain ⟨nodupT, -, apart⟩ := List.nodup_append.1 nodup'
  rw [List.mem_append, not_or] at out
  have root := (t.id_mem_ids.ne_of_notMem out.1).symm
  refine ⟨h.root, List.forall_mem_cons.2 ⟨⟨?_, term.move nodupT ?_ fun j mem ne => ?_⟩,
    fun x mem => (rest x mem).congr fun j inner => ?_⟩, nodup⟩
  · simp [node, root.symm, Layout.entry]
  · simp [term.node, root]
  · simp [(mem.ne_of_notMem out.1).symm, ne.symm]
  · have mem := List.mem_flatMap_of_mem mem inner
    simp [(mem.ne_of_notMem out.2).symm, apart _ t.id_mem_ids j mem]

/-- A connective takes its operands. -/
lemma take_join {i : Nat} {c : Connective} {l r : Layout α}
    (h : g.Row (.combinator i (.join c) s :: .term l :: .term r :: slots)) :
    ((g.addChild i l.id).addChild i r.id).Row (.term (.join i c s l r) :: slots) := by
  obtain ⟨first, rest⟩ := List.forall_mem_cons.1 h.holds
  obtain ⟨left, rest⟩ := List.forall_mem_cons.1 rest
  obtain ⟨right, rest⟩ := List.forall_mem_cons.1 rest
  have node : g.node? i = some ⟨.join c, s, none, []⟩ := first
  have left : g.Holds none l := left
  have right : g.Holds none r := right
  have nodup : (i :: (l.ids ++ (r.ids ++ slots.flatMap Slot.ids))).Nodup := h.nodup
  obtain ⟨out, nodup'⟩ := List.nodup_cons.1 nodup
  obtain ⟨nodupL, nodup', apartL⟩ := List.nodup_append.1 nodup'
  obtain ⟨nodupR, -, apartR⟩ := List.nodup_append.1 nodup'
  rw [List.mem_append, List.mem_append, not_or, not_or] at out
  have rootL := (l.id_mem_ids.ne_of_notMem out.1).symm
  have rootR := (r.id_mem_ids.ne_of_notMem out.2.1).symm
  -- only the roots of the sides and the connective change, and no position occurs twice
  have sides {j : Nat} (mem : j ∈ l.ids) : r.id ≠ j :=
    (apartL j mem _ (List.mem_append_left _ r.id_mem_ids)).symm
  have sides' {j : Nat} (mem : j ∈ r.ids) : l.id ≠ j :=
    apartL _ l.id_mem_ids j (List.mem_append_left _ mem)
  refine ⟨h.root, List.forall_mem_cons.2 ⟨⟨?_, left.move nodupL ?_ fun j mem ne => ?_,
    right.move nodupR ?_ fun j mem ne => ?_⟩,
    fun x mem => (rest x mem).congr fun j inner => ?_⟩, ?_⟩
  · simp [node, rootL.symm, rootR.symm, Layout.entry]
  · simp [left.node, rootL, sides l.id_mem_ids]
  · simp [(mem.ne_of_notMem out.1).symm, ne.symm, sides mem]
  · simp [right.node, rootR, sides' r.id_mem_ids]
  · simp [(mem.ne_of_notMem out.2.1).symm, ne.symm, sides' mem]
  · have mem := List.mem_flatMap_of_mem mem inner
    simp [(mem.ne_of_notMem out.2.2).symm, apartR _ r.id_mem_ids j mem,
      apartL _ l.id_mem_ids j (List.mem_append_right _ mem)]
  · simpa [Slot.ids, Layout.ids] using nodup

/-- The one term of a row becomes the tree of the graph. -/
lemma rooted_setRoot {t : Layout α} (h : g.Row [.term t]) : (g.setRoot t.id).Rooted t where
  root := root?_setRoot
  holds := by
    have holds : g.Holds none t := h.holds (.term t) List.mem_cons_self
    refine holds.congr fun i _ => ?_
    rw [node?_setRoot_some, node?_setParent]
    split
    · next e => rw [← e, holds.node]; cases t <;> rfl
    · rfl
  nodup := by simpa [Slot.ids] using h.nodup

end Row

/-- A pass over a row ends in slots of the given items, beside others that it leaves alone. -/
def EndsIn (result : Graph α × List Nat) (items : List (Item α)) (others : List (Slot α)) : Prop :=
  ∃ g slots, result = (g, slots.map Slot.id) ∧ slots.map Slot.item = items ∧
    g.Row (slots ++ others)

section Passes

variable {slots others : List (Slot α)}

/-- The `and`s are inserted in the graph where they are in the row of items. -/
lemma endsIn_insertAnd (row : g.Row (slots ++ others)) :
    EndsIn (g.insertAnd (slots.map Slot.id)) (Item.insertAnd (slots.map Slot.item)) others := by
  induction slots generalizing g others with
  | nil => exact ⟨g, [], rfl, rfl, row⟩
  | cons x slots ih =>
    cases slots with
    | nil => exact ⟨g, [x], rfl, rfl, row⟩
    | cons y rest =>
      have hx := row.holds x (by simp)
      have hy := row.holds y (by simp)
      simp only [List.map_cons, insertAnd, Item.insertAnd, hx.isNone_open?, hy.any_open?,
        hx.site_id, hy.site_id]
      -- what the pass has gone past is one of the others for the rest of the row
      split
      · let c : Slot α := .combinator g.nodes.size (.join .and) (.gap x.item.site y.item.site)
        have row' : (g.add (.join .and) (.gap x.item.site y.item.site)).Row (c :: x :: _) :=
          row.push_combinator (k := .join .and)
        obtain ⟨g', slots', e, same, row'⟩ := ih (Row.aside [c, x] (y :: rest) others row')
        rw [List.map_cons] at e same
        rw [e, ← same]
        exact ⟨g', x :: c :: slots', rfl, rfl, (row'.aside slots' [c, x] others).perm (.swap ..)⟩
      · obtain ⟨g', slots', e, same, row'⟩ := ih (row.aside [x] (y :: rest) others)
        rw [List.map_cons] at e same
        rw [e, ← same]
        exact ⟨g', x :: slots', rfl, rfl, row'.aside slots' [x] others⟩

/-- The `not`s take their operands in the graph as in the row of items. -/
lemma endsIn_applyNot (row : g.Row (slots ++ others)) :
    EndsIn (g.applyNot (slots.map Slot.id)) (Item.applyNot (slots.map Slot.item)).2 others := by
  induction slots generalizing others with
  | nil => exact ⟨g, [], rfl, rfl, row⟩
  | cons x slots ih =>
    -- the pass goes from right to left, so `x` stands beside what has become of the rest
    obtain ⟨g', slots', e, same, row'⟩ := ih (row.aside [x] slots others)
    have row' : g'.Row (x :: (slots' ++ others)) := row'.aside slots' [x] others
    have hx := row'.holds x List.mem_cons_self
    rw [List.map_cons, applyNot, e]
    cases later : Item.applyNot (slots.map Slot.item) with
    | mk errors rest =>
      rw [later] at same
      subst same
      cases x with
      | term t =>
        have other : g'.open? t.id ≠ some .not := by simp [hx.open?_term]
        refine ⟨g', .term t :: slots', if_neg other, ?_, row'⟩
        simp [Slot.item, Item.applyNot, later]
      | combinator i k s =>
        cases k with
        | join c =>
          have other : g'.open? i ≠ some .not := by simp [hx.open?_combinator]
          refine ⟨g', .combinator i (.join c) s :: slots', if_neg other, ?_, row'⟩
          simp [Slot.item, Item.applyNot, later]
        | not =>
          have isNot : g'.open? i = some .not := hx.open?_combinator
          cases slots' with
          | nil =>
            refine ⟨g', [], if_pos isNot, ?_, row'.tail⟩
            simp [Slot.item, Item.applyNot, later]
          | cons y slots' =>
            cases y with
            | combinator j k s' =>
              have isOpen : g'.open? j = some k :=
                (row'.holds (.combinator j k s') (by simp)).open?_combinator
              refine ⟨g', .combinator j k s' :: slots', ?_, ?_, row'.tail⟩
              · simp [Slot.id, isNot, isOpen]
              · simp [Slot.item, Item.applyNot, later]
            | term t =>
              have term : g'.open? t.id = none := (row'.holds _ (by simp)).open?_term
              refine ⟨g'.addChild i t.id, .term (.not i s t) :: slots', ?_, ?_, row'.take_not⟩
              · simp [Slot.id, isNot, term]
              · simp [Slot.item, Item.applyNot, later, Layout.tree]

/-- A connective that lacks an operand is left out. -/
lemma applyJoin_missing {c : Connective} {i : Nat} {s : Site} {left? : Option (Slot α)}
    (row : g.Row (left?.toList ++ (.combinator i (.join c) s :: slots ++ others)))
    (missing : ¬∃ l r rest, left? = some (.term l) ∧ slots = .term r :: rest) :
    g.applyJoin c (left?.map Slot.id) (i :: slots.map Slot.id) =
        g.applyJoin c (left?.map Slot.id) (slots.map Slot.id) ∧
      (Item.applyJoin c (left?.map Slot.item) (.combinator (.join c) s :: slots.map Slot.item)).2 =
        (Item.applyJoin c (left?.map Slot.item) (slots.map Slot.item)).2 := by
  have isOpen : g.open? i = some (.join c) :=
    (row.holds (.combinator i (.join c) s) (by simp)).open?_combinator
  cases left? with
  | none => simp [applyJoin, isOpen, Item.applyJoin]
  | some x =>
    cases slots with
    | nil => cases x <;> simp [applyJoin, isOpen, Item.applyJoin, Slot.item]
    | cons y rest =>
      have hx := (row.holds x (by simp)).isNone_open?
      have hy := (row.holds y (by simp)).isNone_open?
      cases x with
      | combinator j k s' =>
        simp [applyJoin, isOpen, hx, Item.applyJoin, Slot.item, Item.isTerm]
      | term l =>
        cases y with
        | combinator j k s' =>
          simp [applyJoin, isOpen, hy, Item.applyJoin, Slot.item, Item.isTerm]
        | term r => exact (missing ⟨l, r, rest, rfl, rfl⟩).elim

/-- A pass goes past every slot that is not the connective it is for. -/
lemma applyJoin_other {c : Connective} {x : Slot α} (left? : Option (Slot α))
    (slots : List (Slot α)) (holds : g.HoldsSlot x)
    (other : ¬∃ i s, x = .combinator i (.join c) s) :
    g.applyJoin c (left?.map Slot.id) (x.id :: slots.map Slot.id) =
        ((g.applyJoin c (some x.id) (slots.map Slot.id)).1, (left?.map Slot.id).toList ++
          (g.applyJoin c (some x.id) (slots.map Slot.id)).2) ∧
      (Item.applyJoin c (left?.map Slot.item) (x.item :: slots.map Slot.item)).2 =
        (left?.map Slot.item).toList ++
          (Item.applyJoin c (some x.item) (slots.map Slot.item)).2 := by
  have isOpen : g.open? x.id ≠ some (.join c) := by
    cases x with
    | combinator i k s =>
      rw [Slot.id, holds.open?_combinator]
      rintro ⟨⟩
      exact other ⟨i, s, rfl⟩
    | term t => simp [Slot.id, holds.open?_term]
  constructor
  · rw [applyJoin.eq_def]
    exact if_neg isOpen
  · cases x with
    | combinator i k s =>
      have ne : k ≠ .join c := by
        rintro rfl
        exact other ⟨i, s, rfl⟩
      rw [Slot.item, Item.applyJoin_combinator ne]
    | term t => simp [Item.applyJoin, Slot.item]

/-- A connective takes its operands in the graph as in the row of items, whatever stands at the
left. -/
lemma endsIn_applyJoin {g : Graph α} (c : Connective) (left? : Option (Slot α))
    {slots others : List (Slot α)} (row : g.Row (left?.toList ++ (slots ++ others))) :
    EndsIn (g.applyJoin c (left?.map Slot.id) (slots.map Slot.id))
      (Item.applyJoin c (left?.map Slot.item) (slots.map Slot.item)).2 others := by
  match slots with
  | [] =>
    refine ⟨g, left?.toList, ?_, ?_, row⟩
    · cases left? <;> simp [applyJoin]
    · cases left? <;> simp [Item.applyJoin]
  | x :: slots =>
    have row' := row.aside left?.toList (x :: slots) others
    by_cases isJoin : ∃ i s, x = .combinator i (.join c) s
    · obtain ⟨i, s, rfl⟩ := isJoin
      by_cases both : ∃ l r rest, left? = some (.term l) ∧ slots = .term r :: rest
      · -- the new term is what stands at the left of the rest
        obtain ⟨l, r, rest, rfl, rfl⟩ := both
        have taken := (row.perm (.swap ..)).take_join
        obtain ⟨g', slots', e, same, row'⟩ := endsIn_applyJoin c (some (.term _)) taken
        have isOpen := (row.holds (.combinator i (.join c) s) (by simp)).open?_combinator
        have left := (row.holds (.term l) (by simp)).open?_term
        have right := (row.holds (.term r) (by simp)).open?_term
        refine ⟨g', slots', ?_, ?_, row'⟩
        · simpa [applyJoin, Slot.id, isOpen, left, right] using e
        · simpa [Item.applyJoin, Slot.item, Layout.tree] using same
      · -- a connective without both sides is left out, and its node stays behind unlinked
        have dropped := row'.tail.aside slots left?.toList others
        obtain ⟨e, same⟩ := applyJoin_missing row both
        obtain ⟨g', slots', e', same', row'⟩ := endsIn_applyJoin c left? dropped
        exact ⟨g', slots', e.trans e', same'.trans same.symm, row'⟩
    · have past : g.Row ((some x).toList ++ (slots ++ (left?.toList ++ others))) := row'
      have hx := row'.holds x List.mem_cons_self
      obtain ⟨e, same⟩ := applyJoin_other left? slots hx isJoin
      obtain ⟨g', slots', e', same', row'⟩ := endsIn_applyJoin c (some x) past
      refine ⟨g', left?.toList ++ slots', e.trans ?_, same.symm ▸ ?_, ?_⟩
      · rw [show (some x.id) = (some x).map Slot.id from rfl, e', List.map_append]
        cases left? <;> rfl
      · rw [List.map_append, same']
        cases left? <;> rfl
      · rw [List.append_assoc]
        exact row'.aside slots' left?.toList others
termination_by slots.length

end Passes

/-- Slots that are at most one term are one layout or none. -/
lemma exists_of_terms {slots : List (Slot α)} {tree? : Option (Tree α)}
    (h : slots.map Slot.item = tree?.toList.map .term) :
    ∃ t? : Option (Layout α), slots = t?.toList.map .term ∧ t?.map Layout.tree = tree? := by
  cases tree? with
  | none => exact ⟨none, List.map_eq_nil_iff.1 h, rfl⟩
  | some tree =>
    obtain ⟨x, rfl, same⟩ := List.map_eq_singleton_iff.1 h
    cases x with
    | combinator i k s => cases same
    | term t =>
      obtain rfl := Item.term.inj same
      exact ⟨some t, rfl, rfl⟩

/-- A row comes together in the graph as it does in the outline. -/
lemma combine_slots {slots others : List (Slot α)} (row : g.Row (slots ++ others)) :
    ∃ g', ∃ t? : Option (Layout α), g.combine (slots.map Slot.id) = (g', some (t?.map Layout.id)) ∧
      (Item.combined (slots.map Slot.item)).result? = some (t?.map Layout.tree) ∧
      g'.Row (t?.toList.map .term ++ others) := by
  obtain ⟨g₁, slots₁, e₁, same₁, row⟩ := endsIn_insertAnd row
  obtain ⟨g₂, slots₂, e₂, same₂, row⟩ := endsIn_applyNot row
  obtain ⟨g₃, slots₃, e₃, same₃, row⟩ := endsIn_applyJoin .and none row
  obtain ⟨g₄, slots₄, e₄, same₄, row⟩ := endsIn_applyJoin .or none row
  obtain ⟨tree?, left, e⟩ := Item.combine_eq (slots.map Slot.item)
  have passed : slots₄.map Slot.item = Item.combinedRow (slots.map Slot.item) := by
    rw [same₄, same₃, same₂, same₁]
    rfl
  obtain ⟨t?, rfl, rfl⟩ := exists_of_terms (passed.trans left)
  refine ⟨g₄, t?, ?_, ?_, row⟩
  · rw [Option.map_none] at e₃ e₄
    rw [combine, e₁]
    simp only [e₂, e₃, e₄]
    cases t? <;> rfl
  · rw [Item.combined, e]

/-- The nodes of an outline stand in the row of its items. -/
lemma plant_slots {α : Type} {g : Graph (Option α)} (read : Term → Except QueryError (Option α))
    (o : Outline) {others : List (Slot (Option α))} (row : g.Row others) :
    ∃ g', ∃ slots? : Option (List (Slot (Option α))),
      g.plant read o = (g', slots?.map (List.map Slot.id)) ∧
      slots?.map (List.map Slot.item) = (o.row read).result? ∧
      g'.Row (slots?.getD [] ++ others) := by
  induction o generalizing g others with
  | done => exact ⟨g, some [], rfl, rfl, row⟩
  | broken error => exact ⟨g, none, rfl, rfl, row⟩
  | blank _ next ih => exact ih row
  | combinator k s next ih =>
    -- the new node is one of the others for the rest of the level
    let x : Slot (Option α) := .combinator g.nodes.size k s
    obtain ⟨g', slots?, e, same, row'⟩ := ih (row.push_combinator (k := k) (s := s))
    refine ⟨g', slots?.map ([x] ++ ·), ?_, ?_, row'.behind⟩
    · rw [plant, e]
      cases slots? <;> rfl
    · rw [Outline.row, Recorded.map, ← same]
      cases slots? <;> rfl
  | term t next ih =>
    let x : Slot (Option α) := .term (.leaf g.nodes.size t.site (meaning? read t))
    have meaning : ((read t).toOption.bind id) = meaning? read t := by
      rw [meaning?]
      cases read t <;> rfl
    obtain ⟨g', slots?, e, same, row'⟩ := ih (row.push_leaf (s := t.site) (a := meaning? read t))
    refine ⟨g', slots?.map ([x] ++ ·), ?_, ?_, row'.behind⟩
    · rw [plant, meaning, e]
      cases slots? <;> rfl
    · rw [Outline.row, Recorded.result?_andThen (result?_readLeaf read t), Recorded.map, ← same]
      cases slots? <;> rfl
  | group inner next ihInner ihNext =>
    obtain ⟨g₁, slots?, e, same, row₁⟩ := ihInner row
    cases slots? with
    | none =>
      refine ⟨g₁, none, by rw [plant, e]; rfl, ?_, row₁⟩
      have stopped := Recorded.result?_andThen_of_none (f := Item.combined) same.symm
      rw [Outline.row, Recorded.result?_andThen_of_none stopped]
      rfl
    | some slots =>
      have row₁ : g₁.Row (slots ++ others) := row₁
      obtain ⟨g₂, t?, together, combined, row₂⟩ := combine_slots row₁
      rw [← Recorded.result?_andThen same.symm] at combined
      obtain ⟨g₃, later?, e', same', row₃⟩ := ihNext row₂
      refine ⟨g₃, later?.map (t?.toList.map .term ++ ·), ?_, ?_, row₃.behind⟩
      · rw [plant, e]
        simp only [Option.map_some, together, e']
        cases later? <;> cases t? <;> rfl
      · rw [Outline.row, Recorded.result?_andThen combined, Recorded.map, ← same']
        cases later? <;> cases t? <;> rfl

/-- A grown graph has the tree of the outline. -/
lemma carries_grow {α : Type} (read : Term → Except QueryError (Option α)) (o : Outline) :
    (grow read o).Carries ((o.tree read).result?.bind id) := by
  have start : (({} : Graph (Option α))).Row [] := ⟨rfl, nofun, List.nodup_nil⟩
  obtain ⟨g, slots?, e, same, row⟩ := plant_slots read o start
  rw [grow, e]
  cases slots? with
  | none =>
    rw [Outline.tree, Recorded.result?_andThen_of_none same.symm]
    exact ⟨none, row.root, rfl⟩
  | some slots =>
    have row : g.Row (slots ++ []) := row
    obtain ⟨g', t?, together, combined, row'⟩ := combine_slots row
    rw [Outline.tree, Recorded.result?_andThen same.symm, combined]
    simp only [Option.map_some, together]
    refine ⟨t?, ?_, rfl⟩
    cases t? with
    | none => rfl
    | some t => exact row'.rooted_setRoot

/-- The graph of a text has the tree of its query. -/
lemma carries_graph? {κ ε : Type} (e : Engine κ ε) (text : String) :
    ∃ g, e.graph? text = some g ∧ g.Carries ((e.query text).tree?.map (Tree.map some)) :=
  carries_prune (carries_grow e.readTerm (e.outline text))

end Graph

end Sift
