import Sift.Proofs.Sites

/-!
# Nodes that follow one another

The links of a graph give its nodes an order from left to right (`Graph.InOrder`), which is that of
its tree. Right after a text has been read, every node has the text that stands at its span, but for
`and`s that have been inserted, and in their order the nodes that have a text stand one behind the
other (`Engine.nodes_follow_text`).
-/

namespace Sift

open Text

variable {α : Type}

/-- The positions of a layout from left to right. -/
def Layout.inOrder : Layout α → List Nat
  | leaf i _ _ => [i]
  | not i _ t => i :: t.inOrder
  | join i _ _ l r => l.inOrder ++ i :: r.inOrder

/-- The order of the tokens is another order of the same positions. -/
lemma Layout.inOrder_perm (t : Layout α) : t.inOrder.Perm t.ids := by
  induction t with
  | leaf i s a => exact .refl _
  | not i s t ih => exact ih.cons i
  | join i c s l r ihl ihr => exact List.perm_middle.trans ((ihl.append ihr).cons i)

namespace Graph

variable {g : Graph α} {t : Layout α}

/-- The nodes below a node, with the node, from left to right: a `not` stands in front of those
below it, and a connective between those below its sides. -/
inductive InOrder (g : Graph α) : Nat → List Nat → Prop where
  | leaf {i a} :
    g.kind? i = some (.leaf a) →
    g.children i = [] →
    InOrder g i [i]
  | not {i j below} :
    g.kind? i = some .not →
    g.children i = [j] →
    InOrder g j below →
    InOrder g i (i :: below)
  | join {i c l r left right} :
    g.kind? i = some (.join c) →
    g.children i = [l, r] →
    InOrder g l left →
    InOrder g r right →
    InOrder g i (left ++ i :: right)

/-- What the node at a position is, and where it comes from. -/
def mark? (g : Graph α) (id : Nat) : Option (Mark α) := (g.node? id).map fun n => (n.kind, n.site)

/-- The mark of a node says what the node is. -/
lemma kind?_of_mark? {i : Nat} {m : Mark α} (h : g.mark? i = some m) : g.kind? i = some m.1 := by
  obtain ⟨n, node, rfl⟩ := Option.map_eq_some_iff.1 h
  rw [kind?, node, Option.map_some]

/-- The mark of a node says where the node comes from. -/
lemma site_of_mark? {i : Nat} {m : Mark α} (h : g.mark? i = some m) : g.site i = m.2 := by
  obtain ⟨n, node, rfl⟩ := Option.map_eq_some_iff.1 h
  rw [site, node, Option.map_some, Option.getD_some]

/-- Nodes come from where they are marked to come from. -/
lemma sites_of_marks {ids : List Nat} {ms : List (Mark α)} (h : ids.map g.mark? = ms.map some) :
    ids.map g.site = ms.map Prod.snd := by
  induction ids generalizing ms with
  | nil => rw [List.map_eq_nil_iff.1 h.symm, List.map_nil, List.map_nil]
  | cons i ids ih =>
    cases ms with
    | nil => cases h
    | cons m ms =>
      obtain ⟨here, behind⟩ := List.cons.inj h
      rw [List.map_cons, List.map_cons, site_of_mark? here, ih behind]

/-- The positions of a layout are in the order of its tokens. -/
lemma Holds.inOrder {p? : Option Nat} (h : g.Holds p? t) : g.InOrder t.id t.inOrder := by
  induction t generalizing p? with
  | leaf i s a => exact .leaf h.kind?_id h.children_id
  | not i s t ih => exact .not h.kind?_id h.children_id (ih h.2)
  | join i c s l r ihl ihr => exact .join h.kind?_id h.children_id (ihl h.2.1) (ihr h.2.2)

/-- The nodes of a layout are those of its tree. -/
lemma Holds.marks {p? : Option Nat} (h : g.Holds p? t) :
    t.inOrder.map g.mark? = t.tree.marks.map some := by
  have root : g.mark? t.id = some ((t.entry p?).kind, (t.entry p?).site) := by
    rw [mark?, h.node, Option.map_some]
  induction t generalizing p? with
  | leaf i s a => exact congrArg (fun m => [m]) root
  | not i s t ih =>
    have below := ih h.2 (by rw [mark?, h.2.node, Option.map_some])
    exact congrArg₂ List.cons root below
  | join i c s l r ihl ihr =>
    have left := ihl h.2.1 (by rw [mark?, h.2.1.node, Option.map_some])
    have right := ihr h.2.2 (by rw [mark?, h.2.2.node, Option.map_some])
    rw [Layout.inOrder, Layout.tree, Tree.marks, List.map_append, List.map_append, left]
    exact congrArg _ (congrArg₂ List.cons root right)

/-- The nodes of a graph with a tree are those of the tree, from left to right. -/
lemma Carries.inOrder {t? : Option (Tree α)} (h : g.Carries t?) :
    ∃ ids, (∀ root ∈ g.root?, g.InOrder root ids) ∧ ids.Nodup ∧ (∀ i, i ∈ ids ↔ g.Reaches i) ∧
      ids.map g.mark? = (t?.toList.flatMap Tree.marks).map some := by
  obtain ⟨l?, shown, rfl⟩ := h
  cases l? with
  | none =>
    have empty : g.root? = none := shown
    refine ⟨[], ?_, List.nodup_nil, fun i => ⟨nofun, fun reached => ?_⟩, rfl⟩
    · rw [empty]
      nofun
    · exact (not_reaches_of_empty empty reached).elim
  | some t =>
    have rooted : g.Rooted t := shown
    have perm := t.inOrder_perm
    refine ⟨t.inOrder, ?_, perm.nodup_iff.2 rooted.nodup, fun i => ?_, ?_⟩
    · rw [rooted.root]
      rintro root ⟨⟩
      exact rooted.holds.inOrder
    · rw [perm.mem_iff, rooted.reaches_iff]
    · simpa using rooted.holds.marks

end Graph

/-- A site has a source, which is what stands in a text at its span. -/
def Site.IsSlice (text : String) (s : Site) : Prop :=
  s.source ≠ [] ∧ ∃ before after, text = before ++ String.ofList s.source ++ after ∧
    s.span = ⟨before.utf8ByteSize, (String.ofList s.source).utf8ByteSize⟩

/-- A site with a source that is laid out in a text has it for a slice. -/
lemma Site.Laid.isSlice {between : Char → Prop} {text : String} {sites : List Site} {s : Site}
    (h : Laid between 0 text.toList sites) (mem : s ∈ sites) (ne : s.source ≠ []) :
    s.IsSlice text := by
  obtain ⟨before, taken, after, whole, covers⟩ := h.exists_of_mem s mem
  cases covers with
  | inserted => exact (ne rfl).elim
  | written =>
    refine ⟨ne, String.ofList before, String.ofList after, ?_, ?_⟩
    · rw [← String.toList_inj, whole]
      simp [place]
    · rw [Nat.zero_add, ← width_eq, ← width_eq]
      rfl

/-- A slice of a text is not empty. -/
lemma Site.IsSlice.index_lt_stop {text : String} {s : Site} (h : s.IsSlice text) :
    s.span.index < s.span.stop := by
  obtain ⟨ne, before, after, -, span⟩ := h
  have pos := width_pos ne
  rw [width_eq] at pos
  rw [span]
  exact Nat.lt_add_of_pos_right pos

variable {κ ε : Type}

/-- The nodes of a query from left to right. -/
def Query.marks (q : Query κ ε) : List (Mark (Option (Leaf κ ε))) :=
  (q.tree?.map (Tree.map some)).toList.flatMap Tree.marks

namespace Engine

variable {e : Engine κ ε} {text : String}

/-- The nodes of a query are among those of the tree that its text's row combines to, in their
order. -/
lemma exists_of_tree? {t : Tree (Leaf κ ε)} (h : (e.query text).tree? = some t) :
    ∃ row whole, ((e.outline text).row e.readTerm).result? = some row ∧
      (Item.combine row).2 = some (some whole) ∧ ((e.query text).marks).Sublist whole.marks := by
  obtain ⟨whole, result, pruned⟩ := Option.bind_eq_some_iff.1 h
  obtain ⟨whole?, result, rfl⟩ := Option.bind_eq_some_iff.1 result
  obtain ⟨row, read, combined⟩ := Recorded.exists_of_andThen result
  have sub := whole.marks_prune
  rw [pruned, ← h] at sub
  exact ⟨row, whole, read, combined, sub⟩

/-- An empty query has no nodes. -/
lemma marks_of_empty (h : (e.query text).tree? = none) : (e.query text).marks = [] := by
  rw [Query.marks, h]
  rfl

variable (e text)

/-- The nodes of a query follow one another as the tokens of its text do. -/
lemma woven_marks :
    Mark.Woven ((e.outline text).marks e.readTerm) (e.query text).marks := by
  cases tree : (e.query text).tree? with
  | none =>
    rw [marks_of_empty tree]
    exact .of_sublist (List.nil_sublist _)
  | some t =>
    obtain ⟨row, whole, read, combined, sub⟩ := exists_of_tree? tree
    have kept := (Item.kept_combine combined).sublist
    rw [Option.toList_some, List.flatMap_singleton] at kept
    exact ((Outline.woven_row read).trans (Item.woven_insertAnd row)).trans
      (.of_sublist (sub.trans kept))

/-- Every token of a text has a text. -/
lemma isWritten_outline : ∀ m ∈ (e.outline text).marks e.readTerm, m.isWritten = true :=
  Outline.isWritten_scan

/-- The tokens of a text stand in it one behind the other. -/
lemma laid_outline : Site.Laid (fun c => (e.outline text).isComplete = true → IsSeparator c) 0
    text.toList (((e.outline text).marks e.readTerm).map Prod.snd) :=
  Outline.laid_scan

/-- The nodes of a query that have a text stand in its text one behind the other. -/
lemma laid_written : Site.Laid (fun _ => True) 0 text.toList
    (((e.query text).marks.filter Mark.isWritten).map Prod.snd) := by
  have sub := ((e.woven_marks text).written Outline.isWritten_scan).1
  have laid : Site.Laid (fun _ => True) 0 text.toList
      (((e.outline text).marks e.readTerm).map Prod.snd) :=
    (e.laid_outline text).mono fun _ _ => trivial
  exact laid.sublist (fun _ => trivial) (sub.map Prod.snd)

/-- The nodes of a graph are those of the query, from left to right. -/
lemma exists_inOrder : ∃ g, e.graph? text = some g ∧ ∃ ids,
    (∀ root ∈ g.root?, g.InOrder root ids) ∧ ids.Nodup ∧ (∀ i, i ∈ ids ↔ g.Reaches i) ∧
      ids.map g.mark? = (e.query text).marks.map some := by
  obtain ⟨g, built, carried⟩ := Graph.carries_graph? e text
  exact ⟨g, built, carried.inOrder⟩

/-- Right after a text has been read, every node is an inserted `and` without a text or has the text
that stands at its span. The nodes are those of the query's tree; those that have a text are tokens of
it, and from left to right their spans follow one another. -/
theorem nodes_follow_text :
    ∃ g, e.graph? text = some g ∧
      (∀ i, g.Reaches i → (g.site i).source = [] ∧ g.kind? i = some (.join .and) ∨
        (g.site i).IsSlice text) ∧
      ∃ ids, (∀ root ∈ g.root?, g.InOrder root ids) ∧ ids.Nodup ∧ (∀ i, i ∈ ids ↔ g.Reaches i) ∧
        ids.map g.mark? = (e.query text).marks.map some ∧
        ((ids.filterMap g.mark?).filter Mark.isWritten).Sublist
          ((e.outline text).marks e.readTerm) ∧
        (ids.filter fun i => (g.site i).source ≠ []).Pairwise fun i j =>
          (g.site i).span.index < (g.site j).span.index ∧
            (g.site i).span.stop ≤ (g.site j).span.index := by
  obtain ⟨g, built, ids, order, nodup, reached, marks⟩ := e.exists_inOrder text
  obtain ⟨tokens, others⟩ := (e.woven_marks text).written Outline.isWritten_scan
  have laid := e.laid_written text
  have sites : ids.map g.site = (e.query text).marks.map Prod.snd := Graph.sites_of_marks marks
  have slices {i : Nat} (mem : i ∈ ids) (ne : (g.site i).source ≠ []) :
      (g.site i).IsSlice text := by
    obtain ⟨m, found, site⟩ := List.mem_map.1 (sites ▸ List.mem_map_of_mem mem)
    rw [← site] at ne ⊢
    refine laid.isSlice (List.mem_map_of_mem (List.mem_filter.2 ⟨found, ?_⟩)) ne
    simpa [Mark.isWritten] using ne
  refine ⟨g, built, fun i mem => ?_, ids, order, nodup, reached, marks, ?_, ?_⟩
  · have mem := (reached i).2 mem
    obtain ⟨m, found, mark⟩ := List.mem_map.1 (marks ▸ List.mem_map_of_mem mem)
    have site := Graph.site_of_mark? mark.symm
    by_cases empty : (g.site i).source = []
    · refine .inl ⟨empty, ?_⟩
      rw [Graph.kind?_of_mark? mark.symm, others m found]
      simp [Mark.isWritten, ← site, empty]
    · exact .inr (slices mem empty)
  · have all : ids.filterMap g.mark? = (e.query text).marks := by
      rw [← Function.id_comp g.mark?, ← List.filterMap_map, marks, List.filterMap_map,
        Function.id_comp, List.filterMap_some]
    rwa [all]
  · have written : Mark.isWritten (α := Option (Leaf κ ε)) =
        (fun s : Site => decide (s.source ≠ [])) ∘ Prod.snd := by
      funext m
      rw [Mark.isWritten, Function.comp_apply, Bool.eq_iff_iff]
      simp
    have ordered := laid.pairwise
    rw [written, ← List.filter_map, ← sites, List.filter_map, List.pairwise_map] at ordered
    refine ordered.imp_of_mem fun {i j} here _ behind => ⟨?_, behind⟩
    obtain ⟨mem, ne⟩ := List.mem_filter.1 here
    exact (slices mem (of_decide_eq_true ne)).index_lt_stop.trans_le behind

end Engine

end Sift
