import Sift.Proofs.Shifting
import Sift.Proofs.Structure
import Sift.Proofs.Succession

/-!
# What inserted `and`s cover

An `and` that is inserted between two items gets the gap between the places of the two items. A
group has the place of the node at its root, which need not stand at the edge of the group. Where it
does, at both sides, the gap lies between two tokens that follow one another in the tree, and
nothing but blanks and parentheses stands there unless a combinator has been left out
(`Engine.inserted_and_fills_gap`).
-/

namespace Sift

open Text

/-! ### Gaps in a layout -/

namespace Site.Laid

variable {between : Char → Prop} {start : Nat} {cs : List Char} {s t : Site}
  {sites sites' : List Site}

/-- The gap between two neighbours comes between them, with others at both sides. -/
lemma weave_append (h : Laid between start cs (sites ++ s :: t :: sites')) :
    Laid between start cs (sites ++ s :: .gap s t :: t :: sites') := by
  obtain ⟨as, bs, rfl, front, back⟩ := h.split
  exact front.append back.weave

/-- The gap between two neighbours has none of the sites in it, and only characters that may stand
between them. -/
lemma gap (h : Laid between start cs (sites ++ s :: t :: sites')) :
    (∀ u ∈ sites ++ s :: t :: sites', u.span.stop ≤ (Site.gap s t).span.index ∨
      (Site.gap s t).span.stop ≤ u.span.index) ∧
    ∃ before taken after, cs = before ++ (taken ++ after) ∧ (∀ c ∈ taken, between c) ∧
      (Site.gap s t).span = ⟨start + width before, width taken⟩ := by
  have woven := h.weave_append
  constructor
  · have order := woven.pairwise
    rw [List.append_cons, List.pairwise_append, List.pairwise_cons] at order
    obtain ⟨-, ⟨behind, -⟩, front⟩ := order
    intro u mem
    rw [List.append_cons, List.mem_append] at mem
    rcases mem with mem | mem
    · exact .inl (front u mem _ List.mem_cons_self)
    · exact .inr (behind u mem)
  · obtain ⟨before, taken, after, text, covers⟩ := woven.exists_of_mem (Site.gap s t) (by simp)
    refine ⟨before, taken, after, text, ?_, covers.span⟩
    generalize empty : Site.gap s t = gap at covers
    cases covers with
    | written ne =>
      have source : (Site.gap s t).source = [] := rfl
      rw [empty] at source
      exact (ne source).elim
    | inserted chars => exact chars

end Site.Laid

variable {α : Type}

namespace Item

namespace Kept

variable {errors errors' : List QueryError} {ms ns ms' ns' : List (Mark α)}

/-- What is kept without errors is kept with some. -/
lemma weaken (h : Kept errors ms ns) (none : errors' = [] → errors = []) : Kept errors' ms ns :=
  ⟨h.sublist, fun none' => h.all (none none')⟩

/-- Two parts keep what each of them keeps. -/
lemma beside (h : Kept errors ms ns) (h' : Kept errors' ms' ns') :
    Kept (errors ++ errors') (ms ++ ms') (ns ++ ns') := by
  refine ⟨h.sublist.append h'.sublist, fun none => ?_⟩
  obtain ⟨none, none'⟩ := List.append_eq_nil_iff.1 none
  rw [h.all none, h'.all none']

/-- A selection of what is kept is kept of the selection. -/
lemma filter (p : Mark α → Bool) (h : Kept errors ms ns) :
    Kept errors (ms.filter p) (ns.filter p) :=
  ⟨h.sublist.filter p, fun none => by rw [h.all none]⟩

end Kept

variable {row : List (Item α)} {x y : Item α}

/-- The nodes of a row that have a text. -/
def written (row : List (Item α)) : List (Mark α) := (row.flatMap marks).filter Mark.isWritten

/-- The written nodes of two rows are those of both, in order. -/
lemma written_append (row row' : List (Item α)) :
    written (row ++ row') = written row ++ written row' := by
  rw [written, List.flatMap_append, List.filter_append]
  rfl

/-- The written nodes of an item come before those of the rest. -/
lemma written_cons (x : Item α) (row : List (Item α)) :
    written (x :: row) = x.marks.filter Mark.isWritten ++ written row := by
  rw [written, List.flatMap_cons, List.filter_append]
  rfl

/-- An item of one node that has a text comes before the rest. -/
lemma written_cons_of_marks {m : Mark α} (single : x.marks = [m]) (h : m.isWritten = true) :
    written (x :: row) = m :: written row := by
  rw [written_cons, single, List.filter_cons_of_pos h]
  rfl

/-- Nothing that is inserted has a text. -/
lemma written_insertAnd (row : List (Item α)) : written (insertAnd row) = written row := by
  induction row with
  | nil => rfl
  | cons x row ih =>
    rw [insertAnd_cons, written_cons, written_append, ih, written_cons]
    rcases joint_cases x row with none | ⟨y, rest, -, inserted⟩
    · rw [none]
      rfl
    · rw [inserted]
      rfl

/-- What is wrong with a row is wrong with the structure of the text. -/
lemma structural_combine (row : List (Item α)) : structural (combine row).1 = (combine row).1 := by
  refine List.filter_eq_self.2 fun error mem => ?_
  rcases cause_of_combine mem with ⟨_, cause⟩ | ⟨_, _, cause⟩ <;> rw [cause] <;> rfl

/-- The written nodes of a row are kept when it is combined, but for those left out with an error.
-/
lemma kept_written {tree? : Option (Tree α)} (h : (combine row).2 = some tree?) :
    Kept (structural (combine row).1) (written row) (written (tree?.toList.map term)) := by
  rw [structural_combine, ← written_insertAnd, written, written, List.flatMap_map]
  exact (kept_combine h).filter Mark.isWritten

/-- Two neighbours in a row that get an `and` between them. -/
structure Joins (row : List (Item α)) (x y : Item α) : Prop where
  neighbours : [x, y] <:+: row
  term : x.isTerm = true
  other : y.isConnective = false

/-- Neighbours in the rest of a row are neighbours in the row. -/
lemma Joins.cons (h : Joins row x y) (z : Item α) : Joins (z :: row) x y :=
  ⟨h.neighbours.trans (List.suffix_cons z row).isInfix, h.term, h.other⟩

/-- A node of a row with its `and`s is one of the row or an `and` between two neighbours. -/
lemma mem_marks_insertAnd {m : Mark α} (h : m ∈ (insertAnd row).flatMap marks) :
    m ∈ row.flatMap marks ∨
      ∃ x y, Joins row x y ∧ m = (.join .and, .gap x.site y.site) := by
  induction row with
  | nil => exact .inl h
  | cons x row ih =>
    rw [insertAnd_cons, List.flatMap_cons, List.flatMap_append, List.mem_append,
      List.mem_append] at h
    rw [List.flatMap_cons, List.mem_append]
    rcases h with here | inserted | later
    · exact .inl (.inl here)
    · cases row with
      | nil => cases inserted
      | cons y rest =>
        rw [joint] at inserted
        split at inserted
        · next both =>
          obtain ⟨term, other⟩ := Bool.and_eq_true_iff.1 both
          rw [List.flatMap_singleton] at inserted
          exact .inr ⟨x, y, ⟨⟨[], rest, rfl⟩, term, by simpa using other⟩,
            List.mem_singleton.1 inserted⟩
        · cases inserted
    · rcases ih later with mem | ⟨y, z, joins, eq⟩
      · exact .inl (.inr mem)
      · exact .inr ⟨y, z, joins.cons x, eq⟩

/-- Whether the item is a term of one node. -/
def isLeaf : Item α → Bool
  | term (.leaf _ _) => true
  | _ => false

/-- Whether the item is a term with a connective at its root. -/
def isJoined : Item α → Bool
  | term (.join _ _ _ _) => true
  | _ => false

/-- A term of one node has the place of the node. -/
lemma marks_of_isLeaf (h : x.isLeaf = true) :
    ∃ k, k ≠ .join .and ∧ x.marks = [(k, x.site)] := by
  match x with
  | term (.leaf s a) => exact ⟨.leaf a, nofun, rfl⟩

/-- The place of an item is that of its first node, unless a connective is at its root. -/
lemma marks_of_not_isJoined (other : y.isConnective = false) (h : y.isJoined = false) :
    ∃ k rest, k ≠ .join .and ∧ y.marks = (k, y.site) :: rest := by
  match y with
  | combinator .not s => exact ⟨.not, [], nofun, rfl⟩
  | term (.leaf s a) => exact ⟨.leaf a, [], nofun, rfl⟩
  | term (.not s t) => exact ⟨.not, t.marks, nofun, rfl⟩

/-- The places of two neighbours stand side by side, if what they stand for stands at the edge. -/
lemma Joins.exists_written (h : Joins row x y) (leaf : x.isLeaf = true) (edge : y.isJoined = false)
    (all : ∀ m ∈ row.flatMap marks, m.isWritten = false → m.1 = .join .and) :
    ∃ ms ns k l, written row = ms ++ (k, x.site) :: (l, y.site) :: ns := by
  obtain ⟨before, after, rfl⟩ := h.neighbours
  obtain ⟨k, leafKind, left⟩ := marks_of_isLeaf leaf
  obtain ⟨l, rest, otherKind, right⟩ := marks_of_not_isJoined h.other edge
  have has {m : Mark α} (mem : m ∈ x.marks ∨ m ∈ y.marks) (kind : m.1 ≠ .join .and) :
      m.isWritten = true := by
    by_contra not
    refine kind (all m ?_ (eq_false_of_ne_true not))
    simp only [List.flatMap_append, List.flatMap_cons, List.mem_append]
    tauto
  have here := has (.inl (left ▸ List.mem_singleton_self _)) leafKind
  have behind := has (.inr (right ▸ List.mem_cons_self)) otherKind
  refine ⟨written before, rest.filter Mark.isWritten ++ written after, k, l, ?_⟩
  rw [List.append_assoc, written_append, List.cons_append, List.cons_append, List.nil_append,
    written_cons, written_cons, left, right, List.filter_cons_of_pos here,
    List.filter_cons_of_pos behind]
  rfl

end Item

namespace Outline

variable {read : Term → Except QueryError (Option α)} {o : Outline} {row : List (Item (Option α))}

/-- The tokens of a group are tokens of the outline. -/
lemma marks_of_mem_groups {level : Outline} {m : Mark (Option α)} (h : level ∈ o.groups)
    (mem : m ∈ level.marks read) : m ∈ o.marks read := by
  induction o with
  | done => cases h
  | broken => cases h
  | blank _ next ih => exact ih h
  | combinator k s next ih => exact List.mem_cons_of_mem _ (ih h)
  | term t next ih => exact List.mem_cons_of_mem _ (ih h)
  | group inner next ihInner ihNext =>
    rcases mem_groups_group.1 h with rfl | inside | behind
    · exact List.mem_append_left _ mem
    · exact List.mem_append_left _ (ihInner inside)
    · exact List.mem_append_right _ (ihNext behind)

/-- The tokens of a level are those of its row, but for those that are left out with an error. -/
lemma kept_row (all : ∀ m ∈ o.marks read, m.isWritten = true)
    (result : (o.row read).result? = some row) :
    Item.Kept (structural (o.row read).errors) (o.marks read) (Item.written row) := by
  induction o generalizing row with
  | done =>
    cases result
    exact ⟨.refl _, fun _ => rfl⟩
  | broken => cases result
  | blank _ next ih => exact ih all result
  | combinator k s next ih =>
    obtain ⟨here, behind⟩ := List.forall_mem_cons.1 all
    obtain ⟨row, later, rfl⟩ := Option.map_eq_some_iff.1 result
    rw [Item.written_cons_of_marks rfl here]
    exact (ih behind later).append [_]
  | term t next ih =>
    obtain ⟨here, behind⟩ := List.forall_mem_cons.1 all
    obtain ⟨row, later, rfl, errors⟩ := row_of_term result
    rw [errors, structural, List.filter_append, Item.written_cons_of_marks rfl here]
    exact ((ih behind later).append [_]).weaken fun none => (List.append_eq_nil_iff.1 none).2
  | group inner next ihInner ihNext =>
    obtain ⟨within, behind⟩ := List.forall_mem_append.1 all
    obtain ⟨inside, tree?, row, read', combined, later, rfl, errors⟩ := row_of_group result
    rw [errors, structural, List.filter_append, List.filter_append, Item.written_append]
    exact ((ihInner within read').trans (Item.kept_written combined)).beside (ihNext behind later)

/-- The nodes of a row stand together among others that are left of a text, with the nodes of a
tree. -/
inductive Among (errors : List QueryError) (ms ns inner : List (Mark α)) : Prop where
  | intro {left} :
    inner <:+: left →
    Item.Kept errors ms left →
    ns.Sublist left →
    Among errors ms ns inner

namespace Among

variable {errors errors' : List QueryError} {ms ns ms' ns' inner : List (Mark α)}

/-- Fewer nodes are left where there may be errors. -/
lemma weaken (h : Among errors ms ns inner) (none : errors' = [] → errors = [])
    (fewer : ns'.Sublist ns) : Among errors' ms ns' inner := by
  obtain ⟨together, kept, sub⟩ := h
  exact ⟨together, kept.weaken none, fewer.trans sub⟩

/-- More nodes may stand behind. -/
lemma append (h : Among errors ms ns inner) (h' : Item.Kept errors' ms' ns') :
    Among (errors ++ errors') (ms ++ ms') (ns ++ ns') inner := by
  obtain ⟨together, kept, sub⟩ := h
  exact ⟨together.trans (List.prefix_append _ _).isInfix, kept.beside h', sub.append (.refl ns')⟩

/-- More nodes may stand in front. -/
lemma behind (h : Among errors ms ns inner) (h' : Item.Kept errors' ms' ns') :
    Among (errors' ++ errors) (ms' ++ ms) (ns' ++ ns) inner := by
  obtain ⟨together, kept, sub⟩ := h
  exact ⟨together.trans (List.suffix_append _ _).isInfix, h'.beside kept,
    (List.Sublist.refl ns').append sub⟩

/-- A level stays among the tokens when one comes in front. -/
lemma cons (h : Among errors ms ns inner) (m : Mark α) :
    Among errors (m :: ms) (m :: ns) inner := by
  have here : Item.Kept [] [m] [m] := ⟨.refl [m], fun _ => rfl⟩
  exact h.behind here

end Among

/-- The nodes of the tree that a row combines to are among those of the row. -/
lemma among_tree {tree? : Option (Tree (Option α))} (all : ∀ m ∈ o.marks read, m.isWritten = true)
    (result : (o.row read).result? = some row) (combined : (Item.combine row).2 = some tree?) :
    Among (structural (o.row read).errors ++ structural (Item.combine row).1) (o.marks read)
      (Item.written (tree?.toList.map .term)) (Item.written row) :=
  ⟨List.infix_rfl, (kept_row all result).weaken fun none => (List.append_eq_nil_iff.1 none).1,
    (Item.kept_written combined).sublist⟩

/-- The nodes in the row of a group stand together among those that are left of the text. -/
lemma among_groups {level : Outline} {inner : List (Item (Option α))}
    (all : ∀ m ∈ o.marks read, m.isWritten = true) (result : (o.row read).result? = some row)
    (mem : level ∈ o.groups) (found : (level.row read).result? = some inner) :
    Among (structural (o.row read).errors) (o.marks read) (Item.written row)
      (Item.written inner) := by
  induction o generalizing row with
  | done => cases mem
  | broken => cases mem
  | blank _ next ih => exact ih all result mem
  | combinator k s next ih =>
    obtain ⟨here, behind⟩ := List.forall_mem_cons.1 all
    obtain ⟨row, later, rfl⟩ := Option.map_eq_some_iff.1 result
    rw [Item.written_cons_of_marks rfl here]
    exact (ih behind later mem).cons _
  | term t next ih =>
    obtain ⟨here, behind⟩ := List.forall_mem_cons.1 all
    obtain ⟨row, later, rfl, errors⟩ := row_of_term result
    rw [errors, structural, List.filter_append, Item.written_cons_of_marks rfl here]
    refine ((ih behind later mem).cons _).weaken (fun none => ?_) (.refl _)
    exact (List.append_eq_nil_iff.1 none).2
  | group within next ihWithin ihNext =>
    obtain ⟨allWithin, allNext⟩ := List.forall_mem_append.1 all
    obtain ⟨inside, tree?, row, read', combined, later, rfl, errors⟩ := row_of_group result
    rw [errors, structural, List.filter_append, List.filter_append, Item.written_append]
    have keptNext := kept_row allNext later
    have keptTree := Item.kept_written combined
    rcases mem_groups_group.1 mem with rfl | deeper | behind
    · obtain rfl : inside = inner := Option.some.inj (read'.symm.trans found)
      exact (among_tree allWithin read' combined).append keptNext
    · refine Among.append ?_ keptNext
      refine (ihWithin allWithin read' deeper).weaken (fun none => ?_) keptTree.sublist
      exact (List.append_eq_nil_iff.1 none).1
    · exact (ihNext allNext later behind).behind ((kept_row allWithin read').trans keptTree)

/-- At one of the levels an `and` is inserted that gets its place between two neighbours. -/
def Inserts (read : Term → Except QueryError (Option α)) (levels : List Outline) (s : Site) :
    Prop :=
  ∃ level ∈ levels, ∃ row, (level.row read).result? = some row ∧
    ∃ x y, Item.Joins row x y ∧ s = .gap x.site y.site

/-- An `and` that is inserted in one of some levels is inserted in one of more. -/
lemma Inserts.mono {levels levels' : List Outline} {s : Site} (h : Inserts read levels s)
    (sub : levels ⊆ levels') : Inserts read levels' s := by
  obtain ⟨level, mem, inserted⟩ := h
  exact ⟨level, sub mem, inserted⟩

/-- A node that has no text is inserted at the level of the tree, if it is not in the row. -/
lemma inserts_tree {tree? : Option (Tree (Option α))} {m : Mark (Option α)}
    (result : (o.row read).result? = some row) (combined : (Item.combine row).2 = some tree?)
    (ofRow : m ∈ row.flatMap Item.marks → Inserts read o.groups m.2)
    (mem : m ∈ tree?.toList.flatMap Tree.marks) : Inserts read (o :: o.groups) m.2 := by
  rcases Item.mem_marks_insertAnd ((Item.kept_combine combined).sublist.subset mem) with
    mem | ⟨x, y, joins, rfl⟩
  · exact (ofRow mem).mono (List.subset_cons_self o _)
  · exact ⟨o, List.mem_cons_self, row, result, x, y, joins, rfl⟩

/-- A node in a row that has no text is inserted at the level of a group. -/
lemma inserts_row {m : Mark (Option α)} (all : ∀ m ∈ o.marks read, m.isWritten = true)
    (result : (o.row read).result? = some row) (bare : m.isWritten = false)
    (mem : m ∈ row.flatMap Item.marks) : Inserts read o.groups m.2 := by
  induction o generalizing row with
  | done =>
    cases result
    cases mem
  | broken => cases result
  | blank _ next ih => exact ih all result mem
  | combinator k s next ih =>
    obtain ⟨here, behind⟩ := List.forall_mem_cons.1 all
    obtain ⟨row, later, rfl⟩ := Option.map_eq_some_iff.1 result
    rcases List.mem_cons.1 mem with rfl | mem
    · -- a combinator that is written has a text
      rw [here] at bare
      cases bare
    · exact ih behind later mem
  | term t next ih =>
    obtain ⟨here, behind⟩ := List.forall_mem_cons.1 all
    obtain ⟨row, later, rfl, -⟩ := row_of_term result
    rcases List.mem_cons.1 mem with rfl | mem
    · rw [here] at bare
      cases bare
    · exact ih behind later mem
  | group inner next ihInner ihNext =>
    obtain ⟨within, behind⟩ := List.forall_mem_append.1 all
    obtain ⟨inside, tree?, row, read', combined, later, rfl, -⟩ := row_of_group result
    rw [List.flatMap_append, List.mem_append, List.flatMap_map] at mem
    rcases mem with mem | mem
    · refine (inserts_tree read' combined (ihInner within read') mem).mono ?_
      exact List.cons_subset_cons _ (List.subset_append_left _ _)
    · refine (ihNext behind later mem).mono ?_
      exact List.subset_cons_of_subset _ (List.subset_append_right _ _)

end Outline

variable {κ ε : Type}

namespace Engine

variable (e : Engine κ ε) (text : String)

variable {e text} {m : Mark (Option (Leaf κ ε))}

/-- The nodes of a query are among those of a tree that a row has come together to. -/
lemma exists_of_marks (mem : m ∈ (e.query text).marks) :
    ∃ row whole, ((e.outline text).row e.readTerm).result? = some row ∧
      (Item.combine row).2 = some (some whole) ∧ ((e.query text).marks).Sublist whole.marks := by
  cases tree : (e.query text).tree? with
  | none =>
    rw [marks_of_empty tree] at mem
    cases mem
  | some t => exact exists_of_tree? tree

/-- A node of a query that has no text is inserted at one of the levels of the text. -/
lemma inserts_query (mem : m ∈ (e.query text).marks) (bare : m.isWritten = false) :
    Outline.Inserts e.readTerm (e.outline text :: (e.outline text).groups) m.2 := by
  obtain ⟨row, whole, read, combined, sub⟩ := exists_of_marks mem
  refine Outline.inserts_tree read combined
    (Outline.inserts_row (e.isWritten_outline text) read bare) ?_
  rw [Option.toList_some, List.flatMap_singleton]
  exact sub.subset mem

/-- The nodes in the row of a level stand together among those that are left of the text. -/
lemma among_query {level : Outline} {inner : List (Item (Option (Leaf κ ε)))}
    (node : m ∈ (e.query text).marks) (mem : level ∈ e.outline text :: (e.outline text).groups)
    (found : (level.row e.readTerm).result? = some inner) :
    Outline.Among (structural (e.query text).errors) ((e.outline text).marks e.readTerm)
      ((e.query text).marks.filter Mark.isWritten) (Item.written inner) := by
  obtain ⟨row, whole, read, combined, sub⟩ := exists_of_marks node
  have all := e.isWritten_outline text
  have errors : structural (e.query text).errors =
      structural ((e.outline text).row e.readTerm).errors ++ structural (Item.combine row).1 := by
    rw [errors_query, reading, Outline.tree, Recorded.errors_andThen read, structural,
      List.filter_append]
    rfl
  have fewer : ((e.query text).marks.filter Mark.isWritten).Sublist
      (Item.written [.term whole]) := by
    rw [Item.written, List.flatMap_singleton]
    exact sub.filter Mark.isWritten
  rw [errors]
  rcases List.mem_cons.1 mem with rfl | mem
  · obtain rfl : row = inner := Option.some.inj (read.symm.trans found)
    exact (Outline.among_tree all read combined).weaken id fewer
  · refine (Outline.among_groups all read mem found).weaken (fun none => ?_)
      (fewer.trans (Item.kept_written combined).sublist)
    exact (List.append_eq_nil_iff.1 none).1

/-- What is left of the tokens of a text stands in it one behind the other. Only blanks and
parentheses stand between them, if nothing is left out. -/
lemma laid_kept {left : List (Mark (Option (Leaf κ ε)))} {errors : List QueryError}
    (complete : (e.outline text).isComplete = true)
    (kept : Item.Kept errors ((e.outline text).marks e.readTerm) left) :
    Site.Laid (fun c => errors = [] → IsSeparator c) 0 text.toList (left.map Prod.snd) := by
  have laid := e.laid_outline text
  by_cases none : errors = []
  · rw [kept.all none]
    exact laid.mono fun _ separator _ => separator complete
  · have any : Site.Laid (fun c => errors = [] → IsSeparator c) 0 text.toList
        (((e.outline text).marks e.readTerm).map Prod.snd) := laid.mono fun _ _ h => (none h).elim
    exact any.sublist (fun _ h => (none h).elim) (kept.sublist.map Prod.snd)

/-- What has no text in the row of a level is an `and`. -/
lemma kind_of_level {level : Outline} {row : List (Item (Option (Leaf κ ε)))}
    (mem : level ∈ e.outline text :: (e.outline text).groups)
    (result : (level.row e.readTerm).result? = some row) :
    ∀ m ∈ row.flatMap Item.marks, m.isWritten = false → m.1 = .join .and := by
  refine ((Outline.woven_row result).written fun m found => ?_).2
  refine e.isWritten_outline text m ?_
  rcases List.mem_cons.1 mem with rfl | mem
  · exact found
  · exact Outline.marks_of_mem_groups mem found

/-- In the gap between two neighbours that stand at the edge of what they stand for, there is no
node with a text, and if the structure of the text is right, only blanks and parentheses. -/
lemma gap_of_joins {level : Outline} {row : List (Item (Option (Leaf κ ε)))}
    {x y : Item (Option (Leaf κ ε))} (found : m ∈ (e.query text).marks)
    (mem : level ∈ e.outline text :: (e.outline text).groups)
    (result : (level.row e.readTerm).result? = some row) (joins : Item.Joins row x y)
    (leaf : x.isLeaf = true) (edge : y.isJoined = false) :
    (∀ m ∈ (e.query text).marks, m.isWritten = true →
      m.2.span.stop ≤ (Site.gap x.site y.site).span.index ∨
        (Site.gap x.site y.site).span.stop ≤ m.2.span.index) ∧
    (structural (e.query text).errors = [] →
      ∃ before gap after, text = before ++ gap ++ after ∧
        (Site.gap x.site y.site).span = ⟨before.utf8ByteSize, gap.utf8ByteSize⟩ ∧
        ∀ c ∈ gap.toList, IsSeparator c) := by
  obtain ⟨ms, ns, k, l, nodes⟩ := joins.exists_written leaf edge (kind_of_level mem result)
  obtain ⟨together, kept, sub⟩ := among_query found mem result
  obtain ⟨front, back, rfl⟩ := together
  obtain ⟨_, _, read, -, -⟩ := exists_of_marks found
  have laid := laid_kept (Outline.isComplete_of_row read) kept
  -- the two neighbours stand side by side among the sites that are laid out in the text
  have sites : (front ++ Item.written row ++ back).map Prod.snd =
      (front ++ ms).map Prod.snd ++ x.site :: y.site :: (ns ++ back).map Prod.snd := by
    rw [nodes]
    simp
  rw [sites] at laid
  obtain ⟨apart, before, taken, after, whole, chars, span⟩ := laid.gap
  refine ⟨fun m found written => ?_, fun none => ?_⟩
  · have left := sub.subset (List.mem_filter.2 ⟨found, written⟩)
    exact apart _ (sites ▸ List.mem_map_of_mem left)
  · refine ⟨String.ofList before, String.ofList taken, String.ofList after, ?_, ?_, ?_⟩
    · rw [← String.toList_inj, whole]
      simp
    · rw [span, Nat.zero_add, width_eq, width_eq]
    · rw [String.toList_ofList]
      exact fun c mem => chars c mem none

variable (e text)

/-- Every inserted `and` of a query has the gap between two neighbours of a row of the text. If the
left one is a term of one node and no connective is at the root of the right one, no node with a
text reaches into the gap; and if the structure of the text is right, there are only blanks and
parentheses in it. -/
theorem inserted_and_fills_gap :
    ∃ g, e.graph? text = some g ∧ ∀ i, g.Reaches i → (g.site i).source = [] →
      let levels := e.outline text :: (e.outline text).groups
      (∃ level ∈ levels, ∃ row, (level.row e.readTerm).result? = some row ∧
        ∃ x y, Item.Joins row x y ∧ g.site i = .gap x.site y.site) ∧
      ∀ level ∈ levels, ∀ row, (level.row e.readTerm).result? = some row →
        ∀ x y, Item.Joins row x y → g.site i = .gap x.site y.site →
          x.isLeaf = true → y.isJoined = false →
            (∀ j, g.Reaches j → (g.site j).source ≠ [] →
              (g.site j).span.stop ≤ (g.site i).span.index ∨
                (g.site i).span.stop ≤ (g.site j).span.index) ∧
            (structural (e.query text).errors = [] →
              ∃ before gap after, text = before ++ gap ++ after ∧
                (g.site i).span = ⟨before.utf8ByteSize, gap.utf8ByteSize⟩ ∧
                ∀ c ∈ gap.toList, IsSeparator c) := by
  obtain ⟨g, built, ids, -, -, reached, marks⟩ := e.exists_inOrder text
  have mark {i : Nat} (mem : g.Reaches i) : ∃ m ∈ (e.query text).marks, g.site i = m.2 := by
    obtain ⟨m, found, mark⟩ := List.mem_map.1 (marks ▸ List.mem_map_of_mem ((reached i).2 mem))
    exact ⟨m, found, Graph.site_of_mark? mark.symm⟩
  refine ⟨g, built, fun i reaches empty => ?_⟩
  obtain ⟨m, found, site⟩ := mark reaches
  have bare : m.isWritten = false := by
    rw [Mark.isWritten, ← site, empty]
    rfl
  refine ⟨site ▸ inserts_query found bare, fun level mem row result x y joins gap leaf edge => ?_⟩
  obtain ⟨apart, chars⟩ := gap_of_joins found mem result joins leaf edge
  rw [gap]
  refine ⟨fun j reaches written => ?_, chars⟩
  obtain ⟨m, found, site⟩ := mark reaches
  rw [site] at written ⊢
  exact apart m found (by simpa [Mark.isWritten] using written)

/-- In front of a group, the `and` reaches up to the one inside, over the first word of it. -/
theorem inserted_and_covers_word :
    flags.Reachable ∧ ∃ g, flags.graph? "a (b c)" = some g ∧ ∃ i j,
      g.Reaches i ∧ g.site i = ⟨⟨1, 3⟩, []⟩ ∧ g.Reaches j ∧ g.site j = ⟨⟨3, 1⟩, "b".toList⟩ ∧
        (g.site i).span.index < (g.site j).span.stop ∧
        (g.site j).span.index < (g.site i).span.stop := by
  obtain ⟨g, built, ids, -, -, reached, marks⟩ := flags.exists_inOrder "a (b c)"
  have sites : ids.map g.site = [⟨⟨0, 1⟩, "a".toList⟩, ⟨⟨1, 3⟩, []⟩, ⟨⟨3, 1⟩, "b".toList⟩,
      ⟨⟨4, 1⟩, []⟩, ⟨⟨5, 1⟩, "c".toList⟩] := by
    rw [Graph.sites_of_marks marks]
    decide +kernel
  have node {s : Site} (mem : s ∈ ids.map g.site) : ∃ i, g.Reaches i ∧ g.site i = s := by
    obtain ⟨i, among, site⟩ := List.mem_map.1 mem
    exact ⟨i, (reached i).1 among, site⟩
  obtain ⟨i, reachesI, siteI⟩ := node (s := ⟨⟨1, 3⟩, []⟩) (by simp [sites])
  obtain ⟨j, reachesJ, siteJ⟩ := node (s := ⟨⟨3, 1⟩, "b".toList⟩) (by simp [sites])
  refine ⟨reachable_flags, g, built, i, j, reachesI, siteI, reachesJ, siteJ, ?_⟩
  rw [siteI, siteJ]
  decide

end Engine

end Sift
