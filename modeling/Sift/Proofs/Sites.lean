import Sift.Proofs.Bounds
import Sift.Proofs.Identifiers
import Sift.Proofs.Linked

/-!
# Nodes in the order of the text

From left to right a `not` stands in front of its operand, and a connective between its operands.
The tokens of a text, its groups opened, stand in it one behind the other, with blanks and
parentheses between them (`Outline.laid_scan`). Neither combining a row nor pruning a tree puts a
node in front of another one: nodes are left out, and `and`s without a text come in between
(`Mark.Woven`).
-/

namespace Sift

open Text Unicode

/-! ### Sites laid out in a text -/

namespace Site

/-- A site of the characters at a position: they are its source, or it has none and they are all of
a kind that may stand between sources. -/
inductive Covers (between : Char → Prop) (start : Nat) (taken : List Char) : Site → Prop where
  | written :
    taken ≠ [] →
    Covers between start taken (.place start taken)
  | inserted :
    (∀ c ∈ taken, between c) →
    Covers between start taken ⟨⟨start, width taken⟩, []⟩

/-- Sites that stand in a text one behind the other, and what may stand between them. -/
inductive Laid (between : Char → Prop) : Nat → List Char → List Site → Prop where
  | nil {start cs} :
    (∀ c ∈ cs, between c) →
    Laid between start cs []
  | cons {start before taken after s sites} :
    (∀ c ∈ before, between c) →
    Covers between (start + width before) taken s →
    Laid between (start + width before + width taken) after sites →
    Laid between start (before ++ (taken ++ after)) (s :: sites)

variable {between between' : Char → Prop} {start : Nat} {cs ds taken : List Char} {s t : Site}
  {sites sites' : List Site}

/-- A site covers as many bytes as the text that it covers. -/
lemma Covers.span (h : Covers between start taken s) : s.span = ⟨start, width taken⟩ := by
  cases h with
  | written => rfl
  | inserted => rfl

/-- A site covers its text with more characters allowed in gaps, too. -/
lemma Covers.mono (h : Covers between start taken s) (all : ∀ c, between c → between' c) :
    Covers between' start taken s := by
  cases h with
  | written ne => exact .written ne
  | inserted chars => exact .inserted fun c mem => all c (chars c mem)

namespace Laid

/-- Sites are laid out with more characters allowed between them, too. -/
lemma mono (h : Laid between start cs sites) (all : ∀ c, between c → between' c) :
    Laid between' start cs sites := by
  induction h with
  | nil chars => exact .nil fun c mem => all c (chars c mem)
  | cons chars covers _ ih => exact .cons (fun c mem => all c (chars c mem)) (covers.mono all) ih

/-- More may stand in front of the sites. -/
lemma skip (chars : ∀ c ∈ taken, between c) (h : Laid between (start + width taken) cs sites) :
    Laid between start (taken ++ cs) sites := by
  cases h with
  | nil more => exact .nil (List.forall_mem_append.2 ⟨chars, more⟩)
  | @cons _ before _ _ _ _ more covers later =>
    have place : start + width taken + width before = start + width (taken ++ before) := by
      rw [width_append, Nat.add_assoc]
    rw [place] at covers later
    rw [← List.append_assoc]
    exact .cons (List.forall_mem_append.2 ⟨chars, more⟩) covers later

/-- A site in front of others. -/
lemma first (covers : Covers between start taken s)
    (h : Laid between (start + width taken) cs sites) :
    Laid between start (taken ++ cs) (s :: sites) :=
  @cons between start [] taken cs s sites nofun covers h

/-- Sites of two texts, one behind the other, are laid out in both together. -/
lemma append (h : Laid between start cs sites) (h' : Laid between (start + width cs) ds sites') :
    Laid between start (cs ++ ds) (sites ++ sites') := by
  induction h with
  | nil chars => exact h'.skip chars
  | @cons start before taken after s sites chars covers _ ih =>
    have place : start + width (before ++ (taken ++ after)) =
        start + width before + width taken + width after := by
      rw [width_append, width_append, ← Nat.add_assoc, ← Nat.add_assoc]
    rw [place] at h'
    rw [List.append_assoc, List.append_assoc]
    exact .cons chars covers (ih h')

/-- Sites in two parts are laid out in two parts of the text. -/
lemma split (h : Laid between start cs (sites ++ sites')) :
    ∃ as bs, cs = as ++ bs ∧ Laid between start as sites ∧
      Laid between (start + width as) bs sites' := by
  induction sites generalizing start cs with
  | nil => exact ⟨[], cs, rfl, .nil nofun, h⟩
  | cons s sites ih =>
    cases h with
    | @cons _ before taken after _ _ chars covers later =>
      obtain ⟨as, bs, rfl, front, back⟩ := ih later
      refine ⟨before ++ (taken ++ as), bs, by simp, .cons chars covers front, ?_⟩
      have place : start + width (before ++ (taken ++ as)) =
          start + width before + width taken + width as := by
        rw [width_append, width_append, ← Nat.add_assoc, ← Nat.add_assoc]
      rwa [place]

/-- Where anything may stand between sites, some may be left out. -/
lemma sublist (h : Laid between start cs sites) (any : ∀ c, between c)
    (sub : sites'.Sublist sites) : Laid between start cs sites' := by
  induction h generalizing sites' with
  | nil chars =>
    rw [List.sublist_nil.1 sub]
    exact .nil chars
  | @cons start before taken after s sites chars covers later ih =>
    cases sub with
    | cons _ sub =>
      rw [← List.append_assoc]
      refine .skip (fun c _ => any c) ?_
      rw [width_append, ← Nat.add_assoc]
      exact ih sub
    | cons_cons _ sub => exact .cons chars covers (ih sub)

/-- The gap between two neighbours comes between them. -/
lemma weave (h : Laid between start cs (s :: t :: sites)) :
    Laid between start cs (s :: .gap s t :: t :: sites) := by
  cases h with
  | @cons _ before taken _ _ _ chars covers later =>
    cases later with
    | @cons _ before' taken' after _ _ chars' covers' later =>
      have gap : Site.gap s t = ⟨⟨start + width before + width taken, width before'⟩, []⟩ := by
        rw [Site.gap, Span.between, covers.span, covers'.span]
        simp only [Span.stop, Nat.add_sub_cancel_left]
      rw [gap]
      exact .cons chars covers (.first (.inserted chars') (.first covers' later))

/-- Every site lies within the text. -/
lemma bounds (h : Laid between start cs sites) :
    ∀ s ∈ sites, start ≤ s.span.index ∧ s.span.stop ≤ start + width cs := by
  induction h with
  | nil => nofun
  | @cons start before taken after s sites chars covers later ih =>
    simp only [width_append]
    refine List.forall_mem_cons.2 ⟨?_, fun t mem => ?_⟩
    · rw [covers.span]
      simp only [Span.stop]
      omega
    · obtain ⟨front, back⟩ := ih t mem
      omega

/-- No site begins before one in front of it ends. -/
lemma pairwise (h : Laid between start cs sites) :
    sites.Pairwise fun s t => s.span.stop ≤ t.span.index := by
  induction h with
  | nil => exact .nil
  | @cons start before taken after s sites chars covers later ih =>
    refine List.pairwise_cons.2 ⟨fun t mem => ?_, ih⟩
    have front := (later.bounds t mem).1
    rwa [covers.span]

/-- Every site covers characters of the text. -/
lemma exists_of_mem (h : Laid between start cs sites) :
    ∀ s ∈ sites, ∃ before taken after, cs = before ++ (taken ++ after) ∧
      Covers between (start + width before) taken s := by
  induction h with
  | nil => nofun
  | @cons start before taken after s sites chars covers later ih =>
    refine List.forall_mem_cons.2 ⟨⟨before, taken, after, rfl, covers⟩, fun t mem => ?_⟩
    obtain ⟨before', taken', after', rfl, covers'⟩ := ih t mem
    refine ⟨before ++ (taken ++ before'), taken', after', by simp, ?_⟩
    have place : start + width (before ++ (taken ++ before')) =
        start + width before + width taken + width before' := by
      rw [width_append, width_append, ← Nat.add_assoc, ← Nat.add_assoc]
    rwa [place]

end Laid

end Site

/-! ### Marks of rows and outlines -/

/-- What a node is, and where it comes from. -/
abbrev Mark (α : Type) := NodeKind α × Site

variable {α : Type}

namespace Mark

/-- Whether there is a text that the node has been read from. -/
def isWritten (m : Mark α) : Bool := !m.2.source.isEmpty

/-- The second row has marks of the first, in their order, and `and`s that are not written. -/
inductive Woven : List (Mark α) → List (Mark α) → Prop where
  | nil :
    Woven [] []
  | keep {m ms ns} :
    Woven ms ns →
    Woven (m :: ms) (m :: ns)
  | leave {m ms ns} :
    Woven ms ns →
    Woven (m :: ms) ns
  | insert {s ms ns} :
    s.source = [] →
    Woven ms ns →
    Woven ms ((.join .and, s) :: ns)

namespace Woven

variable {ms ns ls ms' ns' : List (Mark α)}

/-- Only taking nodes out is weaving. -/
lemma of_sublist (sub : ns.Sublist ms) : Woven ms ns := by
  induction sub with
  | slnil => exact .nil
  | cons _ _ ih => exact .leave ih
  | cons_cons _ _ ih => exact .keep ih

/-- Two parts are woven one behind the other. -/
lemma append (h : Woven ms ns) (h' : Woven ms' ns') : Woven (ms ++ ms') (ns ++ ns') := by
  induction h with
  | nil => exact h'
  | keep _ ih => exact .keep ih
  | leave _ ih => exact .leave ih
  | insert empty _ ih => exact .insert empty ih

/-- What is woven of woven nodes is woven. -/
lemma trans (h : Woven ms ns) (h' : Woven ns ls) : Woven ms ls := by
  induction h generalizing ls with
  | nil => exact h'
  | keep _ ih =>
    generalize e : _ :: _ = ns at h'
    induction h' with
    | nil => cases e
    | keep h' _ =>
      cases e
      exact .keep (ih h')
    | leave h' _ =>
      cases e
      exact .leave (ih h')
    | insert empty _ ih' => exact .insert empty (ih' e)
  | leave _ ih => exact .leave (ih h')
  | insert empty _ ih =>
    generalize e : _ :: _ = ns at h'
    induction h' with
    | nil => cases e
    | keep h' _ =>
      cases e
      exact .insert empty (ih h')
    | leave h' _ =>
      cases e
      exact ih h'
    | insert empty' _ ih' => exact .insert empty' (ih' e)

/-- If all marks of the first row are written, what is written of the second is in the first, and
what is not written is an `and`. -/
lemma written (h : Woven ms ns) (all : ∀ m ∈ ms, m.isWritten = true) :
    (ns.filter isWritten).Sublist ms ∧ ∀ m ∈ ns, m.isWritten = false → m.1 = .join .and := by
  induction h with
  | nil => exact ⟨.slnil, nofun⟩
  | keep _ ih =>
    obtain ⟨here, behind⟩ := List.forall_mem_cons.1 all
    obtain ⟨sub, others⟩ := ih behind
    rw [List.filter_cons_of_pos here]
    refine ⟨sub.cons_cons _, List.forall_mem_cons.2 ⟨fun not => ?_, others⟩⟩
    rw [here] at not
    cases not
  | leave _ ih =>
    obtain ⟨sub, others⟩ := ih (List.forall_mem_cons.1 all).2
    exact ⟨sub.cons _, others⟩
  | @insert s _ _ empty _ ih =>
    obtain ⟨sub, others⟩ := ih all
    have not : ¬isWritten (α := α) (.join .and, s) = true := by simp [isWritten, empty]
    rw [List.filter_cons_of_neg not]
    exact ⟨sub, List.forall_mem_cons.2 ⟨fun _ => rfl, others⟩⟩

end Woven

end Mark

/-- The nodes of a tree from left to right. -/
def Tree.marks : Tree α → List (Mark α)
  | leaf s a => [(.leaf a, s)]
  | not s t => (.not, s) :: t.marks
  | join c s l r => l.marks ++ (.join c, s) :: r.marks

namespace Item

/-- The nodes of an item from left to right. -/
def marks : Item α → List (Mark α)
  | combinator k s => [(k.kind, s)]
  | term t => t.marks

/-- What is left of a row of marks, which is all of it where nothing is wrong. -/
structure Kept (errors : List QueryError) (ms ns : List (Mark α)) : Prop where
  sublist : ns.Sublist ms
  all : errors = [] → ns = ms

namespace Kept

variable {errors errors' : List QueryError} {ms ns ls : List (Mark α)}

/-- More nodes in front are kept. -/
lemma append (ms' : List (Mark α)) (h : Kept errors ms ns) :
    Kept errors (ms' ++ ms) (ms' ++ ns) :=
  ⟨h.sublist.append_left ms', fun none => by rw [h.all none]⟩

/-- What is kept of what is kept is kept, with the errors of both. -/
lemma trans (h : Kept errors ms ns) (h' : Kept errors' ns ls) : Kept (errors ++ errors') ms ls := by
  refine ⟨h'.sublist.trans h.sublist, fun none => ?_⟩
  obtain ⟨none, none'⟩ := List.append_eq_nil_iff.1 none
  rw [h'.all none', h.all none]

/-- A mark is left out with an error. -/
lemma leave (m : Mark α) (h : Kept errors ms ns) (wrong : errors' ≠ []) :
    Kept errors' (m :: ms) ns :=
  ⟨h.sublist.cons m, fun none => (wrong none).elim⟩

end Kept

variable {row : List (Item α)} {c : Connective} {left : Option (Item α)}

/-- Inserting weaves `and`s between the nodes of a row. -/
lemma woven_insertAnd (row : List (Item α)) :
    Mark.Woven (row.flatMap marks) ((insertAnd row).flatMap marks) := by
  induction row with
  | nil => exact .nil
  | cons x row ih =>
    rw [insertAnd_cons, List.flatMap_cons, List.flatMap_cons, List.flatMap_append]
    refine .append (.of_sublist (.refl _)) ?_
    rcases joint_cases x row with none | ⟨y, rest, -, inserted⟩
    · rw [none]
      exact ih
    · rw [inserted]
      exact .insert rfl ih

/-- A `not` is left out with an error only. -/
lemma kept_applyNot (row : List (Item α)) :
    Kept (applyNot row).1 (row.flatMap marks) ((applyNot row).2.flatMap marks) := by
  fun_induction applyNot row with
  | case1 => exact ⟨.refl _, fun _ => rfl⟩
  | case2 s rest errors t rest' e ih =>
    rw [e] at ih
    exact ih.append [(.not, s)]
  | case3 s rest errors rest' _ e ih =>
    rw [e] at ih
    exact ih.leave (.not, s) (by simp)
  | case4 x rest _ errors rest' e ih =>
    rw [e] at ih
    exact ih.append x.marks

/-- A connective is left out with an error only. -/
lemma kept_applyJoin (c : Connective) (left : Option (Item α)) (row : List (Item α)) :
    Kept (applyJoin c left row).1 ((left.toList ++ row).flatMap marks)
      ((applyJoin c left row).2.flatMap marks) := by
  fun_induction applyJoin c left row with
  | case1 => exact ⟨by simp, fun _ => by simp⟩
  | case2 s l r rest ih => simpa [marks, Tree.marks, Combinator.kind] using ih
  | case3 s left rest _ errors rest' e ih =>
    rw [e] at ih
    refine ⟨ih.sublist.trans ?_, fun none => (List.cons_ne_nil _ _ none).elim⟩
    exact ((List.sublist_cons_self _ rest).append_left left.toList).flatMap marks
  | case4 left d s rest _ errors rest' e ih =>
    rw [e] at ih
    rw [List.flatMap_append, List.flatMap_append]
    exact ih.append _
  | case5 left x rest _ errors rest' e ih =>
    rw [e] at ih
    rw [List.flatMap_append, List.flatMap_append]
    exact ih.append _

/-- The tree of a row has its nodes from left to right, but for those that are left out with an
error. -/
lemma kept_combine {tree? : Option (Tree α)} (h : (combine row).2 = some tree?) :
    Kept (combine row).1 ((insertAnd row).flatMap marks) (tree?.toList.flatMap Tree.marks) := by
  obtain ⟨tree?', left, e⟩ := combine_eq row
  rw [e] at h ⊢
  obtain rfl := Option.some.inj h
  have kept := ((kept_applyNot (insertAnd row)).trans (kept_applyJoin .and none _)).trans
    (kept_applyJoin .or none _)
  have marks : (combinedRow row).flatMap marks = tree?'.toList.flatMap Tree.marks := by
    rw [left, List.flatMap_map]
    rfl
  rwa [← marks]

end Item

/-- Pruning leaves nodes in their order. -/
lemma Tree.marks_prune (t : Tree (Option α)) :
    ((t.prune.map (Tree.map some)).toList.flatMap marks).Sublist t.marks := by
  induction t with
  | leaf s a? =>
    cases a? with
    | none => exact List.nil_sublist _
    | some a => exact .refl _
  | not s t ih =>
    rw [prune]
    cases e : t.prune with
    | none => exact List.nil_sublist _
    | some u =>
      rw [e] at ih
      simpa [marks, Tree.map] using ih
  | join c s l r ihl ihr =>
    rw [prune]
    cases el : l.prune <;> cases er : r.prune <;> rw [el] at ihl <;> rw [er] at ihr
    · exact List.nil_sublist _
    · exact (ihr.cons (.join c, s)).trans (List.sublist_append_right l.marks _)
    · exact ihl.trans (List.sublist_append_left l.marks _)
    · simp only [Option.map_some, Option.toList_some, List.flatMap_cons, List.flatMap_nil,
        List.append_nil, marks, Tree.map] at ihl ihr ⊢
      exact ihl.append (ihr.cons_cons (.join c, s))

namespace Outline

variable (read : Term → Except QueryError (Option α))

/-- The tokens of a level from left to right, with those of its groups. -/
def marks : Outline → List (Mark (Option α))
  | done => []
  | broken _ => []
  | blank _ next => next.marks
  | combinator k s next => (k.kind, s) :: next.marks
  | term t next => (.leaf (meaning? read t), t.site) :: next.marks
  | group inner next => inner.marks ++ next.marks

variable {read} {o : Outline} {row : List (Item (Option α))}

/-- The row of a level that begins with a term. -/
lemma row_of_term {t : Term} {next : Outline}
    (result : ((term t next).row read).result? = some row) :
    ∃ rest, (next.row read).result? = some rest ∧
      row = .term (.leaf t.site (meaning? read t)) :: rest ∧
      ((term t next).row read).errors = (readLeaf read t).errors ++ (next.row read).errors := by
  obtain ⟨leaf, found, result⟩ := Recorded.exists_of_andThen result
  rw [Outline.row, Recorded.errors_andThen found]
  rw [result?_readLeaf] at found
  obtain rfl := Option.some.inj found
  obtain ⟨rest, behind, rfl⟩ := Option.map_eq_some_iff.1 result
  exact ⟨rest, behind, rfl, rfl⟩

/-- The row of a level that begins with a group. -/
lemma row_of_group {inner next : Outline}
    (result : ((group inner next).row read).result? = some row) :
    ∃ within tree? rest, (inner.row read).result? = some within ∧
      (Item.combine within).2 = some tree? ∧ (next.row read).result? = some rest ∧
      row = tree?.toList.map .term ++ rest ∧
      ((group inner next).row read).errors =
        (inner.row read).errors ++ (Item.combine within).1 ++ (next.row read).errors := by
  obtain ⟨tree?, combined, result⟩ := Recorded.exists_of_andThen result
  rw [Outline.row, Recorded.errors_andThen combined]
  obtain ⟨within, read', combined⟩ := Recorded.exists_of_andThen combined
  rw [Recorded.errors_andThen read']
  obtain ⟨rest, behind, rfl⟩ := Option.map_eq_some_iff.1 result
  exact ⟨within, tree?, rest, read', combined, behind, rfl, rfl⟩

/-- The items of a level follow one another as its tokens do. -/
lemma woven_row (result : (o.row read).result? = some row) :
    Mark.Woven (o.marks read) (row.flatMap Item.marks) := by
  induction o generalizing row with
  | done =>
    cases result
    exact .nil
  | broken => cases result
  | blank _ next ih => exact ih result
  | combinator k s next ih =>
    obtain ⟨row, behind, rfl⟩ := Option.map_eq_some_iff.1 result
    exact .keep (ih behind)
  | term t next ih =>
    obtain ⟨rest, behind, rfl, -⟩ := row_of_term result
    exact .keep (ih behind)
  | group inner next ihInner ihNext =>
    obtain ⟨inside, tree?, rest, within, combined, behind, rfl, -⟩ := row_of_group result
    have tree := (ihInner within).trans <| (Item.woven_insertAnd inside).trans <|
      .of_sublist (Item.kept_combine combined).sublist
    rw [List.flatMap_append, List.flatMap_map]
    exact tree.append (ihNext behind)

end Outline

/-- A character that can stand between tokens. -/
def IsSeparator (c : Char) : Prop := isBlank c = true ∨ isParen c = true

namespace Outline

variable {read : Term → Except QueryError (Option α)} {operators : List (List Char)} {start : Nat}
  {cs : List Char}

/-- Every token has a text. -/
lemma isWritten_scan : ∀ m ∈ (scan operators start cs).marks read, m.isWritten = true := by
  fun_induction scan operators start cs with
  | case1 => exact List.forall_mem_nil _
  | case2 => exact List.forall_mem_nil _
  | case3 => assumption
  | case4 start cs hcs l ht _ next k _ ih =>
    have ne := (Token.consumes_of_first hcs ht).2
    exact List.forall_mem_cons.2 ⟨by simp [Mark.isWritten, Site.place, ne], ih⟩
  | case5 start cs hcs l ht _ next inner _ _ ihNext ihInner =>
    exact List.forall_mem_append.2 ⟨ihInner, ihNext⟩
  | case6 start cs hcs l ht _ next c hc ih =>
    have ne := (Token.consumes_of_first hcs ht).2
    have site : (Term.clause c).site = .place start l.taken := Token.site_of_first ht hc
    exact List.forall_mem_cons.2 ⟨by simp [Mark.isWritten, site, Site.place, ne], ih⟩
  | case7 start cs hcs l ht _ next text exact _ ih =>
    have ne := (Token.consumes_of_first hcs ht).2
    exact List.forall_mem_cons.2 ⟨by simp [Mark.isWritten, Term.site, Site.place, ne], ih⟩

/-- The tokens of a level stand in its text one behind the other. Only blanks and parentheses stand
between them, if the level is read to its end. -/
lemma laid_scan : Site.Laid (fun c => (scan operators start cs).isComplete = true → IsSeparator c)
    start cs (((scan operators start cs).marks read).map Prod.snd) := by
  -- A token with a text of its own stands in front of those of the rest.
  have token {start : Nat} {cs : List Char} {l : Lexed} {sites : List Site} {between : Char → Prop}
      (hcs : cs ≠ []) (ht : Token.first operators start cs = .ok l)
      (later : Site.Laid between (start + width l.taken) l.rest sites) :
      Site.Laid between start cs (.place start l.taken :: sites) := by
    obtain ⟨text, ne⟩ := Token.consumes_of_first hcs ht
    rw [← text]
    exact .first (.written ne) later
  fun_induction scan operators start cs with
  | case1 => exact .nil (List.forall_mem_nil _)
  | case2 => exact .nil fun _ _ complete => absurd complete Bool.false_ne_true
  | case3 start cs hcs l ht _ next hb ih =>
    rw [← (Token.consumes_of_first hcs ht).1]
    exact .skip (fun c mem _ => .inl (Token.isBlank_of_first ht hb c mem)) ih
  | case4 start cs hcs l ht _ next k _ ih => exact token hcs ht ih
  | case5 start cs hcs l ht _ next inner hg _ ihNext ihInner =>
    rw [← (Token.consumes_of_first hcs ht).1, marks, List.map_append]
    refine .append ?_ (ihNext.mono fun c sep complete => sep (Bool.and_eq_true_iff.1 complete).2)
    -- The parentheses stand around the tokens of the group.
    have left : ∀ c ∈ ['('], IsSeparator c := List.forall_mem_singleton.2 (.inr rfl)
    have right : ∀ c ∈ [')'], IsSeparator c := List.forall_mem_singleton.2 (.inr rfl)
    have inside := ihInner.append (.nil fun c mem _ => right c mem)
    rw [List.append_nil] at inside
    have text : l.taken = ['('] ++ (inner ++ [')']) := (Token.group_of_first ht hg).1
    rw [text]
    refine .skip (fun c mem _ => left c mem) (inside.mono fun c sep complete => ?_)
    exact sep (Bool.and_eq_true_iff.1 complete).1
  | case6 start cs hcs l ht _ next c hc ih =>
    have site : (Term.clause c).site = .place start l.taken := Token.site_of_first ht hc
    rw [marks, List.map_cons, site]
    exact token hcs ht ih
  | case7 start cs hcs l ht _ next text exact _ ih => exact token hcs ht ih

end Outline

end Sift
