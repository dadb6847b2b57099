import Sift.Proofs.Meanings
import Sift.Proofs.Rearranging
import Sift.Proofs.Rendering

/-!
# Identifiers of queries

The identifier of a query is a text with the same meaning: parsed by the same engine it gives a
query of the same shape, with the same leaves and the same answers (`identifier_is_read_back`).
Quotes in the text of a leaf must be those of a phrase or of a value. And no leaf may be a keyword: a
keyword in front of a wide blank is a search word, and it is none in an identifier
(`identifier_of_keyword`).
-/

namespace Sift

open Text

namespace Tree

variable {α β γ : Type}

/-- What holds of leaves that stand for the same, and of nodes if it does below them, holds of trees
that say the same. -/
lemma formula_induction {g : Site → α → γ} {P : Tree α → Tree α → Prop}
    (ofLeaf : ∀ {s a s' a'}, g s a = g s' a' → P (leaf s a) (leaf s' a'))
    (ofNot : ∀ {s t s' t'}, P t t' → P (not s t) (not s' t'))
    (ofJoin : ∀ {c s l r s' l' r'}, P l l' → P r r' → P (join c s l r) (join c s' l' r'))
    {t t' : Tree α} (same : t.formula g = t'.formula g) : P t t' := by
  induction t generalizing t' with
  | leaf s a =>
    match t' with
    | leaf s' a' => exact ofLeaf (Formula.atom.inj same)
  | not s t ih =>
    match t' with
    | not s' t' => exact ofNot (ih (Formula.not.inj same))
  | join c s l r ihl ihr =>
    match t' with
    | join d s' l' r' =>
      obtain ⟨rfl, left, right⟩ := Formula.join.inj same
      exact ofJoin (ihl left) (ihr right)

section Same

variable {g : α → γ} {t t' : Tree α}
  (same : t.formula (fun s a => (s.source, g a)) = t'.formula fun s a => (s.source, g a))
include same

/-- Trees that say the same have the same identifier. -/
lemma identifier_of_formula : t.identifier = t'.identifier := by
  refine formula_induction (P := fun t t' => t.identifier = t'.identifier) ?_ ?_ ?_ same
  · intro s a s' a' e
    exact (Prod.ext_iff.1 e).1
  · intro s t s' t' ih
    rw [identifier, identifier, ih]
  · intro c s l r s' l' r' ihl ihr
    rw [identifier, identifier, ihl, ihr]

/-- Trees that say the same have the same answer, if their leaves do. -/
lemma answer_of_same {φ : Type} {ask : α → Except φ Bool}
    (leaves : ∀ {a a'}, g a = g a' → ask a = ask a') :
    (t.evaluate ask).answer = (t'.evaluate ask).answer := by
  refine formula_induction
    (P := fun t t' => (t.evaluate ask).answer = (t'.evaluate ask).answer) ?_ ?_ ?_ same
  · intro s a s' a' e
    exact leaves (Prod.ext_iff.1 e).2
  · intro s t s' t' ih
    exact congrArg (Except.map Bool.not) ih
  · intro c s l r s' l' r' ihl ihr
    exact Evaluation.answer_congr c ihl ihr

end Same

/-- A tree without empty leaves is pruned to one that says the same. -/
lemma exists_prune_of_formula {g : α → γ} {t : Tree (Option α)} {t' : Tree α}
    (same : t.formula (fun s a? => (s.source, a?.map g)) =
      t'.formula fun s a => (s.source, some (g a))) :
    ∃ pruned, t.prune = some pruned ∧
      pruned.formula (fun s a => (s.source, g a)) = t'.formula fun s a => (s.source, g a) := by
  induction t generalizing t' with
  | leaf s a? =>
    cases t' with
    | not | join => cases same
    | leaf s' a' =>
      obtain ⟨source, meaning⟩ := Prod.ext_iff.1 (Formula.atom.inj same)
      obtain ⟨a, rfl, e⟩ := Option.map_eq_some_iff.1 meaning
      exact ⟨leaf s a, rfl, congrArg Formula.atom (Prod.ext source e)⟩
  | not s t ih =>
    cases t' with
    | leaf | join => cases same
    | not s' t' =>
      obtain ⟨pruned, e, same⟩ := ih (Formula.not.inj same)
      exact ⟨not s pruned, by rw [prune, e, Option.map_some], congrArg Formula.not same⟩
  | join c s l r ihl ihr =>
    cases t' with
    | leaf | not => cases same
    | join d s' l' r' =>
      obtain ⟨rfl, left, right⟩ := Formula.join.inj same
      obtain ⟨l, el, left⟩ := ihl left
      obtain ⟨r, er, right⟩ := ihr right
      exact ⟨join c s l r, by rw [prune, el, er], congrArg₂ (Formula.join c) left right⟩

/-- The leaves of a pruned tree are leaves of the tree. -/
lemma mem_leaves_of_prune {t : Tree (Option α)} {t' : Tree α} (h : t.prune = some t') :
    ∀ leaf ∈ t'.leaves, (leaf.1, some leaf.2) ∈ t.leaves := by
  induction t generalizing t' with
  | leaf s a? =>
    obtain ⟨a, rfl, rfl⟩ := Option.map_eq_some_iff.1 h
    simp [leaves]
  | not s t ih =>
    obtain ⟨t', e, rfl⟩ := Option.map_eq_some_iff.1 h
    have within := ih e
    exact within
  | join c s l r ihl ihr =>
    have left {t'} (e : l.prune = some t') : ∀ leaf ∈ t'.leaves,
        (leaf.1, some leaf.2) ∈ (join c s l r).leaves :=
      fun leaf mem => List.mem_append_left _ (ihl e leaf mem)
    have right {t'} (e : r.prune = some t') : ∀ leaf ∈ t'.leaves,
        (leaf.1, some leaf.2) ∈ (join c s l r).leaves :=
      fun leaf mem => List.mem_append_right _ (ihr e leaf mem)
    rw [prune] at h
    split at h
    · next el er =>
      cases h
      exact List.forall_mem_append.2 ⟨left el, right er⟩
    · next el er =>
      cases h
      exact left el
    · exact right h

/-- The identifier of a tree is a piece if the texts of its leaves are pieces. -/
lemma piece {operators : List (List Char)} {read : Term → Except QueryError (Option β)}
    {shape : Site → Option β → γ} {meaning : Site → α → γ} {t : Tree α}
    (pieces : ∀ leaf ∈ t.leaves,
      Piece operators read shape leaf.1.source (.atom (meaning leaf.1 leaf.2))) :
    Piece operators read shape t.identifier (t.formula meaning) := by
  induction t with
  | leaf s a => exact pieces (s, a) (by simp [leaves])
  | not s t ih => exact (ih pieces).not
  | join c s l r ihl ihr =>
    have left := ihl fun leaf mem => pieces leaf (List.mem_append_left _ mem)
    have right := ihr fun leaf mem => pieces leaf (List.mem_append_right _ mem)
    simpa [identifier, formula, Outline.keyword] using left.join c right

end Tree

namespace Outline

/-- The terms of a text have been read in it. -/
lemma occurs_of_mem_terms {operators : List (List Char)} {start : Nat} {cs : List Char} :
    ∀ t ∈ (scan operators start cs).terms, t.Occurs operators := by
  fun_induction scan operators start cs with
  | case1 => exact fun t mem => absurd mem List.not_mem_nil
  | case2 => exact fun t mem => absurd mem List.not_mem_nil
  | case3 => assumption
  | case4 => assumption
  | case5 start cs hcs l ht _ next inner hg _ ihNext ihInner =>
    exact List.forall_mem_append.2 ⟨ihInner, ihNext⟩
  | case6 start cs hcs l ht _ next c hc ih =>
    exact List.forall_mem_cons.2 ⟨.clause ht hc, ih⟩
  | case7 start cs hcs l ht _ next text exact hw ih =>
    exact List.forall_mem_cons.2 ⟨.word hcs ht hw, ih⟩

end Outline

/-- What a leaf asks for, as it is written without quotes. -/
def Leaf.asked {κ ε : Type} : Leaf κ ε → List Char
  | .filter o => o.rawValue.toList
  | .search w => w.text

namespace Engine

variable {κ ε : Type} {e : Engine κ ε}

/-- A leaf asks for what its term asks for. -/
lemma asked_of_readTerm {t : Term} {leaf : Leaf κ ε} (h : e.readTerm t = .ok (some leaf)) :
    leaf.asked = t.asked := by
  match t with
  | .clause c =>
    obtain ⟨o, rfl, means⟩ := means_of_readTerm h
    cases means with
    | known | unknown => exact String.toList_ofList
  | .word w =>
    rw [readTerm] at h
    split at h <;> cases h
    rfl

/-- A term that has a meaning is read as it. -/
lemma read_of_meaning? {α : Type} {read : Term → Except QueryError (Option α)} {t : Term} {a : α}
    (h : meaning? read t = some a) : read t = .ok (some a) := by
  unfold meaning? at h
  split at h
  · next a? e => rw [e, h]
  · cases h

/-- The leaves of a query have been read from terms of its text. -/
lemma exists_term_of_leaf {text : String} {t : Tree (Leaf κ ε)}
    (tree : (e.query text).tree? = some t) : ∀ leaf ∈ t.leaves,
      ∃ term, term.Occurs e.operatorTexts ∧ term.site = leaf.1 ∧
        e.readTerm term = .ok (some leaf.2) := by
  obtain ⟨whole, h, pruned⟩ := Option.bind_eq_some_iff.1 tree
  obtain ⟨tree?, result, rfl⟩ := Option.bind_eq_some_iff.1 h
  obtain ⟨row, found, combined⟩ := Recorded.exists_of_andThen result
  obtain ⟨row', found', leaves⟩ :=
    Outline.row_of_isComplete e.readTerm (Outline.isComplete_of_row found)
  obtain rfl : row = row' := Option.some.inj (found.symm.trans found')
  obtain ⟨tree?', combined', same⟩ := Item.result?_combined row
  obtain rfl : some whole = tree?' := Option.some.inj (combined.symm.trans combined')
  have all : whole.leaves = (e.outline text).terms.map fun t => (t.site, meaning? e.readTerm t) := by
    rw [← leaves, ← same]
    simp
  intro leaf mem
  have within := Tree.mem_leaves_of_prune pruned leaf mem
  rw [all] at within
  obtain ⟨term, occurs, eq⟩ := List.mem_map.1 within
  obtain ⟨site, meaning⟩ := Prod.ext_iff.1 eq
  exact ⟨term, Outline.occurs_of_mem_terms term occurs, site, read_of_meaning? meaning⟩

/-- An operation of a query is what a clause means. -/
lemma exists_clause_of_leaf {text : String} {t : Tree (Leaf κ ε)}
    (tree : (e.query text).tree? = some t) {leaf : Site × Leaf κ ε} (mem : leaf ∈ t.leaves)
    {o : Operation κ ε} (filter : leaf.2 = .filter o) : ∃ c, e.Means c o := by
  obtain ⟨term, -, -, read⟩ := exists_term_of_leaf tree leaf mem
  rw [filter] at read
  match term with
  | .clause c =>
    obtain ⟨_, same, means⟩ := means_of_readTerm read
    cases same
    exact ⟨c, means⟩
  | .word w =>
    rw [readTerm] at read
    split at read <;> cases read

/-- The identifier of a query parses to a query that says the same, as long as the quotes of its
leaves are those of phrases and values, and no leaf is a keyword. -/
theorem identifier_is_read_back (e : Engine κ ε) (reach : e.Reachable) (text : String)
    (valid : (e.parse text).1.isValid = true)
    (quotes : ∀ t ∈ (e.parse text).1.tree?, ∀ leaf ∈ t.leaves,
      Encloses leaf.1.source leaf.2.asked)
    (words : ∀ t ∈ (e.parse text).1.tree?, ∀ leaf ∈ t.leaves,
      Combinator.ofWord? leaf.1.source = none) :
    ∃ identifier again, (e.parse text).1.identifier? = some identifier ∧
      again = ((e.parse text).2.parse identifier).1 ∧
      again.isValid = true ∧
      again.tree?.map (Tree.formula fun s leaf => (s.source, leaf.unplaced)) =
        (e.parse text).1.tree?.map (Tree.formula fun s leaf => (s.source, leaf.unplaced)) ∧
      again.identifier? = some identifier ∧
      ∀ x, again.test x = (e.parse text).1.test x := by
  obtain ⟨errors, t, tree⟩ := Query.exists_of_isValid valid
  have pieces : ∀ leaf ∈ t.leaves, Piece e.operatorTexts e.readTerm
      (fun s leaf? => (s.source, leaf?.map Leaf.unplaced)) leaf.1.source
      (.atom (leaf.1.source, some leaf.2.unplaced)) := by
    intro leaf mem
    obtain ⟨term, occurs, site, reads⟩ := exists_term_of_leaf tree leaf mem
    have movable : term.Movable e.operatorTexts := by
      refine ⟨occurs, ?_, ?_⟩
      · rw [site, ← asked_of_readTerm reads]
        exact quotes t tree leaf mem
      · rw [site]
        exact words t tree leaf mem
    have piece := piece_of_movable reach movable reads
    rwa [site] at piece
  have piece : Piece e.operatorTexts e.readTerm
      (fun s leaf? => (s.source, leaf?.map Leaf.unplaced)) (String.ofList t.identifier).toList
      (t.formula fun s leaf => (s.source, some leaf.unplaced)) := by
    rw [String.toList_ofList]
    exact Tree.piece pieces
  -- the tree that is read back has no empty leaf, so nothing of it is pruned
  obtain ⟨errors', whole, tree', same⟩ := query_of_piece piece
  obtain ⟨t', pruned, same⟩ := Tree.exists_prune_of_formula same
  rw [pruned] at tree'
  have identifier : (e.parse text).1.identifier? = some (String.ofList t.identifier) := by
    rw [Query.identifier?, tree, Option.map_some]
  refine ⟨_, e.query (String.ofList t.identifier), identifier, rfl, ?_, ?_, ?_, fun x => ?_⟩
  · rw [Query.isValid, errors', Query.isEmpty, tree']
    rfl
  · rw [tree', tree, Option.map_some, Option.map_some, same]
  · rw [Query.identifier?, tree', Option.map_some, Tree.identifier_of_formula same]
  · have leaves {a a' : Leaf κ ε} (h : a.unplaced = a'.unplaced) :
        (e.parse text).1.ask x a = (e.parse text).1.ask x a' := by
      rw [← ask_unplaced, h, ask_unplaced]
    rw [Query.test_eq errors tree, ← Tree.answer_of_same same leaves]
    exact Query.test_eq errors' tree'

/-- A phrase that is spelled like a keyword, a value in quotes with a parenthesis in it, and a
`not` without a space. -/
theorem identifier_of_quoted_leaves :
    flags.Reachable ∧
      (flags.parse "!\"or\" or -age:\"1 )\" red").1.identifier? =
        some "(!\"or\" or (not age:\"1 )\" and red))" ∧
      (flags.query "(!\"or\" or (not age:\"1 )\" and red))").isValid = true ∧
      ∀ x, (flags.query "(!\"or\" or (not age:\"1 )\" and red))").test x =
        (flags.query "!\"or\" or -age:\"1 )\" red").test x := by
  obtain ⟨identifier, again, same, rfl, valid, _, _, test⟩ :=
    identifier_is_read_back flags reachable_flags "!\"or\" or -age:\"1 )\" red" (by decide +kernel)
      (by decide +kernel) (by decide +kernel)
  have text : (flags.parse "!\"or\" or -age:\"1 )\" red").1.identifier? =
      some "(!\"or\" or (not age:\"1 )\" and red))" := by decide +kernel
  obtain rfl := Option.some.inj (text.symm.trans same)
  exact ⟨reachable_flags, text, valid, test⟩

/-- A keyword in front of a wide blank is a search word, and its identifier is no query. -/
theorem identifier_of_keyword :
    flags.Reachable ∧ (flags.parse "or\u00a0").1.isValid = true ∧
      (∀ t ∈ (flags.parse "or\u00a0").1.tree?, ∀ leaf ∈ t.leaves, '"' ∉ leaf.1.source) ∧
      (flags.parse "or\u00a0").1.identifier? = some "or" ∧
      ((flags.parse "or\u00a0").2.parse "or").1.isValid = false :=
  ⟨reachable_flags, by decide +kernel, by decide +kernel, by decide +kernel, by decide +kernel⟩

end Engine

end Sift
