import Sift.Proofs.Pieces
import Sift.Proofs.Reachable
import Sift.Proofs.Recovery

/-!
# Queries of rendered expressions

An expression that is written with all its parentheses is read as it is meant, whatever the texts of
its atoms: its query has no error, the tree of the expression, and its value as the answer of
testing an element (`query_of_rendering`). What the engine skips is left out of all that.
-/

namespace Sift

open Text

/-- A leaf without the position that a search word stands at. -/
def Leaf.unplaced {κ ε : Type} : Leaf κ ε → Leaf κ ε
  | .filter o => .filter o
  | .search w => .search { w with site := .place 0 w.site.source }

/-- The ways to write an expression: a negation as `-x` or `not x`, a connective as `(l and r)` or
`(l or r)`, and an `and` also as `(l r)`. -/
inductive Renders {A : Type} (text : A → List Char) : Formula A → List Char → Prop where
  | atom (a : A) :
    Renders text (.atom a) (text a)
  | dash {f cs} :
    Renders text f cs →
    Renders text (.not f) (['-'] ++ cs)
  | not {f cs} :
    Renders text f cs →
    Renders text (.not f) ("not ".toList ++ cs)
  | gap {l r cs ds} :
    Renders text l cs →
    Renders text r ds →
    Renders text (.join .and l r) (['('] ++ cs ++ [' '] ++ ds ++ [')'])
  | join {l r cs ds} (c : Connective) :
    Renders text l cs →
    Renders text r ds →
    Renders text (.join c l r)
      (['('] ++ cs ++ [' '] ++ c.keyword.toList ++ [' '] ++ ds ++ [')'])

section Pieces

variable {operators : List (List Char)} {α β A : Type}
  {read : Term → Except QueryError (Option α)} {shape : Site → Option α → β}

/-- What is rendered from pieces is a piece. -/
lemma Renders.piece {text : A → List Char} {meaning : A → β} {f : Formula A} {cs : List Char}
    (h : Renders text f cs)
    (atoms : ∀ a, Piece operators read shape (text a) (.atom (meaning a))) :
    Piece operators read shape cs (f.map meaning) := by
  induction h with
  | atom a => exact atoms a
  | dash _ ih => exact ih.dash
  | not _ ih => exact ih.not
  | gap _ _ ihl ihr => simpa [Formula.map] using ihl.gap ihr
  | join c _ _ ihl ihr => simpa [Formula.map, Outline.keyword] using ihl.join c ihr

end Pieces

namespace Engine

variable {κ ε : Type} {e : Engine κ ε}

/-- The operators of a reachable engine can stand in words. -/
lemma Reachable.isOperatorText (reach : e.Reachable) :
    ∀ op ∈ e.operatorTexts, Clause.IsOperatorText op := by
  intro op mem
  obtain ⟨token, tokenMem, rfl⟩ := List.mem_map.1 mem
  exact (Clause.isOperatorText_of_isOperatorToken (reach.isOperatorToken token tokenMem)).1

/-- The meaning of a clause does not depend on where it stands. -/
lemma readTerm_clause_move {c : Clause} {leaf? : Option (Leaf κ ε)}
    (h : e.readTerm (.clause c) = .ok leaf?) (start : Nat) :
    e.readTerm (.clause { c with start }) = .ok leaf? := by
  have same : e.readClause { c with start } = e.readClause c := rfl
  rw [readTerm, same]
  rw [readTerm] at h
  split at h
  · exact h
  · cases h

/-- The meaning of a term does not depend on where it stands. -/
lemma readTerm_move {t : Term} {leaf? : Option (Leaf κ ε)} (h : e.readTerm t = .ok leaf?)
    (start : Nat) : ∃ leaf?', e.readTerm (t.move start) = .ok leaf?' ∧
      leaf?'.map Leaf.unplaced = leaf?.map Leaf.unplaced := by
  match t with
  | .clause c => exact ⟨leaf?, readTerm_clause_move h start, rfl⟩
  | .word w =>
    rw [readTerm] at h
    split at h
    · cases h
    · next ready =>
      cases h
      exact ⟨some (.search { w with site := .place start w.site.source }),
        by rw [Term.move, readTerm, if_neg ready], rfl⟩

/-- A text without quotes that is one term by itself and is understood by the engine: as a leaf, or
as a clause that is skipped. -/
structure Atom (e : Engine κ ε) where
  text : String
  term : Term
  leaf? : Option (Leaf κ ε)
  unquoted : '"' ∉ text.toList
  alone : e.outline text = .term term .done
  reads : e.readTerm term = .ok leaf?

/-- Whether an atom is a leaf, and not skipped. -/
def Atom.isKept (a : e.Atom) : Bool := a.leaf?.isSome

/-- The text of an atom and its leaf, wherever it stands. -/
def Atom.meaning (a : e.Atom) : List Char × Option (Leaf κ ε) :=
  (a.text.toList, a.leaf?.map Leaf.unplaced)

/-- The text of a term that is understood is read as its leaf, in front of every rest in front of
which it is read as the term. -/
lemma exists_readsBefore {t : Term} {leaf? : Option (Leaf κ ε)} (reads : e.readTerm t = .ok leaf?)
    (start : Nat) : ∃ leaf?', leaf?'.map Leaf.unplaced = leaf?.map Leaf.unplaced ∧
      ∀ rest, Outline.scan e.operatorTexts start (t.site.source ++ rest) = .term (t.move start)
          (Outline.scan e.operatorTexts (start + width t.site.source) rest) →
        Outline.ReadsBefore e.readTerm e.operatorTexts rest start t.site.source
          [.term (.leaf (t.move start).site leaf?')] := by
  obtain ⟨leaf?', reads, same⟩ := readTerm_move reads start
  refine ⟨leaf?', same, fun rest scanned => ?_⟩
  rw [Outline.ReadsBefore, scanned, Outline.row, readLeaf, reads]
  rfl

/-- The text of a clause that is understood is read as its leaf, wherever it stands. -/
lemma reads_of_clause (reach : e.Reachable) {c : Clause}
    (m : (Term.clause c).Movable e.operatorTexts) {leaf? : Option (Leaf κ ε)}
    (reads : e.readTerm (.clause c) = .ok leaf?) (start : Nat) :
    Outline.Reads e.readTerm e.operatorTexts start c.source
      [.term (.leaf (.place start c.source) leaf?)] := by
  intro rest fl
  have scanned : Outline.scan e.operatorTexts start (c.source ++ rest) =
      .term (.clause { c with start }) (Outline.scan e.operatorTexts (start + width c.source) rest) :=
    m.scan reach.isOperatorText fl start
  rw [scanned, Outline.row, readLeaf, readTerm_clause_move reads start]
  rfl

/-- The text of a term that is understood is a piece. -/
lemma piece_of_movable (reach : e.Reachable) {t : Term} (m : t.Movable e.operatorTexts)
    {leaf? : Option (Leaf κ ε)} (reads : e.readTerm t = .ok leaf?) :
    Piece e.operatorTexts e.readTerm (fun s leaf? => (s.source, leaf?.map Leaf.unplaced))
      t.site.source (.atom (t.site.source, leaf?.map Leaf.unplaced)) where
  solid := m.occurs.solid
  balanced := m.balanced reach.isOperatorText
  reads start := by
    obtain ⟨leaf?', same, reads⟩ := exists_readsBefore reads start
    refine ⟨_, .leaf (t.move start).site leaf?', .operand _, fun rest fl => ?_, ?_⟩
    · exact reads rest (m.scan reach.isOperatorText fl start)
    · rw [Tree.formula, same, t.source_move]

/-- The text of an atom is a piece. -/
lemma Atom.piece (reach : e.Reachable) (a : e.Atom) :
    Piece e.operatorTexts e.readTerm (fun s leaf? => (s.source, leaf?.map Leaf.unplaced))
      a.text.toList (.atom a.meaning) := by
  obtain ⟨movable, source⟩ := Outline.movable_of_scan_term a.alone a.unquoted
  have piece := piece_of_movable reach movable a.reads
  rwa [source] at piece

section Levels

variable {text : String} {items : List (Item (Option (Leaf κ ε)))} {t : Tree (Option (Leaf κ ε))}

/-- The query of a text that is read as one level has no error and the tree of the level. -/
lemma query_of_level (level : Item.Level items (some t))
    (reads : Outline.ReadsBefore e.readTerm e.operatorTexts [] 0 text.toList items) :
    (e.query text).errors = [] ∧ (e.query text).tree? = t.prune := by
  have reading : e.reading text = .ok (some t) := by
    rw [Engine.reading, outline, Outline.tree, reads.row, Recorded.ok_andThen]
    exact Outline.combined_of_level level
  constructor
  · simp [query, reading, Recorded.ok, t.validate_eq_nil]
  · simp [query, reading, Recorded.ok]

/-- The query of a text that is read as one operand has no error and the tree of the operand. -/
lemma query_of_reads (unary : Item.Unary items t)
    (reads : Outline.ReadsBefore e.readTerm e.operatorTexts [] 0 text.toList items) :
    (e.query text).errors = [] ∧ (e.query text).tree? = t.prune :=
  query_of_level (.terms (.piece (.unary unary))) reads

end Levels

/-- The query of two clauses with a space between them, both understood, has no error and asks for
both. -/
lemma query_of_clauses (reach : e.Reachable) {text : String} {c d : Clause} {leaf leaf' : Leaf κ ε}
    (whole : text.toList = c.source ++ ' ' :: d.source)
    (left : (Term.clause c).Movable e.operatorTexts)
    (readsLeft : e.readTerm (.clause c) = .ok (some leaf))
    (right : (Term.clause d).Movable e.operatorTexts)
    (readsRight : e.readTerm (.clause d) = .ok (some leaf')) :
    (e.query text).errors = [] ∧ ∃ s s₁ s₂,
      (e.query text).tree? = some (.join .and s (.leaf s₁ leaf) (.leaf s₂ leaf')) := by
  have solid : Outline.Solid d.source := right.occurs.solid
  have both := (reads_of_clause reach left readsLeft 0).append solid
    (reads_of_clause reach right readsRight _)
  have reads := both.before .stop
  rw [← whole] at reads
  obtain ⟨s, level⟩ := Item.Level.next
    (.operand (.leaf (.place 0 c.source) (some leaf)))
    (.operand (.leaf (.place (0 + width c.source + 1) d.source) (some leaf')))
  obtain ⟨errors, tree⟩ := query_of_level level reads
  exact ⟨errors, s, _, _, tree⟩

section Terms

variable {text : String} {t : Term} {leaf : Leaf κ ε}

/-- A text that is read to its end as a clause is the clause by itself. -/
lemma outline_of_first {c : Clause} (ne : text.toList ≠ [])
    (first : Token.first e.operatorTexts 0 text.toList = .ok ⟨.clause c, text.toList, []⟩) :
    e.outline text = .term (.clause c) .done := by
  rw [outline, Outline.scan_of_first ne first]
  simp only [Outline.scan_nil]

/-- The query of a text that is one term by itself, and understood, has no error and one leaf. -/
lemma query_of_term (alone : e.outline text = .term t .done)
    (reads : e.readTerm t = .ok (some leaf)) :
    (e.query text).errors = [] ∧ (e.query text).tree? = some (.leaf t.site leaf) := by
  have reading : e.reading text = .ok (some (.leaf t.site (some leaf))) := by
    rw [Engine.reading, alone, Outline.tree, Outline.row, readLeaf, reads]
    rfl
  constructor
  · rw [query, reading]
    rfl
  · rw [query, reading]
    rfl

/-- The query of a text that is one term by itself answers as its leaf. -/
lemma test_of_term (alone : e.outline text = .term t .done)
    (reads : e.readTerm t = .ok (some leaf)) (x : ε) :
    (e.query text).test x = ((e.query text).ask x leaf).mapError .evaluation := by
  obtain ⟨errors, tree⟩ := query_of_term alone reads
  exact Query.test_eq errors tree

/-- The query of a text that is one clause by itself, and understood, is valid and answers as its
operation. -/
lemma query_of_operation {o : Operation κ ε} (alone : e.outline text = .term t .done)
    (reads : e.readTerm t = .ok (some (.filter o))) :
    (e.query text).isValid = true ∧
      ∀ x b, o.test x = .ok b → (e.query text).test x = .ok b := by
  obtain ⟨errors, tree⟩ := query_of_term alone reads
  refine ⟨Query.isValid_of_tree errors tree, fun x b answer => ?_⟩
  rw [test_of_term alone reads, Query.ask, answer]
  rfl

/-- The query of a text that is one term by itself, and refused, has the error of the term. -/
lemma errors_of_term {error : QueryError} (alone : e.outline text = .term t .done)
    (refused : e.readTerm t = .error error) : (e.query text).errors = [error] := by
  have reading : e.reading text = ⟨[error], some (some (.leaf t.site none))⟩ := by
    rw [Engine.reading, alone, Outline.tree, Outline.row, readLeaf, refused]
    rfl
  rw [query, reading]
  rfl

end Terms

/-- The query of a piece has no error and the tree of the piece. -/
lemma query_of_piece {β : Type} {shape : Site → Option (Leaf κ ε) → β} {text : String}
    {f : Formula β} (p : Piece e.operatorTexts e.readTerm shape text.toList f) :
    (e.query text).errors = [] ∧ ∃ t : Tree (Option (Leaf κ ε)),
      (e.query text).tree? = t.prune ∧ t.formula shape = f := by
  obtain ⟨items, t, unary, reads, same⟩ := p.reads 0
  obtain ⟨errors, tree⟩ := query_of_reads unary (reads.before .stop)
  exact ⟨errors, t, tree, same⟩

/-- Where a search word stands does not matter for its answer. -/
lemma ask_unplaced (q : Query κ ε) (x : ε) (leaf : Leaf κ ε) :
    q.ask x leaf.unplaced = q.ask x leaf := by
  cases leaf <;> rfl

/-- Testing an element with a query without errors gives the answer of its tree. -/
lemma test_of_answer {q : Query κ ε} {t : Tree (Leaf κ ε)} {x : ε} {b : Bool}
    (errors : q.errors = []) (tree : q.tree? = some t)
    (answer : (t.evaluate (q.ask x)).answer = .ok b) : q.test x = .ok b := by
  rw [Query.test_eq errors tree, answer]
  rfl

/-- An expression that is written with all its parentheses is read without an error, as the tree of
the expression without the atoms that are skipped, and an element on which no leaf fails is tested
with the value of that expression. It is the whole expression if no atom is skipped. -/
theorem query_of_rendering (reach : e.Reachable) {f : Formula e.Atom} {text : String}
    (h : Renders (fun a => a.text.toList) f text.toList) :
    (e.query text).errors = [] ∧
      (e.query text).isValid = (f.filter Atom.isKept).isSome ∧
      (e.query text).tree?.map (Tree.formula fun s leaf => (s.source, some leaf.unplaced)) =
        (f.filter Atom.isKept).map (Formula.map Atom.meaning) ∧
      (∀ x v, (∀ a ∈ f.atoms, ∀ leaf, a.leaf? = some leaf → (e.query text).ask x leaf = .ok (v a)) →
        ∀ kept, f.filter Atom.isKept = some kept →
          (e.query text).test x = .ok (kept.value v)) ∧
      ((∀ a ∈ f.atoms, a.isKept = true) → f.filter Atom.isKept = some f) := by
  obtain ⟨errors, t, tree, same⟩ := query_of_piece (h.piece fun a => a.piece reach)
  have keeps : (fun a : e.Atom => a.meaning.2.isSome) = Atom.isKept := by
    funext a
    rw [Atom.meaning, Option.isSome_map, Atom.isKept]
  have pruned := Tree.formula_prune same
  rw [keeps, ← tree] at pruned
  refine ⟨errors, ?_, pruned, fun x v asks kept e => ?_, Formula.filter_eq_some⟩
  · have size := congrArg Option.isSome pruned
    rw [Option.isSome_map, Option.isSome_map] at size
    rw [Query.isValid, errors, Query.isEmpty, ← size]
    cases (Engine.query _ text).tree? <;> rfl
  · rw [e, Option.map_some] at pruned
    obtain ⟨t', tree', same'⟩ := Option.map_eq_some_iff.1 pruned
    refine test_of_answer errors tree' (Tree.answer_of_formula same' fun s leaf a mem eq => ?_)
    -- the leaf of the tree differs from that of the atom in its position only
    obtain ⟨leaf', e', eq'⟩ := Option.map_eq_some_iff.1 (Prod.ext_iff.1 eq).2.symm
    rw [← ask_unplaced, ← eq', ask_unplaced]
    exact asks a (Formula.atoms_filter e a mem).1 leaf' e'

/-- The clause `age:18` at the start of a text. -/
def ageClause : Clause := ⟨0, "age".toList, none, ":".toList, "18".toList⟩

/-- With the default operators the text of the example is one clause. -/
lemma outline_age (e : Engine Empty ε) (builtin : e.operators = Operator.builtin) :
    e.outline "age:18" = .term (.clause ageClause) .done := by
  have first : Token.first e.operatorTexts 0 "age:18".toList =
      .ok ⟨.clause ageClause, "age:18".toList, []⟩ := by
    rw [operatorTexts, operatorTokens, builtin]
    rfl
  exact outline_of_first (by decide) first

/-- An engine over pairs of flags: clauses ask for the first one, and the word `red` for the
second. -/
def flags : Engine Empty (Bool × Bool) where
  defaultFilter? := some fun x _ _ _ => x.1
  searchSource? := some { texts := fun x => if x.2 then ["red"] else [] }

/-- The engine of the example comes about by calls. -/
lemma reachable_flags : flags.Reachable :=
  .step (.step (.withOptions {}) (.setDefaultFilter _ rfl)) (.setSearchSource _ rfl)

/-- The clause `age:18`, which the default filter answers. -/
def ageAtom : flags.Atom where
  text := "age:18"
  term := .clause ageClause
  leaf? := some (.filter ⟨"age", ":", "18", none, .string "18", .caseInsensitive,
    .default fun x _ _ _ => x.1⟩)
  unquoted := by decide
  alone := outline_age flags rfl
  reads := rfl

/-- The search word `red`. -/
def redAtom : flags.Atom where
  text := "red"
  term := .word ⟨"red".toList, false, .place 0 "red".toList⟩
  leaf? := some (.search ⟨"red".toList, false, .place 0 "red".toList⟩)
  unquoted := by decide
  alone := by
    have first : Token.first flags.operatorTexts 0 "red".toList =
        .ok ⟨.word "red".toList false, "red".toList, []⟩ := rfl
    rw [outline, Outline.scan_of_first (by decide) first]
    exact congrArg (Outline.term _) Outline.scan_nil
  reads := rfl

/-- An expression with both ways to negate, an `or` and an `and` that is not written. -/
theorem query_of_mixed_rendering :
    flags.Reachable ∧
      Renders (fun a : flags.Atom => a.text.toList)
        (.join .or (.not (.atom ageAtom)) (.join .and (.not (.atom redAtom)) (.atom ageAtom)))
        "(-age:18 or (not red age:18))".toList ∧
      (flags.query "(-age:18 or (not red age:18))").isValid = true ∧
      ∀ x, (flags.query "(-age:18 or (not red age:18))").test x = .ok (!x.1 || (!x.2 && x.1)) := by
  have renders : Renders (fun a : flags.Atom => a.text.toList)
      (.join .or (.not (.atom ageAtom)) (.join .and (.not (.atom redAtom)) (.atom ageAtom)))
      "(-age:18 or (not red age:18))".toList :=
    .join .or (.dash (.atom ageAtom)) (.gap (.not (.atom redAtom)) (.atom ageAtom))
  obtain ⟨_, valid, _, test, whole⟩ := query_of_rendering reachable_flags renders
  refine ⟨reachable_flags, renders, valid, fun x => ?_⟩
  have age : ∀ leaf, ageAtom.leaf? = some leaf →
      (flags.query "(-age:18 or (not red age:18))").ask x leaf = .ok x.1 := by
    rintro leaf ⟨⟩
    rfl
  have red : ∀ leaf, redAtom.leaf? = some leaf →
      (flags.query "(-age:18 or (not red age:18))").ask x leaf = .ok x.2 := by
    rintro leaf ⟨⟩
    obtain ⟨first, second⟩ := x
    cases second <;> rfl
  have forAtoms {P : flags.Atom → Prop} (ofAge : P ageAtom) (ofRed : P redAtom) :
      ∀ a ∈ [ageAtom, redAtom, ageAtom], P a := by
    simp [ofAge, ofRed]
  have kept := whole (forAtoms rfl rfl)
  exact test x (fun a => if a.text = "red" then x.2 else x.1) (forAtoms age red) _ kept

/-- An engine that skips the clauses of unknown filters. -/
def skipping : Engine Empty Unit := .withOptions { validation := .skipUnknownFilters }

/-- A clause that is understood, and skipped. -/
def skippedAtom : skipping.Atom where
  text := "age:18"
  term := .clause ageClause
  leaf? := none
  unquoted := by decide
  alone := outline_age skipping rfl
  reads := rfl

/-- The query of a skipped atom is not valid, although nothing is wrong with it. -/
theorem query_of_skipped_atom :
    skipping.Reachable ∧
      Renders (fun a : skipping.Atom => a.text.toList) (.atom skippedAtom) "age:18".toList ∧
      (skipping.query "age:18").errors = [] ∧ (skipping.query "age:18").isValid = false := by
  have reading : skipping.reading "age:18" = .ok (some (.leaf ageClause.site none)) := by
    rw [Engine.reading, outline_age skipping rfl]
    rfl
  refine ⟨.withOptions _, .atom skippedAtom, ?_, ?_⟩
  · rw [query, reading]
    rfl
  · rw [query, reading]
    rfl

end Engine

end Sift
