import Sift.Proofs.Identifiers
import Sift.Proofs.Shifting

/-!
# A dash for a word

A dash in front of a text says what the word `not` and a space say there. Behind the one and the
other the text is read in the same way, three bytes apart, whatever it holds; and the places of
nodes, the word for a `not` among them, have no say in how terms are combined. So the two queries
say the same, and have as many errors (`Engine.query_of_negations`).
-/

namespace Sift

open Text

/-- Leaves correspond if they have one text and one meaning. Where nodes stand, and where errors are,
does not matter. -/
def Likeness.unplaced (κ ε : Type) : Likeness (Option (Leaf κ ε)) (Option (Leaf κ ε)) where
  site _ _ := True
  leaf s a? s' b? := (s.source, a?.map Leaf.unplaced) = (s'.source, b?.map Leaf.unplaced)
  error _ _ := True
  site_of_leaf _ := trivial
  gap _ _ := trivial
  missingOperand _ := trivial
  missingSide _ _ _ := trivial

section Unplaced

variable {κ ε : Type}

/-- Without its place a leaf is the same wherever it stands. -/
lemma Leaf.unplaced_shift (n : Nat) (a : Leaf κ ε) : (a.shift n).unplaced = a.unplaced := by
  cases a <;> rfl

/-- Trees that are alike up to places say the same. -/
lemma Tree.formula_of_alike {t t' : Tree (Option (Leaf κ ε))} (h : t.Alike (.unplaced κ ε) t') :
    t.formula (fun s a? => (s.source, a?.map Leaf.unplaced)) =
      t'.formula fun s a? => (s.source, a?.map Leaf.unplaced) := by
  induction h with
  | leaf h => exact congrArg Formula.atom h
  | not _ _ ih => exact congrArg Formula.not ih
  | join c _ _ _ ihl ihr => exact congrArg₂ (Formula.join c) ihl ihr

/-- Trees that say the same still do without their empty leaves. -/
lemma Tree.formula_prune_congr {α γ : Type} {g : α → γ} {t t' : Tree (Option α)}
    (same : t.formula (fun s a? => (s.source, a?.map g)) =
      t'.formula fun s a? => (s.source, a?.map g)) :
    t.prune.map (formula fun s a => (s.source, g a)) =
      t'.prune.map (formula fun s a => (s.source, g a)) := by
  refine formula_induction (P := fun t t' => t.prune.map (formula fun s a => (s.source, g a)) =
    t'.prune.map (formula fun s a => (s.source, g a))) ?_ ?_ ?_ same
  · intro s a? s' a?' same
    obtain ⟨source, meaning⟩ := Prod.mk.inj same
    cases a? with
    | none =>
      cases a?' with
      | none => rfl
      | some => cases meaning
    | some a =>
      cases a?' with
      | none => cases meaning
      | some a' =>
        have meaning : g a = g a' := Option.some.inj meaning
        simp [prune, formula, source, meaning]
  · intro s t s' t' ih
    have nots (s : Site) (t? : Option (Tree α)) :
        (t?.map (not s)).map (formula fun s a => (s.source, g a)) =
          (t?.map (formula fun s a => (s.source, g a))).map .not := by
      cases t? <;> rfl
    rw [prune, prune, nots, nots, ih]
  · intro c s l r s' l' r' ihl ihr
    rw [prune, prune]
    -- a side is left in both trees or in neither
    generalize l.prune = pl, r.prune = pr, l'.prune = pl', r'.prune = pr' at ihl ihr
    cases pl <;> cases pl' <;> cases pr <;> cases pr' <;> simp_all [formula]

end Unplaced

namespace Query

variable {κ ε : Type} {q q' : Query κ ε}

/-- A query that is not valid tests no element. -/
lemma test_of_not_isValid (h : q.isValid = false) (x : ε) :
    ∃ reason, q.test x = .error (.invalidQuery reason) := by
  have refused : ∃ reason, q.testable = .error (.invalidQuery reason) := by
    obtain ⟨text, tree?, errors, source?, comparison⟩ := q
    cases errors with
    | cons error => exact ⟨_, rfl⟩
    | nil =>
      cases tree? with
      | none => exact ⟨_, rfl⟩
      | some t => cases h
  obtain ⟨reason, refused⟩ := refused
  refine ⟨reason, ?_⟩
  rw [test, evaluate, refused]
  rfl

/-! Two queries whose trees say the same and that have as many errors. -/

section Same

variable
  (trees : q.tree?.map (Tree.formula fun s a => (s.source, a.unplaced)) =
    q'.tree?.map (Tree.formula fun s a => (s.source, a.unplaced)))
  (errors : q.errors.length = q'.errors.length)
include trees

/-- Queries of the same formula have the same identifier. -/
lemma identifier?_of_same : q.identifier? = q'.identifier? := by
  rw [identifier?, identifier?]
  generalize q.tree? = tree?, q'.tree? = tree?' at trees
  cases tree? with
  | none =>
    cases tree?' with
    | none => rfl
    | some => cases trees
  | some t =>
    cases tree?' with
    | none => cases trees
    | some t' =>
      exact congrArg (some ∘ String.ofList)
        (Tree.identifier_of_formula (g := Leaf.unplaced) (Option.some.inj trees))

include errors

/-- Queries of the same formula with as many errors are valid together. -/
lemma isValid_of_same : q.isValid = q'.isValid := by
  have empty : q.errors.isEmpty = q'.errors.isEmpty := by
    rw [Bool.eq_iff_iff, List.isEmpty_iff_length_eq_zero, List.isEmpty_iff_length_eq_zero, errors]
  have some := congrArg Option.isNone trees
  rw [Option.isNone_map, Option.isNone_map] at some
  rw [isValid, isValid, isEmpty, isEmpty, empty, some]

/-- They answer alike if words are looked for alike, or each has its own reason to refuse. -/
lemma test_of_same (source : q.source? = q'.source?) (comparison : q.comparison = q'.comparison)
    (x : ε) :
    q.test x = q'.test x ∨ ∃ reason reason', q.test x = .error (.invalidQuery reason) ∧
      q'.test x = .error (.invalidQuery reason') := by
  have valid := isValid_of_same trees errors
  cases valid' : q'.isValid with
  | false =>
    obtain ⟨reason, refused⟩ := test_of_not_isValid (valid.trans valid') x
    obtain ⟨reason', refused'⟩ := test_of_not_isValid valid' x
    exact .inr ⟨reason, reason', refused, refused'⟩
  | true =>
    obtain ⟨none, t, tree⟩ := exists_of_isValid (valid.trans valid')
    obtain ⟨none', t', tree'⟩ := exists_of_isValid valid'
    rw [tree, tree'] at trees
    have leaves {a a' : Leaf κ ε} (h : a.unplaced = a'.unplaced) : q.ask x a = q.ask x a' := by
      rw [← Engine.ask_unplaced, h, Engine.ask_unplaced]
    have ask : q.ask x = q'.ask x := by
      funext a
      rw [ask.eq_def, ask.eq_def, source, comparison]
    left
    rw [test_eq none tree, test_eq none' tree', ← ask,
      Tree.answer_of_same (Option.some.inj trees) leaves]

end Same

end Query

namespace Outline

variable {α : Type} {read : Term → Except QueryError (Option α)} {operators : List (List Char)}
  {cs : List Char}

/-- A dash in front of a text is a `not` in front of its row. -/
lemma row_dash (solid : Solid cs) :
    (scan operators 0 ('-' :: cs)).row read =
      ((scan operators 1 cs).row read).map (.combinator .not (.place 0 ['-']) :: ·) := by
  obtain ⟨c, cs, rfl, blank⟩ := solid
  have dash : Token.startsWithDash ('-' :: c :: cs) = true := by
    simp [Token.startsWithDash, blank]
  rw [scan_of_first (by simp) (Token.first_of_read (.dash dash))]
  rfl

/-- A `not` in front of a text is one in front of its row. -/
lemma row_not (solid : Solid cs) :
    (scan operators 0 ("not ".toList ++ cs)).row read =
      ((scan operators 4 cs).row read).map (.combinator .not (.place 0 "not".toList) :: ·) := by
  have reads : Reads read operators 0 (keyword .not) _ := reads_keyword .not
  have word := reads (' ' :: cs) (.space cs)
  have row : (scan operators 3 (' ' :: cs)).row read = (scan operators 4 cs).row read := by
    rw [scan_space solid, Outline.row]
  exact word.trans (congrArg (Recorded.map _) row)

end Outline

namespace Engine

variable {κ ε : Type} (e : Engine κ ε) {s : String}

/-- Behind the dash and behind the word a text is read alike. -/
lemma alike_readings (solid : Outline.Solid s.toList) :
    (e.reading ("-" ++ s)).Alike (.unplaced κ ε) (Option.Rel (Tree.Alike (.unplaced κ ε)))
      (e.reading ("not " ++ s)) := by
  have leaves (t : Term) : (readLeaf e.readTerm t).Alike (.unplaced κ ε)
      (Tree.Alike (.unplaced κ ε)) (readLeaf e.readTerm (t.shift 3)) := by
    rw [readLeaf, readLeaf, readTerm_shift, Term.site_shift]
    cases e.readTerm t with
    | ok leaf? =>
      refine ⟨.nil, .some (.leaf ?_)⟩
      cases leaf? with
      | none => rfl
      | some leaf => exact congrArg (fun a => (t.site.source, some a)) (leaf.unplaced_shift 3).symm
    | error error => exact ⟨.cons trivial .nil, .some (.leaf rfl)⟩
  have rows := Outline.alike_row (fun _ => trivial) (fun _ => trivial) leaves
    (Outline.scan e.operatorTexts 1 s.toList)
  rw [← Outline.scan_shift] at rows
  have combinators := rows.map (f := (.combinator .not (.place 0 ['-']) :: ·))
    (g := (.combinator .not (.place 0 "not".toList) :: ·)) (S := List.Forall₂ (Item.Alike _))
    fun row row' rows => .cons (.combinator .not trivial) rows
  rw [← Outline.row_dash solid, ← Outline.row_not solid] at combinators
  have trees := combinators.andThen fun row row' => Item.alike_combined
  simpa [reading, outline, Outline.tree] using trees

/-- A dash and the word `not` in front of a text that does not begin with a blank are the same: the
two queries are both valid or both not, have the same identifier and the same number of errors, and
test an element with the same result, but that each refuses it for its own reason if it is not
valid. -/
theorem query_of_negations (solid : Outline.Solid s.toList) :
    (e.query ("-" ++ s)).isValid = (e.query ("not " ++ s)).isValid ∧
      (e.query ("-" ++ s)).identifier? = (e.query ("not " ++ s)).identifier? ∧
      (e.query ("-" ++ s)).errors.length = (e.query ("not " ++ s)).errors.length ∧
      ∀ x, (e.query ("-" ++ s)).test x = (e.query ("not " ++ s)).test x ∨
        ∃ reason reason', (e.query ("-" ++ s)).test x = .error (.invalidQuery reason) ∧
          (e.query ("not " ++ s)).test x = .error (.invalidQuery reason') := by
  have alike := e.alike_readings solid
  have errors : (e.query ("-" ++ s)).errors.length = (e.query ("not " ++ s)).errors.length := by
    rw [errors_query, errors_query]
    exact alike.errors.length_eq
  have trees : (e.query ("-" ++ s)).tree?.map (Tree.formula fun s a => (s.source, a.unplaced)) =
      (e.query ("not " ++ s)).tree?.map (Tree.formula fun s a => (s.source, a.unplaced)) := by
    have results : Option.Rel _ (e.reading ("-" ++ s)).result? (e.reading ("not " ++ s)).result? :=
      alike.result
    rw [query, query]
    generalize (e.reading ("-" ++ s)).result? = result, (e.reading ("not " ++ s)).result? = result'
      at results
    cases results with
    | none => rfl
    | some trees =>
      cases trees with
      | none => rfl
      | some trees => exact Tree.formula_prune_congr (Tree.formula_of_alike trees)
  exact ⟨Query.isValid_of_same trees errors, Query.identifier?_of_same trees, errors,
    Query.test_of_same trees errors rfl rfl⟩

/-- A group behind a dash that an operand is missing in, and behind the word. -/
theorem query_of_negated_group :
    Outline.Solid "(red or) age:18".toList ∧
      (flags.query "-(red or) age:18").isValid = false ∧
      (flags.query "not (red or) age:18").isValid = false ∧
      (flags.query "-(red or) age:18").errors.map QueryError.index = [6] ∧
      (flags.query "not (red or) age:18").errors.map QueryError.index = [9] ∧
      (flags.query "not (red or) age:18").identifier? = some "(not red and age:18)" := by
  have solid : Outline.Solid "(red or) age:18".toList := ⟨_, _, rfl, rfl⟩
  obtain ⟨valid, identifier, errors, _⟩ := query_of_negations flags solid
  have invalid : (flags.query "-(red or) age:18").isValid = false := by decide +kernel
  have dash : (flags.query "-(red or) age:18").errors.map QueryError.index = [6] := by
    rw [errors_query]
    decide +kernel
  have word : (flags.query "not (red or) age:18").errors.map QueryError.index = [9] := by
    rw [errors_query]
    decide +kernel
  have text : (flags.query "-(red or) age:18").identifier? = some "(not red and age:18)" := by
    decide +kernel
  exact ⟨solid, invalid, valid.symm.trans invalid, dash, word, identifier.symm.trans text⟩

end Engine

end Sift
