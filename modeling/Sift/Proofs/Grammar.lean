import Sift.Proofs.Combining

/-!
# The grammar of rows

Rows without an error are those of a grammar in which `not` binds tighter than `and`, and `and`
tighter than `or` (`Level`). Each pass replaces the pieces of one kind of row by their trees
(`Reduced`): `not` the unary pieces, and each connective the chains of operands. Put one after the
other they read the grammar from the inside out (`disjunction_iff_reduced`). The `and`s that are not
written are in the way of that, so a cut at an inserted `and` is traced back to the row as it is
written (`cut_of_insertAnd`).
-/

namespace Sift.Item

variable {α : Type}

/-- Which rows are read as which trees. -/
abbrev Reading (α : Type) := List (Item α) → Tree α → Prop

/-- A row of one term. -/
inductive Operand : Reading α where
  | term (t : Tree α) :
    Operand [term t] t

/-- `unary := "not" unary | operand`. -/
inductive Unary : Reading α where
  | operand (t : Tree α) :
    Unary [term t] t
  | not {row t} (s : Site) :
    Unary row t →
    Unary (combinator .not s :: row) (.not s t)

/-- `chain := piece (c piece)*`, where the tree leans to the left. -/
inductive Chain (c : Connective) (R : Reading α) : Reading α where
  | piece {row t} :
    R row t →
    Chain c R row t
  | join {row rest l r} (s : Site) :
    Chain c R row l →
    R rest r →
    Chain c R (row ++ combinator (.join c) s :: rest) (.join c s l r)

/-- `and := unary (["and"] unary)*`, where the tree leans to the left. An `and` that is not written
stands in the gap between its neighbours. -/
inductive Conjunction : Reading α where
  | unary {row t} :
    Unary row t →
    Conjunction row t
  | written {row rest l r} (s : Site) :
    Conjunction row l →
    Unary rest r →
    Conjunction (row ++ combinator (.join .and) s :: rest) (.join .and s l r)
  | implied {row x y rest l r} :
    Conjunction (row ++ [x]) l →
    Unary (y :: rest) r →
    Conjunction (row ++ x :: y :: rest) (.join .and (.gap x.site y.site) l r)

/-- `or := and ("or" and)*`, where the tree leans to the left. -/
abbrev Disjunction : Reading α := Chain .or Conjunction

/-- `level := ε | or`; the empty level has no tree. -/
inductive Level : List (Item α) → Option (Tree α) → Prop where
  | empty :
    Level [] none
  | terms {row t} :
    Disjunction row t →
    Level row (some t)

/-- The second row is the first with every piece that `R` reads replaced by its tree. All
combinators but `k` may stand between the pieces. -/
inductive Reduced (k : Combinator) (R : Reading α) : List (Item α) → List (Item α) → Prop where
  | nil :
    Reduced k R [] []
  | keep {d row row'} (s : Site) :
    d ≠ k →
    Reduced k R row row' →
    Reduced k R (combinator d s :: row) (combinator d s :: row')
  | piece {row t rest rest'} :
    R row t →
    Reduced k R rest rest' →
    Reduced k R (row ++ rest) (term t :: rest')

/-- What a pass has at its left, and the row that it comes from. -/
inductive Pending (c : Connective) : Option (Item α) → List (Item α) → Prop where
  | none :
    Pending c none []
  | combinator {k} (s : Site) :
    k ≠ .join c →
    Pending c (some (combinator k s)) [combinator k s]
  | chain {row t} :
    Chain c Operand row t →
    Pending c (some (term t)) row

variable {R S S' : Reading α} {k : Combinator} {c : Connective}

/-- Two rows are reduced side by side. -/
lemma Reduced.append {row1 row2 row1' row2'} (red1 : Reduced k R row1 row1')
    (red2 : Reduced k R row2 row2') : Reduced k R (row1 ++ row2) (row1' ++ row2') := by
  induction red1 with
  | nil => exact red2
  | keep s ne _ ih => exact .keep s ne ih
  | piece r _ ih =>
    rw [List.append_assoc]
    exact .piece r ih

/-- A combinator that is left over stands in the row itself. -/
lemma Reduced.split {d s row left right}
    (red : Reduced k R row (left ++ combinator d s :: right)) :
    ∃ row1 row2, row = row1 ++ combinator d s :: row2 ∧
      Reduced k R row1 left ∧ Reduced k R row2 right := by
  induction left generalizing row with
  | nil =>
    cases red with
    | keep _ _ red => exact ⟨[], _, rfl, .nil, red⟩
  | cons x left ih =>
    cases red with
    | keep s' ne red =>
      obtain ⟨row1, row2, rfl, red1, red2⟩ := ih red
      exact ⟨_ :: row1, row2, rfl, .keep s' ne red1, red2⟩
    | @piece piece _ _ _ r red =>
      obtain ⟨row1, row2, rfl, red1, red2⟩ := ih red
      exact ⟨piece ++ row1, row2, by simp, .piece r red1, red2⟩

/-- A row is reduced to one term if it is an operand that gives the term. -/
lemma Reduced.single {row t} : Reduced k R row [term t] ↔ R row t := by
  constructor
  · intro red
    cases red with
    | piece r red =>
      cases red
      rwa [List.append_nil]
  · intro r
    rw [← List.append_nil row]
    exact .piece r .nil

/-- Only a row without items is reduced to none. -/
lemma Reduced.eq_nil {row row' : List (Item α)} (red : Reduced k R row row') (h : row' = []) :
    row = [] := by
  cases red with
  | nil => rfl
  | keep => cases h
  | piece => cases h

/-- A piece of one term is read through its tree. -/
lemma operand_iff {row t} : R row t ↔ ∃ mid, Reduced k R row mid ∧ Operand mid t := by
  constructor
  · intro r
    exact ⟨_, Reduced.single.2 r, .term t⟩
  · rintro ⟨_, red, ⟨⟩⟩
    exact Reduced.single.1 red

/-- A chain is read by reading its pieces first. -/
lemma Chain.iff_reduced {row t} (ne : .join c ≠ k)
    (pieces : ∀ {row t}, S' row t ↔ ∃ mid, Reduced k R row mid ∧ S mid t) :
    Chain c S' row t ↔ ∃ mid, Reduced k R row mid ∧ Chain c S mid t := by
  constructor
  · intro ch
    induction ch with
    | piece p =>
      obtain ⟨mid, red, p⟩ := pieces.1 p
      exact ⟨mid, red, .piece p⟩
    | join s _ p ih =>
      obtain ⟨mid1, red1, ch⟩ := ih
      obtain ⟨mid2, red2, p⟩ := pieces.1 p
      exact ⟨_, red1.append (.keep s ne red2), .join s ch p⟩
  · rintro ⟨mid, red, ch⟩
    induction ch generalizing row with
    | piece p => exact .piece (pieces.2 ⟨_, red, p⟩)
    | join s _ p ih =>
      obtain ⟨row1, row2, rfl, red1, red2⟩ := red.split
      exact .join s (ih red1) (pieces.2 ⟨_, red2, p⟩)

/-- `not` takes the operand behind it, whatever follows. -/
lemma applyNot_unary {row t} (u : Unary row t) (rest : List (Item α)) :
    applyNot (row ++ rest) = ((applyNot rest).1, term t :: (applyNot rest).2) := by
  induction u with
  | operand t => rfl
  | not s u ih =>
    rw [List.cons_append, applyNot, ih]

/-- The rows that lose their `not`s without an error are those of unary pieces. -/
lemma applyNot_eq_nil_iff {row row' : List (Item α)} :
    applyNot row = ([], row') ↔ Reduced .not Unary row row' := by
  constructor
  · intro h
    fun_induction applyNot row generalizing row' with
    | case1 =>
      cases h
      exact .nil
    | case2 s rest errors t rest' e ih =>
      cases h
      cases ih e with
      | piece u red => exact .piece (.not s u) red
    | case3 => simp at h
    | case4 x rest notNot errors rest' e ih =>
      cases h
      cases x with
      | combinator k s =>
        cases k with
        | not => exact absurd rfl (notNot s)
        | join c => exact .keep s (by simp) (ih e)
      | term t => exact .piece (.operand t) (ih e)
  · intro red
    induction red with
    | nil => rfl
    | @keep d row row' s ne red ih =>
      cases d with
      | not => exact absurd rfl ne
      | join c => simp [applyNot, ih]
    | piece u red ih => rw [applyNot_unary u, ih]

/-- What is pending goes in front of what is reduced. -/
lemma Pending.reduced {left : Option (Item α)} {row rest rest' : List (Item α)}
    (p : Pending c left row)
    (red : Reduced (.join c) (Chain c Operand) rest rest') :
    Reduced (.join c) (Chain c Operand) (row ++ rest) (left.toList ++ rest') := by
  cases p with
  | none => exact red
  | combinator s ne => exact .keep s ne red
  | chain ch => exact .piece ch red

/-- A pass without an error takes chains of operands, of which the last may have begun at its left. -/
lemma Pending.reduced_of_applyJoin {left : Option (Item α)} {row rest rest' : List (Item α)}
    (p : Pending c left row) (h : applyJoin c left rest = ([], rest')) :
    Reduced (.join c) (Chain c Operand) (row ++ rest) rest' := by
  fun_induction applyJoin c left rest generalizing row rest' with
  | case1 left =>
    cases h
    rw [← List.append_nil left.toList]
    exact p.reduced .nil
  | case2 s l r rest ih =>
    cases p with
    | chain ch =>
      -- the chain at the left grows by one operand
      have red := ih (.chain (.join s ch (.term r))) h
      rwa [List.append_assoc] at red
  | case3 => simp at h
  | case4 left d s rest ne errors rest' e ih =>
    cases h
    exact p.reduced (ih (.combinator s (by simpa using ne)) e)
  | case5 left x rest other errors rest' e ih =>
    cases h
    cases x with
    | combinator k s =>
      cases k with
      | not => exact p.reduced (ih (.combinator s (by simp)) e)
      | join d => exact absurd rfl (other d s)
    | term t => exact p.reduced (ih (.chain (.piece (.term t))) e)

/-- A pass takes a chain of operands as a whole, whatever follows. -/
lemma applyJoin_chain {row t} (ch : Chain c Operand row t) (left : Option (Item α))
    (rest : List (Item α)) :
    applyJoin c left (row ++ rest) =
      ((applyJoin c (some (term t)) rest).1,
        left.toList ++ (applyJoin c (some (term t)) rest).2) := by
  induction ch generalizing rest with
  | piece p =>
    cases p
    rfl
  | join s _ p ih =>
    cases p
    rw [List.append_assoc, ih]
    simp [applyJoin]

/-- The rows that lose their `c`s without an error are those of chains of operands. -/
lemma applyJoin_eq_nil_iff {row row' : List (Item α)} :
    applyJoin c none row = ([], row') ↔ Reduced (.join c) (Chain c Operand) row row' := by
  constructor
  · exact fun h => Pending.none.reduced_of_applyJoin h
  · intro red
    -- an item that is kept becomes the left of what follows, so the induction is for every left
    have pass (left : Option (Item α)) : applyJoin c left row = ([], left.toList ++ row') := by
      induction red generalizing left with
      | nil => simp [applyJoin]
      | keep s ne red ih =>
        rw [applyJoin_combinator ne, ih]
        rfl
      | piece ch red ih => simp [applyJoin_chain ch, ih]
    exact pass none

/-- The `and` that is inserted between an item and the row behind it, if there is one. -/
def joint (x : Item α) : List (Item α) → List (Item α)
  | [] => []
  | y :: _ =>
    if x.isTerm && !y.isConnective then [combinator (.join .and) (.gap x.site y.site)] else []

/-- An `and` may be inserted behind an item, and the rest of the row is treated by itself. -/
lemma insertAnd_cons (x : Item α) (row : List (Item α)) :
    insertAnd (x :: row) = x :: (joint x row ++ insertAnd row) := by
  match row with
  | [] => rfl
  | y :: rest =>
    rw [insertAnd, joint]
    split <;> rfl

/-- Nothing is inserted behind a combinator. -/
lemma joint_combinator (s : Site) (row : List (Item α)) : joint (combinator k s) row = [] := by
  match row with
  | [] => rfl
  | _ :: _ => rfl

/-- Nothing is inserted in front of a connective. -/
lemma joint_append_connective (x : Item α) (row : List (Item α)) (s : Site)
    (rest : List (Item α)) : joint x (row ++ combinator (.join c) s :: rest) = joint x row := by
  match row with
  | [] => simp [joint, isConnective]
  | _ :: _ => rfl

/-- What is inserted in front of a row has to do with its first item only. -/
lemma joint_append_cons (x : Item α) (row : List (Item α)) (y : Item α) (rest : List (Item α)) :
    joint x (row ++ y :: rest) = joint x (row ++ [y]) := by
  match row with
  | [] => rfl
  | _ :: _ => rfl

/-- Nothing is inserted in front of a connective, so both sides are treated by themselves. -/
lemma insertAnd_append_connective (row : List (Item α)) (s : Site) (rest : List (Item α)) :
    insertAnd (row ++ combinator (.join c) s :: rest) =
      insertAnd row ++ combinator (.join c) s :: insertAnd rest := by
  induction row with
  | nil => rw [List.nil_append, insertAnd_cons, joint_combinator]; rfl
  | cons x row ih =>
    rw [List.cons_append, insertAnd_cons, joint_append_connective, ih, insertAnd_cons]
    simp

/-- Two neighbours split a row: what is inserted depends on each side and on the two. -/
lemma insertAnd_append_cons (row : List (Item α)) (x y : Item α) (rest : List (Item α)) :
    insertAnd (row ++ x :: y :: rest) =
      insertAnd (row ++ [x]) ++ joint x (y :: rest) ++ insertAnd (y :: rest) := by
  induction row with
  | nil => rw [List.nil_append, insertAnd_cons]; rfl
  | cons z row ih =>
    rw [List.cons_append, insertAnd_cons, joint_append_cons, ih, List.cons_append,
      insertAnd_cons z (row ++ [x])]
    simp only [List.cons_append, List.append_assoc]

/-- Where a connective in the row with its `and`s comes from, and the rows at its sides: it has been
written, or nothing has. -/
inductive Cut : Connective → Site → List (Item α) → List (Item α) → List (Item α) → Prop where
  | written {d : Connective} (row1 : List (Item α)) (s : Site) (row2 : List (Item α)) :
    Cut d s (row1 ++ combinator (.join d) s :: row2) (insertAnd row1) (insertAnd row2)
  | implied (row1 : List (Item α)) (x y : Item α) (row2 : List (Item α)) :
    Cut .and (.gap x.site y.site) (row1 ++ x :: y :: row2) (insertAnd (row1 ++ [x]))
      (insertAnd (y :: row2))

/-- A cut in the rest of a row is a cut of the row. -/
lemma Cut.cons {s : Site} {row left right : List (Item α)} (cut : Cut c s row left right)
    (x : Item α) : Cut c s (x :: row) (x :: (joint x row ++ left)) right := by
  cases cut with
  | written row1 s row2 =>
    rw [joint_append_connective, ← insertAnd_cons]
    exact .written (x :: row1) s row2
  | implied row1 z y row2 =>
    rw [joint_append_cons, ← insertAnd_cons]
    exact .implied (x :: row1) z y row2

/-- Nothing is inserted, or the `and` between the item and the next. -/
lemma joint_cases (x : Item α) (row : List (Item α)) :
    joint x row = [] ∨ ∃ y rest, row = y :: rest ∧
      joint x row = [combinator (.join .and) (.gap x.site y.site)] := by
  match row with
  | [] => exact .inl rfl
  | y :: rest =>
    rw [joint]
    split
    · exact .inr ⟨y, rest, rfl, rfl⟩
    · exact .inl rfl

/-- Every connective in the row with its `and`s comes from the row as it is written. -/
lemma cut_of_insertAnd {row left right : List (Item α)} {s : Site}
    (h : insertAnd row = left ++ combinator (.join c) s :: right) : Cut c s row left right := by
  induction row generalizing left with
  | nil => simp [insertAnd] at h
  | cons x row ih =>
    rw [insertAnd_cons] at h
    match left with
    | [] =>
      obtain ⟨rfl, tail⟩ := List.cons.inj h
      rw [joint_combinator, List.nil_append] at tail
      exact tail ▸ .written [] s row
    | z :: left =>
      obtain ⟨rfl, tail⟩ := List.cons.inj h
      have later {left'} (e : left = joint x row ++ left')
          (h : insertAnd row = left' ++ combinator (.join c) s :: right) :
          Cut c s (x :: row) (x :: left) right := e ▸ (ih h).cons x
      -- with an inserted `and` behind `x`, the cut is at it or further right
      rcases joint_cases x row with e | ⟨y, rest, rfl, e⟩
      · rw [e] at tail later
        exact later rfl tail
      · rw [e] at tail later
        match left with
        | [] =>
          obtain ⟨new, rfl⟩ := List.cons.inj tail
          cases new
          exact .implied [] x y rest
        | z :: left =>
          obtain ⟨new, tail⟩ := List.cons.inj tail
          exact later (by rw [← new]; rfl) tail

/-- Nothing is inserted into the row of a unary piece. -/
lemma Unary.insertAnd_eq {row : List (Item α)} {t} (u : Unary row t) :
    insertAnd row = row := by
  induction u with
  | operand => rfl
  | not s u ih => rw [insertAnd_cons, joint_combinator, ih]; rfl

/-- A unary piece has nothing inserted into it. -/
lemma Unary.of_insertAnd {row : List (Item α)} {t} (u : Unary (insertAnd row) t) : Unary row t := by
  generalize e : insertAnd row = row' at u
  induction u generalizing row with
  | operand t =>
    match row with
    | [] => cases e
    | [x] => cases e; exact .operand t
    | x :: y :: rest =>
      rw [insertAnd_cons, insertAnd_cons] at e
      simp at e
  | not s u ih =>
    match row with
    | [] => cases e
    | x :: row =>
      rw [insertAnd_cons] at e
      obtain ⟨rfl, e⟩ := List.cons.inj e
      rw [joint_combinator] at e
      exact .not s (ih e)

/-- A unary piece begins with no connective. -/
lemma Unary.isConnective_head {x : Item α} {row : List (Item α)} {t} (u : Unary (x :: row) t) :
    x.isConnective = false := by
  cases u <;> rfl

/-- A unary piece ends with a term. -/
lemma Unary.exists_term {row : List (Item α)} {t} (u : Unary row t) :
    ∃ row' t', row = row' ++ [term t'] := by
  induction u with
  | operand t => exact ⟨[], t, rfl⟩
  | not s _ ih =>
    obtain ⟨row', t', rfl⟩ := ih
    exact ⟨_ :: row', t', rfl⟩

/-- A conjunction ends in a term. -/
lemma Conjunction.exists_term {row : List (Item α)} {t} (cj : Conjunction row t) :
    ∃ row' t', row = row' ++ [term t'] := by
  cases cj with
  | unary u => exact u.exists_term
  | @written row _ _ _ s _ u =>
    obtain ⟨row', t', rfl⟩ := u.exists_term
    exact ⟨row ++ combinator (.join .and) s :: row', t', by simp⟩
  | @implied row x y rest _ _ _ u =>
    obtain ⟨row', t', e⟩ := u.exists_term
    exact ⟨row ++ x :: row', t', by rw [e]; simp⟩

/-- Two unary pieces with a connective between them are a level. -/
lemma Level.join {row rest : List (Item α)} {l r} (c : Connective) (s : Site) (left : Unary row l)
    (right : Unary rest r) :
    Level (row ++ combinator (.join c) s :: rest) (some (.join c s l r)) := by
  cases c with
  | and => exact .terms (.piece (.written s (.unary left) right))
  | or => exact .terms (.join s (.piece (.unary left)) (.unary right))

/-- Two unary pieces side by side are a level. -/
lemma Level.next {row rest : List (Item α)} {l r} (left : Unary row l) (right : Unary rest r) :
    ∃ s, Level (row ++ rest) (some (.join .and s l r)) := by
  obtain ⟨row', t, rfl⟩ := left.exists_term
  match rest with
  | [] => nomatch right
  | y :: rest =>
    rw [List.append_assoc]
    exact ⟨_, .terms (.piece (.implied (.unary left) right))⟩

/-- A conjunction is a chain of unary pieces once the `and`s are inserted. -/
lemma conjunction_iff {row : List (Item α)} {t : Tree α} :
    Conjunction row t ↔ Chain .and Unary (insertAnd row) t := by
  constructor
  · intro cj
    induction cj with
    | unary u => exact .piece (by rwa [u.insertAnd_eq])
    | written s _ u ih =>
      rw [insertAnd_append_connective, u.insertAnd_eq]
      exact .join s ih u
    | @implied row x y rest l r cj u ih =>
      obtain ⟨row', t', e⟩ := cj.exists_term
      obtain ⟨rfl, rfl⟩ : row = row' ∧ x = term t' := by simpa using List.append_inj' e rfl
      have new : joint (term t') (y :: rest) =
          [combinator (.join .and) (.gap t'.site y.site)] := by
        simp [joint, isTerm, u.isConnective_head, site]
      rw [insertAnd_append_cons, new, u.insertAnd_eq, List.append_assoc]
      exact .join _ ih u
  · intro ch
    generalize e : insertAnd row = row' at ch
    induction ch generalizing row with
    | piece u => exact .unary (e ▸ u).of_insertAnd
    | join s _ u ih =>
      -- the last `and` of the chain has been written, or stands between two neighbours
      cases cut_of_insertAnd e with
      | written row1 s row2 => exact .written s (ih rfl) u.of_insertAnd
      | implied row1 x y row2 => exact .implied (ih rfl) u.of_insertAnd

/-- A disjunction is a chain of `or`s over chains of `and`s, with the `and`s inserted. -/
lemma disjunction_iff {row : List (Item α)} {t : Tree α} :
    Disjunction row t ↔ Chain .or (Chain .and Unary) (insertAnd row) t := by
  constructor
  · intro dj
    induction dj with
    | piece cj => exact .piece (conjunction_iff.1 cj)
    | join s _ cj ih =>
      rw [insertAnd_append_connective]
      exact .join s ih (conjunction_iff.1 cj)
  · intro ch
    generalize e : insertAnd row = row' at ch
    induction ch generalizing row with
    | piece cj => exact .piece (conjunction_iff.2 (e ▸ cj))
    | join s _ cj ih =>
      cases cut_of_insertAnd e with
      | written row1 s row2 => exact .join s (ih rfl) (conjunction_iff.2 cj)

/-- The three passes undo the grammar from the inside out. -/
lemma disjunction_iff_reduced {row : List (Item α)} {t : Tree α} :
    Disjunction row t ↔ ∃ row1 row2, Reduced .not Unary (insertAnd row) row1 ∧
      Reduced (.join .and) (Chain .and Operand) row1 row2 ∧
      Reduced (.join .or) (Chain .or Operand) row2 [term t] := by
  have nots {row : List (Item α)} {t} : Chain .or (Chain .and Unary) row t ↔
      ∃ mid, Reduced .not Unary row mid ∧ Chain .or (Chain .and Operand) mid t :=
    Chain.iff_reduced (by simp) (Chain.iff_reduced (by simp) operand_iff)
  have ands {row : List (Item α)} {t} : Chain .or (Chain .and Operand) row t ↔
      ∃ mid, Reduced (.join .and) (Chain .and Operand) row mid ∧ Chain .or Operand mid t :=
    Chain.iff_reduced (by simp) operand_iff
  simp only [disjunction_iff, nots, ands, Reduced.single]
  constructor
  · rintro ⟨row1, red1, row2, red2, ch⟩
    exact ⟨row1, row2, red1, red2, ch⟩
  · rintro ⟨row1, row2, red1, red2, ch⟩
    exact ⟨row1, red1, row2, red2, ch⟩

/-- A row comes together without an error as nothing else than the grammar says. -/
lemma combine_iff_level {row : List (Item α)} {tree? : Option (Tree α)} :
    combine row = ([], some tree?) ↔ Level row tree? := by
  rw [combine_eq_nil_iff]
  constructor
  · rintro ⟨errors, left⟩
    simp only [passErrors, List.append_eq_nil_iff] at errors
    have red1 := applyNot_eq_nil_iff.1 (Prod.ext errors.1.1 rfl)
    have red2 := applyJoin_eq_nil_iff.1 (Prod.ext errors.1.2 rfl)
    have red3 := applyJoin_eq_nil_iff.1 (Prod.ext errors.2 left)
    cases tree? with
    | some t => exact .terms (disjunction_iff_reduced.2 ⟨_, _, red1, red2, red3⟩)
    | none =>
      have empty := red1.eq_nil (red2.eq_nil (red3.eq_nil rfl))
      cases row with
      | nil => exact .empty
      | cons x row =>
        rw [insertAnd_cons] at empty
        cases empty
  · rintro (⟨⟩ | dj)
    · exact ⟨rfl, rfl⟩
    · obtain ⟨row1, row2, red1, red2, red3⟩ := disjunction_iff_reduced.1 dj
      have pass1 := applyNot_eq_nil_iff.2 red1
      have pass2 := applyJoin_eq_nil_iff.2 red2
      have pass3 := applyJoin_eq_nil_iff.2 red3
      simp [passErrors, combinedRow, pass1, pass2, pass3]

/-- A level is read without an error if and only if the grammar derives it, and then as the tree of
its derivation. -/
theorem combine_accepts_grammar (row : List (Item α)) :
    ((combine row).1 = [] ↔ ∃ tree?, Level row tree?) ∧
      ∀ tree?, Level row tree? ↔ combine row = ([], some tree?) := by
  refine ⟨?_, fun tree? => combine_iff_level.symm⟩
  obtain ⟨tree?, _, e⟩ := combine_eq row
  constructor
  · intro h
    exact ⟨tree?, combine_iff_level.1 (Prod.ext h (by rw [e]))⟩
  · rintro ⟨tree?, level⟩
    rw [combine_iff_level.2 level]

end Sift.Item
