import Mathlib.Data.List.Chain
import Sift.Query.Combine

/-!
# Combining rows

What the three passes over a row keep, whether or not they find errors. No pass makes two terms
neighbours (`Apart`), each removes the combinators that it is for, and all leave the leaves of the
terms in their order. So every row comes together: `combine_eq` says that a row ends as no term or
as one, and `leaves_of_combine` that it has the leaves of the row.
-/

namespace Sift.Item

variable {α : Type} {c : Connective} {k : Combinator} {left : Option (Item α)}
  {row rest : List (Item α)}

/-- The leaves of a term; a combinator has none. -/
def leaves : Item α → List (Site × α)
  | combinator _ _ => []
  | term t => t.leaves

/-- There are no leaves in a combinator. -/
@[simp] theorem leaves_combinator (s : Site) : (combinator k s : Item α).leaves = [] := rfl

/-- The leaves of a term are those of its tree. -/
@[simp] theorem leaves_term (t : Tree α) : (term t).leaves = t.leaves := rfl

/-- No two terms are neighbours. -/
def Apart (row : List (Item α)) : Prop :=
  row.IsChain fun x y => x.isTerm = true → y.isTerm = false

/-- What follows a term is a connective. -/
def Spaced (row : List (Item α)) : Prop :=
  row.IsChain fun x y => x.isTerm = true → y.isConnective = true

/-- A connective is no term. -/
lemma isTerm_of_isConnective {x : Item α} (h : x.isConnective = true) : x.isTerm = false := by
  match x with
  | combinator _ _ => rfl

/-- Where a connective follows every term, no term does. -/
lemma Spaced.apart (sp : Spaced row) : Apart row :=
  sp.imp fun _ _ h t => isTerm_of_isConnective (h t)

/-- The row that the `and`s are inserted in begins as before. -/
lemma head?_insertAnd (row : List (Item α)) : (insertAnd row).head? = row.head? := by
  fun_induction insertAnd row <;> rfl

/-- With the `and`s inserted, a connective follows every term that is not the last item. -/
lemma spaced_insertAnd (row : List (Item α)) : Spaced (insertAnd row) := by
  fun_induction insertAnd row with
  | case1 x y rest _ ih =>
    refine List.isChain_cons.2 ⟨by simp [isConnective], ?_⟩
    exact List.isChain_cons.2 ⟨by simp [isTerm], ih⟩
  | case2 x y rest h ih =>
    refine List.isChain_cons.2 ⟨?_, ih⟩
    intro z hz t
    rw [head?_insertAnd, List.head?_cons, Option.mem_some_iff] at hz
    subst hz
    simpa [t] using h
  | case3 row h =>
    match row with
    | [] => exact .nil
    | [x] => exact .singleton x
    | x :: y :: rest => exact (h x y rest rfl).elim

/-- A row that begins with a connective still does when the `not`s are gone. -/
lemma head?_applyNot (h : ∀ y ∈ row.head?, y.isConnective = true) :
    ∀ y ∈ (applyNot row).2.head?, y.isConnective = true := by
  match row with
  | [] => simp [applyNot]
  | combinator .not s :: rest => simp [isConnective] at h
  | combinator (.join c) s :: rest => simp [applyNot, isConnective]
  | term t :: rest => simp [isConnective] at h

/-- Taking operands for `not` leaves a connective behind every term. -/
lemma Spaced.applyNot (sp : Spaced row) : Spaced (applyNot row).2 := by
  fun_induction Item.applyNot row with
  | case1 => exact .nil
  | case2 s rest errors t rest' e ih =>
    rw [e] at ih
    have ⟨h, sp⟩ := List.isChain_cons.1 (ih (List.isChain_cons.1 sp).2)
    exact List.isChain_cons.2 ⟨fun y hy _ => h y hy rfl, sp⟩
  | case3 s rest errors rest' _ e ih =>
    rw [e] at ih
    exact ih (List.isChain_cons.1 sp).2
  | case4 x rest _ errors rest' e ih =>
    rw [e] at ih
    have ⟨h, sp⟩ := List.isChain_cons.1 sp
    refine List.isChain_cons.2 ⟨?_, ih sp⟩
    intro y hy t
    have first := head?_applyNot fun y hy => h y hy t
    rw [e] at first
    exact first y hy

/-- What a pass has at its left stays a term or a combinator, and in front. -/
lemma head?_applyJoin (x : Item α) (row : List (Item α)) :
    (applyJoin c (some x) row).2.head?.map isTerm = some x.isTerm := by
  generalize h : some x = left
  fun_induction Item.applyJoin c left row generalizing x with
  | case1 => simp [← h]
  | case2 s l r rest ih =>
    rw [ih _ rfl, Option.some_inj.1 h]
    rfl
  | case3 s left rest _ errors rest' e ih =>
    rw [e] at ih
    exact ih x h
  | case4 => simp [← h]
  | case5 => simp [← h]

/-- An item that no operand is taken from goes behind what stands at the left. -/
lemma Apart.push {x : Item α} (ap : Apart (left.toList ++ x :: rest))
    (ap' : Apart (applyJoin c (some x) rest).2) :
    Apart (left.toList ++ (applyJoin c (some x) rest).2) := by
  match left with
  | none => exact ap'
  | some y =>
    refine List.isChain_cons.2 ⟨?_, ap'⟩
    intro z hz t
    change z ∈ (applyJoin c (some x) rest).2.head? at hz
    have h := head?_applyJoin (c := c) x rest
    rw [Option.mem_def.1 hz, Option.map_some, Option.some_inj] at h
    rw [h]
    exact (List.isChain_cons.1 ap).1 x rfl t

/-- Taking operands for a connective makes no two terms neighbours. -/
lemma Apart.applyJoin (ap : Apart (left.toList ++ row)) : Apart (applyJoin c left row).2 := by
  fun_induction Item.applyJoin c left row with
  | case1 left => simpa using ap
  | case2 s l r rest ih =>
    apply ih
    -- the new term stands where its left side stood, in front of what followed its right side
    have ap := (List.isChain_cons.1 (List.isChain_cons.1 ap).2).2
    exact List.isChain_cons.2 ⟨fun y hy _ => (List.isChain_cons.1 ap).1 y hy rfl,
      (List.isChain_cons.1 ap).2⟩
  | case3 s left rest missing errors rest' e ih =>
    rw [e] at ih
    apply ih
    cases left with
    | none => exact (List.isChain_cons.1 ap).2
    | some x =>
      have ap := (List.isChain_cons.1 (List.isChain_cons.1 ap).2).2
      refine List.isChain_cons.2 ⟨?_, ap⟩
      -- the combinator that goes had no term at one of its sides
      intro y hy t
      cases x with
      | combinator => cases t
      | term l =>
        cases y with
        | combinator => rfl
        | term r =>
          obtain ⟨rest, rfl⟩ := List.head?_eq_some_iff.1 hy
          exact (missing l r rest rfl rfl).elim
  | case4 left d s rest _ errors rest' e ih =>
    have ap' := ap.push (ih (List.isChain_append.1 ap).2.1)
    rwa [e] at ap'
  | case5 left x rest _ errors rest' e ih =>
    have ap' := ap.push (ih (List.isChain_append.1 ap).2.1)
    rwa [e] at ap'

/-- The pass of `c` goes past every other combinator. -/
lemma applyJoin_combinator {s : Site} (ne : k ≠ .join c) :
    applyJoin c left (combinator k s :: row) =
      ((applyJoin c (some (combinator k s)) row).1,
        left.toList ++ (applyJoin c (some (combinator k s)) row).2) := by
  match k with
  | .not => rw [applyJoin.eq_def]
  | .join d =>
    have ne : d ≠ c := by simpa using ne
    rw [applyJoin.eq_def]
    simp only [if_neg ne]

/-- The combinators that are left by the first pass are no `not`s. -/
lemma mem_applyNot {s : Site} (h : combinator k s ∈ (applyNot row).2) :
    k ≠ .not ∧ combinator k s ∈ row := by
  fun_induction applyNot row with
  | case1 => cases h
  | case2 s' rest errors t rest' e ih =>
    rw [e] at ih
    have ⟨ne, mem⟩ := ih (by simpa using h)
    exact ⟨ne, by simp [mem]⟩
  | case3 s' rest errors rest' _ e ih =>
    rw [e] at ih
    have ⟨ne, mem⟩ := ih h
    exact ⟨ne, by simp [mem]⟩
  | case4 x rest notNot errors rest' e ih =>
    rcases List.mem_cons.1 h with rfl | h
    · exact ⟨fun hk => notNot s (by rw [hk]), by simp⟩
    · rw [e] at ih
      have ⟨ne, mem⟩ := ih h
      exact ⟨ne, by simp [mem]⟩

/-- The combinators that are left by the pass of `c` are no `c`s but the one at the left. -/
lemma mem_applyJoin {s : Site} (h : combinator k s ∈ (applyJoin c left row).2) :
    combinator k s ∈ left.toList ∨ k ≠ .join c ∧ combinator k s ∈ row := by
  fun_induction applyJoin c left row with
  | case1 left => exact .inl h
  | case2 s' l r rest ih =>
    rcases ih h with mem | ⟨ne, mem⟩
    · simp at mem
    · exact .inr ⟨ne, by simp [mem]⟩
  | case3 s' left rest _ errors rest' e ih =>
    rw [e] at ih
    rcases ih h with mem | ⟨ne, mem⟩
    · exact .inl mem
    · exact .inr ⟨ne, by simp [mem]⟩
  | case4 left d s' rest ne errors rest' e ih =>
    rw [e] at ih
    rcases List.mem_append.1 h with mem | mem
    · exact .inl mem
    · rcases ih mem with mem | ⟨ne, mem⟩
      · obtain ⟨rfl, rfl⟩ : k = .join d ∧ s = s' := by simpa using mem
        exact .inr ⟨by simpa using ne, by simp⟩
      · exact .inr ⟨ne, by simp [mem]⟩
  | case5 left x rest other errors rest' e ih =>
    rw [e] at ih
    rcases List.mem_append.1 h with mem | mem
    · exact .inl mem
    · rcases ih mem with mem | ⟨ne, mem⟩
      · obtain rfl : combinator k s = x := by simpa using mem
        exact .inr ⟨fun hk => other c s (by rw [hk]), by simp⟩
      · exact .inr ⟨ne, by simp [mem]⟩

/-- The `and`s that are inserted have no leaves. -/
lemma leaves_insertAnd (row : List (Item α)) :
    (insertAnd row).flatMap leaves = row.flatMap leaves := by
  fun_induction insertAnd row with
  | case1 x y rest _ ih => simpa using ih
  | case2 x y rest _ ih => simpa using ih
  | case3 => rfl

/-- The pass of `not` keeps the leaves in order. -/
lemma leaves_applyNot (row : List (Item α)) :
    (applyNot row).2.flatMap leaves = row.flatMap leaves := by
  fun_induction applyNot row with
  | case1 => rfl
  | case2 s rest errors t rest' e ih =>
    rw [e] at ih
    simpa [Tree.leaves] using ih
  | case3 s rest errors rest' _ e ih =>
    rw [e] at ih
    simpa using ih
  | case4 x rest _ errors rest' e ih =>
    rw [e] at ih
    simpa using ih

/-- The pass of a connective keeps the leaves in order. -/
lemma leaves_applyJoin (c : Connective) (left : Option (Item α)) (row : List (Item α)) :
    (applyJoin c left row).2.flatMap leaves = (left.toList ++ row).flatMap leaves := by
  fun_induction applyJoin c left row with
  | case1 => simp
  | case2 s l r rest ih => simpa [Tree.leaves] using ih
  | case3 s left rest _ errors rest' e ih =>
    rw [e] at ih
    simpa using ih
  | case4 left d s rest _ errors rest' e ih =>
    rw [e] at ih
    simpa using ih
  | case5 left x rest _ errors rest' e ih =>
    rw [e] at ih
    simpa using ih

/-- The errors of the first pass are about `not`s of the row. -/
lemma mem_errors_applyNot {error : QueryError} (h : error ∈ (applyNot row).1) :
    ∃ s, combinator .not s ∈ row ∧ error = missingOperand s := by
  fun_induction applyNot row with
  | case1 => cases h
  | case2 s rest errors t rest' e ih =>
    rw [e] at ih
    obtain ⟨s', mem, rfl⟩ := ih h
    exact ⟨s', by simp [mem], rfl⟩
  | case3 s rest errors rest' _ e ih =>
    rw [e] at ih
    rcases List.mem_append.1 h with h | h
    · obtain ⟨s', mem, rfl⟩ := ih h
      exact ⟨s', by simp [mem], rfl⟩
    · exact ⟨s, by simp, by simpa using h⟩
  | case4 x rest _ errors rest' e ih =>
    rw [e] at ih
    obtain ⟨s', mem, rfl⟩ := ih h
    exact ⟨s', by simp [mem], rfl⟩

/-- The errors of the pass of `c` are about `c`s of the row. -/
lemma mem_errors_applyJoin {error : QueryError} (h : error ∈ (applyJoin c left row).1) :
    ∃ s side, combinator (.join c) s ∈ row ∧ error = .on s.span (.missingSide side c) := by
  fun_induction applyJoin c left row with
  | case1 => cases h
  | case2 s l r rest ih =>
    obtain ⟨s', side, mem, rfl⟩ := ih h
    exact ⟨s', side, by simp [mem], rfl⟩
  | case3 s left rest _ errors rest' e ih =>
    rw [e] at ih
    rcases List.mem_cons.1 h with rfl | h
    · exact ⟨s, _, by simp, rfl⟩
    · obtain ⟨s', side, mem, rfl⟩ := ih h
      exact ⟨s', side, by simp [mem], rfl⟩
  | case4 left d s rest _ errors rest' e ih =>
    rw [e] at ih
    obtain ⟨s', side, mem, rfl⟩ := ih h
    exact ⟨s', side, by simp [mem], rfl⟩
  | case5 left x rest _ errors rest' e ih =>
    rw [e] at ih
    obtain ⟨s', side, mem, rfl⟩ := ih h
    exact ⟨s', side, by simp [mem], rfl⟩

/-- The row after all passes. -/
def combinedRow (row : List (Item α)) : List (Item α) :=
  (applyJoin .or none (applyJoin .and none (applyNot (insertAnd row)).2).2).2

/-- The errors of all passes. -/
def passErrors (row : List (Item α)) : List QueryError :=
  (applyNot (insertAnd row)).1 ++ (applyJoin .and none (applyNot (insertAnd row)).2).1 ++
    (applyJoin .or none (applyJoin .and none (applyNot (insertAnd row)).2).2).1

/-- When all passes are done no two terms are neighbours. -/
lemma apart_combinedRow (row : List (Item α)) : Apart (combinedRow row) := by
  have ap : Apart (applyNot (insertAnd row)).2 := (spaced_insertAnd row).applyNot.apart
  have ap : Apart (applyJoin .and none (applyNot (insertAnd row)).2).2 := Apart.applyJoin ap
  exact Apart.applyJoin ap

/-- Every combinator has been taken or left out. -/
lemma isTerm_of_mem_combinedRow {x : Item α} (h : x ∈ combinedRow row) : x.isTerm = true := by
  match x with
  | term _ => rfl
  | combinator k s =>
    rcases mem_applyJoin h with mem | ⟨neOr, mem⟩
    · cases mem
    rcases mem_applyJoin mem with mem | ⟨neAnd, mem⟩
    · cases mem
    have ⟨neNot, _⟩ := mem_applyNot mem
    match k with
    | .not => exact absurd rfl neNot
    | .join .and => exact absurd rfl neAnd
    | .join .or => exact absurd rfl neOr

/-- A row comes together as no term or as one. -/
lemma combinedRow_eq (row : List (Item α)) :
    ∃ tree? : Option (Tree α), combinedRow row = tree?.toList.map term := by
  have ap := apart_combinedRow row
  have terms {x : Item α} : x ∈ combinedRow row → x.isTerm = true := isTerm_of_mem_combinedRow
  match h : combinedRow row with
  | [] => exact ⟨none, rfl⟩
  | [combinator k s] => exact absurd (terms (h ▸ List.mem_cons_self)) (by simp [isTerm])
  | [term t] => exact ⟨some t, rfl⟩
  | x :: y :: rest =>
    rw [h] at ap terms
    have apart := (List.isChain_cons_cons.1 ap).1 (terms (by simp))
    simp [terms (x := y) (by simp)] at apart

/-- Combining always has a result: what the passes leave, with the errors that they find. -/
lemma combine_eq (row : List (Item α)) :
    ∃ tree? : Option (Tree α), combinedRow row = tree?.toList.map term ∧
      combine row = (passErrors row, some tree?) := by
  obtain ⟨tree?, h⟩ := combinedRow_eq row
  refine ⟨tree?, h, ?_⟩
  simp only [combinedRow] at h
  simp only [combine, passErrors, h]
  cases tree? with
  | none => rfl
  | some t => rfl

/-- A row comes together without errors if no pass finds one. -/
lemma combine_eq_nil_iff {tree? : Option (Tree α)} :
    combine row = ([], some tree?) ↔
      passErrors row = [] ∧ combinedRow row = tree?.toList.map term := by
  obtain ⟨tree?', left, e⟩ := combine_eq row
  rw [e, left, Prod.mk.injEq, Option.some.injEq]
  refine and_congr_right fun _ => ⟨fun h => by rw [h], fun h => ?_⟩
  match tree?, tree?' with
  | none, none => rfl
  | some _, some _ => cases h; rfl

/-- What can be wrong with a row: an operand is missing. -/
lemma mem_errors_combine {error : QueryError} (h : error ∈ (combine row).1) :
    (∃ s, error = missingOperand s) ∨
      ∃ c side, ∃ s : Site, error = .on s.span (.missingSide side c) := by
  obtain ⟨tree?, _, e⟩ := combine_eq row
  rw [e, passErrors, List.mem_append, List.mem_append] at h
  rcases h with (h | h) | h
  · obtain ⟨s, _, rfl⟩ := mem_errors_applyNot h
    exact .inl ⟨s, rfl⟩
  · obtain ⟨s, side, _, rfl⟩ := mem_errors_applyJoin h
    exact .inr ⟨.and, side, s, rfl⟩
  · obtain ⟨s, side, _, rfl⟩ := mem_errors_applyJoin h
    exact .inr ⟨.or, side, s, rfl⟩

/-- What an error of a row is about. -/
lemma cause_of_combine {error : QueryError} (h : error ∈ (combine row).1) :
    (∃ keyword, error.cause = .missingOperand keyword) ∨
      ∃ side c, error.cause = .missingSide side c := by
  rcases mem_errors_combine h with ⟨s, rfl⟩ | ⟨c, side, s, rfl⟩
  · exact .inl ⟨_, rfl⟩
  · exact .inr ⟨side, c, rfl⟩

/-- The result has the leaves of the row. -/
lemma leaves_of_combine {errors : List QueryError} {tree? : Option (Tree α)}
    (h : combine row = (errors, some tree?)) :
    tree?.toList.flatMap Tree.leaves = row.flatMap leaves := by
  obtain ⟨tree?', left, e⟩ := combine_eq row
  obtain ⟨-, rfl⟩ : errors = passErrors row ∧ tree? = tree?' := by simpa [h] using e
  calc tree?.toList.flatMap Tree.leaves
      = (combinedRow row).flatMap leaves := by rw [left, List.flatMap_map]; rfl
    _ = row.flatMap leaves := by
        rw [combinedRow, leaves_applyJoin, Option.toList_none, List.nil_append, leaves_applyJoin,
          Option.toList_none, List.nil_append, leaves_applyNot, leaves_insertAnd]

end Sift.Item
