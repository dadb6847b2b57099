import Sift.Proofs.Recovery
import Sift.Proofs.Shifting

/-!
# Groups as parts of their text

What is read in a group becomes part of what is read in the text around it. The passes over a row
put trees below others and take none apart (`Item.Holds.combine`), so the tree of a group is part of
the tree of the text. The errors of a group stand together among those of the text, if reading
gets to the group (`Outline.Enters`), and if the group breaks off, the text does. With what is known
of a group by itself this is `Engine.reading_of_group`.
-/

namespace Sift

open Text

/-! ### Trees in a row -/

/-- A tree is part of itself, and of what it is put below. -/
inductive Tree.IsPartOf {α : Type} (t : Tree α) : Tree α → Prop where
  | whole :
    IsPartOf t t
  | not {s u} :
    IsPartOf t u →
    IsPartOf t (.not s u)
  | left {c s l r} :
    IsPartOf t l →
    IsPartOf t (.join c s l r)
  | right {c s l r} :
    IsPartOf t r →
    IsPartOf t (.join c s l r)

namespace Item

variable {α : Type} {t u : Tree α} {row row' : List (Item α)} {x : Item α}

/-- Whether a tree is part of one of the terms of a row. -/
def Holds (t : Tree α) (row : List (Item α)) : Prop := ∃ u, .term u ∈ row ∧ t.IsPartOf u

/-- A row holds what its first item or the rest of it does. -/
lemma holds_cons : Holds t (x :: row) ↔ Holds t [x] ∨ Holds t row := by
  simp only [Holds, List.mem_cons, List.not_mem_nil, or_false, or_and_right, exists_or]

/-- Two rows in one hold what one of them does. -/
lemma holds_append : Holds t (row ++ row') ↔ Holds t row ∨ Holds t row' := by
  simp only [Holds, List.mem_append, or_and_right, exists_or]

/-- A term holds its own parts. -/
lemma holds_term : Holds t [.term u] ↔ t.IsPartOf u := by
  simp [Holds]

/-- A row that a tree is put in front of holds the parts of the tree. -/
lemma holds_of_tree {tree? : Option (Tree α)} (part : t.IsPartOf u) (is : tree? = some u)
    (row : List (Item α)) : Holds t (tree?.toList.map .term ++ row) := by
  subst is
  exact holds_append.2 (.inl (holds_term.2 part))

/-- There is no tree in a combinator. -/
lemma not_holds_combinator {k : Combinator} {s : Site} : ¬Holds t [.combinator k s] := by
  simp [Holds]

/-- The rest behind a combinator holds what the row does. -/
lemma Holds.of_combinator {k : Combinator} {s : Site} (h : Holds t (.combinator k s :: row)) :
    Holds t row :=
  (holds_cons.1 h).resolve_left not_holds_combinator

/-- Inserting leaves the terms of a row where they are. -/
lemma Holds.insertAnd (h : Holds t row) : Holds t (insertAnd row) := by
  fun_induction Item.insertAnd row with
  | case1 x y rest _ ih =>
    rcases holds_cons.1 h with here | later
    · exact holds_cons.2 (.inl here)
    · exact holds_cons.2 (.inr (holds_cons.2 (.inr (ih later))))
  | case2 x y rest _ ih => exact holds_cons.2 ((holds_cons.1 h).imp_right ih)
  | case3 => exact h

/-- A `not` is put above the term behind it, and takes no other away. -/
lemma Holds.applyNot (h : Holds t row) : Holds t (applyNot row).2 := by
  fun_induction Item.applyNot row with
  | case1 => exact h
  | case2 s rest errors u rest' e ih =>
    rw [e] at ih
    rcases holds_cons.1 (ih h.of_combinator) with operand | later
    · exact holds_cons.2 (.inl (holds_term.2 (.not (holds_term.1 operand))))
    · exact holds_cons.2 (.inr later)
  | case3 s rest errors rest' _ e ih =>
    rw [e] at ih
    exact ih h.of_combinator
  | case4 x rest _ errors rest' e ih =>
    rw [e] at ih
    exact holds_cons.2 ((holds_cons.1 h).imp_right ih)

/-- A connective is put above the terms at its sides, and takes no other away. -/
lemma Holds.applyJoin {c : Connective} {left : Option (Item α)} (h : Holds t (left.toList ++ row)) :
    Holds t (applyJoin c left row).2 := by
  fun_induction Item.applyJoin c left row with
  | case1 left => simpa using h
  | case2 s l r rest ih =>
    refine ih (holds_cons.2 ?_)
    rcases holds_cons.1 h with first | behind
    · exact .inl (holds_term.2 (.left (holds_term.1 first)))
    · rcases holds_cons.1 behind.of_combinator with second | later
      · exact .inl (holds_term.2 (.right (holds_term.1 second)))
      · exact .inr later
  | case3 s left rest _ errors rest' e ih =>
    rw [e] at ih
    exact ih (holds_append.2 ((holds_append.1 h).imp_right Holds.of_combinator))
  | case4 left d s rest _ errors rest' e ih =>
    rw [e] at ih
    exact holds_append.2 ((holds_append.1 h).imp_right ih)
  | case5 left x rest _ errors rest' e ih =>
    rw [e] at ih
    exact holds_append.2 ((holds_append.1 h).imp_right ih)

/-- What a row holds is part of the tree that it comes together to. -/
lemma Holds.combine {tree? : Option (Tree α)} (h : Holds t row)
    (result : (combined row).result? = some tree?) :
    ∃ whole, tree? = some whole ∧ t.IsPartOf whole := by
  have kept : Holds t (combinedRow row) := Holds.applyJoin (Holds.applyJoin h.insertAnd.applyNot)
  obtain ⟨tree?', left, e⟩ := combine_eq row
  obtain rfl : tree?' = tree? := by simpa [combined, e] using result
  rw [left] at kept
  cases tree?' with
  | none =>
    obtain ⟨u, mem, -⟩ := kept
    cases mem
  | some whole => exact ⟨whole, rfl, holds_term.1 kept⟩

end Item

/-! ### Levels in an outline -/

namespace Recorded

variable {α β : Type} {r : Recorded α} {f : α → Recorded β}

/-- What was wrong at first is still what is wrong first. -/
lemma errors_prefix_andThen : r.errors <+: (r.andThen f).errors := by
  cases result : r.result? with
  | none => exact (errors_andThen_of_none result).symm ▸ List.prefix_refl _
  | some a =>
    rw [errors_andThen result]
    exact List.prefix_append _ _

end Recorded

namespace Outline

variable {α : Type} {read : Term → Except QueryError (Option α)} {level o : Outline}

/-- Reading an outline gets to the level of a group in it: no group in front of it breaks off. -/
inductive Enters (level : Outline) : Outline → Prop where
  | here {next} :
    Enters level (.group level next)
  | inside {inner next} :
    Enters level inner →
    Enters level (.group inner next)
  | past {inner next} :
    inner.isComplete = true →
    Enters level next →
    Enters level (.group inner next)
  | blank {taken next} :
    Enters level next →
    Enters level (.blank taken next)
  | combinator {k s next} :
    Enters level next →
    Enters level (.combinator k s next)
  | term {t next} :
    Enters level next →
    Enters level (.term t next)

/-- Where nothing breaks off, reading gets to all groups. -/
lemma enters_of_mem_groups (complete : o.isComplete = true) (mem : level ∈ o.groups) :
    level.Enters o := by
  induction o with
  | done | broken => cases mem
  | blank _ next ih => exact .blank (ih complete mem)
  | combinator k s next ih => exact .combinator (ih complete mem)
  | term t next ih => exact .term (ih complete mem)
  | group inner next ihInner ihNext =>
    obtain ⟨completeInner, completeNext⟩ := Bool.and_eq_true_iff.1 complete
    rcases mem_groups_group.1 mem with rfl | inside | behind
    · exact .here
    · exact .inside (ihInner completeInner inside)
    · exact .past completeInner (ihNext completeNext behind)

/-- A row with a group at its front goes on with the tree of the group. -/
lemma row_group (inner next : Outline) : (group inner next).row read =
    (inner.tree read).andThen fun tree? => (next.row read).map (tree?.toList.map .term ++ ·) :=
  rfl

/-- A complete level comes together. -/
lemma tree_of_isComplete (read : Term → Except QueryError (Option α)) (h : o.isComplete = true) :
    ∃ tree?, (o.tree read).result? = some tree? := by
  obtain ⟨row, result, _⟩ := row_of_isComplete read h
  obtain ⟨tree?, combined, _⟩ := Item.result?_combined row
  exact ⟨tree?, (Recorded.result?_andThen result).trans combined⟩

/-- The trees of a level's groups, however deep they lie, are in the terms of its row. -/
lemma tree_of_mem_groups {row : List (Item (Option α))} (result : (o.row read).result? = some row)
    (mem : level ∈ o.groups) :
    ∃ tree?, (level.tree read).result? = some tree? ∧ ∀ t ∈ tree?, Item.Holds t row := by
  induction o generalizing row with
  | done | broken => cases mem
  | blank _ next ih => exact ih result mem
  | combinator k s next ih =>
    obtain ⟨row', result', rfl⟩ := Option.map_eq_some_iff.1 result
    obtain ⟨tree?, found, holds⟩ := ih result' mem
    exact ⟨tree?, found, fun t ht => Item.holds_cons.2 (.inr (holds t ht))⟩
  | term t next ih =>
    obtain ⟨leaf, -, result⟩ := Recorded.exists_of_andThen result
    obtain ⟨row', result', rfl⟩ := Option.map_eq_some_iff.1 result
    obtain ⟨tree?, found, holds⟩ := ih result' mem
    exact ⟨tree?, found, fun t ht => Item.holds_cons.2 (.inr (holds t ht))⟩
  | group inner next ihInner ihNext =>
    obtain ⟨inside?, together, result⟩ := Recorded.exists_of_andThen result
    obtain ⟨row', result', rfl⟩ := Option.map_eq_some_iff.1 result
    -- a group inside is part of the tree that the group comes together to, which is in the row
    rcases mem_groups_group.1 mem with rfl | within | behind
    · exact ⟨inside?, together, fun t is => Item.holds_of_tree .whole is row'⟩
    · obtain ⟨inner, result, combined⟩ := Recorded.exists_of_andThen together
      obtain ⟨tree?, found, holds⟩ := ihInner result within
      refine ⟨tree?, found, fun t ht => ?_⟩
      obtain ⟨whole, is, part⟩ := (holds t ht).combine combined
      exact Item.holds_of_tree part is row'
    · obtain ⟨tree?, found, holds⟩ := ihNext result' behind
      exact ⟨tree?, found, fun t ht => Item.holds_append.2 (.inr (holds t ht))⟩

/-- A level breaks off with each of its groups. -/
lemma row_of_broken_group (mem : level ∈ o.groups) (broken : (level.tree read).result? = none) :
    (o.row read).result? = none := by
  by_contra found
  obtain ⟨row, result⟩ := Option.ne_none_iff_exists'.1 found
  obtain ⟨tree?, found, -⟩ := tree_of_mem_groups result mem
  cases broken.symm.trans found

/-- The level of a group that reading gets to is one of the outline. -/
lemma Enters.mem_groups (h : level.Enters o) : level ∈ o.groups := by
  induction h with
  | here => exact mem_groups_group.2 (.inl rfl)
  | inside _ ih => exact mem_groups_group.2 (.inr (.inl ih))
  | past _ _ ih => exact mem_groups_group.2 (.inr (.inr ih))
  | blank _ ih | combinator _ ih | term _ ih => exact ih

/-- What is wrong behind a term is wrong with the row, and found last. -/
lemma errors_suffix_term (t : Term) (next : Outline) :
    (next.row read).errors <:+ ((term t next).row read).errors := by
  rw [row, Recorded.errors_andThen (result?_readLeaf read t)]
  exact List.suffix_append _ _

/-- What is wrong behind a group that is complete is wrong with the row, and found last. -/
lemma errors_suffix_group {inner : Outline} (complete : inner.isComplete = true) (next : Outline) :
    (next.row read).errors <:+ ((group inner next).row read).errors := by
  obtain ⟨tree?, result⟩ := tree_of_isComplete read complete
  rw [row_group, Recorded.errors_andThen result]
  exact List.suffix_append _ _

/-- What is wrong with a row is found before what is wrong with combining it. -/
lemma errors_prefix_tree (o : Outline) : (o.row read).errors <+: (o.tree read).errors :=
  Recorded.errors_prefix_andThen

/-- What is wrong with a group at the front of a row is found first. -/
lemma errors_prefix_group (inner next : Outline) :
    (inner.tree read).errors <+: ((group inner next).row read).errors :=
  Recorded.errors_prefix_andThen

/-- The errors of a group that reading gets to stand together among those of the level around it. -/
lemma Enters.errors_infix (h : level.Enters o) :
    (level.tree read).errors <:+: (o.row read).errors := by
  induction h with
  | @here next => exact (errors_prefix_group level next).isInfix
  | @inside inner next _ ih =>
    exact (ih.trans (errors_prefix_tree inner).isInfix).trans
      (errors_prefix_group inner next).isInfix
  | past complete _ ih => exact ih.trans (errors_suffix_group complete _).isInfix
  | blank _ ih | combinator _ ih => exact ih
  | term _ ih => exact ih.trans (errors_suffix_term _ _).isInfix

/-- A level that breaks off has no other errors than its row. -/
lemma errors_tree_of_broken (h : (o.row read).result? = none) :
    (o.tree read).errors = (o.row read).errors :=
  Recorded.errors_andThen_of_none h

/-- Where a group breaks off that reading gets to, its errors are the last ones. -/
lemma Enters.errors_suffix (h : level.Enters o) (broken : (level.tree read).result? = none) :
    (level.tree read).errors <:+ (o.row read).errors := by
  induction h with
  | @here next =>
    rw [row_group]
    exact (Recorded.errors_andThen_of_none broken).symm ▸ List.suffix_refl _
  | @inside inner next entered ih =>
    -- the group around it has broken off, too, before its terms were combined
    have stopped := row_of_broken_group entered.mem_groups broken
    have together : (inner.tree read).result? = none := Recorded.result?_andThen_of_none stopped
    rw [row_group, Recorded.errors_andThen_of_none together, errors_tree_of_broken stopped]
    exact ih
  | past complete _ ih => exact ih.trans (errors_suffix_group complete _)
  | blank _ ih | combinator _ ih => exact ih
  | term _ ih => exact ih.trans (errors_suffix_term _ _)

end Outline

namespace Engine

variable {κ ε : Type}

/-- A group in a text is read as its text is by itself, all of it behind the bytes in front of the
group. If it breaks off, the text does, and with its errors; and whether or not it does, its errors
stand together among those of the text, if reading gets to it. Where the text has a tree, reading has
got to every group, and the tree of the group is part of that of the text. -/
theorem reading_of_group (e : Engine κ ε) {text : String} {index : Nat} {inner : List Char}
    (meets : Token.Meets e.operatorTexts 0 text.toList index inner) :
    let level := Outline.scan e.operatorTexts index inner
    let alone := e.reading (String.ofList inner)
    (∃ before after, text.toList = before ++ '(' :: inner ++ ')' :: after ∧
        index = width before + 1) ∧
      level ∈ (e.outline text).groups ∧
      (level.tree e.readTerm).errors = alone.errors.map (QueryError.shift index) ∧
      (level.tree e.readTerm).result? = alone.result?.map (Option.map (Tree.shift index)) ∧
      ((level.tree e.readTerm).result? = none ↔ alone.result? = none) ∧
      (alone.result? = none → (e.reading text).result? = none) ∧
      (level.Enters (e.outline text) →
        alone.errors.map (QueryError.shift index) <:+: (e.reading text).errors ∧
        (alone.result? = none →
          alone.errors.map (QueryError.shift index) <:+ (e.reading text).errors)) ∧
      ∀ whole?, (e.reading text).result? = some whole? →
        level.Enters (e.outline text) ∧
        ∃ tree?, alone.result? = some tree? ∧
          ∀ t ∈ tree?, ∃ whole, whole? = some whole ∧ (t.shift index).IsPartOf whole := by
  intro level alone
  obtain ⟨before, after, stands, position⟩ := meets.stands
  rw [Nat.zero_add] at position
  have mem : level ∈ (e.outline text).groups := meets.mem_groups
  have same : level.tree e.readTerm = alone.shift index := e.tree_scan_shift index inner
  have errors : (level.tree e.readTerm).errors = alone.errors.map (QueryError.shift index) := by
    rw [same, Recorded.shift]
  have result : (level.tree e.readTerm).result? =
      alone.result?.map (Option.map (Tree.shift index)) := by
    rw [same, Recorded.shift]
  have none : (level.tree e.readTerm).result? = none ↔ alone.result? = none := by
    rw [result, Option.map_eq_none_iff]
  -- the level is one of the outline's, so all that is known of those holds of it
  refine ⟨⟨before, after, stands, position⟩, mem, errors, result, none, fun broken => ?_,
    fun entered => ⟨?_, fun broken => ?_⟩, fun whole? found => ?_⟩
  · exact Recorded.result?_andThen_of_none (Outline.row_of_broken_group mem (none.2 broken))
  · rw [← errors]
    exact entered.errors_infix.trans (Outline.errors_prefix_tree (e.outline text)).isInfix
  · have stopped := Outline.row_of_broken_group mem (none.2 broken)
    rw [← errors, reading, Outline.errors_tree_of_broken stopped]
    exact entered.errors_suffix (none.2 broken)
  · obtain ⟨row, read, combined⟩ := Recorded.exists_of_andThen found
    obtain ⟨shifted?, is, holds⟩ := Outline.tree_of_mem_groups read mem
    rw [result] at is
    obtain ⟨tree?, alone, rfl⟩ := Option.map_eq_some_iff.1 is
    refine ⟨Outline.enters_of_mem_groups (Outline.isComplete_of_row read) mem, tree?, alone, ?_⟩
    intro t ht
    exact (holds (t.shift index) (Option.mem_map_of_mem _ ht)).combine combined

/-- What is wrong in a group inside of another is found seven bytes behind where it is found in the
text of the group, and its clause is part of the tree. A group with a lone quote breaks off, and so
does the text. -/
theorem reading_of_nested_group :
    let e : Engine Empty Unit := {}
    Token.Meets e.operatorTexts 0 "é (b (zz:1 not)) c".toList 7 "zz:1 not".toList ∧
      Token.Meets e.operatorTexts 0 "not (a \"b c) d".toList 5 "a \"b c".toList ∧
      (e.reading "zz:1 not").errors.map QueryError.index = [0, 8, 4] ∧
      [7, 15, 11] <:+: (e.reading "é (b (zz:1 not)) c").errors.map QueryError.index ∧
      (∃ t whole, (e.reading "zz:1 not").result? = some (some t) ∧
        (e.reading "é (b (zz:1 not)) c").result? = some (some whole) ∧
        (t.shift 7).IsPartOf whole) ∧
      (e.reading "a \"b c").result? = none ∧ (e.reading "not (a \"b c) d").result? = none := by
  intro e
  have meets : Token.Meets e.operatorTexts 0 "é (b (zz:1 not)) c".toList 7 "zz:1 not".toList := by
    refine .later (by decide) rfl (.later (by decide) rfl (.inside (by decide) rfl rfl ?_))
    exact .later (by decide) rfl (.later (by decide) rfl (.here (by decide) rfl rfl))
  have meets' : Token.Meets e.operatorTexts 0 "not (a \"b c) d".toList 5 "a \"b c".toList :=
    .later (by decide) rfl (.later (by decide) rfl (.here (by decide) rfl rfl))
  have alone : (e.reading "zz:1 not").errors.map QueryError.index = [0, 8, 4] := by
    decide +kernel
  have shifted : QueryError.index ∘ QueryError.shift 7 = (7 + ·) ∘ QueryError.index := rfl
  have some : ((e.reading "é (b (zz:1 not)) c").result?.bind id).isSome = true := by
    decide +kernel
  have leaf : ((e.reading "zz:1 not").result?.bind id).isSome = true := by decide +kernel
  have broken : (e.reading "a \"b c").result?.isNone = true := by decide +kernel
  obtain ⟨whole, found⟩ := Option.isSome_iff_exists.1 some
  obtain ⟨t, single⟩ := Option.isSome_iff_exists.1 leaf
  obtain ⟨_, result, rfl⟩ := Option.bind_eq_some_iff.1 found
  obtain ⟨_, result', rfl⟩ := Option.bind_eq_some_iff.1 single
  obtain ⟨_, _, _, _, _, _, errors, parts⟩ := e.reading_of_group meets
  obtain ⟨_, _, _, _, _, aborts, _⟩ := e.reading_of_group meets'
  obtain ⟨entered, tree?, same, parts⟩ := parts _ result
  have broken := Option.isNone_iff_eq_none.1 broken
  refine ⟨meets, meets', alone, ?_, ⟨t, whole, result', result, ?_⟩, broken, aborts broken⟩
  · have within := (errors entered).1.map QueryError.index
    have indexes : (e.reading (String.ofList "zz:1 not".toList)).errors.map QueryError.index =
        [0, 8, 4] := alone
    rw [List.map_map, shifted, ← List.map_map, indexes] at within
    exact within
  · obtain rfl := Option.some.inj (result'.symm.trans same)
    obtain ⟨_, is, part⟩ := parts t rfl
    exact Option.some.inj is ▸ part

end Engine

end Sift
