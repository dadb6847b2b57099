import Sift.Proofs.Identifiers
import Sift.Proofs.Levels
import Sift.Proofs.Linked

/-!
# Nested parentheses

In a text without quotes the parentheses nest if as many close as open, and none closes what is not
open (`IsNested`). No part of reading a text counts them all; a level finds out at its tokens. Still
a text whose parentheses do not nest gives no tree, and where they do, none of them is ever missed,
at any level (`Engine.query_of_parentheses`).
-/

namespace Sift

open Text

/-- The parentheses of a text close each other and the given number of those open in front of it: all
are closed at the end, and none is closed before it is open. -/
structure IsNested (depth : Nat) (cs : List Char) : Prop where
  total : cs.count ')' = depth + cs.count '('
  ahead : ∀ n, (cs.take n).count ')' ≤ depth + (cs.take n).count '('

section Nested

variable {depth : Nat} {cs : List Char}

/-- Decided by counting. -/
instance : Decidable (IsNested depth cs) :=
  decidable_of_iff (cs.count ')' = depth + cs.count '(' ∧
      ∀ n < cs.length, (cs.take n).count ')' ≤ depth + (cs.take n).count '(') <| by
    refine ⟨fun ⟨total, ahead⟩ => ⟨total, fun n => ?_⟩, fun h => ⟨h.total, fun n _ => h.ahead n⟩⟩
    by_cases within : n < cs.length
    · exact ahead n within
    · rw [List.take_of_length_le (by omega)]
      exact total.le

/-- The end is nested if nothing is open. -/
lemma isNested_nil : IsNested depth [] ↔ depth = 0 := by
  refine ⟨fun h => ?_, ?_⟩
  · simpa using h.total.symm
  · rintro rfl
    exact ⟨rfl, fun n => by simp⟩

/-- A parenthesis changes how many are open. -/
lemma isNested_cons {c : Char} {depth' : Nat}
    (level : depth + [c].count '(' = depth' + [c].count ')') :
    IsNested depth (c :: cs) ↔ IsNested depth' cs := by
  have count (x : Char) (ds : List Char) : (c :: ds).count x = [c].count x + ds.count x := by
    rw [← List.singleton_append, List.count_append]
  constructor
  · rintro ⟨total, ahead⟩
    rw [count ')' cs, count '(' cs] at total
    refine ⟨by omega, fun n => ?_⟩
    have next := ahead (n + 1)
    rw [List.take_succ_cons, count ')' (cs.take n), count '(' (cs.take n)] at next
    omega
  · rintro ⟨total, ahead⟩
    refine ⟨by rw [count ')' cs, count '(' cs]; omega, fun n => ?_⟩
    match n with
    | 0 => exact Nat.zero_le _
    | n + 1 =>
      have later := ahead n
      rw [List.take_succ_cons, count ')' (cs.take n), count '(' (cs.take n)]
      omega

/-- A closing parenthesis needs an open one. -/
lemma not_isNested_close : ¬IsNested 0 (')' :: cs) := by
  intro h
  have first := h.ahead 1
  simp at first

namespace Token

/-- Without quotes the search for the end of a group counts the parentheses. -/
lemma isNested_of_groupLength? (unquoted : '"' ∉ cs) :
    groupLength? (depth + 1) false (cs ++ [')']) = some (cs.length + 1) ↔ IsNested depth cs := by
  induction cs generalizing depth with
  | nil =>
    rw [isNested_nil]
    cases depth with
    | zero => exact iff_of_true rfl rfl
    | succ depth => exact iff_of_false nofun nofun
  | cons c cs ih =>
    rw [List.mem_cons, not_or] at unquoted
    obtain ⟨quote, unquoted⟩ := unquoted
    rw [List.cons_append, List.length_cons]
    cases c using char_cases with
    | quote => exact absurd rfl quote
    | opening =>
      rw [groupLength?_open, map_succ_iff, ih unquoted, isNested_cons rfl]
    | closing =>
      match depth with
      | 0 =>
        refine iff_of_false (fun h => ?_) not_isNested_close
        simp [groupLength?] at h
      | depth + 1 => rw [groupLength?_close, map_succ_iff, ih unquoted, isNested_cons rfl]
    | flat c paren quote =>
      have counts : depth + [c].count '(' = depth + [c].count ')' := by
        rw [isParen, Bool.or_eq_false_iff] at paren
        simp [List.count_singleton, paren]
      rw [groupLength?_flat _ _ paren quote, map_succ_iff, ih unquoted, isNested_cons counts]

/-- The parentheses of a text without quotes are closed if they nest. -/
lemma isClosed_iff_isNested (unquoted : '"' ∉ cs) : IsClosed cs ↔ IsNested 0 cs :=
  isClosed_iff.trans (isNested_of_groupLength? unquoted)

end Token

end Nested

section Unquoted

variable {operators : List (List Char)} {start : Nat} {cs : List Char} {l : Lexed}
  (unquoted : '"' ∉ cs)
include unquoted

namespace Token

/-- What is behind a token of a text without quotes has none. -/
lemma unquoted_rest (ne : cs ≠ []) (h : first operators start cs = .ok l) : '"' ∉ l.rest := by
  rw [← (consumes_of_first ne h).1, List.mem_append, not_or] at unquoted
  exact unquoted.2

/-- A token of a text without quotes has none. -/
lemma unquoted_taken (ne : cs ≠ []) (h : first operators start cs = .ok l) : '"' ∉ l.taken := by
  rw [← (consumes_of_first ne h).1, List.mem_append, not_or] at unquoted
  exact unquoted.1

/-- A group in a text without quotes has none. -/
lemma unquoted_group {inner : List Char} (ne : cs ≠ []) (h : first operators start cs = .ok l)
    (hg : l.token = .group inner) : '"' ∉ inner := by
  have taken := unquoted_taken unquoted ne h
  rw [(group_of_first h hg).1] at taken
  exact fun mem => taken (by simp [mem])

/-- Without quotes all quotes are paired. -/
lemma isPaired_of_unquoted (ne : cs ≠ []) (h : first operators start cs = .ok l) :
    l.IsPaired := by
  have rest := unquoted_rest unquoted ne h
  have taken := unquoted_taken unquoted ne h
  obtain ⟨token, _, _⟩ := l
  cases token with
  | blank => trivial
  | combinator => trivial
  | group => trivial
  | clause c =>
    obtain rfl := (clause_of_first h rfl).2.2
    simp only [Clause.source, List.mem_append, not_or] at taken
    exact ⟨fun _ _ => .inr (by simp [taken, rest]), .inr (by simp [taken, rest]), .inr rest⟩
  | word => exact .inr rest

end Token

namespace Outline

variable (ops : ∀ op ∈ operators, Clause.IsOperatorText op)
include ops

/-- The parentheses of a text that is read to its end are closed. -/
lemma isClosed_of_isComplete (h : (scan operators start cs).isComplete = true) :
    Token.IsClosed cs := by
  fun_induction Token.level operators start cs with
  | case1 => rfl
  | case2 start cs ne error first =>
    rw [scan_of_error ne first] at h
    cases h
  | case3 start cs ne l first _ ih =>
    have paired := Token.isPaired_of_unquoted unquoted ne first
    refine (Token.isClosed_iff_rest ops ne first paired).2 ?_
    refine ih (Token.unquoted_rest unquoted ne first) ?_
    rw [scan_of_first ne first] at h
    simp only at h
    split at h
    · exact h
    · exact h
    · exact (Bool.and_eq_true_iff.1 h).2
    · exact h
    · exact h

/-- Where the parentheses of a text are closed, none lacks its partner at any level. -/
lemma cause_of_breaks (closed : Token.IsClosed cs) :
    ∀ error ∈ (scan operators start cs).breaks, error.cause ≠ .unbalancedParenthesis := by
  have behind {start : Nat} {cs : List Char} {l : Lexed} (unquoted : '"' ∉ cs)
      (closed : Token.IsClosed cs) (ne : cs ≠ []) (first : Token.first operators start cs = .ok l) :
      Token.IsClosed l.rest :=
    (Token.isClosed_iff_rest ops ne first (Token.isPaired_of_unquoted unquoted ne first)).1 closed
  fun_induction scan operators start cs with
  | case1 => exact fun error mem => absurd mem List.not_mem_nil
  | case2 start cs ne error first =>
    exact List.forall_mem_singleton.2 (Token.cause_of_first first closed)
  | case3 start cs ne l first _ next _ ih =>
    exact ih (Token.unquoted_rest unquoted ne first) (behind unquoted closed ne first)
  | case4 start cs ne l first _ next _ _ ih =>
    exact ih (Token.unquoted_rest unquoted ne first) (behind unquoted closed ne first)
  | case5 start cs ne l first _ next inner group _ ihNext ihInner =>
    refine List.forall_mem_append.2 ⟨?_, ?_⟩
    · exact ihInner (Token.unquoted_group unquoted ne first group)
        (Token.isClosed_of_group first group)
    · exact ihNext (Token.unquoted_rest unquoted ne first) (behind unquoted closed ne first)
  | case6 start cs ne l first _ next _ _ ih =>
    exact ih (Token.unquoted_rest unquoted ne first) (behind unquoted closed ne first)
  | case7 start cs ne l first _ next _ _ _ ih =>
    exact ih (Token.unquoted_rest unquoted ne first) (behind unquoted closed ne first)

end Outline

end Unquoted

section Explained

variable {α β : Type}

/-- Where there is no result there is an error that says why. -/
def Recorded.Explained (r : Recorded α) : Prop := r.result? = none → r.errors ≠ []

/-- What goes on with a result is explained if each part is. -/
lemma Recorded.Explained.andThen {r : Recorded α} {f : α → Recorded β} (h : r.Explained)
    (goesOn : ∀ a, (f a).Explained) : (r.andThen f).Explained := by
  intro none
  unfold Recorded.andThen at none ⊢
  split at none
  · next e => exact h e
  · next a e =>
    have errors := goesOn a none
    simp [Recorded.behind, errors]

/-- A change of the result leaves it explained. -/
lemma Recorded.Explained.map {r : Recorded α} (f : α → β) (h : r.Explained) :
    (r.map f).Explained :=
  fun none => h (Option.map_eq_none_iff.1 none)

/-- A row always comes together. -/
lemma Item.explained_combined (row : List (Item α)) : (combined row).Explained := by
  obtain ⟨tree?, result, _⟩ := result?_combined row
  intro none
  rw [result] at none
  cases none

/-- Reading stops with an error only. -/
lemma Outline.explained_row (read : Term → Except QueryError (Option α)) (o : Outline) :
    (o.row read).Explained := by
  induction o with
  | done => nofun
  | broken e => exact fun _ => List.cons_ne_nil _ _
  | blank _ next ih => exact ih
  | combinator k s next ih => exact ih.map _
  | term t next ih =>
    have leaf : (readLeaf read t).Explained := by
      intro none
      rw [result?_readLeaf] at none
      cases none
    exact leaf.andThen fun _ => ih.map _
  | group inner next ihInner ihNext =>
    exact (ihInner.andThen Item.explained_combined).andThen fun _ => ihNext.map _

end Explained

namespace Engine

variable {κ ε : Type} {e : Engine κ ε} {text : String}

/-- A text without a result has an error. -/
lemma explained_reading (e : Engine κ ε) (text : String) : (e.reading text).Explained :=
  (Outline.explained_row _ _).andThen Item.explained_combined

/-- A text with a result has been read to its end. -/
lemma isComplete_of_reading {tree? : Option (Tree (Option (Leaf κ ε)))}
    (h : (e.reading text).result? = some tree?) : (e.outline text).isComplete = true := by
  obtain ⟨row, result, _⟩ := Recorded.exists_of_andThen h
  exact Outline.isComplete_of_row result

/-- The parentheses of a text without quotes: if they do not nest, its query is empty and has an
error, and is not valid; if they do, no error is about a parenthesis, at any level. -/
theorem query_of_parentheses (reach : e.Reachable) (unquoted : '"' ∉ text.toList) :
    (¬IsNested 0 text.toList →
      (e.query text).isEmpty = true ∧
      (∃ g, e.graph? text = some g ∧ g.root? = none) ∧
      (e.query text).errors ≠ [] ∧ (e.query text).isValid = false) ∧
    (IsNested 0 text.toList →
      ∀ error ∈ (e.query text).errors, error.cause ≠ .unbalancedParenthesis) := by
  have ops := reach.isOperatorText
  rw [← Token.isClosed_iff_isNested unquoted]
  constructor
  · intro split
    have none : (e.reading text).result? = none := by
      by_contra some
      obtain ⟨tree?, result⟩ := Option.ne_none_iff_exists'.1 some
      exact split (Outline.isClosed_of_isComplete unquoted ops (isComplete_of_reading result))
    have tree : (e.query text).tree? = .none := by
      rw [query, none]
      rfl
    have errors : (e.query text).errors ≠ [] := by
      rw [errors_query]
      exact explained_reading e text none
    refine ⟨?_, ?_, errors, ?_⟩
    · rw [Query.isEmpty, tree]
      rfl
    · obtain ⟨g, graph, l?, shown, same⟩ := Graph.carries_graph? e text
      rw [tree, Option.map_none, Option.map_eq_none_iff] at same
      subst same
      exact ⟨g, graph, shown⟩
    · rw [Query.isValid, List.isEmpty_eq_false_iff.2 errors]
      rfl
  · intro closed
    have ofTerm {t error} (h : e.readTerm t = .error error) :
        error.cause ≠ .unbalancedParenthesis := by
      rcases cases_of_readTerm h with ⟨fault, e⟩ | e <;> simp [e]
    have ofRow {row : List (Item (Option (Leaf κ ε)))} {error}
        (mem : error ∈ (Item.combine row).1) : error.cause ≠ .unbalancedParenthesis := by
      rcases Item.cause_of_combine mem with ⟨_, e⟩ | ⟨_, _, e⟩ <;> simp [e]
    have ofBreak : ∀ error ∈ (e.outline text).breaks, error.cause ≠ .unbalancedParenthesis :=
      Outline.cause_of_breaks unquoted ops closed
    rw [errors_query]
    intro error mem
    rcases Recorded.mem_errors_andThen mem with mem | ⟨row, _, mem⟩
    · exact Outline.forall_errors_of_breaks e.readTerm ofTerm ofRow ofBreak error mem
    · exact ofRow mem

/-- A group that is not closed behind a parameter that is, and one that is around it. -/
theorem query_of_unclosed_group :
    ({} : Engine Empty Unit).Reachable ∧ '"' ∉ "size(kb):1 or (b".toList ∧
      '"' ∉ "(!a or (size(kb):1))".toList ∧
      ¬IsNested 0 "size(kb):1 or (b".toList ∧ IsNested 0 "(!a or (size(kb):1))".toList ∧
      (({} : Engine Empty Unit).query "size(kb):1 or (b").isEmpty = true ∧
      (({} : Engine Empty Unit).query "size(kb):1 or (b").isValid = false ∧
      ∀ error ∈ (({} : Engine Empty Unit).query "(!a or (size(kb):1))").errors,
        error.cause ≠ .unbalancedParenthesis := by
  have reach : ({} : Engine Empty Unit).Reachable := .withOptions {}
  have unclosed : ¬IsNested 0 "size(kb):1 or (b".toList := by decide
  have closed : IsNested 0 "(!a or (size(kb):1))".toList := by decide
  obtain ⟨empty, _, _, invalid⟩ := (query_of_parentheses reach (by decide)).1 unclosed
  have errors := (query_of_parentheses reach (by decide)).2 closed
  exact ⟨reach, by decide, by decide, unclosed, closed, empty, invalid, errors⟩

end Engine

end Sift
