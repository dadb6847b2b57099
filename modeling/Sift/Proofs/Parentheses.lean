import Sift.Proofs.Context

/-!
# Parentheses

A group ends at the parenthesis that closes its first one. What stands between them may be any text
whose own parentheses are closed: in front of every rest (`Balanced`), as a text in parentheses, a
text without any, and whatever stands in quotes; or in front of the rest that it has
(`ClosedBefore`), as a text with a quote whose partner is missing.
-/

namespace Sift

open Text Unicode

namespace Token

section Groups

variable (depth : Nat) (cs : List Char)

/-- An opening parenthesis opens one more. -/
lemma groupLength?_open :
    groupLength? depth false ('(' :: cs) = (groupLength? (depth + 1) false cs).map (· + 1) := rfl

/-- A closing parenthesis closes one of several. -/
lemma groupLength?_close :
    groupLength? (depth + 2) false (')' :: cs) = (groupLength? (depth + 1) false cs).map (· + 1) :=
  rfl

/-- Other characters open and close nothing. -/
lemma groupLength?_flat {c : Char} (paren : isParen c = false) (quote : c ≠ '"') :
    groupLength? depth false (c :: cs) = (groupLength? depth false cs).map (· + 1) := by
  rw [isParen, Bool.or_eq_false_iff, beq_eq_false_iff_ne, beq_eq_false_iff_ne] at paren
  simp only [groupLength?, if_neg quote, if_neg paren.1, if_neg paren.2]

/-- A quote begins a phrase if another one follows. -/
lemma groupLength?_quote : groupLength? depth false ('"' :: cs) =
    (groupLength? depth (cs.contains '"') cs).map (· + 1) := rfl

/-- What stands behind a quote that is open, up to the next quote, does not count. -/
lemma groupLength?_quoted {v : List Char} (unquoted : '"' ∉ v) :
    groupLength? depth true (v ++ cs) = (groupLength? depth true cs).map (· + v.length) := by
  induction v with
  | nil => simp
  | cons x v ih =>
    rw [List.mem_cons, not_or] at unquoted
    rw [List.cons_append, groupLength?, bne_iff_ne.2 (Ne.symm unquoted.1), ih unquoted.2,
      Option.map_map]
    rfl

end Groups

/-- A text whose parentheses are all closed when the given rest stands behind it. -/
def ClosedBefore (body rest : List Char) : Prop :=
  ∀ depth, groupLength? (depth + 1) false (body ++ rest) =
    (groupLength? (depth + 1) false rest).map (· + body.length)

/-- A text whose parentheses are all closed, so that it does not end the group that it stands in. -/
def Balanced (body : List Char) : Prop :=
  ∀ depth rest, groupLength? (depth + 1) false (body ++ rest) =
    (groupLength? (depth + 1) false rest).map (· + body.length)

section Closed

variable {body more rest : List Char}

/-- What is balanced anywhere is closed in front of any rest. -/
lemma Balanced.before (b : Balanced body) (rest : List Char) : ClosedBefore body rest :=
  fun depth => b depth rest

/-- Two texts that are closed in front of what follows them are closed together. -/
lemma ClosedBefore.append (b : ClosedBefore body (more ++ rest)) (m : ClosedBefore more rest) :
    ClosedBefore (body ++ more) rest := by
  intro depth
  rw [List.append_assoc, b depth, m depth, Option.map_map]
  congr 1
  funext n
  simp only [Function.comp, List.length_append]
  omega

/-- Two balanced texts are balanced together. -/
lemma Balanced.append (b : Balanced body) (m : Balanced more) : Balanced (body ++ more) :=
  fun depth rest => (b.before (more ++ rest)).append (m.before rest) depth

/-- A character that is no parenthesis and no quote does not matter. -/
lemma ClosedBefore.cons {c : Char} (paren : isParen c = false) (quote : c ≠ '"')
    (b : ClosedBefore body rest) : ClosedBefore (c :: body) rest := by
  intro depth
  rw [List.cons_append, groupLength?_flat _ _ paren quote, b depth, Option.map_map]
  rfl

/-- A character that is neither parenthesis nor quote may stand in front. -/
lemma Balanced.cons {c : Char} (paren : isParen c = false) (quote : c ≠ '"') (b : Balanced body) :
    Balanced (c :: body) :=
  fun depth rest => (b.before rest).cons paren quote depth

/-- A text in parentheses is closed if it is closed in front of the second one. -/
lemma ClosedBefore.group (b : ClosedBefore body (')' :: rest)) :
    ClosedBefore ('(' :: body ++ [')']) rest := by
  intro depth
  have text : '(' :: body ++ [')'] ++ rest = '(' :: (body ++ ')' :: rest) := by simp
  rw [text, groupLength?_open, b (depth + 1), groupLength?_close, Option.map_map, Option.map_map]
  congr 1
  funext n
  simp only [Function.comp, List.cons_append, List.length_cons, List.length_append,
    List.length_nil]
  omega

/-- A balanced text in parentheses is balanced. -/
lemma Balanced.group (b : Balanced body) : Balanced ('(' :: body ++ [')']) :=
  fun depth rest => (b.before (')' :: rest)).group depth

end Closed

/-- A text without parentheses and quotes is balanced. -/
lemma Balanced.of_flat {cs : List Char} (flat : ∀ c ∈ cs, isParen c = false)
    (unquoted : '"' ∉ cs) : Balanced cs := by
  induction cs with
  | nil =>
    intro depth rest
    simp
  | cons c cs ih =>
    obtain ⟨paren, flat⟩ := List.forall_mem_cons.1 flat
    rw [List.mem_cons, not_or] at unquoted
    exact (ih flat unquoted.2).cons paren (Ne.symm unquoted.1)

/-- A space between two balanced texts. -/
lemma Balanced.space {body more : List Char} (b : Balanced body) (m : Balanced more) :
    Balanced (body ++ ' ' :: more) := by
  apply b.append
  exact m.cons rfl (by decide)

/-- What stands in quotes does not count for a group. -/
lemma Balanced.phrase {v : List Char} (unquoted : '"' ∉ v) : Balanced ('"' :: v ++ ['"']) := by
  intro depth rest
  have text : '"' :: v ++ ['"'] ++ rest = '"' :: (v ++ '"' :: rest) := by simp
  have closed : (v ++ '"' :: rest).contains '"' = true := by simp
  have size : ('"' :: v ++ ['"']).length = v.length + 2 := by simp
  rw [text, groupLength?_quote, closed, groupLength?_quoted _ _ unquoted, Option.map_map, size]
  change ((groupLength? (depth + 1) false rest).map (· + 1)).map _ = _
  rw [Option.map_map]
  congr 1
  funext n
  simp only [Function.comp]
  omega

/-- The parenthesis in front of a closed text is closed behind it. -/
lemma first_group {operators : List (List Char)} {body rest : List Char}
    (b : ClosedBefore body (')' :: rest)) (start : Nat) :
    first operators start ('(' :: body ++ [')'] ++ rest) =
      .ok ⟨.group body, '(' :: body ++ [')'], rest⟩ := by
  generalize e : '(' :: body ++ [')'] ++ rest = cs
  have text : cs = '(' :: (body ++ ')' :: rest) := by rw [← e]; simp
  have size : groupLength? 0 false cs = some (body.length + 2) := by
    rw [text, groupLength?_open, b 0]
    simp [groupLength?]
    omega
  have inner : cs.take (body.length + 1) = '(' :: body := by
    rw [text, ← List.cons_append]
    exact List.take_left' (by simp)
  have taken : cs.take (body.length + 2) = '(' :: body ++ [')'] := by
    rw [← e]
    exact List.take_left' (by simp)
  have behind : cs.drop (body.length + 2) = rest := by
    rw [← e]
    exact List.drop_left' (by simp)
  have read : first operators start cs =
      .ok (.split (.group ((cs.take (body.length + 1)).drop 1)) (body.length + 2) cs) :=
    first_of_read (.group (by rw [text]; rfl) size)
  rw [read, Lexed.split, inner, taken, behind]
  rfl

end Token

end Sift
