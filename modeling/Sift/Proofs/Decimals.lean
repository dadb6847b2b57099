import Mathlib.Tactic.Lemma
import Sift.Value.HostType

/-!
# Integers in decimal

An integer can be written in decimal in many ways: with zeros in front of its digits, and with a
plus (`Number.WritesInt`). Each of them is read as the integer, if it is in range. So is its label.
-/

namespace Sift

open Number Text Unicode

/-- A text without blanks has none around it. -/
lemma Text.trim_of_forall {cs : List Char} (h : ∀ c ∈ cs, isBlank c = false) : trim cs = cs := by
  have drop {cs : List Char} (h : ∀ c ∈ cs, isBlank c = false) : cs.dropWhile isBlank = cs := by
    cases cs with
    | nil => rfl
    | cons c later => rw [List.dropWhile_cons, h c List.mem_cons_self, if_neg Bool.false_ne_true]
  have back : ∀ c ∈ cs.reverse, isBlank c = false := by
    intro c mem
    exact h c (List.mem_reverse.1 mem)
  rw [trim, drop h, trimEnd, drop back, List.reverse_reverse]

namespace Number

/-- The digits of a natural number behind some zeros. -/
def decimal (zeros n : Nat) : List Char := List.replicate zeros '0' ++ Nat.toDigits 10 n

/-- The ways to write an integer in decimal. -/
inductive WritesInt : List Char → Int → Prop where
  | plain (zeros n : Nat) : WritesInt (decimal zeros n) n
  | plus (zeros n : Nat) : WritesInt ('+' :: decimal zeros n) n
  | minus (zeros n : Nat) : WritesInt ('-' :: decimal zeros n) (-n)

variable {zeros n : Nat}

/-- A number has a digit. -/
lemma decimal_ne_nil : decimal zeros n ≠ [] := by
  intro none
  have digits := (List.append_eq_nil_iff.1 none).2
  exact Nat.toDigits_ne_nil digits

/-- Numbers are written in digits. -/
lemma isDigit_of_mem_decimal {c : Char} (mem : c ∈ decimal zeros n) : c.isDigit = true := by
  rcases List.mem_append.1 mem with zero | digit
  · obtain rfl := List.eq_of_mem_replicate zero
    rfl
  · exact Nat.isDigit_of_mem_toDigits (Nat.zero_lt_succ 9) (Nat.le_refl 10) digit

/-- The digits of a number are read as the number. -/
lemma readDigits?_decimal : readDigits? (decimal zeros n) = some n := by
  have nothing : Nat.ofDigitChars 10 (List.replicate zeros '0') 0 = 0 := by
    induction zeros with
    | zero => rfl
    | succ zeros ih => exact ih
  have value : Nat.ofDigitChars 10 (decimal zeros n) 0 = n := by
    rw [decimal, Nat.ofDigitChars_append, nothing, Nat.ofDigitChars_ten_toDigits]
  have all : (decimal zeros n).all Char.isDigit = true :=
    List.all_eq_true.2 fun c mem => isDigit_of_mem_decimal mem
  rw [readDigits?, if_pos ⟨decimal_ne_nil, all⟩]
  exact congrArg some value

/-- The integers of at most 64 bits, with negative numbers or without, are not below those that
values are made of. -/
lemma IntRange.least_le {bits : Nat} (le : bits ≤ 64) :
    value.least ≤ (signed bits).least ∧ value.least ≤ (unsigned bits).least := by
  have power : 2 ^ (bits - 1) ≤ 2 ^ 63 := Nat.pow_le_pow_right (by decide) (by omega)
  constructor
  · exact Int.neg_le_neg (Int.ofNat_le.2 power)
  · exact Int.neg_nonpos_of_nonneg (Int.natCast_nonneg _)

/-- A text of digits is read as a natural number. -/
lemma IntRange.readInt?_of_digits {r : IntRange} {cs : List Char} (h : ∀ c ∈ cs, c.isDigit = true) :
    r.readInt? cs = (readDigits? cs).map Int.ofNat := by
  unfold readInt?
  split
  · have plus := h '+' List.mem_cons_self
    cases plus
  · have minus := h '-' List.mem_cons_self
    cases minus
  · rfl

namespace WritesInt

variable {cs : List Char} {m : Int}

/-- What writes an integer has digits and signs in it, and nothing else. -/
lemma chars (h : WritesInt cs m) : ∀ c ∈ cs, c ∈ "+-0123456789".toList := by
  have digits : ∀ n ∈ List.range' 48 10, Char.ofNat n ∈ "+-0123456789".toList := by decide
  have digit {c : Char} (h : c.isDigit = true) : c ∈ "+-0123456789".toList := by
    obtain ⟨least, greatest⟩ := Char.isDigit_iff_toNat.1 h
    have found := digits c.toNat (List.mem_range'_1.2 ⟨least, Nat.lt_succ_of_le greatest⟩)
    rwa [Char.ofNat_toNat] at found
  cases h with
  | plain zeros n =>
    intro c mem
    exact digit (isDigit_of_mem_decimal mem)
  | plus zeros n =>
    refine List.forall_mem_cons.2 ⟨by simp, fun c mem => ?_⟩
    exact digit (isDigit_of_mem_decimal mem)
  | minus zeros n =>
    refine List.forall_mem_cons.2 ⟨by simp, fun c mem => ?_⟩
    exact digit (isDigit_of_mem_decimal mem)

/-- What holds of the digits and the signs holds of the characters of what writes an integer. -/
lemma forall_of_all {p : Char → Bool} (h : WritesInt cs m)
    (all : "+-0123456789".toList.all p = true) : ∀ c ∈ cs, p c = true :=
  fun c mem => List.all_eq_true.1 all c (h.chars c mem)

/-- An integer is not written as nothing. -/
lemma ne_nil (h : WritesInt cs m) : cs ≠ [] := by
  cases h with
  | plain => exact decimal_ne_nil
  | plus | minus => exact List.cons_ne_nil _ _

/-- There are no blanks around what writes an integer. -/
lemma trim_eq (h : WritesInt cs m) : trim cs = cs := by
  have all := h.forall_of_all (p := fun c => !isBlank c) (by decide)
  exact trim_of_forall (by simpa using all)

/-- A range with negative numbers takes all ways to write an integer. -/
lemma readInt?_eq (h : WritesInt cs m) {r : IntRange} (signed : r.least < 0) :
    r.readInt? cs = some m := by
  cases h with
  | plain zeros n =>
    rw [IntRange.readInt?_of_digits fun c mem => isDigit_of_mem_decimal mem, readDigits?_decimal]
    rfl
  | plus zeros n =>
    rw [IntRange.readInt?, readDigits?_decimal]
    rfl
  | minus zeros n =>
    rw [IntRange.readInt?, if_pos signed, readDigits?_decimal]
    rfl

/-- An integer that is a value is read from all texts that write it. -/
lemma read?_eq {m : IntRange.value.Member} (h : WritesInt cs m.val) :
    IntRange.value.read? cs = some m := by
  rw [IntRange.read?, h.readInt?_eq (by decide), Option.bind_some]
  exact dif_pos m.property

end WritesInt

end Number

/-- The label of an integer writes it. -/
lemma Value.writesInt_intText (n : Int) : WritesInt (intText n).toList n := by
  have digits (n : Nat) : (digitText n).toList = decimal 0 n := String.toList_ofList
  rw [intText, String.toList_append, digits]
  cases n with
  | ofNat n => exact .plain 0 n
  | negSucc n =>
    rw [if_pos (Int.negSucc_lt_zero n)]
    exact .minus 0 (n + 1)

end Sift
