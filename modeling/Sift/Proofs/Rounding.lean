import Mathlib.Algebra.Order.Field.Basic
import Mathlib.Data.Rat.Cast.Order
import Mathlib.Tactic.Lemma
import Mathlib.Tactic.Ring
import Sift.Number.Decimal

/-!
# Rounding

A fraction that is a number of a format is rounded to this number (`Binary.ofRatio_of_size`): the
exponent that it is rounded at is the number's own. A format has the numbers of another if it has
their bits and their exponents (`Format.Extends`), and then no number is lost on the way there and
back (`Binary.convert_convert`).
-/

namespace Sift.Number

/-- Scaling a fraction down leaves a fraction with the value divided by the power of two. -/
lemma scaleDown_two (num : Nat) {den : Nat} (pos : 0 < den) (e : Int) :
    0 < (scaleDown 2 num den e).2 ∧
      ((scaleDown 2 num den e).1 : ℚ) / (scaleDown 2 num den e).2 = num / den / 2 ^ e := by
  have power (k : Nat) : 0 < Nat.pow 2 k := Nat.two_pow_pos k
  rw [scaleDown]
  split
  · next nonneg =>
    obtain ⟨k, rfl⟩ := Int.eq_ofNat_of_zero_le nonneg
    refine ⟨Nat.mul_pos pos (power _), ?_⟩
    simp only [Int.toNat_natCast, zpow_natCast, Nat.pow_eq]
    push_cast
    rw [div_div]
  · next negative =>
    obtain ⟨k, rfl⟩ := Int.exists_eq_neg_ofNat (Int.le_of_lt (Int.not_le.1 negative))
    refine ⟨pos, ?_⟩
    simp only [Int.neg_neg, Int.toNat_natCast, zpow_neg, zpow_natCast, Nat.pow_eq, div_inv_eq_mul]
    push_cast
    ring

/-- The power of two of a positive fraction. -/
lemma floorLog2_spec {num den : Nat} (num_pos : 0 < num) (den_pos : 0 < den) :
    (2 : ℚ) ^ floorLog2 num den ≤ num / den ∧
      (num : ℚ) / den < 2 ^ (floorLog2 num den + 1) := by
  have den_pos' : (0 : ℚ) < den := Nat.cast_pos.2 den_pos
  have two_pow (k : Int) : (0 : ℚ) < 2 ^ k := zpow_pos two_pos k
  have low {n : Nat} (pos : 0 < n) : (2 : ℚ) ^ (n.log2 : Int) ≤ n := by
    rw [zpow_natCast]
    exact_mod_cast Nat.log2_self_le pos.ne'
  have high (n : Nat) : (n : ℚ) < 2 ^ ((n.log2 : Int) + 1) := by
    exact_mod_cast @Nat.lt_log2_self n
  have above : (2 : ℚ) ^ ((num.log2 : Int) - den.log2 - 1) < num / den := by
    rw [lt_div_iff₀ den_pos', sub_sub]
    calc (2 : ℚ) ^ ((num.log2 : Int) - (den.log2 + 1)) * den
        < 2 ^ ((num.log2 : Int) - (den.log2 + 1)) * 2 ^ ((den.log2 : Int) + 1) :=
          mul_lt_mul_of_pos_left (high den) (two_pow _)
      _ = 2 ^ (num.log2 : Int) := by rw [← zpow_add₀ two_ne_zero, sub_add_cancel]
      _ ≤ num := low num_pos
  have below : (num : ℚ) / den < 2 ^ ((num.log2 : Int) - den.log2 + 1) := by
    rw [div_lt_iff₀ den_pos']
    calc (num : ℚ)
        < 2 ^ ((num.log2 : Int) + 1) := high num
      _ = 2 ^ ((num.log2 : Int) - den.log2 + 1) * 2 ^ (den.log2 : Int) := by
          rw [← zpow_add₀ two_ne_zero]
          congr 1
          ring
      _ ≤ 2 ^ ((num.log2 : Int) - den.log2 + 1) * den :=
          mul_le_mul_of_nonneg_left (low den_pos) (two_pow _).le
  -- the difference of the logarithms is the exponent or one more than it, as one comparison tells
  obtain ⟨pos, scaled⟩ := scaleDown_two num den_pos ((num.log2 : Int) - den.log2)
  have compared : (scaleDown 2 num den (num.log2 - den.log2)).2 ≤
      (scaleDown 2 num den (num.log2 - den.log2)).1 ↔
        (2 : ℚ) ^ ((num.log2 : Int) - den.log2) ≤ num / den := by
    rw [← one_le_div (two_pow _), ← scaled, one_le_div (Nat.cast_pos.2 pos), Nat.cast_le]
  rw [floorLog2]
  dsimp only
  split
  · next le => exact ⟨compared.1 le, below⟩
  · next lt =>
    refine ⟨above.le, ?_⟩
    rw [sub_add_cancel]
    exact not_le.1 (mt compared.2 lt)

/-- A quotient without a remainder is not rounded. -/
lemma roundQuotient_mul (q : Nat) {d : Nat} (pos : 0 < d) : roundQuotient (q * d) d = q := by
  rw [roundQuotient, Nat.mul_div_cancel q pos, Nat.mul_mod_left]
  exact if_pos pos

namespace Binary

variable {f : Format}

/-- The value of a finite number without its sign. -/
def size (x : Binary f) : ℚ := x.significand * 2 ^ x.exponent

/-- The bits without the sign are those of the exponent and those of the fraction. -/
lemma magnitude_eq (x : Binary f) :
    x.magnitude.toNat = x.exponentField * 2 ^ f.fractionBits + x.fractionField := by
  rw [exponentField, fractionField, Nat.pow_eq]
  exact (Nat.div_add_mod' _ _).symm

/-- The fraction fits into its bits. -/
lemma fractionField_lt (x : Binary f) : x.fractionField < 2 ^ f.fractionBits :=
  Nat.mod_lt _ (Nat.two_pow_pos _)

/-- Above the smallest numbers the significand has its leading bit. -/
lemma significand_bounds (x : Binary f) :
    x.significand < 2 ^ (f.fractionBits + 1) ∧
      (x.exponentField = 0 ∧ x.significand < 2 ^ f.fractionBits ∨
        x.exponentField ≠ 0 ∧ 2 ^ f.fractionBits ≤ x.significand) := by
  have fraction := x.fractionField_lt
  rw [significand, pow_succ, Nat.pow_eq]
  split <;> omega

/-- The bits of a number are made of its exponent and its significand. -/
lemma bits_eq (x : Binary f) :
    (x.exponent - f.leastExponent).toNat * 2 ^ f.fractionBits + x.significand =
      x.magnitude.toNat := by
  rw [magnitude_eq, exponent, significand, Nat.pow_eq, add_sub_cancel_left, Int.toNat_natCast]
  cases x.exponentField with
  | zero => simp
  | succ k => rw [if_neg k.succ_ne_zero, Nat.add_sub_cancel, Nat.succ_mul, add_assoc]

/-- A number with a short significand is below the power of two that its bits reach. -/
lemma size_lt {x : Binary f} {k : Nat} (lt : x.significand < 2 ^ k) :
    x.size < 2 ^ ((k : Int) + x.exponent) := by
  rw [size, zpow_add₀ two_ne_zero, zpow_natCast]
  exact mul_lt_mul_of_pos_right (by exact_mod_cast lt) (zpow_pos two_pos _)

/-- A number with a long significand is at least the power of two that its bits reach. -/
lemma le_size {x : Binary f} {k : Nat} (le : 2 ^ k ≤ x.significand) :
    2 ^ ((k : Int) + x.exponent) ≤ x.size := by
  rw [size, zpow_add₀ two_ne_zero, zpow_natCast]
  exact mul_le_mul_of_nonneg_right (by exact_mod_cast le) (zpow_pos two_pos _).le

/-- The exponent that a positive number is rounded at is its own. -/
lemma exponent_eq {x : Binary f} {num den : Nat} (num_pos : 0 < num) (den_pos : 0 < den)
    (size : (num : ℚ) / den = x.size) :
    max (floorLog2 num den - f.fractionBits) f.leastExponent = x.exponent := by
  obtain ⟨low, high⟩ := floorLog2_spec num_pos den_pos
  rw [size] at low high
  have least : x.exponent = f.leastExponent + (x.exponentField - 1 : Nat) := rfl
  obtain ⟨lt, ⟨smallest, small⟩ | ⟨-, le⟩⟩ := x.significand_bounds
  · have below := (zpow_lt_zpow_iff_right₀ one_lt_two).1 (low.trans_lt (size_lt small))
    omega
  · have below := (zpow_lt_zpow_iff_right₀ one_lt_two).1 (low.trans_lt (size_lt lt))
    have above := (zpow_lt_zpow_iff_right₀ one_lt_two).1 ((le_size le).trans_lt high)
    push_cast at below
    omega

/-- A number is given by its bits, whatever the sign. -/
lemma ofMagnitude_toNat (x : Binary f) (negative : Bool) :
    ofMagnitude f negative x.magnitude.toNat = ⟨negative, x.magnitude⟩ := by
  rw [ofMagnitude, BitVec.ofNat_toNat, BitVec.setWidth_eq]

/-- Rounding does not change a number of the format. -/
lemma ofRatio_of_size {x : Binary f} (finite : x.isFinite = true) {num den : Nat}
    (den_pos : 0 < den) (size : (num : ℚ) / den = x.size) (negative : Bool) :
    ofRatio f negative num den = ⟨negative, x.magnitude⟩ := by
  have same := ofMagnitude_toNat x negative
  have two_pow : (2 : ℚ) ^ x.exponent ≠ 0 := (zpow_pos two_pos _).ne'
  rw [ofRatio]
  split
  · next zero =>
    rw [zero, Nat.cast_zero, zero_div, Binary.size] at size
    have nothing : x.significand = 0 := by
      exact_mod_cast (mul_eq_zero.1 size.symm).resolve_right two_pow
    obtain ⟨-, ⟨smallest, -⟩ | ⟨-, le⟩⟩ := x.significand_bounds
    · have bits := x.bits_eq
      rw [exponent, smallest] at bits
      rw [Binary.zero, ← same, ← bits, nothing]
      simp
    · have pos := Nat.two_pow_pos f.fractionBits
      omega
  · next num_ne =>
    have num_pos : 0 < num := Nat.pos_of_ne_zero num_ne
    obtain ⟨pos, scaled⟩ := scaleDown_two num den_pos x.exponent
    -- At its own exponent the quotient is the significand, and nothing is left to round.
    have quotient : (scaleDown 2 num den x.exponent).1 =
        x.significand * (scaleDown 2 num den x.exponent).2 := by
      rw [size, Binary.size, mul_div_cancel_right₀ _ two_pow,
        div_eq_iff (Nat.cast_pos.2 pos).ne'] at scaled
      exact_mod_cast scaled
    rw [exponent_eq num_pos den_pos size]
    dsimp only
    rw [quotient, roundQuotient_mul _ pos, Nat.pow_eq, bits_eq, same]
    exact if_neg (Nat.not_le.2 (of_decide_eq_true finite))

/-- Behind infinity there are as many bit patterns as fractions. -/
lemma infinityBits_add (f : Format) : f.infinityBits + 2 ^ f.fractionBits = 2 ^ f.magnitudeBits := by
  have pos := Nat.two_pow_pos f.exponentBits
  rw [Format.infinityBits, Format.magnitudeBits, pow_add, Nat.pow_eq, Nat.pow_eq, Nat.sub_one_mul]
  exact Nat.sub_add_cancel (Nat.le_mul_of_pos_left _ pos)

/-- The bits of infinity fit into a number. -/
lemma infinityBits_lt (f : Format) : f.infinityBits < 2 ^ f.magnitudeBits := by
  rw [← infinityBits_add]
  exact Nat.lt_add_of_pos_right (Nat.two_pow_pos _)

/-- Bits that fit are kept. -/
lemma toNat_ofMagnitude {negative : Bool} {m : Nat} (lt : m < 2 ^ f.magnitudeBits) :
    (ofMagnitude f negative m).magnitude.toNat = m := by
  rw [ofMagnitude, BitVec.toNat_ofNat, Nat.mod_eq_of_lt lt]

/-- A significand at the least exponent, or one with its leading bit at another exponent, makes a
number, if it is not too large. -/
lemma exists_of_bits (f : Format) (negative : Bool) {k m : Nat} (large : k + 3 ≤ 2 ^ f.exponentBits)
    (lt : m < 2 ^ (f.fractionBits + 1)) (normal : k = 0 ∨ 2 ^ f.fractionBits ≤ m) :
    ∃ y : Binary f, y.isFinite = true ∧ y.negative = negative ∧
      y.size = m * 2 ^ (f.leastExponent + k) := by
  have pos := Nat.two_pow_pos f.fractionBits
  have finite : k * 2 ^ f.fractionBits + m < f.infinityBits := by
    have room : (k + 2) * 2 ^ f.fractionBits ≤ f.infinityBits :=
      Nat.mul_le_mul_right _ (Nat.le_sub_of_add_le large)
    rw [pow_succ] at lt
    rw [add_mul] at room
    omega
  have bits : (ofMagnitude f negative (k * 2 ^ f.fractionBits + m)).magnitude.toNat =
      k * 2 ^ f.fractionBits + m := toNat_ofMagnitude (finite.trans (infinityBits_lt f))
  refine ⟨ofMagnitude f negative (k * 2 ^ f.fractionBits + m), ?_, rfl, ?_⟩
  · exact decide_eq_true (bits.trans_lt finite)
  · rw [size, significand, exponent, exponentField, fractionField, bits, Nat.pow_eq]
    rcases lt_or_ge m (2 ^ f.fractionBits) with small | leading
    · obtain rfl : k = 0 := normal.resolve_right (Nat.not_le.2 small)
      simp [Nat.div_eq_of_lt small, Nat.mod_eq_of_lt small]
    · obtain ⟨rest, rfl⟩ := Nat.exists_eq_add_of_le leading
      have rest_lt : rest < 2 ^ f.fractionBits := by
        rw [pow_succ] at lt
        omega
      have split : k * 2 ^ f.fractionBits + (2 ^ f.fractionBits + rest) =
          rest + 2 ^ f.fractionBits * (k + 1) := by ring
      rw [split, Nat.add_mul_div_left _ _ pos, Nat.add_mul_mod_self_left, Nat.div_eq_of_lt rest_lt,
        Nat.mod_eq_of_lt rest_lt, Nat.zero_add, if_neg k.succ_ne_zero, Nat.add_sub_cancel]

/-- What is no finer than the numbers of a format, has no more bits and is not too large is one of
them. -/
lemma exists_of_significand (f : Format) (negative : Bool) {k m : Nat}
    (large : k + 3 ≤ 2 ^ f.exponentBits) (lt : m < 2 ^ (f.fractionBits + 1)) :
    ∃ y : Binary f, y.isFinite = true ∧ y.negative = negative ∧
      y.size = m * 2 ^ (f.leastExponent + k) := by
  -- Without its leading bit the significand is doubled, at the exponent below.
  induction k generalizing m with
  | zero => exact exists_of_bits f negative large lt (.inl rfl)
  | succ k ih =>
    rcases lt_or_ge m (2 ^ f.fractionBits) with small | leading
    · obtain ⟨y, finite, sign, size⟩ := ih (m := 2 * m) (by omega) (by rw [pow_succ]; omega)
      refine ⟨y, finite, sign, ?_⟩
      rw [size, Nat.cast_succ, ← add_assoc, zpow_add_one₀ two_ne_zero]
      push_cast
      ring
    · exact exists_of_bits f negative large lt (.inr leading)

end Binary

/-- A format that has the numbers of another. -/
structure Format.Extends (g f : Format) : Prop where
  fraction_pos : 0 < f.fractionBits
  exponent_two : 2 ≤ f.exponentBits
  fraction_le : f.fractionBits ≤ g.fractionBits
  least_le : g.leastExponent ≤ f.leastExponent
  greatest_le : f.leastExponent + (2 ^ f.exponentBits : Nat) ≤
    g.leastExponent + (2 ^ g.exponentBits : Nat)

/-- Both formats are part of the one of 64 bits. -/
lemma Format.Extends.double {f : Format} (h : f = .single ∨ f = .double) : Extends .double f := by
  rcases h with rfl | rfl <;> constructor <;> decide

namespace Binary

variable {f g : Format} {x : Binary f}

/-- No finite number is the one that is not a number. -/
lemma isNaN_of_isFinite (finite : x.isFinite = true) : x.isNaN = false :=
  decide_eq_false (Nat.not_lt.2 (of_decide_eq_true finite).le)

/-- No finite number is infinite. -/
lemma isInfinite_of_isFinite (finite : x.isFinite = true) : x.isInfinite = false :=
  beq_false_of_ne (of_decide_eq_true finite).ne

/-- A finite number becomes the number of the other format that has its sign and its size, if there
is one. -/
lemma convert_eq (finite : x.isFinite = true) {y : Binary g} (finite' : y.isFinite = true)
    (sign : y.negative = x.negative) (size : y.size = x.size) : x.convert g = y := by
  obtain ⟨pos, scaled⟩ := scaleDown_two x.significand one_pos (-x.exponent)
  have ratio : ((scaleDown 2 x.significand 1 (-x.exponent)).1 : ℚ) /
      (scaleDown 2 x.significand 1 (-x.exponent)).2 = y.size := by
    rw [scaled, size, Binary.size, Nat.cast_one, div_one, zpow_neg, div_inv_eq_mul]
  rw [convert, isNaN_of_isFinite finite, isInfinite_of_isFinite finite]
  dsimp only
  rw [if_neg Bool.false_ne_true, if_neg Bool.false_ne_true,
    ofRatio_of_size finite' pos ratio x.negative, ← sign]

/-- The larger format has every finite number of the smaller one. -/
lemma exists_of_extends (ext : g.Extends f) (finite : x.isFinite = true) :
    ∃ y : Binary g, y.isFinite = true ∧ y.negative = x.negative ∧ y.size = x.size := by
  have below : x.exponentField < 2 ^ f.exponentBits - 1 :=
    (Nat.div_lt_iff_lt_mul (Nat.two_pow_pos _)).2 (of_decide_eq_true finite)
  have four : 2 ^ 2 ≤ 2 ^ f.exponentBits := Nat.pow_le_pow_right two_pos ext.exponent_two
  have greatest := ext.greatest_le
  have least := ext.least_le
  have exponent : x.exponent = f.leastExponent + (x.exponentField - 1 : Nat) := rfl
  obtain ⟨k, above⟩ : ∃ k : Nat, x.exponent = g.leastExponent + k :=
    ⟨(x.exponent - g.leastExponent).toNat, by omega⟩
  have large : k + 3 ≤ 2 ^ g.exponentBits := by omega
  have lt : x.significand < 2 ^ (g.fractionBits + 1) :=
    x.significand_bounds.1.trans_le
      (Nat.pow_le_pow_right two_pos (Nat.succ_le_succ ext.fraction_le))
  rw [size, above]
  exact exists_of_significand g x.negative large lt

/-- Every number is finite, infinite or not a number. -/
lemma isFinite_or (x : Binary f) :
    x.isFinite = true ∨ x.magnitude.toNat = f.infinityBits ∨ x.isNaN = true := by
  rcases lt_trichotomy x.magnitude.toNat f.infinityBits with lt | eq | gt
  · exact .inl (decide_eq_true lt)
  · exact .inr (.inl eq)
  · exact .inr (.inr (decide_eq_true gt))

/-- Infinity becomes infinity. -/
lemma convert_infinity (negative : Bool) :
    (infinity f negative).convert g = infinity g negative := by
  have bits : (infinity f negative).magnitude.toNat = f.infinityBits :=
    toNat_ofMagnitude (infinityBits_lt f)
  have number : (infinity f negative).isNaN = false :=
    decide_eq_false (by rw [bits]; exact lt_irrefl _)
  have infinite : (infinity f negative).isInfinite = true := by
    rw [isInfinite, bits, beq_self_eq_true]
  rw [convert, number, infinite, if_neg Bool.false_ne_true, if_pos rfl]
  rfl

/-- What is not a number becomes what is not a number. -/
lemma convert_nan (fraction_pos : 0 < f.fractionBits) : (nan f).convert g = nan g := by
  have below : f.infinityBits + 2 ^ (f.fractionBits - 1) < 2 ^ f.magnitudeBits := by
    rw [← infinityBits_add]
    exact Nat.add_lt_add_left (Nat.pow_lt_pow_right one_lt_two (Nat.sub_lt fraction_pos one_pos)) _
  have bits : (nan f).magnitude.toNat = f.infinityBits + 2 ^ (f.fractionBits - 1) :=
    toNat_ofMagnitude below
  have notNumber : (nan f).isNaN = true :=
    decide_eq_true (by rw [bits]; exact Nat.lt_add_of_pos_right (Nat.two_pow_pos _))
  rw [convert, if_pos notNumber]

/-- A number that is converted to a larger format is got back, and so is the value that is not a
number. -/
lemma convert_convert (ext : g.Extends f) (plain : x.isNaN = true → x = nan f) :
    (x.convert g).convert f = x := by
  rcases x.isFinite_or with finite | infinite | notNumber
  · obtain ⟨y, finite', sign, size⟩ := exists_of_extends ext finite
    rw [convert_eq finite finite' sign size, convert_eq finite' finite sign.symm size.symm]
  · have same : x = infinity f x.negative := by
      rw [infinity, ← infinite, ofMagnitude_toNat]
    rw [same, convert_infinity, convert_infinity]
  · have fraction_pos := ext.fraction_pos
    rw [plain notNumber, convert_nan fraction_pos,
      convert_nan (fraction_pos.trans_le ext.fraction_le)]

section Reading

variable {negative : Bool}

/-- What is not above infinity is a number. -/
lemma isNaN_ofMagnitude {m : Nat} (le : m ≤ f.infinityBits) :
    (ofMagnitude f negative m).isNaN = false := by
  have bound : (BitVec.ofNat f.magnitudeBits m).toNat ≤ m := by
    rw [BitVec.toNat_ofNat]
    exact Nat.mod_le m _
  exact decide_eq_false (Nat.not_lt.2 (Nat.le_trans bound le))

/-- A fraction is rounded to a number. -/
lemma isNaN_ofRatio (num den : Nat) : (ofRatio f negative num den).isNaN = false := by
  unfold ofRatio
  split
  · exact isNaN_ofMagnitude (Nat.zero_le _)
  · dsimp only
    split
    · exact isNaN_ofMagnitude (Nat.le_refl _)
    · next below => exact isNaN_ofMagnitude (Nat.le_of_not_le below)

/-- Digits write a number. -/
lemma isNaN_ofDecimal (digits : Nat) (e : Int) : (ofDecimal f negative digits e).isNaN = false := by
  unfold ofDecimal
  dsimp only
  split
  · exact isNaN_ofMagnitude (Nat.zero_le _)
  · split
    · exact isNaN_ofMagnitude (Nat.le_refl _)
    · exact isNaN_ofRatio _ _

/-- Of the named values only `nan` is not a number. -/
lemma plain_of_readName? {cs : List Char} (read : readName? f negative cs = some x)
    (notNumber : x.isNaN = true) : x = nan f := by
  rw [readName?] at read
  dsimp only at read
  split at read
  · cases read
    rw [infinity, isNaN_ofMagnitude (le_refl _)] at notNumber
    cases notNumber
  · split at read
    · exact (Option.some.inj read).symm
    · cases read

/-- A text that writes no number writes the one value that is not a number. -/
lemma plain_of_read? {cs : List Char} (read : Binary.read? f cs = some x)
    (notNumber : x.isNaN = true) : x = nan f := by
  unfold Binary.read? at read
  dsimp only at read
  split at read
  · cases read
    rw [isNaN_ofDecimal] at notNumber
    cases notNumber
  · exact plain_of_readName? read notNumber

end Reading

end Binary

end Sift.Number
