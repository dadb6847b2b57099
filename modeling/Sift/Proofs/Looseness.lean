import Sift.Proofs.Collation
import Sift.Proofs.Relations
import Sift.Proofs.Rounding

/-!
# Loose equality

Values that are the same are equal where values of all types are compared, unless they are texts
that write the value which is not a number: such a text is taken for that value, which has no order
to anything (`Value.looseEquals_iff_of_same`). Where it is read, it stays a text, so that a clause
can ask for it, but an equation with it is never true (`same_values_are_equal`).
-/

namespace Sift

open Number Text

variable {κ ε : Type}

namespace Number

/-- A text that writes the value which is not a number: its name, in any case of letters, behind at
most one sign. -/
inductive WritesNaN : List Char → Prop where
  | name {cs} :
    equalIgnoringAsciiCase cs "nan".toList = true →
    WritesNaN cs
  | minus {cs} :
    equalIgnoringAsciiCase cs "nan".toList = true →
    WritesNaN ('-' :: cs)
  | plus {cs} :
    equalIgnoringAsciiCase cs "nan".toList = true →
    WritesNaN ('+' :: cs)

namespace Binary

variable {f : Format} {negative : Bool}

/-- A value that is not a number has no order, and a number is equal to itself. -/
lemma compare?_self (x : Binary f) : x.compare? x = if x.isNaN then none else some .eq := by
  rw [compare?, Bool.or_self]
  split
  · rfl
  · simp

/-- The number that a text behind a sign writes. -/
def readBehind (f : Format) (negative : Bool) (cs : List Char) : Option (Binary f) :=
  match readUnsigned? cs with
  | some (digits, e) => some (.ofDecimal f negative digits e)
  | none => readName? f negative cs

/-- A number is read behind its sign, if it has one. -/
lemma exists_readBehind (cs : List Char) :
    ∃ negative rest, read? f cs = readBehind f negative rest ∧
      (cs = rest ∨ cs = '-' :: rest ∨ cs = '+' :: rest) := by
  unfold read?
  split
  next negative rest split =>
    refine ⟨negative, rest, rfl, ?_⟩
    split at split
    · cases split
      exact .inr (.inl rfl)
    · cases split
      exact .inr (.inr rfl)
    · cases split
      exact .inl rfl

end Binary

/-- A text that begins neither with a digit nor with a point has no digits to be read. -/
lemma readUnsigned?_of_ne {c : Char} (digit : c.isDigit = false) (point : c ≠ '.') (cs : List Char) :
    readUnsigned? (c :: cs) = none := by
  simp [readUnsigned?, splitDigits, digit, point]

/-- However `nan` is written, it begins with its first letter. -/
lemma exists_of_equal_nan {cs : List Char} (h : equalIgnoringAsciiCase cs "nan".toList = true) :
    ∃ c later, cs = c :: later ∧ (c = 'n' ∨ c = 'N') := by
  obtain ⟨c, later, rfl, letter, -⟩ := List.map_eq_cons_iff.1 (beq_iff_eq.1 h)
  exact ⟨c, later, rfl, eq_or_eq_of_toLower rfl letter⟩

/-- The name of the value that is not a number is that value, and nothing else is. -/
lemma readBehind_isNaN_iff {negative : Bool} {cs : List Char} :
    (∃ x, Binary.readBehind .double negative cs = some x ∧ x.isNaN = true) ↔
      equalIgnoringAsciiCase cs "nan".toList = true := by
  constructor
  · rintro ⟨x, read, nan⟩
    unfold Binary.readBehind at read
    split at read
    · cases read
      rw [Binary.isNaN_ofDecimal] at nan
      cases nan
    · unfold readName? at read
      dsimp only at read
      split at read
      · cases read
        have number : (Binary.infinity .double negative).isNaN = false :=
          Binary.isNaN_ofMagnitude (Nat.le_refl _)
        rw [number] at nan
        cases nan
      · split at read
        · next name => exact name
        · cases read
  · intro name
    have digits : readUnsigned? cs = none := by
      obtain ⟨c, later, rfl, rfl | rfl⟩ := exists_of_equal_nan name
      · exact readUnsigned?_of_ne rfl (by decide) later
      · exact readUnsigned?_of_ne rfl (by decide) later
    -- the names of infinity are tried before `nan`, and are none of its spellings
    have other (name' : String) (ne : "nan".toList ≠ name'.toList.map Char.toLower) :
        equalIgnoringAsciiCase cs name'.toList = false := by
      have small : cs.map Char.toLower = "nan".toList := beq_iff_eq.1 name
      rw [equalIgnoringAsciiCase, small]
      exact beq_false_of_ne ne
    refine ⟨.nan .double, ?_, by decide +kernel⟩
    rw [Binary.readBehind, digits]
    simp only [readName?, name, other "inf" (by decide), other "infinity" (by decide)]
    rfl

/-- A text is read as the value that is not a number if it writes it. -/
lemma read?_isNaN_iff {cs : List Char} :
    (∃ x, Binary.read? .double cs = some x ∧ x.isNaN = true) ↔ WritesNaN cs := by
  constructor
  · intro nan
    obtain ⟨negative, rest, same, signed⟩ := Binary.exists_readBehind (f := .double) cs
    rw [same, readBehind_isNaN_iff] at nan
    rcases signed with rfl | rfl | rfl
    · exact .name nan
    · exact .minus nan
    · exact .plus nan
  · intro writes
    cases writes with
    | name name =>
      obtain ⟨c, later, rfl, rfl | rfl⟩ := exists_of_equal_nan name
      · exact readBehind_isNaN_iff.2 name
      · exact readBehind_isNaN_iff.2 name
    | minus name => exact readBehind_isNaN_iff.2 name
    | plus name => exact readBehind_isNaN_iff.2 name

/-- What writes NaN is no integer. -/
lemma WritesNaN.readInteger? {cs : List Char} (writes : WritesNaN cs) :
    IntRange.value.read? cs = none := by
  have digits {cs : List Char} (h : equalIgnoringAsciiCase cs "nan".toList = true) :
      readDigits? cs = none := by
    obtain ⟨c, later, rfl, rfl | rfl⟩ := exists_of_equal_nan h
    · rfl
    · rfl
  cases writes with
  | name name =>
    have none := digits name
    obtain ⟨c, later, rfl, rfl | rfl⟩ := exists_of_equal_nan name
    · simp [IntRange.read?, IntRange.readInt?, none]
    · simp [IntRange.read?, IntRange.readInt?, none]
  | minus name => simp [IntRange.read?, IntRange.readInt?, digits name]
  | plus name => simp [IntRange.read?, IntRange.readInt?, digits name]

end Number

namespace Value

/-- Whether a value is a text that writes the value which is not a number. -/
def WritesNaN : Value κ → Prop
  | string s => Number.WritesNaN (trim s.toList)
  | _ => False

variable {a b : Value κ}

/-- Values that are the same are loosely equal, unless they write the value that is not a number. -/
lemma looseEquals_iff_of_same (same : a.same b = true) (cmp : Comparison) :
    a.looseEquals cmp b = true ↔ ¬a.WritesNaN := by
  rw [looseEquals, beq_iff_eq]
  match a, b, same with
  | .string s, .string t, same =>
    cases beq_iff_eq.1 same
    rw [WritesNaN, ← read?_isNaN_iff]
    cases read : Binary.read? .double (trim s.toList) with
    | none => simp [looseCompare, numeric?, label, read, cmp.isTextOrder_compare.refl]
    | some x => simp [looseCompare, numeric?, read, Binary.compare?_self]
  | .int m, .int n, same =>
    cases beq_iff_eq.1 same
    show some (Ord.compare m m) = some .eq ↔ ¬False
    simp
  | .float x, .float y, same =>
    show x.compare? y = some .eq ↔ ¬False
    simp [beq_iff_eq.1 same]
  | .bool p, .bool q, same =>
    cases beq_iff_eq.1 same
    show some (Ord.compare p p) = some .eq ↔ ¬False
    simp
  | .custom c, .custom d, same =>
    have labels : c.label = d.label := beq_iff_eq.1 (Bool.and_eq_true_iff.1 same).2
    show some (cmp.compare c.label d.label) = some .eq ↔ ¬False
    simp [labels, cmp.isTextOrder_compare.refl]

/-- A text that writes the value which is not a number is read as the text that it is. -/
lemma ofText_of_writesNaN {raw : String} (writes : (string raw : Value κ).WritesNaN) :
    (ofText raw : Value κ) = .string raw := by
  have writes : Number.WritesNaN (trim raw.toList) := writes
  obtain ⟨x, float, nan⟩ := read?_isNaN_iff.2 writes
  have infinite : x.isFinite = false := by
    have above : Format.double.infinityBits < x.magnitude.toNat := of_decide_eq_true nan
    exact decide_eq_false (Nat.not_lt.2 (Nat.le_of_lt above))
  have bool : readBool? (trim raw.toList) = none := by
    cases bool : readBool? (trim raw.toList) with
    | none => rfl
    | some b =>
      rw [readFloat?_of_readBool? bool] at float
      cases float
  simp only [ofText, writes.readInteger?, float, Option.filter_some, infinite, bool]
  rfl

end Value

namespace Relation

variable {r : Relation} {a b : Value κ}

/-- Equations ask whether two things are equal in their order. -/
lemma holds_of_equation (equation : r = eq ∨ r = ne) (order : Option Ordering) :
    r.holds order = if order = some .eq then r == eq else r == ne := by
  rcases equation with rfl | rfl <;> rcases order with - | - | - | - <;> rfl

/-- Values that are the same are told to be equal, unless they write the value that is not a
number. -/
lemma call_of_same (equation : r = eq ∨ r = ne) (same : a.same b = true) (cmp : Comparison) :
    (¬a.WritesNaN → r.looseHandler.call a b cmp = (r == eq)) ∧
      (a.WritesNaN → r.looseHandler.call a b cmp = (r == ne)) := by
  have apart : r ≠ contains := by
    rcases equation with rfl | rfl <;> decide
  have equal := Value.looseEquals_iff_of_same same cmp
  rw [Value.looseEquals, beq_iff_eq] at equal
  rw [call_looseHandler apart, holds_of_equation equation]
  constructor
  · intro number
    rw [if_pos (equal.2 number)]
  · intro nan
    rw [if_neg fun order => equal.1 order nan]

end Relation

/-- Values that are the same are loosely equal, except for texts that write the value which is not a
number. Those are read as texts. So where a filter reads a text from an element, and the value of a
clause is read as the same text, the element is equal to it, or else different from it, according to
what the text writes. -/
theorem same_values_are_equal :
    (∀ (cmp : Comparison) (a b : Value κ), a.same b = true →
      (a.looseEquals cmp b = true ↔ ¬a.WritesNaN)) ∧
    (∀ raw : String, (Value.string raw : Value κ).WritesNaN → (.ofText raw : Value κ) = .string raw) ∧
    ∀ (e : Engine κ ε) (text : String) (c : Clause) (f : Filter κ ε) (r : Relation)
      (get : ε → Option (Value κ) → Except String (Value κ)) (param? : Option (Value κ))
      (raw : String),
      e.outline text = .term (.clause c) .done → String.ofList (unquote c.value) = raw →
      f.type = .object → r = .eq ∨ r = .ne → e.Poses c f r.operator get param? →
      e.inferValue? r.operator .object raw = some (.string raw) →
        (e.query text).isValid = true ∧
        ∀ x, get x param? = .ok (.string raw) →
          (¬(Value.string raw : Value κ).WritesNaN → (e.query text).test x = .ok (r == .eq)) ∧
          ((Value.string raw : Value κ).WritesNaN → (e.query text).test x = .ok (r == .ne)) := by
  refine ⟨fun cmp a b same => Value.looseEquals_iff_of_same same cmp,
    fun raw => Value.ofText_of_writesNaN, ?_⟩
  intro e text c f r get param? raw alone written object equation poses read
  have specific := (Value.string (κ := κ) raw).type_ne_object
  have same : (Value.string raw : Value κ).same (.string raw) = true := beq_self_eq_true raw
  obtain ⟨number, nan⟩ := Relation.call_of_same equation same
    (f.comparison?.getD e.options.comparison)
  rw [← object] at read
  subst written
  obtain ⟨valid, test⟩ := poses.query_of_clause alone read
  refine ⟨valid, fun x got => ?_⟩
  rw [test x _ got, object, Relation.handlerFor_of_ne r specific.symm specific]
  exact ⟨fun writes => congrArg _ (number writes), fun writes => congrArg _ (nan writes)⟩

namespace Engine

/-- An engine over texts, with a filter for values of all types. -/
def texts : Engine Empty String where
  filters := [.get .object "t" .string]

/-- The engine of the example comes about by calls. -/
lemma reachable_texts : texts.Reachable := by
  have registered : (Engine.withOptions {}).registerFilter (.get .object "t" .string) = .ok texts :=
    rfl
  exact .step (.withOptions {}) (.registerFilter _ registered)

/-- The clause that compares an element with a text. -/
def textClause (operator raw : String) : Clause := ⟨0, ['t'], none, operator.toList, raw.toList⟩

/-- The clauses of the example compare a text. -/
lemma poses_textClause (r : Relation) (raw : String) :
    texts.Poses (textClause r.token raw) (.get .object "t" .string) r.operator
      (fun s _ => .ok (.string s)) none := by
  have operator : String.ofList (textClause r.token raw).operator = r.token := String.ofList_toList
  have token : lowercaseString (String.ofList (textClause r.token raw).token) = "t" := by
    show lowercaseString (String.ofList ['t']) = "t"
    decide +kernel
  refine ⟨?_, rfl, ?_, rfl, rfl⟩
  · rw [token]
    rfl
  · rw [operator]
    cases r <;> rfl

end Engine

/-- A name is equal to itself. -/
theorem equation_of_text :
    Engine.texts.Reachable ∧
      ((Value.string "ant" : Value Empty).same (.string "ant") = true) ∧
      (Value.string "ant" : Value Empty).looseEquals .caseSensitive (.string "ant") = true ∧
      (Engine.texts.query "t=ant").isValid = true ∧
      (Engine.texts.query "t=ant").test "ant" = .ok true ∧
      (Engine.texts.query "t!=ant").test "ant" = .ok false := by
  obtain ⟨same, -, equations⟩ := same_values_are_equal (κ := Empty) (ε := String)
  have number : ¬(Value.string "ant" : Value Empty).WritesNaN := by
    intro writes
    have writes : Number.WritesNaN "ant".toList := writes
    obtain ⟨x, read, -⟩ := read?_isNaN_iff.2 writes
    cases read
  have eq := equations Engine.texts "t=ant" (Engine.textClause "=" "ant") _ .eq _ none "ant"
    (Engine.outline_of_first (by decide) (by decide +kernel)) rfl rfl (.inl rfl)
    (Engine.poses_textClause .eq "ant") rfl
  have ne := equations Engine.texts "t!=ant" (Engine.textClause "!=" "ant") _ .ne _ none "ant"
    (Engine.outline_of_first (by decide) (by decide +kernel)) rfl rfl (.inr rfl)
    (Engine.poses_textClause .ne "ant") rfl
  exact ⟨Engine.reachable_texts, rfl, (same _ _ _ rfl).2 number, eq.1, (eq.2 "ant" rfl).1 number,
    (ne.2 "ant" rfl).1 number⟩

/-- A text that is spelled like the value which is not a number is different from itself. -/
theorem equation_of_nan :
    (Value.string "nan" : Value Empty).same (.string "nan") = true ∧
      (∀ cmp, (Value.string "nan" : Value Empty).looseEquals cmp (.string "nan") = false) ∧
      Engine.texts.Reachable ∧
      Engine.texts.inferValue? Relation.eq.operator .object "nan" = some (.string "nan") ∧
      (Engine.texts.query "t=nan").isValid = true ∧
      (Engine.texts.query "t=nan").test "nan" = .ok false ∧
      (Engine.texts.query "t!=nan").test "nan" = .ok true := by
  refine ⟨rfl, ?_, Engine.reachable_texts, rfl, by decide +kernel, ?_, ?_⟩
  · intro cmp
    cases cmp <;> decide +kernel
  · decide +kernel
  · decide +kernel

end Sift
