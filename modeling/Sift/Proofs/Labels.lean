import Sift.Proofs.Arguments
import Sift.Proofs.Decimals

/-!
# Labels are read back

A value is shown by its label: an integer by its decimal form, a text by itself, a member of an
enumeration by its name. The parser of a host type reads the label of a member as the value that the
member has become, and the value is read back as the member (`HostType.Keeps`). Of the integers this
holds as far as they are values, and of an enumeration wherever the parser can find the names: none
has blanks around it, and no two members have names that are equal up to the case of ASCII letters.
-/

namespace Sift

open Number Text

variable {κ α : Type}

/-- Whether a member is read back from its value, and its value from its label. -/
structure HostType.Keeps (h : HostType κ α) (a : α) : Prop where
  member : h.ofValue? (h.toValue a) = some a
  label : ∃ p, ValueParser.of? h = some p ∧ p.parse (h.toValue a).label = some (h.toValue a)

/-- A member is kept if it is read back from its value and from its label. -/
lemma HostType.keeps_of_reads {h : HostType κ α} {read : String → Option α} {a : α}
    (written : h.read? = some read) (member : h.ofValue? (h.toValue a) = some a)
    (reads : read (h.toValue a).label = some a) : h.Keeps a := by
  refine ⟨member, .reading h read, ?_, ?_⟩
  · rw [ValueParser.of?, written, Option.map_some]
  · show (read (h.toValue a).label).map h.toValue = some (h.toValue a)
    rw [reads, Option.map_some]

section Integers

variable {r : IntRange}

/-- A range without negative numbers takes the decimal form of a natural number, too. -/
lemma Number.IntRange.readInt?_intText {n : Int} (takes : r.least < 0 ∨ 0 ≤ n) :
    r.readInt? (Value.intText n).toList = some n := by
  have writes := Value.writesInt_intText n
  rcases takes with signed | nonneg
  · exact writes.readInt?_eq signed
  · obtain ⟨n, rfl⟩ := Int.eq_ofNat_of_zero_le nonneg
    have digits : (Value.intText n).toList = decimal 0 n := by
      rw [Value.intText, if_neg (Int.not_lt.2 nonneg), String.empty_append]
      exact String.toList_ofList
    rw [digits, readInt?_of_digits fun c mem => isDigit_of_mem_decimal mem, readDigits?_decimal]
    rfl

/-- A range reads the decimal form of an integer that it has. -/
lemma Number.IntRange.read?_intText (n : r.Member) :
    r.read? (trim (Value.intText n.val).toList) = some n := by
  have takes : r.least < 0 ∨ 0 ≤ n.val :=
    (lt_or_ge r.least 0).imp_right fun unsigned => unsigned.trans n.property.1
  rw [(Value.writesInt_intText n.val).trim_eq, read?, readInt?_intText takes, Option.bind_some]
  exact dif_pos n.property

/-- An integer that fits is handed over as it is. -/
lemma HostType.toValue_integer {n : r.Member} (fits : n.val ≤ IntRange.value.greatest) :
    (integer r).toValue n = (.int n.val : Value κ) :=
  congrArg Value.int (min_eq_left fits)

/-- An integer that is a value is kept. -/
lemma HostType.keeps_integer {n : r.Member} (fits : n.val ≤ IntRange.value.greatest) :
    (integer r : HostType κ _).Keeps n := by
  refine keeps_of_reads rfl ?_ ?_
  · obtain ⟨m, member, capped⟩ := ofValue?_integer (κ := κ) (n.property.1.trans fits) n
    rw [min_eq_left fits] at capped
    rwa [Subtype.ext capped] at member
  · rw [toValue_integer fits]
    exact IntRange.read?_intText n

/-- The label of an integer that is a value is read as the integer where any value would do. -/
lemma Value.ofText_intText (n : IntRange.value.Member) :
    (ofText (intText n.val) : Value κ) = .int n.val := by
  simp only [ofText, IntRange.read?_intText]

end Integers

namespace Enumeration

variable {e : Enumeration κ α} {a : α}

/-- Whether the parser of an enumeration can find the names: they have no blanks around them, and
those of different members differ in more than the case of ASCII letters. -/
structure HasPlainNames (e : Enumeration κ α) : Prop where
  trimmed : ∀ v ∈ e.variants, trim v.1.toList = v.1.toList
  apart : ∀ v ∈ e.variants, ∀ w ∈ e.variants,
    equalIgnoringAsciiCase v.1.toList w.1.toList = true → v.2 = w.2

/-- A search finds something if there is something to be found. -/
lemma exists_find?_of_mem {v : String × α} {p : String × α → Bool} (mem : v ∈ e.variants)
    (holds : p v = true) : ∃ w ∈ e.variants, p w = true ∧ e.variants.find? p = some w := by
  obtain ⟨w, found⟩ := Option.isSome_iff_exists.1 (List.find?_isSome.2 ⟨v, mem, holds⟩)
  exact ⟨w, List.mem_of_find?_eq_some found, List.find?_some found, found⟩

variable [DecidableEq α]

/-- The name of a member is one that is listed for it. -/
lemma exists_of_listed (listed : a ∈ e.variants.map Prod.snd) :
    ∃ v ∈ e.variants, v.2 = a ∧ e.nameOf a = v.1 := by
  obtain ⟨w, mem, same⟩ := List.mem_map.1 listed
  obtain ⟨v, mem, same, found⟩ :=
    exists_find?_of_mem (p := fun v => decide (v.2 = a)) mem (decide_eq_true same)
  refine ⟨v, mem, of_decide_eq_true same, ?_⟩
  rw [nameOf, found, Option.map_some, Option.getD_some]

/-- A listed member is found by its name. -/
lemma ofName?_nameOf (plain : e.HasPlainNames) (listed : a ∈ e.variants.map Prod.snd) :
    e.ofName? (trim (e.nameOf a).toList) = some a := by
  obtain ⟨v, mem, rfl, name⟩ := exists_of_listed listed
  obtain ⟨w, mem', alike, found⟩ :=
    exists_find?_of_mem (p := fun w => equalIgnoringAsciiCase w.1.toList v.1.toList) mem
      (beq_self_eq_true _)
  rw [name, plain.trimmed v mem, ofName?, found, Option.map_some, plain.apart w mem' v mem alike]

/-- A listed member is kept, if the program can take it out of what it has put it into. -/
lemma keeps_hostType (unwraps : e.unwrap? (e.wrap a) = some a) (plain : e.HasPlainNames)
    (listed : a ∈ e.variants.map Prod.snd) : e.hostType.Keeps a :=
  HostType.keeps_of_reads rfl unwraps (ofName?_nameOf plain listed)

end Enumeration

/-- Integers of at most 64 bits that are values, truth values, strings and the listed members of an
enumeration with plain names are read back from their values, and the values from their labels. The
label of an integer is read as the integer even where any value would do. -/
theorem labels_are_read_back :
    (∀ bits ≤ 64, ∀ r, r = .signed bits ∨ r = .unsigned bits →
      ∀ n : r.Member, n.val ≤ IntRange.value.greatest →
        (HostType.integer r : HostType κ r.Member).Keeps n ∧
          (.ofText ((HostType.integer r).toValue n : Value κ).label : Value κ) = .int n.val) ∧
    (∀ b, (HostType.bool : HostType κ Bool).Keeps b) ∧
    (∀ s, (HostType.string : HostType κ String).Keeps s) ∧
    ∀ {α : Type} [DecidableEq α] (e : Enumeration κ α), (∀ a, e.unwrap? (e.wrap a) = some a) →
      e.HasPlainNames → ∀ a ∈ e.variants.map Prod.snd, e.hostType.Keeps a := by
  refine ⟨?integer, ?bool, ?string, ?enumeration⟩
  case integer =>
    intro bits le r width n fits
    refine ⟨HostType.keeps_integer fits, ?_⟩
    have least : IntRange.value.least ≤ r.least := by
      rcases width with rfl | rfl
      · exact (IntRange.least_le le).1
      · exact (IntRange.least_le le).2
    rw [HostType.toValue_integer fits]
    exact Value.ofText_intText ⟨n.val, least.trans n.property.1, fits⟩
  case bool =>
    intro b
    have reads : ∀ b : Bool, readBool? (trim (if b then "true" else "false").toList) = some b := by
      decide +kernel
    exact HostType.keeps_of_reads rfl rfl (reads b)
  case string =>
    intro s
    exact HostType.keeps_of_reads rfl rfl rfl
  case enumeration =>
    intro α _ e unwraps plain a listed
    exact e.keeps_hostType (unwraps a) plain listed

/-- The shades that a colour can have. -/
inductive Shade where
  | light
  | dark
  | hidden
  deriving DecidableEq

/-- The shades that can be named, one of them in two ways. -/
def shades : Enumeration Shade Shade where
  name := "Shade"
  variants := [("Light", .light), ("dark", .dark), ("Dim", .dark)]
  wrap := id
  unwrap? := some

/-- A shade is read back from its first name, and integers at the ends of their ranges from their
decimal forms. -/
theorem labels_of_shades_are_read_back :
    ((∀ a, shades.unwrap? (shades.wrap a) = some a) ∧ shades.HasPlainNames ∧
      (shades.hostType.toValue .dark).label = "dark" ∧ shades.hostType.Keeps .dark) ∧
    (HostType.integer (.signed 8) : HostType Shade _).Keeps ⟨-128, by decide⟩ ∧
    (HostType.integer (.unsigned 64) : HostType Shade _).Keeps ⟨9223372036854775807, by decide⟩ ∧
    (.ofText "9223372036854775807" : Value Shade) = .int 9223372036854775807 := by
  obtain ⟨integer, -, -, enumeration⟩ := labels_are_read_back (κ := Shade)
  have plain : shades.HasPlainNames := ⟨by decide +kernel, by decide +kernel⟩
  have byte := integer 8 (by decide) _ (.inl rfl) ⟨-128, by decide⟩ (by decide)
  have word := integer 64 (le_refl 64) _ (.inr rfl) ⟨9223372036854775807, by decide⟩ (by decide)
  exact ⟨⟨fun _ => rfl, plain, rfl, enumeration shades (fun _ => rfl) plain .dark (by decide)⟩,
    byte.1, word.1, word.2⟩

end Sift
