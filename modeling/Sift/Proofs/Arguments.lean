import Sift.Proofs.Declarations
import Sift.Proofs.Rounding

/-!
# What arguments receive

The text of an argument is read by the parser of its own host type first, made a value, and read back
as a member where the filter is asked. Without custom parsers that is all that happens to a text which
the parser can read (`Engine.handsOver_of_own`), so that a filter is asked about the member that was
written, if values keep it: texts, truth values, floating-point numbers and members of enumerations
are kept, and integers up to the greatest one of 64 bits.
-/

namespace Sift

open Number Text

variable {κ ε α : Type}

namespace Engine

variable {e : Engine κ ε} {f : Filter κ ε} {c : Clause} {fault : ClauseFault} {o : Operation κ ε}

/-- The faults of a parameter blame the parameter, or the filter that has none. -/
lemma part_of_readParam {token : String} {text? : Option (List Char)}
    (refused : e.readParam f token text? = .error fault) : fault.part ≠ .value := by
  unfold readParam at refused
  split at refused
  · dsimp only at refused
    split at refused
    · cases refused
    · cases refused
      exact nofun
  · cases refused
    exact nofun
  · cases refused
    exact nofun
  · cases refused

/-- A value that is refused is the part at fault. -/
lemma part_of_readValue {o : Operator κ} {raw : String}
    (refused : e.readValue f o raw = .error fault) : fault.part = .value := by
  rw [readValue] at refused
  split at refused
  · split at refused
    · cases refused
    · cases refused
      rfl
  · split at refused
    · cases refused
      rfl
    · split at refused
      · cases refused
      · cases refused
        rfl

/-- A known filter's clause is refused for its operator, its parameter or its value. -/
lemma fault_of_readClause (filter : e.filter? (lowercaseString (String.ofList c.token)) = some f)
    (refused : e.readClause c = .error fault) :
    fault.part = .operator ∨
      e.readParam f (lowercaseString (String.ofList c.token)) c.param = .error fault ∨
      ∃ o, e.readValue f o (String.ofList (unquote c.value)) = .error fault := by
  rw [readClause, filter] at refused
  dsimp only at refused
  cases made : e.operation f c with
  | ok o =>
    rw [made] at refused
    cases refused
  | error fault' =>
    rw [made] at refused
    cases refused
    rw [operation] at made
    cases known : e.operator? (String.ofList c.operator) with
    | none =>
      rw [known] at made
      cases made
      exact .inl rfl
    | some op =>
      simp only [known] at made
      split at made
      · cases made
        exact .inl rfl
      · cases param : e.readParam f (lowercaseString (String.ofList c.token)) c.param with
        | error fault' =>
          rw [param] at made
          cases made
          exact .inr (.inl rfl)
        | ok param? =>
          cases value : e.readValue f op (String.ofList (unquote c.value)) with
          | ok decided =>
            rw [param, value] at made
            cases made
          | error fault' =>
            rw [param, value] at made
            cases made
            exact .inr (.inr ⟨op, value⟩)

/-- Whether a text is handed to the functions of filters as a member of a host type. Wherever it
stands as a value or a parameter that is declared so, the clause is not refused for it, and if the
clause is not refused for something else, it is the member that the function is asked about. -/
structure HandsOver (e : Engine κ ε) (V : HostType κ α) (raw : String) (y : α) : Prop where
  value : ∀ {c f resolve},
    e.filter? (lowercaseString (String.ofList c.token)) = some f →
    f.IsDeclared (.resolver V resolve) →
    String.ofList (unquote c.value) = raw →
    (∀ fault, e.readClause c = .error fault → fault.part ≠ .value) ∧
      ∀ o, e.readClause c = .ok (some o) →
        ∀ x, o.test x = .ok (resolve x o.operator y o.comparison)
  valueWithParam : ∀ {π : Type} {P : HostType κ π} {c f resolve},
    e.filter? (lowercaseString (String.ofList c.token)) = some f →
    f.IsDeclared (.resolverWith P V resolve) →
    String.ofList (unquote c.value) = raw →
    (∀ fault, e.readClause c = .error fault → fault.part ≠ .value) ∧
      ∀ o, e.readClause c = .ok (some o) →
        ∃ p, ∀ x, o.test x = .ok (resolve x p o.operator y o.comparison)
  paramOfResolver : ∀ {β : Type} {W : HostType κ β} {c cs f resolve},
    e.filter? (lowercaseString (String.ofList c.token)) = some f →
    f.IsDeclared (.resolverWith V W resolve) →
    c.param = some cs →
    String.ofList (unquote (trim cs)) = raw →
    (∀ fault, e.readClause c = .error fault → fault.part ≠ .param) ∧
      ∀ o, e.readClause c = .ok (some o) →
        ∃ v, ∀ x, o.test x = .ok (resolve x y o.operator v o.comparison)
  paramOfGetter : ∀ {β : Type} {L : HostType κ β} {c cs f read},
    e.filter? (lowercaseString (String.ofList c.token)) = some f →
    f.IsDeclared (.getWith V L read) →
    c.param = some cs →
    String.ofList (unquote (trim cs)) = raw →
    (∀ fault, e.readClause c = .error fault → fault.part ≠ .param) ∧
      ∀ o, e.readClause c = .ok (some o) →
        ∃ h : Handler κ, ∀ x, o.test x = .ok (h.call (L.toValue (read x y)) o.value o.comparison)

section Own

variable {V : HostType κ α} {raw : String} {v : Value κ} {y : α}
  (reads : e.readArgument? (.of V) raw = some v)
include reads

/-- A resolver's clause has the value that is read for it. -/
lemma value_of_readArgument? (filter : e.filter? (lowercaseString (String.ofList c.token)) = some f)
    (argument : f.value = .of V) (resolver : f.isResolver = true)
    (text : String.ofList (unquote c.value) = raw) :
    (∀ fault, e.readClause c = .error fault → fault.part ≠ .value) ∧
      ∀ o, e.readClause c = .ok (some o) → e.filter? o.filter = some f ∧ o.value = v := by
  obtain ⟨resolve, access⟩ : ∃ resolve, f.access = .resolver resolve := by
    rw [Filter.isResolver] at resolver
    split at resolver
    · cases resolver
    · next resolve access => exact ⟨resolve, access⟩
  have decided (op : Operator κ) :
      e.readValue f op (String.ofList (unquote c.value)) = .ok (v, .resolver resolve) := by
    simp only [readValue, access, argument, text, reads]
  constructor
  · intro fault refused
    obtain operator | param | ⟨op, value⟩ := fault_of_readClause filter refused
    · rw [operator]
      decide
    · exact part_of_readParam param
    · rw [decided] at value
      cases value
  · intro o read
    cases means_of_readClause read with
    | unknown absent _ => cases absent.symm.trans filter
    | @known _ op _ _ _ found _ _ _ value =>
      cases found.symm.trans filter
      rw [decided] at value
      cases value
      exact ⟨filter, rfl⟩

/-- A clause has the parameter that is read for it. -/
lemma param_of_readArgument? (filter : e.filter? (lowercaseString (String.ofList c.token)) = some f)
    (argument : f.param? = some (.of V)) {cs : List Char} (param : c.param = some cs)
    (text : String.ofList (unquote (trim cs)) = raw) :
    (∀ fault, e.readClause c = .error fault → fault.part ≠ .param) ∧
      ∀ o, e.readClause c = .ok (some o) → e.filter? o.filter = some f ∧ o.param? = some v := by
  have decided (token : String) : e.readParam f token c.param = .ok (some v) := by
    simp only [readParam, argument, param, text, reads]
  constructor
  · intro fault refused
    obtain operator | param | ⟨op, value⟩ := fault_of_readClause filter refused
    · rw [operator]
      decide
    · rw [decided] at param
      cases param
    · rw [part_of_readValue value]
      decide
  · intro o read
    cases means_of_readClause read with
    | unknown absent _ => cases absent.symm.trans filter
    | known found _ _ param _ =>
      cases found.symm.trans filter
      rw [decided] at param
      cases param
      exact ⟨filter, rfl⟩

/-- What is read for an argument is handed over as the member that it is read back as. -/
lemma handsOver_of_readArgument? (member : V.ofValue? v = some y) : e.HandsOver V raw y := by
  constructor
  case value =>
    intro c f resolve filter declared text
    obtain ⟨token, operators, comparison?, rfl⟩ := declared
    obtain ⟨faults, meanings⟩ := value_of_readArgument? reads filter rfl rfl text
    refine ⟨faults, fun o read => ?_⟩
    obtain ⟨filter, rfl⟩ := meanings o read
    -- The filter is asked about the member of its value, which is the one of `v`.
    obtain ⟨-, y', known, decided⟩ :=
      (means_of_readClause read).decides filter ⟨token, operators, comparison?, rfl⟩
    cases member.symm.trans known
    exact decided
  case valueWithParam =>
    intro π P c f resolve filter declared text
    have own : f.value = .of V ∧ f.isResolver = true := by
      obtain ⟨token, operators, comparison?, rfl⟩ := declared
      exact ⟨rfl, rfl⟩
    obtain ⟨faults, meanings⟩ := value_of_readArgument? reads filter own.1 own.2 text
    refine ⟨faults, fun o read => ?_⟩
    obtain ⟨filter, rfl⟩ := meanings o read
    obtain ⟨p, -, y', known, decided⟩ := (means_of_readClause read).decides filter declared
    cases member.symm.trans known
    exact ⟨p, decided⟩
  case paramOfResolver =>
    intro β W c cs f resolve filter declared param text
    have own : f.param? = some (.of V) := by
      obtain ⟨token, operators, comparison?, rfl⟩ := declared
      rfl
    obtain ⟨faults, meanings⟩ := param_of_readArgument? reads filter own param text
    refine ⟨faults, fun o read => ?_⟩
    obtain ⟨filter, given⟩ := meanings o read
    obtain ⟨y', known, w, -, decided⟩ := (means_of_readClause read).decides filter declared
    rw [given, Option.bind_some, member] at known
    cases known
    exact ⟨w, decided⟩
  case paramOfGetter =>
    intro β L c cs f get filter declared param text
    have own : f.param? = some (.of V) := by
      obtain ⟨token, operators, comparison?, rfl⟩ := declared
      rfl
    obtain ⟨faults, meanings⟩ := param_of_readArgument? reads filter own param text
    refine ⟨faults, fun o read => ?_⟩
    obtain ⟨filter, given⟩ := meanings o read
    obtain ⟨y', known, h, decided⟩ := (means_of_readClause read).decides filter declared
    rw [given, Option.bind_some, member] at known
    cases known
    exact ⟨h, decided⟩

end Own

/-- Without custom parsers it is the parser of the host type itself that reads a text first. -/
lemma handsOver_of_own (plain : e.customParsers = []) {V : HostType κ α} {read : String → Option α}
    (written : V.read? = some read) {raw : String} {x y : α} (reads : read raw = some x)
    (member : V.ofValue? (V.toValue x) = some y) : e.HandsOver V raw y := by
  have parser : (Argument.of V).parser? = some (.reading V read) := by
    rw [Argument.of, ValueParser.of?, written, Option.map_some]
  have parsed : (ValueParser.reading V read).parse raw = some (V.toValue x) :=
    congrArg (Option.map V.toValue) reads
  have accepted : (Argument.of V).accepts (V.toValue x) = true := by
    show (V.ofValue? (V.toValue x)).isSome = true
    rw [member, Option.isSome_some]
  refine handsOver_of_readArgument? (v := V.toValue x) ?_ member
  rw [readArgument?, plain, parser]
  simp [parsed, accepted]

end Engine

/-- An integer of at most 64 bits is kept by values, but one above the greatest integer value becomes
that value. -/
lemma ofValue?_integer {r : IntRange} (least : r.least ≤ IntRange.value.greatest) (n : r.Member) :
    ∃ m : r.Member, (HostType.integer r : HostType κ _).ofValue? ((HostType.integer r).toValue n) =
      some m ∧ m.val = min n.val IntRange.value.greatest := by
  have within : r.least ≤ min n.val IntRange.value.greatest ∧
      min n.val IntRange.value.greatest ≤ r.greatest :=
    ⟨le_min n.property.1 least, (min_le_left _ _).trans n.property.2⟩
  exact ⟨⟨_, within⟩, dif_pos within, rfl⟩

/-- The integers of at most 64 bits are values, but for those without sign that have all the bits. -/
lemma Number.IntRange.greatest_le {bits : Nat} (le : bits ≤ 64) :
    (signed bits).greatest ≤ value.greatest ∧
      (bits ≠ 64 → (unsigned bits).greatest ≤ value.greatest) := by
  constructor
  · have power : 2 ^ (bits - 1) ≤ 2 ^ 63 := Nat.pow_le_pow_right (by decide) (by omega)
    exact Int.sub_le_sub_right (Int.ofNat_le.2 power) 1
  · intro ne
    have power : 2 ^ bits ≤ 2 ^ 63 := Nat.pow_le_pow_right (by decide) (by omega)
    exact Int.sub_le_sub_right (Int.ofNat_le.2 power) 1

namespace Engine

variable {e : Engine κ ε}

/-- Without custom parsers filters are asked about what was written: a text, a truth value, a
floating-point number, a member of an enumeration, or an integer, but the greatest integer value in
the place of a greater one. No clause is refused for a text that the parser of its host type can
read. -/
theorem arguments_are_handed_over (plain : e.customParsers = []) :
    (∀ raw, e.HandsOver .object raw (.ofText raw)) ∧
    (∀ raw, e.HandsOver .string raw raw) ∧
    (∀ raw b, readBool? (trim raw.toList) = some b → e.HandsOver .bool raw b) ∧
    (∀ bits ≤ 64, ∀ r, r = .signed bits ∨ r = .unsigned bits →
      ∀ raw (n : r.Member), r.read? (trim raw.toList) = some n →
        ∃ m : r.Member, e.HandsOver (.integer r) raw m ∧
          m.val = min n.val IntRange.value.greatest ∧
          (r ≠ .unsigned 64 ∨ n.val ≤ IntRange.value.greatest → m = n)) ∧
    (∀ f, f = .single ∨ f = .double →
      ∀ raw x, Binary.read? f (trim raw.toList) = some x → e.HandsOver (.floating f) raw x) ∧
    ∀ {α : Type} [DecidableEq α] (E : Enumeration κ α), (∀ a, E.unwrap? (E.wrap a) = some a) →
      ∀ raw a, E.ofName? (trim raw.toList) = some a → e.HandsOver E.hostType raw a := by
  refine ⟨?object, ?string, ?bool, ?integer, ?floating, ?enumeration⟩
  case object =>
    intro raw
    exact handsOver_of_own plain rfl rfl rfl
  case string =>
    intro raw
    exact handsOver_of_own plain rfl rfl rfl
  case bool =>
    intro raw b reads
    exact handsOver_of_own plain rfl reads rfl
  case integer =>
    intro bits le r width raw n reads
    have least : r.least ≤ IntRange.value.greatest := by
      rcases width with rfl | rfl
      · exact Int.neg_nonpos_of_nonneg (Int.natCast_nonneg _) |>.trans (by decide)
      · exact (by decide : (0 : Int) ≤ IntRange.value.greatest)
    obtain ⟨m, member, capped⟩ := ofValue?_integer least n
    refine ⟨m, handsOver_of_own plain rfl reads member, capped, fun fits => Subtype.ext ?_⟩
    -- Only the integers of 64 bits without sign go beyond the greatest value.
    have fits : n.val ≤ IntRange.value.greatest := by
      rcases fits with narrow | fits
      · obtain ⟨signed, unsigned⟩ := IntRange.greatest_le le
        rcases width with rfl | rfl
        · exact n.property.2.trans signed
        · exact n.property.2.trans (unsigned fun all => narrow (by rw [all]))
      · exact fits
    rw [capped, min_eq_left fits]
  case floating =>
    intro f format raw x reads
    refine handsOver_of_own plain rfl reads ?_
    -- Values hold doubles: a single comes back, as what is read is not just any NaN.
    exact congrArg some
      (Binary.convert_convert (.double format) (Binary.plain_of_read? reads))
  case enumeration =>
    intro α _ E kept raw a reads
    exact handsOver_of_own plain rfl reads (kept a)

/-- The natural numbers of 64 bits. -/
abbrev Natural := (IntRange.unsigned 64).Member

/-- An engine over natural numbers, with a filter that is asked which number they are. -/
def naturals : Engine Empty Natural where
  filters := [.resolver (.integer (.unsigned 64)) "id" fun x _ n _ => decide (x = n)]

/-- The engine of the example comes about by calls. -/
lemma reachable_naturals : naturals.Reachable := by
  have registered : (Engine.withOptions {}).registerFilter
      (.resolver (.integer (.unsigned 64)) "id" fun x _ n _ => decide (x = n)) = .ok naturals := rfl
  exact .step (.withOptions {}) (.registerFilter _ registered)

/-- A number that is not too great is handed over, and found. -/
theorem number_is_handed_over :
    naturals.customParsers = [] ∧
      (IntRange.unsigned 64).read? (trim "42".toList) = some ⟨42, by decide⟩ ∧
      (∃ m : Natural, naturals.HandsOver (.integer (.unsigned 64)) "42" m ∧ m = ⟨42, by decide⟩) ∧
      (naturals.query "id=42").test ⟨42, by decide⟩ = .ok true := by
  obtain ⟨-, -, -, integer, -, -⟩ := arguments_are_handed_over (e := naturals) rfl
  have reads : (IntRange.unsigned 64).read? (trim "42".toList) = some ⟨42, by decide⟩ := by
    decide +kernel
  obtain ⟨m, handed, -, kept⟩ := integer 64 (le_refl 64) _ (.inr rfl) "42" _ reads
  exact ⟨rfl, reads, ⟨m, handed, kept (.inr (by decide))⟩, by decide +kernel⟩

/-- The greatest number is read, but the filter is asked about the greatest integer value. -/
theorem greatest_number_is_not_handed_over :
    naturals.Reachable ∧ naturals.customParsers = [] ∧
      (IntRange.unsigned 64).read? (trim "18446744073709551615".toList) =
        some ⟨18446744073709551615, by decide⟩ ∧
      (naturals.query "id=18446744073709551615").isValid = true ∧
      (naturals.query "id=18446744073709551615").test ⟨18446744073709551615, by decide⟩ = .ok false ∧
      (naturals.query "id=18446744073709551615").test ⟨9223372036854775807, by decide⟩ = .ok true := by
  refine ⟨reachable_naturals, rfl, ?_, ?_, ?_, ?_⟩ <;> decide +kernel

end Engine

end Sift
