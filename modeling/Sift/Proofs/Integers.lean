import Sift.Proofs.Addressing
import Sift.Proofs.Decimals
import Sift.Proofs.Interference
import Sift.Proofs.Rearranging
import Sift.Proofs.Relations
import Sift.Proofs.Soundness

/-!
# Comparing integers

From the digits to the verdict: what is written as a name, an operator and a number in decimal is
read as the clause of these parts (`Clause.parts_measuring`), its value as the number
(`Engine.Measures.inferValue?_eq`), and the handler for integers is asked whether the integer of an
element stands to the number in the relation that the operator is for (`Relation.IsMet`). So a query
of one comparison, or of two that make up a range, says what it means
(`Engine.integers_are_compared`).
-/

namespace Sift

open Number Text Unicode

variable {κ ε : Type}

namespace Relation

/-- Whether one integer stands to another in a relation. Of numbers, `contains` asks for equality. -/
def IsMet : Relation → Int → Int → Prop
  | contains, m, n => m = n
  | eq, m, n => m = n
  | ne, m, n => m ≠ n
  | lt, m, n => m < n
  | gt, m, n => n < m
  | le, m, n => m ≤ n
  | ge, m, n => n ≤ m

/-- Decided on the integers. -/
instance : (r : Relation) → (m n : Int) → Decidable (r.IsMet m n)
  | contains, m, n => inferInstanceAs (Decidable (m = n))
  | eq, m, n => inferInstanceAs (Decidable (m = n))
  | ne, m, n => inferInstanceAs (Decidable (m ≠ n))
  | lt, m, n => inferInstanceAs (Decidable (m < n))
  | gt, m, n => inferInstanceAs (Decidable (n < m))
  | le, m, n => inferInstanceAs (Decidable (m ≤ n))
  | ge, m, n => inferInstanceAs (Decidable (n ≤ m))

/-- A relation holds of how two integers compare if they meet it. -/
lemma holds_compare (r : Relation) (m n : Int) :
    r.holds (some (compare m n)) = decide (r.IsMet m n) := by
  rw [Bool.eq_iff_iff, decide_eq_true_eq]
  cases r with
  | contains | eq => exact beq_iff_eq.trans Int.compare_eq_eq
  | ne => exact bne_iff_ne.trans (not_congr Int.compare_eq_eq)
  | lt => exact beq_iff_eq.trans Int.compare_eq_lt
  | gt => exact beq_iff_eq.trans Int.compare_eq_gt
  | le => exact bne_iff_ne.trans ((not_congr Int.compare_eq_gt).trans Int.not_lt)
  | ge => exact bne_iff_ne.trans ((not_congr Int.compare_eq_lt).trans Int.not_lt)

/-- Two integers are compared by the handler for integers. -/
lemma handlerFor_int (r : Relation) : (r.handlerFor .int .int : Handler κ) = r.intHandler := by
  cases r <;> rfl

end Relation

/-- A filter that reads integers of a range from elements, or fails to. -/
structure Filter.ReadsIntegers (f : Filter κ ε) {range : IntRange}
    (read : ε → Except String range.Member) : Prop where
  type : f.type = .int
  param : f.param? = none
  access : f.access = .getter fun x _ => (read x).map (HostType.integer range).toValue

/-- Letters of ASCII can stand in the name of a filter. -/
lemma isTokenChar_of_isAlpha {c : Char} (h : c.isAlpha = true) : Clause.isTokenChar c = true := by
  have letters : ∀ n ∈ List.range' 65 26 ++ List.range' 97 26,
      Clause.isTokenChar (Char.ofNat n) = true := by decide +kernel
  have letter : c.toNat ∈ List.range' 65 26 ++ List.range' 97 26 := by
    rw [List.mem_append, List.mem_range'_1, List.mem_range'_1]
    rcases Bool.or_eq_true_iff.1 h with capital | small
    · obtain ⟨least, greatest⟩ := of_decide_eq_true capital
      exact .inl ⟨UInt32.le_iff_toNat_le.1 least,
        Nat.lt_succ_of_le (UInt32.le_iff_toNat_le.1 greatest)⟩
    · obtain ⟨least, greatest⟩ := Bool.and_eq_true_iff.1 small
      exact .inr ⟨UInt32.le_iff_toNat_le.1 (of_decide_eq_true least),
        Nat.lt_succ_of_le (UInt32.le_iff_toNat_le.1 (of_decide_eq_true greatest))⟩
  have found := letters c.toNat letter
  rwa [Char.ofNat_toNat] at found

/-- The characters of the operators that every engine has. -/
def Relation.marks : List Char := ":=!<>".toList

/-- The tokens of relations are made of marks. -/
lemma Relation.mem_marks {r : Relation} {x : Char} (mem : x ∈ r.token.toList) : x ∈ marks := by
  have within : r.token.toList.all (marks.contains ·) = true := by
    cases r <;> rfl
  exact List.contains_iff_mem.1 (List.all_eq_true.1 within x mem)

/-- The token of a relation has a mark at its front. -/
lemma Relation.exists_token (r : Relation) : ∃ mark later, r.token.toList = mark :: later := by
  cases r <;> exact ⟨_, _, rfl⟩

namespace Clause

/-- The clause that compares the integers of a filter with a number, at the start of a text. -/
def measuring (name : String) (r : Relation) (digits : String) : Clause :=
  ⟨0, name.toList, none, r.token.toList, digits.toList⟩

section Measuring

variable {name digits : String} {r : Relation} {n : Int} (named : name ≠ "")
  (letters : ∀ c ∈ name.toList, c.isAlpha = true) (writes : WritesInt digits.toList n)

include letters in
/-- A clause that measures an integer is legible. -/
lemma isLegible_measuring : (measuring name r digits).IsLegible where
  chars x mem := isTokenChar_of_isAlpha (letters x mem)
  apart _ := by
    intro x head
    have all : (Relation.marks.all fun x => !isTokenChar x) = true := by decide +kernel
    have foreign := List.all_eq_true.1 all x (Relation.mem_marks (List.mem_of_head? head))
    rwa [Bool.not_eq_true'] at foreign
  word given := absurd rfl given

include named letters in
/-- The operator keeps the name from being a word for a combinator. -/
lemma bare_measuring : Token.Bare (measuring name r digits).source := by
  refine (isLegible_measuring letters).bare (by simpa [measuring] using named) fun _ => ?_
  obtain ⟨mark, later, token⟩ := r.exists_token
  have text : (measuring name r digits).source = name.toList ++ mark :: (later ++ digits.toList) := by
    simp [source, measuring, paramText, token]
  have all : (Relation.marks.all fun mark => isWordPart mark &&
      "andort".toList.all fun y => y != mark && Char.ofNat (y.toNat - 32) != mark) = true := by
    decide
  have mem : mark ∈ r.token.toList := token ▸ List.mem_cons_self
  obtain ⟨part, foreign⟩ :=
    Bool.and_eq_true_iff.1 (List.all_eq_true.1 all mark (Relation.mem_marks mem))
  rw [text]
  refine ofWord?_of_mark (List.forall_mem_append.2 ⟨fun x mem => ?_, ?_⟩) foreign
  · exact isWordPart_of_isTokenChar (isTokenChar_of_isAlpha (letters x mem))
  · exact List.forall_mem_singleton.2 part

include named letters writes in
/-- The digits are the value, and the operator is the longest in front of them. -/
lemma parts_measuring :
    Parts (Relation.all.map fun r => r.token.toList) (measuring name r digits) [] := by
  have legible : (measuring name r digits).IsLegible := isLegible_measuring letters
  have parts : ∀ x ∈ digits.toList, isWordPart x = true := writes.forall_of_all (by decide)
  have unquoted : '"' ∉ digits.toList := fun mem => absurd (writes.chars _ mem) (by decide)
  have apart : ∀ x ∈ digits.toList, Relation.marks.contains x = false := by
    have all := writes.forall_of_all (p := fun x => !Relation.marks.contains x) (by decide)
    simpa using all
  constructor
  case token => simpa [measuring] using named
  case tokenChars => exact legible.chars
  case behind => exact legible.apart rfl
  case param => nofun
  case operator =>
    rw [List.append_assoc, List.append_nil]
    apply longestStart?_of_stop (p := (Relation.marks.contains ·))
    · exact List.mem_map_of_mem (by cases r <;> decide)
    · intro op mem x within
      obtain ⟨r, -, rfl⟩ := List.mem_map.1 mem
      exact List.contains_iff_mem.2 (Relation.mem_marks within)
    · intro x head
      exact apart x (List.mem_of_head? head)
  case value =>
    apply valueStart?_of_run
    · exact takeWhile_of_stops nofun parts
    · exact writes.ne_nil
    · intro head
      exact unquoted (List.mem_of_head? head)
    · refine List.any_eq_false.2 fun op mem initial => ?_
      obtain ⟨r, -, rfl⟩ := List.mem_map.1 mem
      obtain ⟨mark, later, token⟩ := r.exists_token
      have first : mark ∈ r.token.toList := token ▸ List.mem_cons_self
      have inside := apart mark ((List.isPrefixOf_iff_prefix.1 initial).subset first)
      rw [List.contains_iff_mem.2 (Relation.mem_marks first)] at inside
      cases inside

include letters writes in
/-- There are no quotes in a clause that measures an integer. -/
lemma unquoted_measuring : '"' ∉ (measuring name r digits).source := by
  have operator : '"' ∉ r.token.toList := by
    cases r <;> decide
  have value : '"' ∉ digits.toList := fun mem => absurd (writes.chars _ mem) (by decide)
  have name : '"' ∉ name.toList := fun mem => absurd (letters _ mem) (by decide)
  simp [source, measuring, paramText, name, operator, value]

end Measuring

end Clause

namespace Engine

section Measures

variable {e : Engine κ ε} {f : Filter κ ε} {range : IntRange} {read : ε → Except String range.Member}
  {name : String}

/-- A filter is found by its token, in any case of letters. -/
lemma Reachable.filter?_of_mem (reach : e.Reachable) (mem : f ∈ e.filters)
    (named : lowercaseString name = f.token) : e.filter? (lowercaseString name) = some f := by
  rw [filter?_lowercase, exactFilter?, named]
  exact find?_of_nodup reach.keyed.filters mem

/-- Whether an engine compares the integers that a filter reads as all engines do from the
beginning: it has no other operators, handlers and parsers. The filter has a name of ASCII letters,
and the range of the integers is not below that of values. -/
structure Measures (e : Engine κ ε) (f : Filter κ ε) {range : IntRange}
    (read : ε → Except String range.Member) (name : String) : Prop where
  reachable : e.Reachable
  operators : e.operators = Operator.builtin
  parsers : e.customParsers = []
  registered : f ∈ e.filters
  integers : f.ReadsIntegers read
  least : IntRange.value.least ≤ range.least
  letters : ∀ c ∈ name.toList, c.isAlpha = true
  named : lowercaseString name = f.token

namespace Measures

variable {digits : String} {r : Relation} {n : IntRange.value.Member} (m : e.Measures f read name)
include m

/-- The name of a filter is not empty. -/
lemma name_ne : name ≠ "" := by
  rintro rfl
  have token := m.reachable.isFilterToken f m.registered
  rw [← m.named] at token
  cases token

/-- The parts of a comparison are read as its clause. -/
lemma outline_eq (writes : WritesInt digits.toList n.val) :
    e.outline (String.ofList (Clause.measuring name r digits).source) =
      .term (.clause (Clause.measuring name r digits)) .done := by
  have texts : e.operatorTexts = Relation.all.map fun r => r.token.toList := by
    rw [operatorTexts, operatorTokens, m.operators]
    rfl
  apply outline_of_parts m.reachable rfl (Clause.bare_measuring m.name_ne m.letters)
  rw [texts]
  exact Clause.parts_measuring m.name_ne m.letters writes

/-- The clause asks for what the filter reads. -/
lemma poses (supported : f.supports r.token = true) :
    e.Poses (Clause.measuring name r digits) f r.operator
      (fun x _ => (read x).map (HostType.integer range).toValue) none := by
  have token : String.ofList (Clause.measuring name r digits).token = name := String.ofList_toList
  have operator : String.ofList (Clause.measuring name r digits).operator = r.token :=
    String.ofList_toList
  constructor
  case filter =>
    rw [token]
    exact m.reachable.filter?_of_mem m.registered m.named
  case getter => exact m.integers.access
  case operator =>
    rw [operator, operator?, m.operators]
    cases r <;> rfl
  case supported => rwa [operator]
  case param => simp only [readParam, m.integers.param, Clause.measuring]

/-- The value of the clause is read as the number that it writes. -/
lemma inferValue?_eq (writes : WritesInt digits.toList n.val) :
    e.inferValue? r.operator f.type digits = some (.int n.val) := by
  have types : (r.operator : Operator κ).rightTypes .int = [.int, .object] :=
    r.rightTypes_operator (by decide)
  have parsed : ((HostType.integer .value).toValue n : Value κ) = .int n.val :=
    congrArg Value.int (Int.min_eq_left n.property.2)
  have parser : e.parser? .int = some _ :=
    m.reachable.parser?_of_builtin m.parsers (p := .reading (.integer .value) fun raw =>
      IntRange.value.read? (trim raw.toList)) rfl
  rw [inferValue?, m.parsers, m.integers.type, types, List.nil_append, List.filterMap_cons, parser]
  simp only [List.cons_append, List.findSome?_cons, ValueParser.reading, writes.trim_eq,
    writes.read?_eq, Option.map_some, parsed]

/-- The clause is understood, and answers for an element whether the relation is met. -/
lemma exists_operation (supported : f.supports r.token = true)
    (writes : WritesInt digits.toList n.val) :
    ∃ o, e.readTerm (.clause (Clause.measuring name r digits)) = .ok (some (.filter o)) ∧
      ∀ x k, read x = .ok k → k.val ≤ IntRange.value.greatest →
        o.test x = .ok (decide (r.IsMet k.val n.val)) := by
  have value : String.ofList (unquote (Clause.measuring name r digits).value) = digits := by
    have unquoted : '"' ∉ digits.toList := fun mem => absurd (writes.chars _ mem) (by decide)
    show String.ofList (unquote digits.toList) = digits
    rw [unquote_of_not_mem unquoted, String.ofList_toList]
  have inferred := m.inferValue?_eq (r := r) writes
  rw [← value] at inferred
  refine ⟨_, (m.poses supported).readTerm_eq inferred, fun x k got small => ?_⟩
  have member : IntRange.value.least ≤ k.val ∧ k.val ≤ IntRange.value.greatest :=
    ⟨Int.le_trans m.least k.property.1, small⟩
  have left : (HostType.integer range).toValue k = (.int k.val : Value κ) :=
    congrArg Value.int (Int.min_eq_left small)
  have read : (read x).map (HostType.integer range).toValue = .ok (.int k.val : Value κ) := by
    rw [got, Except.map, left]
  rw [test_compared read, m.integers.type, Value.type, Relation.handlerFor_int]
  have call := r.call_intHandler (κ := κ) ⟨k.val, member⟩ n
    (f.comparison?.getD e.options.comparison)
  rw [call, r.holds_compare]

/-- A comparison says the same wherever it stands. -/
lemma movable (writes : WritesInt digits.toList n.val) :
    (Term.clause (Clause.measuring name r digits)).Movable e.operatorTexts := by
  have alone := m.outline_eq (r := r) writes
  rw [outline, String.toList_ofList] at alone
  exact (Outline.movable_of_scan_term alone (Clause.unquoted_measuring m.letters writes)).1

/-- The query of a comparison is valid and answers whether the relation is met. -/
lemma query_of_one (supported : f.supports r.token = true) (writes : WritesInt digits.toList n.val) :
    (e.query (String.ofList (Clause.measuring name r digits).source)).isValid = true ∧
      ∀ x k, read x = .ok k → k.val ≤ IntRange.value.greatest →
        (e.query (String.ofList (Clause.measuring name r digits).source)).test x =
          .ok (decide (r.IsMet k.val n.val)) := by
  obtain ⟨o, meaning, answers⟩ := m.exists_operation supported writes
  obtain ⟨valid, test⟩ := query_of_operation (m.outline_eq writes) meaning
  exact ⟨valid, fun x k got small => test x _ (answers x k got small)⟩

/-- The query of two comparisons is valid and answers whether both relations are met. -/
lemma query_of_two {digits' : String} {r' : Relation} {n' : IntRange.value.Member}
    (supported : f.supports r.token = true) (writes : WritesInt digits.toList n.val)
    (supported' : f.supports r'.token = true) (writes' : WritesInt digits'.toList n'.val)
    {text : String} (whole : text.toList = (Clause.measuring name r digits).source ++
      ' ' :: (Clause.measuring name r' digits').source) :
    (e.query text).isValid = true ∧
      ∀ x k, read x = .ok k → k.val ≤ IntRange.value.greatest →
        (e.query text).test x =
          .ok (decide (r.IsMet k.val n.val) && decide (r'.IsMet k.val n'.val)) := by
  obtain ⟨o, meaning, test⟩ := m.exists_operation supported writes
  obtain ⟨o', meaning', test'⟩ := m.exists_operation supported' writes'
  obtain ⟨errors, s, s₁, s₂, tree⟩ := query_of_clauses m.reachable whole (m.movable writes) meaning
    (m.movable writes') meaning'
  refine ⟨Query.isValid_of_tree errors tree, fun x k got small => ?_⟩
  rw [Query.test_eq errors tree, Tree.evaluate,
    Evaluation.answer_join .and (test x k got small) (test' x k got small)]
  rfl

end Measures

/-- A name, an operator and a number in decimal are a query that is valid and asks whether an
element's integer, if it is one that values can be, stands to the number in the relation of the
operator. Two such comparisons with a space between them ask for a range. -/
theorem integers_are_compared (m : e.Measures f read name) :
    (∀ (r : Relation) (n : IntRange.value.Member) (digits : String),
      f.supports r.token = true → WritesInt digits.toList n.val →
        (e.query (name ++ r.token ++ digits)).isValid = true ∧
        ∀ x k, read x = .ok k → k.val ≤ IntRange.value.greatest →
          (e.query (name ++ r.token ++ digits)).test x = .ok (decide (r.IsMet k.val n.val))) ∧
    ∀ (lo hi : IntRange.value.Member) (low high : String),
      f.supports ">=" = true → f.supports "<" = true →
      WritesInt low.toList lo.val → WritesInt high.toList hi.val →
        (e.query (name ++ ">=" ++ low ++ " " ++ name ++ "<" ++ high)).isValid = true ∧
        ∀ x k, read x = .ok k → k.val ≤ IntRange.value.greatest →
          (e.query (name ++ ">=" ++ low ++ " " ++ name ++ "<" ++ high)).test x =
            .ok (decide (lo.val ≤ k.val ∧ k.val < hi.val)) := by
  refine ⟨fun r n digits supported writes => ?_, fun lo hi low high above below wl wh => ?_⟩
  · have text : name ++ r.token ++ digits =
        String.ofList (Clause.measuring name r digits).source := by
      apply String.toList_inj.1
      simp [Clause.source, Clause.measuring, Clause.paramText]
    rw [text]
    exact m.query_of_one supported writes
  · have whole : (name ++ ">=" ++ low ++ " " ++ name ++ "<" ++ high).toList =
        (Clause.measuring name .ge low).source ++ ' ' :: (Clause.measuring name .lt high).source := by
      simp [Clause.source, Clause.measuring, Clause.paramText, Relation.token]
    have above : f.supports Relation.ge.token = true := above
    have below : f.supports Relation.lt.token = true := below
    obtain ⟨valid, test⟩ := m.query_of_two above wl below wh whole
    refine ⟨valid, fun x k got small => ?_⟩
    rw [test x k got small, Bool.decide_and]
    rfl

end Measures

/-- Natural numbers of 64 bits. -/
abbrev Count : Type := (IntRange.unsigned 64).Member

/-- The first filter of the engine over counts, which takes all operators. -/
def ageFilter : Filter Empty Count := .get (.integer (.unsigned 64)) "age" id

/-- A filter for equations only. -/
def idFilter : Filter Empty Count :=
  { Filter.get (.integer (.unsigned 64)) "id" id with operators := ["="] }

/-- A filter with a parameter. -/
def sizeFilter : Filter Empty Count := .getWith .string (.integer (.unsigned 64)) "size" fun x _ => x

/-- An engine over counts. -/
def counts : Engine Empty Count where
  filters := [ageFilter, idFilter, sizeFilter]

/-- The engine of the example comes about by calls. -/
lemma reachable_counts : counts.Reachable := by
  have first : (Engine.withOptions {}).registerFilter ageFilter =
      .ok { counts with filters := [ageFilter] } := rfl
  have second : ({ counts with filters := [ageFilter] } : Engine Empty Count).registerFilter
      idFilter = .ok { counts with filters := [ageFilter, idFilter] } := rfl
  have third : ({ counts with filters := [ageFilter, idFilter] } :
      Engine Empty Count).registerFilter sizeFilter = .ok counts := rfl
  exact .step (.step (.step (.withOptions {}) (.registerFilter _ first))
    (.registerFilter _ second)) (.registerFilter _ third)

/-- The integers of the first filter are compared. -/
lemma measures_age : counts.Measures ageFilter (fun x : Count => .ok x) "Age" where
  reachable := reachable_counts
  operators := rfl
  parsers := rfl
  registered := List.mem_cons_self
  integers := ⟨rfl, rfl, rfl⟩
  least := (IntRange.least_le (Nat.le_refl 64)).2
  letters := List.all_eq_true.1 rfl
  named := by decide +kernel

/-- A number with a sign and a zero in front, and the greatest integer that values can be. -/
theorem comparison_of_age :
    counts.Measures ageFilter (fun x : Count => .ok x) "Age" ∧
      WritesInt "+018".toList 18 ∧
      (counts.query "Age>=+018").isValid = true ∧
      (∀ x, x.val ≤ IntRange.value.greatest →
        (counts.query "Age>=+018").test x = .ok (decide (18 ≤ x.val))) ∧
      ∀ x, x.val ≤ IntRange.value.greatest →
        (counts.query "Age>=+018 Age<9223372036854775807").test x =
          .ok (decide (18 ≤ x.val ∧ x.val < 9223372036854775807)) := by
  obtain ⟨one, two⟩ := integers_are_compared measures_age
  have low : WritesInt "+018".toList 18 := by
    have digits : "+018".toList = '+' :: decimal 1 18 := by decide
    rw [digits]
    exact .plus 1 18
  have high : WritesInt "9223372036854775807".toList 9223372036854775807 := by
    have digits : "9223372036854775807".toList = decimal 0 9223372036854775807 := by decide
    rw [digits]
    exact .plain 0 9223372036854775807
  obtain ⟨valid, single⟩ := one .ge ⟨18, by decide⟩ "+018" rfl low
  obtain ⟨-, pair⟩ := two ⟨18, by decide⟩ ⟨9223372036854775807, by decide⟩ "+018"
    "9223372036854775807" rfl rfl low high
  exact ⟨measures_age, low, valid, fun x small => single x x rfl small,
    fun x small => pair x x rfl small⟩

/-- A comparison that a filter does not support is refused, and so is one without the parameter that
a filter needs. -/
theorem comparison_of_other_filters :
    counts.Reachable ∧ counts.operators = Operator.builtin ∧ counts.customParsers = [] ∧
      idFilter ∈ counts.filters ∧ idFilter.ReadsIntegers (fun x : Count => .ok x) ∧
      (counts.query "id<5").isValid = false ∧
      sizeFilter ∈ counts.filters ∧ sizeFilter.type = .int ∧
      (counts.query "size<5").isValid = false := by
  refine ⟨reachable_counts, rfl, rfl, ?_, ⟨rfl, rfl, rfl⟩, by decide +kernel, ?_, rfl,
    by decide +kernel⟩
  · exact List.mem_cons_of_mem _ List.mem_cons_self
  · exact List.mem_cons_of_mem _ (List.mem_cons_of_mem _ List.mem_cons_self)

end Engine

end Sift
