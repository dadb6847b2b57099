import Sift.Proofs.Rendering

/-!
# The order of texts

Either way to compare texts compares a form of theirs (`Comparison.form`): the text as it stands, or
its lowercase. So the texts stand in a total preorder, and those that count as equal are those with
one form. That texts which differ in the case of ASCII letters only are told to be equal at once
agrees with this: such a letter never changes what becomes of the characters around it
(`Text.lowercaseBehind_map_toLower`).
-/

namespace Sift

open Text Unicode

namespace Unicode

/-- A character is in lowercase, or a capital letter of ASCII. -/
lemma toLower_eq_or_capital (c : Char) : c.toLower = c ∨ c.toNat ∈ List.range' 65 26 := by
  unfold Char.toLower
  split
  · next capital =>
    right
    have least : 65 ≤ c.val.toNat := UInt32.le_iff_toNat_le.1 capital.1
    have greatest : c.val.toNat ≤ 90 := UInt32.le_iff_toNat_le.1 capital.2
    show c.val.toNat ∈ _
    rw [List.mem_range'_1]
    omega
  · exact .inl rfl

/-- All that the lowercase of a text depends on is the same for the two cases of an ASCII letter. -/
lemma toLower_alike (c : Char) :
    (c.toLower = 'Σ' ↔ c = 'Σ') ∧ lowercaseChar c.toLower = lowercaseChar c ∧
      caseIgnorable.contains c.toLower = caseIgnorable.contains c ∧
      cased.contains c.toLower = cased.contains c := by
  have letters : ∀ n ∈ List.range' 65 26,
      ((Char.ofNat n).toLower = 'Σ' ↔ Char.ofNat n = 'Σ') ∧
        lowercaseChar (Char.ofNat n).toLower = lowercaseChar (Char.ofNat n) ∧
        caseIgnorable.contains (Char.ofNat n).toLower = caseIgnorable.contains (Char.ofNat n) ∧
        cased.contains (Char.ofNat n).toLower = cased.contains (Char.ofNat n) := by
    decide +kernel
  rcases toLower_eq_or_capital c with same | capital
  · rw [same]
    exact ⟨Iff.rfl, rfl, rfl, rfl⟩
  · have letter := letters c.toNat capital
    rwa [Char.ofNat_toNat] at letter

end Unicode

namespace Text

/-- What comes next decides whether something cased is met, unless it is case-ignorable. -/
lemma meetsCased_cons (c : Char) (cs : List Char) :
    meetsCased (c :: cs) = if caseIgnorable.contains c then meetsCased cs else cased.contains c := by
  rw [meetsCased, List.dropWhile_cons]
  cases caseIgnorable.contains c <;> rfl

/-- Lowercase by ASCII alone does not change whether something cased is met. -/
lemma meetsCased_map_toLower (cs : List Char) : meetsCased (cs.map Char.toLower) = meetsCased cs := by
  induction cs with
  | nil => rfl
  | cons c cs ih =>
    obtain ⟨-, -, ignorable, cased⟩ := toLower_alike c
    rw [List.map_cons, meetsCased_cons, meetsCased_cons, ignorable, cased, ih]

/-- The case of the ASCII letters of a text, and of those in front of it, does not matter for its
lowercase. -/
lemma lowercaseBehind_map_toLower (before cs : List Char) :
    lowercaseBehind (before.map Char.toLower) (cs.map Char.toLower) = lowercaseBehind before cs := by
  induction cs generalizing before with
  | nil => rfl
  | cons c after ih =>
    obtain ⟨sigma, lower, -, -⟩ := toLower_alike c
    have later := ih (c :: before)
    rw [List.map_cons] at later
    rw [List.map_cons, lowercaseBehind, lowercaseBehind, later, meetsCased_map_toLower,
      meetsCased_map_toLower, lower]
    simp only [sigma]

/-- Texts that differ in the case of ASCII letters only have one lowercase. -/
lemma lowercase_of_equalIgnoringAsciiCase {cs ds : List Char}
    (h : equalIgnoringAsciiCase cs ds = true) : lowercase cs = lowercase ds := by
  have same : cs.map Char.toLower = ds.map Char.toLower := beq_iff_eq.1 h
  calc lowercase cs
    _ = lowercase (cs.map Char.toLower) := (lowercaseBehind_map_toLower [] cs).symm
    _ = lowercase (ds.map Char.toLower) := congrArg lowercase same
    _ = lowercase ds := lowercaseBehind_map_toLower [] ds

end Text

/-- A total preorder of texts. Those that it does not tell apart need not be the same text. -/
structure IsTextOrder (order : String → String → Ordering) : Prop where
  refl (a : String) : order a a = .eq
  swap (a b : String) : order b a = (order a b).swap
  trans (a b c : String) : (order a b).isLE = true → (order b c).isLE = true →
    (order a c).isLE = true
  total (a b : String) : (order a b).isLE = true ∨ (order b a).isLE = true

namespace Comparison

variable {cmp : Comparison} {a b : String}

/-- The form of a text that is compared in its stead. -/
def form : Comparison → String → List Char
  | caseSensitive, a => a.toList
  | caseInsensitive, a => lowercase a.toList

/-- Texts are compared by their forms. -/
lemma compare_eq (cmp : Comparison) (a b : String) :
    cmp.compare a b = Ord.compare (cmp.form a) (cmp.form b) := by
  cases cmp <;> rfl

/-- Texts count as equal if they have one form. -/
lemma equals_iff : cmp.equals a b = true ↔ cmp.form a = cmp.form b := by
  cases cmp with
  | caseSensitive =>
    show (a == b) = true ↔ a.toList = b.toList
    rw [beq_iff_eq, String.toList_inj]
  | caseInsensitive =>
    show (_ || _) = true ↔ lowercase a.toList = lowercase b.toList
    rw [Bool.or_eq_true, beq_iff_eq]
    exact or_iff_right_of_imp lowercase_of_equalIgnoringAsciiCase

/-- A text contains another if its form has that of the other as a part. -/
lemma contains_iff : cmp.contains a b = true ↔ cmp.form b <:+: cmp.form a := by
  cases cmp <;> exact occursIn_iff _ _

/-- Texts compare as equal if their forms are. -/
lemma compare_eq_eq_iff : cmp.compare a b = .eq ↔ cmp.form a = cmp.form b := by
  rw [compare_eq, Std.compare_eq_iff_eq]

/-- The forms of texts stand in the order of lists. -/
lemma isTextOrder_compare (cmp : Comparison) : IsTextOrder cmp.compare := by
  have swap (a b : String) : cmp.compare b a = (cmp.compare a b).swap := by
    rw [compare_eq, compare_eq]
    exact Std.OrientedCmp.eq_swap
  refine ⟨fun a => compare_eq_eq_iff.2 rfl, swap, fun a b c ab bc => ?_, fun a b => ?_⟩
  · rw [compare_eq] at ab bc ⊢
    exact Std.TransCmp.isLE_trans ab bc
  · rw [swap a b]
    cases cmp.compare a b <;> decide

/-- Texts that count as equal contain each other. -/
lemma contains_of_equals (h : cmp.equals a b = true) : cmp.contains a b = true := by
  have same : cmp.form a = cmp.form b := equals_iff.1 h
  apply contains_iff.2
  exact same ▸ List.infix_rfl

end Comparison

/-! ### Exact words -/

namespace Token

variable {operators : List (List Char)} {start : Nat} {cs text : List Char}

/-- A text that is one search word is the same word, but an exact one, behind an exclamation mark. -/
lemma first_exact (ne : cs ≠ [])
    (h : first operators start cs = .ok ⟨.word text false, cs, []⟩) :
    first operators start ('!' :: cs) = .ok ⟨.word text true, '!' :: cs, []⟩ := by
  obtain ⟨body, lexeme, taken, notBlank, found, rfl, -⟩ := exists_of_word ne h rfl
  obtain rfl : cs = body := taken
  have word := wordOf?_of_first? true notBlank found
  rw [List.append_nil, List.append_nil] at word
  apply first_of_read
  exact .word ⟨nofun, nofun, rfl, rfl⟩ rfl ((word?_of_mark cs).trans word)

end Token

namespace Outline

variable {operators : List (List Char)} {cs : List Char} {w : SearchWord}

/-- A text that is one search word by itself has been read as the word to its end. -/
lemma first_of_scan_word (h : scan operators 0 cs = .term (.word w) .done) :
    cs ≠ [] ∧ Token.first operators 0 cs = .ok ⟨.word w.text w.exact, cs, []⟩ := by
  have ne : cs ≠ [] := by
    rintro rfl
    rw [scan_nil] at h
    cases h
  cases first : Token.first operators 0 cs with
  | error error =>
    rw [scan_of_error ne first] at h
    cases h
  | ok l =>
    rw [scan_of_first ne first] at h
    obtain ⟨token, taken, rest⟩ := l
    cases token with
    | word text exact =>
      obtain ⟨word, last⟩ := Outline.term.inj h
      obtain ⟨taken, rest⟩ := taken_of_scan ne first last
      cases word
      cases taken
      cases rest
      exact ⟨ne, rfl⟩
    | blank | combinator | group | clause => cases h

/-- An exclamation mark makes a search word exact. -/
lemma scan_exact (h : scan operators 0 cs = .term (.word w) .done) (loose : w.exact = false) :
    scan operators 0 ('!' :: cs) = .term (.word ⟨w.text, true, .place 0 ('!' :: cs)⟩) .done := by
  obtain ⟨ne, first⟩ := first_of_scan_word h
  rw [loose] at first
  rw [scan_of_first (by simp) (Token.first_exact ne first)]
  simp only [scan_nil]

end Outline

variable {κ ε : Type}

/-- A word that is a whole text of an element is in that text. -/
lemma SearchSource.finds_of_exact {s : SearchSource ε} {cmp : Comparison} {w : SearchWord} {x : ε}
    (h : s.finds cmp { w with exact := true } x = true) :
    s.finds cmp { w with exact := false } x = true := by
  obtain ⟨text, mem, equal⟩ := List.any_eq_true.1 h
  exact List.any_eq_true.2 ⟨text, mem, Comparison.contains_of_equals equal⟩

/-- An element that an exact word matches is matched by the word. -/
lemma Query.ask_of_exact {q : Query κ ε} {w : SearchWord} {x : ε}
    (h : q.ask x (.search { w with exact := true }) = .ok true) :
    q.ask x (.search { w with exact := false }) = .ok true := by
  rw [ask] at h ⊢
  cases source : q.source? with
  | none =>
    rw [source] at h
    cases h
  | some s =>
    rw [source] at h
    exact congrArg Except.ok (SearchSource.finds_of_exact (Except.ok.inj h))

namespace Engine

variable {e : Engine κ ε}

/-- What an exact word is found in, the word is found in, if it is a query text by itself. -/
lemma test_of_exact {text : String} {w : SearchWord}
    (alone : e.outline text = .term (.word w) .done) (loose : w.exact = false)
    (exact : e.outline ("!" ++ text) =
      .term (.word ⟨w.text, true, .place 0 ('!' :: text.toList)⟩) .done) {x : ε}
    (found : (e.query ("!" ++ text)).test x = .ok true) : (e.query text).test x = .ok true := by
  by_cases refused : (e.searchSource?.isNone && e.options.validatesFilters) = true
  · have read (w : SearchWord) : e.readTerm (.word w) = .error (.on w.site.span .noSearchSource) :=
      if_pos refused
    rw [Query.test, Query.evaluate, Query.testable, errors_of_term exact (read _)] at found
    cases found
  · have read (w : SearchWord) : e.readTerm (.word w) = .ok (some (.search w)) := if_neg refused
    have whole : { w with exact := false } = w := by rw [← loose]
    rw [test_of_term exact (read _)] at found
    rw [test_of_term alone (read _)]
    change ((e.query text).ask x (.search { w with exact := true })).mapError _ = _ at found
    cases asked : (e.query text).ask x (.search { w with exact := true }) with
    | error failure =>
      rw [asked] at found
      cases found
    | ok b =>
      rw [asked] at found
      cases found
      have answer := Query.ask_of_exact asked
      rw [whole] at answer
      rw [answer]
      rfl

end Engine

/-- However texts are compared, they stand in a total preorder. Those that count as equal, for the
case of ASCII letters or otherwise, are those that it does not tell apart, and each of them contains
the other. So an exact word matches no element that the word does not match. -/
theorem texts_are_ordered :
    (∀ cmp : Comparison, IsTextOrder cmp.compare ∧
      (∀ a b, cmp.equals a b = true ↔ cmp.compare a b = .eq) ∧
      ∀ a b, cmp.equals a b = true → cmp.contains a b = true ∧ cmp.contains b a = true) ∧
    (∀ a b : String, equalIgnoringAsciiCase a.toList b.toList = true →
      lowercase a.toList = lowercase b.toList) ∧
    (∀ (q : Query κ ε) (w : SearchWord) (x : ε),
      q.ask x (.search { w with exact := true }) = .ok true →
        q.ask x (.search { w with exact := false }) = .ok true) ∧
    ∀ (e : Engine κ ε) (text : String) (w : SearchWord),
      e.outline text = .term (.word w) .done → w.exact = false →
        e.outline ("!" ++ text) =
            .term (.word ⟨w.text, true, .place 0 ('!' :: text.toList)⟩) .done ∧
          ∀ x, (e.query ("!" ++ text)).test x = .ok true → (e.query text).test x = .ok true := by
  refine ⟨fun cmp => ⟨cmp.isTextOrder_compare, fun a b => ?_, fun a b equal => ?_⟩, fun a b => ?_,
    fun q w x => Query.ask_of_exact, fun e text w alone loose => ?_⟩
  · rw [Comparison.equals_iff, Comparison.compare_eq_eq_iff]
  · have equal' : cmp.equals b a = true :=
      Comparison.equals_iff.2 (Comparison.equals_iff.1 equal).symm
    exact ⟨Comparison.contains_of_equals equal, Comparison.contains_of_equals equal'⟩
  · exact lowercase_of_equalIgnoringAsciiCase
  · have exact : e.outline ("!" ++ text) =
        .term (.word ⟨w.text, true, .place 0 ('!' :: text.toList)⟩) .done := by
      have mark : ("!" ++ text).toList = '!' :: text.toList := String.toList_append
      rw [Engine.outline, mark]
      exact Outline.scan_exact alone loose
    exact ⟨exact, fun x => Engine.test_of_exact alone loose exact⟩

/-- Two spellings of a word whose last letter has a form of its own, and a word that is searched for
in both ways. -/
theorem order_of_streets :
    Comparison.caseInsensitive.equals "ΟΔΟΣ" "οδος" = true ∧
      Comparison.caseInsensitive.compare "ΟΔΟΣ" "οδος" = .eq ∧
      Comparison.caseInsensitive.contains "ΟΔΟΣ" "οδος" = true ∧
      (Engine.flags.query "!red").test (false, true) = .ok true ∧
      (Engine.flags.query "red").test (false, true) = .ok true := by
  obtain ⟨order, -, -, words⟩ := texts_are_ordered (κ := Empty) (ε := Bool × Bool)
  obtain ⟨-, same, contained⟩ := order .caseInsensitive
  have equal : Comparison.caseInsensitive.equals "ΟΔΟΣ" "οδος" = true := by decide +kernel
  have exact : (Engine.flags.query "!red").test (false, true) = .ok true := by decide +kernel
  obtain ⟨-, found⟩ := words Engine.flags "red" _ Engine.redAtom.alone rfl
  exact ⟨equal, (same _ _).1 equal, (contained _ _ equal).1, exact, found _ exact⟩

end Sift
