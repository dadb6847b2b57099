import Sift.Proofs.Looseness

/-!
# Containment without regard to case

Lowercase depends on what stands around a character: a capital sigma has a form of its own at the end
of a word. So a part of a text may have one lowercase by itself and another where it stands, and then
a text that contains it may not contain it when case is ignored. This happens where the part is cut
out of a word at a capital sigma, and nowhere else (`Text.isCut_iff`). What is whole in one place, or
has no capital sigma, is never lost (`containment_ignores_case`).
-/

namespace Sift

open Number Text Unicode

namespace Text

variable {before xs ys after : List Char}

/-- Whether all characters of a text are case-ignorable. -/
def IsIgnorable (cs : List Char) : Prop := ∀ c ∈ cs, caseIgnorable.contains c = true

/-- Decided character by character. -/
instance (cs : List Char) : Decidable (IsIgnorable cs) := inferInstanceAs (Decidable (∀ c ∈ cs, _))

/-- What is case-ignorable is passed over. -/
lemma meetsCased_append_of_ignorable (h : IsIgnorable xs) (ys : List Char) :
    meetsCased (xs ++ ys) = meetsCased ys := by
  induction xs with
  | nil => rfl
  | cons c cs ih =>
    obtain ⟨here, later⟩ := List.forall_mem_cons.1 h
    rw [List.cons_append, meetsCased_cons, if_pos here, ih later]

/-- In what is case-ignorable nothing cased is met. -/
lemma meetsCased_of_ignorable (h : IsIgnorable xs) : meetsCased xs = false := by
  have empty := meetsCased_append_of_ignorable h []
  rwa [List.append_nil] at empty

/-- A character that is not case-ignorable hides all that stands behind it. -/
lemma meetsCased_append_of_not_ignorable (h : ¬IsIgnorable xs) (ys : List Char) :
    meetsCased (xs ++ ys) = meetsCased xs := by
  induction xs with
  | nil => exact absurd (List.forall_mem_nil _) h
  | cons c cs ih =>
    rw [List.cons_append, meetsCased_cons, meetsCased_cons]
    split
    · next here =>
      apply ih
      intro later
      exact h (List.forall_mem_cons.2 ⟨here, later⟩)
    · rfl

/-- Whether a capital sigma ends a word, given the text before it, nearest character first, and the
text behind it. -/
def endsWord (before after : List Char) : Bool := meetsCased before && !meetsCased after

/-- The lowercase of a text that stands between two others. The one before it is given nearest
character first. -/
def lowercaseBetween (before : List Char) : List Char → List Char → List Char
  | [], _ => []
  | c :: cs, after =>
    (if c = 'Σ' then [if endsWord before (cs ++ after) then 'ς' else 'σ'] else lowercaseChar c) ++
      lowercaseBetween (c :: before) cs after

/-- The lowercase of a text is that of its front with that of the rest behind it. -/
lemma lowercaseBehind_append (before cs after : List Char) :
    lowercaseBehind before (cs ++ after) =
      lowercaseBetween before cs after ++ lowercaseBehind (cs.reverse ++ before) after := by
  induction cs generalizing before with
  | nil => rfl
  | cons c cs ih =>
    rw [List.cons_append, lowercaseBehind, ih, lowercaseBetween, List.reverse_cons, List.append_assoc,
      List.append_assoc]
    rfl

/-- With nothing behind it a text has the lowercase that it has at the end. -/
lemma lowercaseBetween_nil (before cs : List Char) :
    lowercaseBetween before cs [] = lowercaseBehind before cs := by
  have whole := lowercaseBehind_append before cs []
  rw [List.append_nil, lowercaseBehind, List.append_nil] at whole
  exact whole.symm

/-- A text has one lowercase in two places if each capital sigma in it has one form in both. -/
lemma lowercaseBetween_eq_iff {before before' cs after after' : List Char} :
    lowercaseBetween before cs after = lowercaseBetween before' cs after' ↔
      ∀ xs ys, cs = xs ++ 'Σ' :: ys →
        endsWord (xs.reverse ++ before) (ys ++ after) =
          endsWord (xs.reverse ++ before') (ys ++ after') := by
  induction cs generalizing before before' with
  | nil => simp [lowercaseBetween]
  | cons c cs ih =>
    -- a sigma of the text is its first character or one of the rest
    have split : (∀ xs ys, c :: cs = xs ++ 'Σ' :: ys →
        endsWord (xs.reverse ++ before) (ys ++ after) =
          endsWord (xs.reverse ++ before') (ys ++ after')) ↔
      (c = 'Σ' → endsWord before (cs ++ after) = endsWord before' (cs ++ after')) ∧
        ∀ xs ys, cs = xs ++ 'Σ' :: ys →
          endsWord (xs.reverse ++ c :: before) (ys ++ after) =
            endsWord (xs.reverse ++ c :: before') (ys ++ after') := by
      constructor
      · intro h
        refine ⟨?_, fun xs ys e => ?_⟩
        · rintro rfl
          exact h [] cs rfl
        · have here := h (c :: xs) ys (by rw [e, List.cons_append])
          simpa using here
      · rintro ⟨here, later⟩ xs ys e
        match xs with
        | [] =>
          obtain ⟨sigma, rfl⟩ := List.cons.inj e
          exact here sigma
        | x :: xs =>
          obtain ⟨rfl, behind⟩ := List.cons.inj e
          simpa using later xs ys behind
    rw [split, ← ih, lowercaseBetween, lowercaseBetween]
    by_cases sigma : c = 'Σ'
    · rw [if_pos sigma, if_pos sigma]
      cases endsWord before (cs ++ after) <;> cases endsWord before' (cs ++ after') <;>
        simp [sigma]
    · simp [sigma]

/-- The order of the characters does not matter. -/
lemma isIgnorable_reverse : IsIgnorable xs.reverse ↔ IsIgnorable xs := by
  simp only [IsIgnorable, List.mem_reverse]

/-- Whether a text is cut out of a word at a capital sigma: the sigma ends the word that begins in
front of the text, although nothing cased stands before it in the text, or the word goes on behind
the text, although nothing cased stands behind it in the text. -/
def IsCut (before cs after : List Char) : Prop :=
  ∃ xs ys, cs = xs ++ 'Σ' :: ys ∧
    ((IsIgnorable xs ∧ meetsCased before.reverse = true ∧ meetsCased (ys ++ after) = false) ∨
      (IsIgnorable ys ∧ meetsCased xs.reverse = true ∧ meetsCased after = true))

/-- A sigma ends a word in its own text and does not where the text stands, or the other way round,
only if the word is cut there. -/
lemma endsWord_ne_iff :
    endsWord (xs.reverse ++ before.reverse) (ys ++ after) ≠ endsWord xs.reverse ys ↔
      (IsIgnorable xs ∧ meetsCased before.reverse = true ∧ meetsCased (ys ++ after) = false) ∨
        (IsIgnorable ys ∧ meetsCased xs.reverse = true ∧ meetsCased after = true) := by
  unfold endsWord
  by_cases front : IsIgnorable xs
  · have inside := meetsCased_of_ignorable (isIgnorable_reverse.2 front)
    rw [meetsCased_append_of_ignorable (isIgnorable_reverse.2 front), inside]
    simp [front]
  · rw [meetsCased_append_of_not_ignorable (mt isIgnorable_reverse.1 front)]
    by_cases back : IsIgnorable ys
    · rw [meetsCased_append_of_ignorable back, meetsCased_of_ignorable back]
      cases meetsCased xs.reverse <;> cases meetsCased after <;> simp [front, back]
    · rw [meetsCased_append_of_not_ignorable back]
      simp [front, back]

/-- A text that is cut out of a word has another lowercase there, and only then. -/
lemma isCut_iff {cs : List Char} :
    IsCut before cs after ↔ lowercaseBetween before.reverse cs after ≠ lowercase cs := by
  have alone := lowercaseBetween_nil [] cs
  rw [lowercase, ← alone, ne_eq, lowercaseBetween_eq_iff]
  simp only [List.append_nil]
  constructor
  · rintro ⟨xs, ys, rfl, torn⟩ same
    exact endsWord_ne_iff.2 torn (same xs ys rfl)
  · intro h
    by_contra whole
    apply h
    intro xs ys e
    by_contra other
    exact whole ⟨xs, ys, e, endsWord_ne_iff.1 other⟩

/-- A text without a capital sigma is not cut out of anything. -/
lemma not_isCut_of_not_mem {cs : List Char} (h : 'Σ' ∉ cs) : ¬IsCut before cs after := by
  rintro ⟨xs, ys, rfl, -⟩
  exact h (List.mem_append_right xs List.mem_cons_self)

/-- The lowercase of a text is that of a part, as it is where the part stands, with the lowercases of
what is in front of it and behind it. -/
lemma lowercase_append (front cs back : List Char) :
    lowercase (front ++ cs ++ back) =
      lowercaseBetween [] front (cs ++ back) ++ lowercaseBetween front.reverse cs back ++
        lowercaseBehind (cs.reverse ++ front.reverse) back := by
  rw [lowercase, List.append_assoc front, lowercaseBehind_append, List.append_nil,
    lowercaseBehind_append, List.append_assoc]

/-- Whether a text contains a part, but cut out of a word wherever it stands. -/
def IsLost (needle hay : List Char) : Prop :=
  needle <:+: hay ∧ ∀ front back, hay = front ++ needle ++ back → IsCut front needle back

/-- A part of a text is found in its lowercase, or cut out of the text wherever it stands. -/
lemma infix_lowercase_or_isLost {hay needle : List Char} (h : needle <:+: hay) :
    lowercase needle <:+: lowercase hay ∨ IsLost needle hay := by
  by_cases whole : ∃ front back, hay = front ++ needle ++ back ∧ ¬IsCut front needle back
  · left
    obtain ⟨front, back, rfl, whole⟩ := whole
    have same : lowercaseBetween front.reverse needle back = lowercase needle := by
      by_contra other
      exact whole (isCut_iff.2 other)
    rw [lowercase_append, same]
    exact ⟨_, _, rfl⟩
  · right
    refine ⟨h, fun front back split => ?_⟩
    by_contra uncut
    exact whole ⟨front, back, split, uncut⟩

/-- What has no capital sigma is not lost. -/
lemma not_isLost_of_not_mem {hay needle : List Char} (h : 'Σ' ∉ needle) : ¬IsLost needle hay := by
  rintro ⟨⟨front, back, split⟩, cut⟩
  exact not_isCut_of_not_mem h (cut front back split.symm)

end Text

namespace Value

variable {κ : Type}

/-- The ways to compare two values, and the order of each: two integers or truth values stand in
their own order, two numbers in that of numbers, and all others in that of their labels. -/
inductive Compares : Value κ → Value κ → (Comparison → Option Ordering) → Prop where
  | ints (m n : Int) :
    Compares (.int m) (.int n) fun _ => some (compare m n)
  | bools (x y : Bool) :
    Compares (.bool x) (.bool y) fun _ => some (compare x y)
  | numbers {a b x y} :
    a.numeric? = some x →
    b.numeric? = some y →
    Compares a b fun _ => x.compare? y
  | labels {a b} :
    a.numeric? = none ∨ b.numeric? = none →
    Compares a b fun cmp => some (cmp.compare a.label b.label)

section Compares

variable {a b : Value κ}

/-- Two numbers that are not both integers are compared as floating-point numbers. -/
lemma looseCompare_of_numbers {x y : Binary64} (left : a.numeric? = some x)
    (right : b.numeric? = some y) :
    (∃ m n, a = .int m ∧ b = .int n) ∨ ∀ cmp, a.looseCompare cmp b = x.compare? y := by
  cases a with
  | int m =>
    cases b with
    | int n => exact .inl ⟨m, n, rfl, rfl⟩
    | string | float | bool | custom =>
      right
      intro cmp
      simp only [looseCompare, left, right]
  | bool => cases left
  | string | float | custom =>
    right
    intro cmp
    simp only [looseCompare, left, right]

/-- Values that are not both numbers, nor both truth values, are compared by their labels. -/
lemma looseCompare_of_labels (other : a.numeric? = none ∨ b.numeric? = none) :
    (∃ p q, a = .bool p ∧ b = .bool q) ∨
      ∀ cmp, a.looseCompare cmp b = some (cmp.compare a.label b.label) := by
  cases a with
  | bool p =>
    cases b with
    | bool q => exact .inl ⟨p, q, rfl, rfl⟩
    | string | int | float | custom => exact .inr fun _ => rfl
  | int m =>
    have none := other.resolve_left nofun
    cases b with
    | int => cases none
    | string | float | bool | custom =>
      right
      intro cmp
      simp only [looseCompare, none]
      rfl
  | string | float | custom =>
    right
    intro cmp
    simp only [looseCompare]
    split
    · next left right =>
      simp only [left, right, reduceCtorEq, or_self] at other
    · rfl

/-- Two values are compared in one of these ways, whatever the way to compare texts. -/
lemma compares_looseCompare (a b : Value κ) : Compares a b fun cmp => a.looseCompare cmp b := by
  have labels (other : a.numeric? = none ∨ b.numeric? = none) :
      Compares a b fun cmp => a.looseCompare cmp b := by
    rcases looseCompare_of_labels other with ⟨p, q, rfl, rfl⟩ | order
    · exact .bools p q
    · rw [funext order]
      exact .labels other
  cases left : a.numeric? with
  | none => exact labels (.inl left)
  | some x =>
    cases right : b.numeric? with
    | none => exact labels (.inr right)
    | some y =>
      rcases looseCompare_of_numbers left right with ⟨m, n, rfl, rfl⟩ | order
      · exact .ints m n
      · rw [funext order]
        exact .numbers left right

end Compares

end Value

section Widening

variable {κ ε : Type} {a b : Value κ} {cmp : Comparison} {hay needle : String}

namespace Comparison

/-- Texts that are compared as they stand are searched character by character. -/
lemma contains_ofList_iff {cs : List Char} :
    caseSensitive.contains hay (String.ofList cs) = true ↔ cs <:+: hay.toList := by
  have text : caseSensitive.form (String.ofList cs) = cs := String.toList_ofList
  rw [contains_iff, text]
  rfl

/-- A text that is in another as they stand is in it however they are compared, unless it is cut out
of it wherever it stands. -/
lemma contains_or_isLost (h : caseSensitive.contains hay needle = true) :
    cmp.contains hay needle = true ∨ IsLost needle.toList hay.toList := by
  cases cmp with
  | caseSensitive => exact .inl h
  | caseInsensitive =>
    rw [contains_iff] at h ⊢
    exact infix_lowercase_or_isLost h

/-- Texts that are equal as they stand are equal however they are compared. -/
lemma equals_of_caseSensitive (h : caseSensitive.equals hay needle = true) :
    cmp.equals hay needle = true := by
  obtain rfl : hay = needle := beq_iff_eq.1 h
  exact equals_iff.2 rfl

end Comparison

namespace Value

/-- Values that are equal are equal however texts are compared. -/
lemma looseEquals_of_caseSensitive (h : a.looseEquals .caseSensitive b = true) :
    a.looseEquals cmp b = true := by
  rw [looseEquals, beq_iff_eq] at h ⊢
  have ways := compares_looseCompare a b
  generalize same : (fun cmp => a.looseCompare cmp b) = order at ways
  have order_eq (cmp : Comparison) : a.looseCompare cmp b = order cmp := congrFun same cmp
  rw [order_eq] at h ⊢
  cases ways with
  | ints | bools | numbers => exact h
  | labels =>
    have equal : Comparison.caseSensitive.form a.label = Comparison.caseSensitive.form b.label :=
      Comparison.compare_eq_eq_iff.1 (Option.some.inj h)
    have label : a.label = b.label := String.toList_inj.1 equal
    rw [label]
    exact congrArg some (cmp.isTextOrder_compare.refl _)

/-- A value that contains another as they stand contains it however texts are compared, unless the
label of the other is lost. -/
lemma looseContains_or_isLost (h : a.looseContains .caseSensitive b = true) :
    a.looseContains cmp b = true ∨ IsLost b.label.toList a.label.toList := by
  cases a with
  | string s => exact Comparison.contains_or_isLost h
  | custom c => exact Comparison.contains_or_isLost h
  | int n => exact .inl (looseEquals_of_caseSensitive h)
  | float x => exact .inl (looseEquals_of_caseSensitive h)
  | bool p => exact .inl (looseEquals_of_caseSensitive h)

end Value

namespace Relation

/-- What the handlers of the colon answer for two values, they answer however texts are compared,
unless the label of the right one is lost. -/
lemma call_or_isLost {h : Handler κ} (mem : h ∈ contains.operator.handlers)
    (found : h.call a b .caseSensitive = true) :
    h.call a b cmp = true ∨ IsLost b.label.toList a.label.toList := by
  rcases handler_cases mem with rfl | rfl | rfl | rfl | rfl
  · exact Value.looseContains_or_isLost found
  · cases a with
    | string s =>
      cases b with
      | string t => exact Comparison.contains_or_isLost found
      | int | float | bool | custom => cases found
    | int | float | bool | custom => cases found
  · exact .inl found
  · exact .inl found
  · exact .inl found

end Relation

namespace SearchSource

/-- Whether the texts of an element that contain a word all lose it, and there are such texts. -/
def Loses (s : SearchSource ε) (w : SearchWord) (x : ε) : Prop :=
  w.exact = false ∧ (∃ text ∈ s.texts x, w.text <:+: text.toList) ∧
    ∀ text ∈ s.texts x, w.text <:+: text.toList → IsLost w.text text.toList

/-- No word without a capital sigma is lost. -/
lemma not_loses_of_not_mem {s : SearchSource ε} {w : SearchWord} {x : ε} (h : 'Σ' ∉ w.text) :
    ¬s.Loses w x := by
  rintro ⟨-, ⟨text, mem, found⟩, lost⟩
  exact not_isLost_of_not_mem h (lost text mem found)

/-- A word that a source finds is found in the same texts however they are compared, unless they all
lose it. -/
lemma finds_or_loses {s s' : SearchSource ε} {cmp cmp' : Comparison} {w : SearchWord} {x : ε}
    (texts : s'.texts = s.texts) (strict : s.comparison?.getD cmp = .caseSensitive)
    (found : s.finds cmp w x = true) : s'.finds cmp' w x = true ∨ s.Loses w x := by
  rw [finds, strict] at found
  obtain ⟨text, mem, found⟩ := List.any_eq_true.1 found
  by_cases exact : w.exact = true
  · rw [if_pos exact] at found
    left
    rw [finds, texts]
    refine List.any_eq_true.2 ⟨text, mem, ?_⟩
    rw [if_pos exact]
    exact Comparison.equals_of_caseSensitive found
  · rw [if_neg exact, Comparison.contains_ofList_iff] at found
    by_cases widened : s'.finds cmp' w x = true
    · exact .inl widened
    refine .inr ⟨eq_false_of_ne_true exact, ⟨text, mem, found⟩, fun text mem found => ?_⟩
    -- a text that did not lose the word would be one in which it is found
    rcases Comparison.contains_or_isLost (Comparison.contains_ofList_iff.2 found) with loose | lost
    · refine absurd ?_ widened
      rw [finds, texts]
      refine List.any_eq_true.2 ⟨text, mem, ?_⟩
      rw [if_neg exact]
      exact loose
    · rwa [String.toList_ofList] at lost

end SearchSource

namespace Operation

/-- Whether the value of a clause is lost in what it is compared with. -/
def Loses (o : Operation κ ε) (get : ε → Option (Value κ) → Except String (Value κ)) (x : ε) :
    Prop :=
  ∃ left, get x o.param? = .ok left ∧ IsLost o.value.label.toList left.label.toList

/-- No value whose label has no capital sigma is lost. -/
lemma not_loses_of_not_mem {o : Operation κ ε} {x : ε}
    {get : ε → Option (Value κ) → Except String (Value κ)} (h : 'Σ' ∉ o.value.label.toList) : ¬o.Loses get x := by
  rintro ⟨left, -, lost⟩
  exact not_isLost_of_not_mem h lost

/-- What a clause with a colon matches, it matches however texts are compared, unless its value is
lost. -/
lemma test_or_loses {o : Operation κ ε} {h : Handler κ} {x : ε}
    {get : ε → Option (Value κ) → Except String (Value κ)} (decided : o.decider = .handler get h)
    (mem : h ∈ Relation.contains.operator.handlers) (strict : o.comparison = .caseSensitive)
    (found : o.test x = .ok true) :
    { o with comparison := cmp }.test x = .ok true ∨ o.Loses get x := by
  simp only [test, decided, strict] at found ⊢
  cases got : get x o.param? with
  | error reason =>
    rw [got] at found
    cases found
  | ok left =>
    rw [got] at found
    rcases Relation.call_or_isLost mem (Except.ok.inj found) with called | lost
    · exact .inl (congrArg _ called)
    · exact .inr ⟨left, got, lost⟩

end Operation

end Widening

/-- A text that contains another contains it when case is ignored, too, unless the other is cut out
of it wherever it stands, and so has another lowercase there. What has no capital sigma is not. So
where a search source finds a word, or a clause with a colon its value, they find it in the same
texts however these are compared, unless it is lost in them. -/
theorem containment_ignores_case {κ ε : Type} :
    (∀ hay needle : String, Comparison.caseSensitive.contains hay needle = true →
      Comparison.caseInsensitive.contains hay needle = true ∨
        ∀ front back, hay.toList = front ++ needle.toList ++ back →
          IsCut front needle.toList back) ∧
    (∀ front cs back : List Char,
      lowercase (front ++ cs ++ back) =
          lowercaseBetween [] front (cs ++ back) ++ lowercaseBetween front.reverse cs back ++
            lowercaseBehind (cs.reverse ++ front.reverse) back ∧
        (IsCut front cs back ↔ lowercaseBetween front.reverse cs back ≠ lowercase cs) ∧
        ('Σ' ∉ cs → ¬IsCut front cs back)) ∧
    (∀ (q q' : Query κ ε) (s s' : SearchSource ε) (w : SearchWord) (x : ε),
      q.source? = some s → q'.source? = some s' → s'.texts = s.texts →
      s.comparison?.getD q.comparison = .caseSensitive → q.ask x (.search w) = .ok true →
      (q'.ask x (.search w) = .ok true ∨ s.Loses w x) ∧
        ('Σ' ∉ w.text → q'.ask x (.search w) = .ok true)) ∧
    ∀ (o : Operation κ ε) (get : ε → Option (Value κ) → Except String (Value κ)) (h : Handler κ)
      (cmp : Comparison) (x : ε),
      o.decider = .handler get h → h ∈ Relation.contains.operator.handlers →
      o.comparison = .caseSensitive → o.test x = .ok true →
      ({ o with comparison := cmp }.test x = .ok true ∨ o.Loses get x) ∧
        ('Σ' ∉ o.value.label.toList → { o with comparison := cmp }.test x = .ok true) := by
  refine ⟨fun hay needle found => ?_, fun front cs back => ?_, ?_, ?_⟩
  · rw [Comparison.contains_iff] at found ⊢
    exact (infix_lowercase_or_isLost found).imp_right And.right
  · exact ⟨lowercase_append front cs back, isCut_iff, not_isCut_of_not_mem⟩
  · intro q q' s s' w x source source' texts strict found
    rw [Query.ask, source] at found
    have widened : q'.ask x (.search w) = .ok true ∨ s.Loses w x := by
      rw [Query.ask, source']
      exact (SearchSource.finds_or_loses texts strict (Except.ok.inj found)).imp_left (congrArg _)
    exact ⟨widened, fun plain => widened.resolve_right (SearchSource.not_loses_of_not_mem plain)⟩
  · intro o get h cmp x decided mem strict found
    have widened : { o with comparison := cmp }.test x = .ok true ∨ o.Loses get x :=
      Operation.test_or_loses decided mem strict found
    exact ⟨widened, fun plain => widened.resolve_right (Operation.not_loses_of_not_mem plain)⟩

/-- An engine that searches texts, in which a filter can be asked for a part, too. -/
def readers (cmp : Comparison) : Engine Empty String where
  filters := [.get .object "t" .string]
  searchSource? := some { texts := fun s => [s] }
  options := { comparison := cmp }

/-- A word to search for, at the start of a query. -/
def searchWord (text : String) : SearchWord := ⟨text.toList, false, .place 0 text.toList⟩

/-- The operation that asks whether a text has `ant` in it. -/
def antOperation (cmp : Comparison) : Operation Empty String :=
  (readers cmp).compared (.get .object "t" .string) ⟨0, ['t'], none, [':'], "ant".toList⟩
    (fun s _ => .ok (.string s)) none (.string "ant") Relation.contains.looseHandler

/-- A word that is found in a text, and in an element, however they are compared; and one with a
capital sigma that stands alone once. -/
theorem containment_of_ant :
    Comparison.caseSensitive.contains "Giant ants" "ant" = true ∧
      Comparison.caseInsensitive.contains "Giant ants" "ant" = true ∧
      (∀ cmp, ((readers cmp).query "ant").ask "Giant ants" (.search (searchWord "ant")) = .ok true) ∧
      (∀ cmp, ((readers cmp).query "ΑΣ").ask "ΑΣΑ ΑΣ" (.search (searchWord "ΑΣ")) = .ok true) ∧
      ∀ cmp, (antOperation cmp).test "Giant ants" = .ok true := by
  obtain ⟨texts, cuts, words, clauses⟩ := containment_ignores_case (κ := Empty) (ε := String)
  have found : Comparison.caseSensitive.contains "Giant ants" "ant" = true := by decide
  have plain : 'Σ' ∉ "ant".toList := by decide
  have whole (front back : List Char) : ¬IsCut front "ant".toList back :=
    (cuts front "ant".toList back).2.2 plain
  have split : "Giant ants".toList = "Gi".toList ++ "ant".toList ++ " ants".toList := by decide
  have alone : ¬IsCut "ΑΣΑ ".toList "ΑΣ".toList [] := by
    rw [(cuts "ΑΣΑ ".toList "ΑΣ".toList []).2.1]
    decide +kernel
  refine ⟨found, (texts _ _ found).resolve_right fun cut => whole _ _ (cut _ _ split),
    fun cmp => ?_, fun cmp => ?_, fun cmp => ?_⟩
  · exact (words ((readers .caseSensitive).query "ant") ((readers cmp).query "ant") _ _
      (searchWord "ant") "Giant ants" rfl rfl rfl rfl rfl).2 plain
  · refine (words ((readers .caseSensitive).query "ΑΣ") ((readers cmp).query "ΑΣ") _ _
      (searchWord "ΑΣ") "ΑΣΑ ΑΣ" rfl rfl rfl rfl rfl).1.resolve_right ?_
    rintro ⟨-, -, lost⟩
    exact alone ((lost "ΑΣΑ ΑΣ" (List.mem_singleton_self _) ⟨"ΑΣΑ ".toList, [], rfl⟩).2 _ _ rfl)
  · exact (clauses (antOperation .caseSensitive) _ Relation.contains.looseHandler cmp "Giant ants"
      rfl (by simp [Relation.operator]) rfl rfl).2 plain

/-- A capital sigma that ends a word is lost where the word goes on. -/
theorem containment_of_sigma :
    Comparison.caseSensitive.contains "ΑΣΑ" "ΑΣ" = true ∧
      Comparison.caseInsensitive.contains "ΑΣΑ" "ΑΣ" = false ∧
      IsCut [] "ΑΣ".toList ['Α'] := by
  refine ⟨by decide, by decide +kernel, ['Α'], [], rfl, .inr ⟨?_, ?_, ?_⟩⟩
  · exact List.forall_mem_nil _
  · decide +kernel
  · decide +kernel

end Sift
