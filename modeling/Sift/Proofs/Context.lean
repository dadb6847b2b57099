import Mathlib.Data.List.Basic
import Mathlib.Data.List.TakeWhile
import Sift.Proofs.Places

/-!
# Lexemes in context

Where a term ends is settled by what follows it: the end of a level or a space (`Follows`), or
anything else that cannot stand in a word (`Stops`). Runs of word characters, keywords and phrases
are the same in front of all of these, but for keywords, which are words in front of a wide blank.
So a text that begins with no combinator begins with none elsewhere, unless it is a keyword
(`Token.Bare.move`).
-/

namespace Sift

open Text Unicode

/-- What may stand behind a piece of a text: the end, or a space. -/
inductive Follows : List Char → Prop where
  | stop :
    Follows []
  | space (later : List Char) :
    Follows (' ' :: later)

section Runs

variable {p : Char → Bool} {rest xs cs : List Char}

/-- A run that a space stops is the same in front of one. -/
lemma takeWhile_before (fl : Follows rest) (hp : p ' ' = false) (cs : List Char) :
    (cs ++ rest).takeWhile p = cs.takeWhile p := by
  induction cs with
  | nil => cases fl <;> simp [hp]
  | cons c cs ih =>
    rw [List.cons_append, List.takeWhile_cons, List.takeWhile_cons, ih]

/-- What is left behind a run that a space stops has the rest behind it. -/
lemma dropWhile_before (fl : Follows rest) (hp : p ' ' = false) (cs : List Char) :
    (cs ++ rest).dropWhile p = cs.dropWhile p ++ rest := by
  induction cs with
  | nil => cases fl <;> simp [hp]
  | cons c cs ih =>
    rw [List.cons_append, List.dropWhile_cons, List.dropWhile_cons, ih]
    split <;> rfl

/-- A run ends where the next character is of another class. -/
lemma run_of_head {p : Char → Bool} (run : ∀ x ∈ xs, p x = true)
    (next : ∀ x ∈ cs.head?, p x = false) :
    (xs ++ cs).takeWhile p = xs ∧ (xs ++ cs).dropWhile p = cs := by
  rw [List.takeWhile_append_of_pos run, List.dropWhile_append_of_pos run]
  match cs with
  | [] => simp
  | x :: cs => simp [next x rfl]

/-- A run stands in front of what is of another class. -/
lemma prefix_of_head {p : Char → Bool} (next : ∀ x ∈ rest.head?, p x = false)
    (run : ∀ x ∈ xs, p x = true) (h : xs <+: cs ++ rest) : xs <+: cs := by
  rcases List.prefix_or_prefix_of_prefix h (List.prefix_append cs rest) with h' | ⟨ys, rfl⟩
  · exact h'
  · match ys with
    | [] => simp
    | y :: ys =>
      obtain ⟨later, e⟩ := (List.prefix_append_right_inj _).1 h
      have stop := next y (by rw [← e]; rfl)
      rw [run y (by simp)] at stop
      cases stop

/-- What has no space in it stands in front of one. -/
lemma Follows.prefix_of (fl : Follows rest) (space : ' ' ∉ xs) (h : xs <+: cs ++ rest) :
    xs <+: cs := by
  refine prefix_of_head (p := (· != ' ')) ?_ ?_ h
  · cases fl <;> simp
  · exact fun x mem => bne_iff_ne.2 fun e => space (e ▸ mem)

end Runs

/-- What may stand behind a word: the end, a blank or a parenthesis. -/
def Stops (rest : List Char) : Prop := ∀ x ∈ rest.head?, isWordPart x = false

section Stops

variable {rest xs : List Char}

/-- What follows a text stops a word in it. -/
lemma Follows.stops {rest : List Char} (fl : Follows rest) : Stops rest := by
  cases fl with
  | stop => nofun
  | space later => simp [Stops, isWordPart, isBlank, whiteSpace, RangeTable.contains,
      RangeTable.covers]

/-- A run of word characters is a whole word in front of what stops it. -/
lemma takeWhile_of_stops (st : Stops rest) (parts : ∀ x ∈ xs, isWordPart x = true) :
    (xs ++ rest).takeWhile isWordPart = xs :=
  (run_of_head parts st).1

/-- A run of word characters stops where it ends. -/
lemma stops_dropWhile (cs : List Char) : Stops (cs.dropWhile isWordPart) := by
  have head := List.head?_dropWhile_not isWordPart cs
  intro x mem
  rw [Option.mem_def.1 mem] at head
  exact head

end Stops

/-- No word character is a parenthesis. -/
lemma isParen_of_isWordPart {c : Char} (h : isWordPart c = true) : isParen c = false := by
  rw [isWordPart, Bool.and_eq_true] at h
  simpa using h.2

/-- A class that has neither parenthesis has characters that are none. -/
lemma isParen_of_class {p : Char → Bool} {c : Char} (opening : p '(' = false)
    (closing : p ')' = false) (h : p c = true) : isParen c = false := by
  cases paren : isParen c with
  | false => rfl
  | true =>
    rcases isParen_iff.1 paren with rfl | rfl
    · rw [opening] at h
      cases h
    · rw [closing] at h
      cases h

/-- No character of a token is a parenthesis. -/
lemma isParen_of_isTokenChar {c : Char} (h : Clause.isTokenChar c = true) : isParen c = false :=
  isParen_of_class (by decide) (by decide) h

/-- Lowercase leaves a character as it is or moves it by the distance of the two alphabets. -/
lemma toLower_cases (x : Char) : x.toLower = x ∨ x.toLower.toNat = x.toNat + 32 := by
  unfold Char.toLower
  split
  · next upper =>
    right
    have bound : x.val.toNat ≤ 90 := UInt32.le_iff_toNat_le.1 upper.2
    have distance : (32 : UInt32).toNat = 32 := rfl
    change (x.val + 32).toNat = x.val.toNat + 32
    rw [UInt32.toNat_add]
    exact Nat.mod_eq_of_lt (by omega)
  · exact .inl rfl

/-- A letter is in lowercase, or it is the capital. -/
lemma eq_or_eq_of_toLower {x small capital : Char} (distance : small.toNat = capital.toNat + 32)
    (h : x.toLower = small) : x = small ∨ x = capital := by
  rcases toLower_cases x with same | moved
  · exact .inl (same.symm.trans h)
  · rw [h, distance] at moved
    exact .inr (Char.toNat_inj.1 (Nat.add_right_cancel moved).symm)

/-- What holds of the letters of the keywords, in either case, holds of the characters of a
keyword. -/
lemma forall_of_ofWord? {p : Char → Bool} {cs : List Char} {k : Combinator}
    (letters : ("andort".toList.all fun y => p y && p (Char.ofNat (y.toNat - 32))) = true)
    (h : Combinator.ofWord? cs = some k) : ∀ x ∈ cs, p x = true := by
  have letter {x : Char} (mem : x.toLower ∈ "andort".toList) : p x = true := by
    obtain ⟨small, capital⟩ := Bool.and_eq_true_iff.1 (List.all_eq_true.1 letters _ mem)
    rcases toLower_cases x with e | e
    · rwa [e] at small
    · rwa [e, Nat.add_sub_cancel, Char.ofNat_toNat] at capital
  have word {w : List Char} (e : equalIgnoringAsciiCase cs w = true)
      (within : w.map Char.toLower ⊆ "andort".toList) : ∀ x ∈ cs, p x = true := by
    intro x mem
    apply letter
    apply within
    rw [← beq_iff_eq.1 e]
    exact List.mem_map_of_mem mem
  unfold Combinator.ofWord? at h
  split at h
  · next e => exact word e (by decide)
  · split at h
    · next e => exact word e (by decide)
    · split at h
      · next e => exact word e (by decide)
      · cases h

/-- A keyword consists of characters that names of filters may have. -/
lemma isTokenChar_of_ofWord? {cs : List Char} {k : Combinator}
    (h : Combinator.ofWord? cs = some k) : ∀ x ∈ cs, Clause.isTokenChar x = true :=
  forall_of_ofWord? (by decide) h

/-- Keywords are made of word characters. -/
lemma isWordPart_of_ofWord? {cs : List Char} {k : Combinator}
    (h : Combinator.ofWord? cs = some k) : ∀ x ∈ cs, isWordPart x = true :=
  forall_of_ofWord? (by decide) h

/-- A space is no wide blank. -/
lemma startsWithWideBlank_append {rest : List Char} (fl : Follows rest) (cs : List Char) :
    startsWithWideBlank (cs ++ rest) = startsWithWideBlank cs := by
  match cs with
  | [] => cases fl <;> rfl
  | c :: cs => rfl

namespace Lexeme

/-- A blank begins a run of blanks. -/
lemma first?_of_isBlank {c : Char} (h : isBlank c = true) (cs : List Char) :
    first? (c :: cs) = some (.blank, ((c :: cs).takeWhile isBlank).length) := by
  rw [first?, if_pos h]

/-- A lexeme that is neither a blank nor a phrase is the same in front of a space. -/
lemma first?_append {c : Char} {cs rest : List Char} (fl : Follows rest)
    (blank : isBlank c = false) (quote : c ≠ '"') :
    first? (c :: cs ++ rest) = first? (c :: cs) := by
  have run : (c :: cs ++ rest).takeWhile isWordPart = (c :: cs).takeWhile isWordPart :=
    takeWhile_before fl rfl _
  have size := length_takeWhile_le isWordPart (c :: cs)
  have wide := startsWithWideBlank_append fl
    ((c :: cs).drop ((c :: cs).takeWhile isWordPart).length)
  rw [← List.drop_append_of_le_length size] at wide
  have word : (c :: cs ++ rest).take ((c :: cs).takeWhile isWordPart).length =
      (c :: cs).take ((c :: cs).takeWhile isWordPart).length :=
    List.take_append_of_le_length size
  rw [List.cons_append] at run wide word ⊢
  simp only [first?, run, wide, word]
  simp [blank, quote]

/-- A text is a keyword by the word at its start and by what stands behind that. -/
lemma first?_eq_keyword_iff {cs : List Char} {k : Combinator} {n : Nat} :
    first? cs = some (.keyword k, n) ↔
      Combinator.ofWord? (cs.takeWhile isWordPart) = some k ∧
        startsWithWideBlank (cs.dropWhile isWordPart) = false ∧
        n = (cs.takeWhile isWordPart).length := by
  match cs with
  | [] => simp [first?, Combinator.ofWord?, equalIgnoringAsciiCase]
  | c :: cs =>
    have whole := List.takeWhile_append_dropWhile (p := isWordPart) (l := c :: cs)
    have take : (c :: cs).take ((c :: cs).takeWhile isWordPart).length =
        (c :: cs).takeWhile isWordPart :=
      (congrArg (List.take _) whole).symm.trans List.take_left
    have drop : (c :: cs).drop ((c :: cs).takeWhile isWordPart).length =
        (c :: cs).dropWhile isWordPart :=
      (congrArg (List.drop _) whole).symm.trans List.drop_left
    simp only [first?, take, drop]
    constructor
    · intro h
      split at h
      · cases h
      · split at h
        · cases h
        · split at h
          · split at h
            · split at h <;> cases h
            · split at h <;> cases h
          · split at h
            · next word =>
              split at h
              · cases h
              · next narrow =>
                cases h
                exact ⟨word, by simpa using narrow, rfl⟩
            · cases h
    · rintro ⟨word, narrow, rfl⟩
      -- a keyword begins with a letter, so none of the other lexemes is tried first
      have start : isWordPart c = true ∧ Clause.isTokenChar c = true := by
        rw [List.takeWhile_cons] at word
        split at word
        · next part => exact ⟨part, isTokenChar_of_ofWord? word c (by simp)⟩
        · cases word
      obtain ⟨part, token⟩ := start
      have blank : isBlank c = false := by
        rw [isWordPart, Bool.and_eq_true] at part
        simpa using part.1
      have mark : (isParen c || c == '!') = false := by
        rw [isParen_of_isWordPart part, Bool.false_or, beq_eq_false_iff_ne]
        rintro rfl
        exact absurd token (by decide)
      have quote : (c == '"') = false := by
        rw [beq_eq_false_iff_ne]
        rintro rfl
        exact absurd token (by decide)
      simp [blank, mark, quote, word, narrow]

end Lexeme

/-- A phrase ends at the first quote behind the one that opens it. -/
lemma phraseLength?_of_not_mem {v : List Char} (h : '"' ∉ v) (rest : List Char) :
    phraseLength? (v ++ '"' :: rest) = some (v.length + 2) := by
  have first : (v ++ '"' :: rest).findIdx? (· == '"') = some v.length := by
    have none : v.findIdx? (· == '"') = none := by
      rw [List.findIdx?_eq_none_iff]
      exact fun x mem => beq_eq_false_iff_ne.2 fun e => h (e ▸ mem)
    simp [List.findIdx?_append, none, List.findIdx?_cons]
  rw [phraseLength?, first, Option.map_some]

/-- A quote without another behind it opens no phrase. -/
lemma phraseLength?_eq_none_iff {cs : List Char} : phraseLength? cs = none ↔ '"' ∉ cs := by
  rw [phraseLength?, Option.map_eq_none_iff, List.findIdx?_eq_none_iff]
  constructor
  · intro other mem
    exact absurd (other '"' mem) (by decide)
  · intro unquoted x mem
    exact beq_eq_false_iff_ne.2 fun e => unquoted (e ▸ mem)

/-- What is taken as a phrase is a text without quotes between two of them. -/
lemma exists_of_phraseLength? {cs : List Char} {n : Nat} (h : phraseLength? cs = some n) :
    ∃ v rest, '"' ∉ v ∧ cs = v ++ '"' :: rest ∧ n = v.length + 2 := by
  obtain ⟨i, hi, rfl⟩ := Option.map_eq_some_iff.1 h
  obtain ⟨lt, at_i, before⟩ := List.findIdx?_eq_some_iff_getElem.1 hi
  refine ⟨cs.take i, cs.drop (i + 1), ?_, ?_, ?_⟩
  · intro mem
    obtain ⟨j, hj, e⟩ := List.mem_iff_getElem.1 mem
    rw [List.length_take] at hj
    rw [List.getElem_take] at e
    exact before j (by omega) (by simp [e])
  · rw [← beq_iff_eq.1 at_i, List.getElem_cons_drop, List.take_append_drop]
  · rw [List.length_take_of_le (by omega)]

namespace Lexeme

/-- A phrase is one in front of a space, whatever it holds. -/
lemma first?_phrase {v : List Char} (unquoted : '"' ∉ v) (fl : Follows rest') :
    first? ('"' :: v ++ ['"'] ++ rest') = some (.phrase, v.length + 2) := by
  have text : '"' :: v ++ ['"'] ++ rest' = '"' :: (v ++ '"' :: rest') := by simp
  have run : ('"' :: (v ++ '"' :: rest')).takeWhile isWordPart =
      ('"' :: v ++ ['"']).takeWhile isWordPart := by
    rw [← text]
    exact takeWhile_before fl rfl _
  have le := length_takeWhile_le isWordPart ('"' :: v ++ ['"'])
  have size : ('"' :: v ++ ['"']).length = v.length + 2 := by simp
  rw [size] at le
  -- a run as long as the phrase ends at the space behind it, which is no wide blank
  have wide (e : (('"' :: v ++ ['"']).takeWhile isWordPart).length = v.length + 2) :
      startsWithWideBlank (('"' :: (v ++ '"' :: rest')).drop (v.length + 2)) = false := by
    rw [← text, ← size, List.drop_left]
    exact startsWithWideBlank_append fl []
  have choice : (('"' :: v ++ ['"']).takeWhile isWordPart).length < v.length + 2 ∨
      ((('"' :: v ++ ['"']).takeWhile isWordPart).length = v.length + 2 ∧
        startsWithWideBlank (('"' :: (v ++ '"' :: rest')).drop
          (('"' :: v ++ ['"']).takeWhile isWordPart).length) = false) := by
    rcases Nat.lt_or_eq_of_le le with lt | e
    · exact .inl lt
    · exact .inr ⟨e, by rw [e]; exact wide e⟩
  rw [text]
  simp only [first?, run, phraseLength?_of_not_mem unquoted]
  rw [if_neg (by decide), if_neg (by decide), if_pos (by decide), if_pos choice]

/-- What a phrase is. -/
lemma exists_of_first?_phrase {n : Nat} (h : first? cs = some (.phrase, n)) :
    ∃ v rest, '"' ∉ v ∧ cs = '"' :: v ++ ['"'] ++ rest ∧ n = v.length + 2 := by
  match cs with
  | c :: cs =>
    simp only [first?] at h
    split at h
    · cases h
    · split at h
      · cases h
      · split at h
        · next quote =>
          split at h
          · next m hm =>
            obtain ⟨v, rest, unquoted, rfl, size⟩ := exists_of_phraseLength? hm
            refine ⟨v, rest, unquoted, by simp [beq_iff_eq.1 quote], ?_⟩
            split at h <;> cases h
            exact size
          · split at h <;> cases h
        · split at h
          · split at h <;> cases h
          · cases h

end Lexeme

namespace Token

variable {rest rest' cs : List Char}

/-- Whether a text starts with a dash does not depend on what follows it. -/
lemma startsWithDash_append (fl : Follows rest) {cs : List Char} (ne : cs ≠ []) :
    startsWithDash (cs ++ rest) = startsWithDash cs := by
  match cs with
  | [c] =>
    cases fl with
    | stop => rfl
    | space later =>
      by_cases h : c = '-'
      · subst h
        rfl
      · simp [startsWithDash, h]
  | c :: d :: cs =>
    by_cases h : c = '-'
    · subst h
      rfl
    · simp [startsWithDash, h]

/-- A bare text does not begin with a blank. -/
lemma isBlank_of_bare {c : Char} {cs : List Char} (bare : Bare (c :: cs)) : isBlank c = false := by
  cases blank : isBlank c with
  | false => rfl
  | true => exact absurd (Lexeme.first?_of_isBlank blank cs) (bare.blank _)

/-- A text that begins with no combinator is no keyword. -/
lemma Bare.ofWord? (bare : Bare cs) : Combinator.ofWord? cs = none := by
  cases h : Combinator.ofWord? cs with
  | none => rfl
  | some k =>
    have whole : (cs ++ []).takeWhile isWordPart = cs ∧ (cs ++ []).dropWhile isWordPart = [] :=
      run_of_head (isWordPart_of_ofWord? h) nofun
    rw [List.append_nil] at whole
    refine absurd (Lexeme.first?_eq_keyword_iff.2 ⟨?_, ?_, rfl⟩) (bare.keyword k _)
    · rwa [whole.1]
    · rw [whole.2]
      rfl

/-- A text that begins with no combinator begins with none elsewhere, unless it is a keyword. -/
lemma Bare.move (bare : Bare (cs ++ rest)) (ne : cs ≠ []) (word : Combinator.ofWord? cs = none)
    (fl : Follows rest') : Bare (cs ++ rest') where
  blank n := by
    match cs with
    | c :: cs =>
      intro h
      have blank := Lexeme.isBlank_of_first? h
      rw [isBlank_of_bare bare] at blank
      cases blank
  keyword k n := by
    intro h
    obtain ⟨keyword, narrow, _⟩ := Lexeme.first?_eq_keyword_iff.1 h
    rw [takeWhile_before fl rfl] at keyword
    rw [dropWhile_before fl rfl] at narrow
    have whole := List.takeWhile_append_dropWhile (p := isWordPart) (l := cs)
    cases e : cs.dropWhile isWordPart with
    | nil =>
      rw [e, List.append_nil] at whole
      rw [whole, word] at keyword
      cases keyword
    | cons x later =>
      -- the word ends within the text, and so does it in front of the old rest
      have stop : ∀ y ∈ (x :: later ++ rest).head?, isWordPart y = false := by
        have head := stops_dropWhile cs
        rwa [e] at head
      have parts : ∀ y ∈ cs.takeWhile isWordPart, isWordPart y = true :=
        fun y mem => List.all_eq_true.1 List.all_takeWhile y mem
      have run := run_of_head parts stop
      rw [← List.append_assoc, ← e, whole, e] at run
      refine bare.keyword k _ (Lexeme.first?_eq_keyword_iff.2 ⟨?_, ?_, rfl⟩)
      · rwa [run.1]
      · rw [run.2]
        rwa [e] at narrow
  dash := by
    rw [startsWithDash_append fl ne]
    match cs with
    | [c] =>
      unfold startsWithDash
      split
      · next e => cases e
      · rfl
    | c :: d :: cs =>
      have dash := bare.dash
      by_cases h : c = '-'
      · subst h
        exact dash
      · simp [startsWithDash, h]
  paren := by
    match cs with
    | c :: cs => exact bare.paren

end Token

end Sift
