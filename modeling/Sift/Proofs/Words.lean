import Sift.Proofs.Clauses

/-!
# Search words in context

A search word that has been read somewhere in a text is read again in front of a space or at the end
of a level (`Token.first_word_move`). It must not be a keyword or a phrase with its quotes: in front
of a wide blank such texts are words, and only there. And a word that begins with its only quote
stands at the end of a level.
-/

namespace Sift

open Text Unicode

namespace Token

variable {operators : List (List Char)} {rest rest' cs : List Char}

/-- The text of the word or phrase that takes the first `n` characters. -/
def wordText (lexeme : Lexeme) (n : Nat) (body : List Char) : List Char :=
  if lexeme = .phrase then (body.take (n - 1)).drop 1 else body.take n

/-- The search word of a text whose word or phrase is the one at the start of `body`. -/
def wordOf? (exact : Bool) (body cs : List Char) : Option Lexed :=
  match Lexeme.first? body with
  | none => none
  | some (.blank, _) => none
  | some (lexeme, n) => some (.split (.word (wordText lexeme n body) exact) (n + exact.toNat) cs)

/-- A mark at the front makes a word exact. -/
lemma word?_of_mark (body : List Char) : word? ('!' :: body) = wordOf? true body ('!' :: body) := by
  rw [word?, wordOf?]
  rcases Lexeme.first? body with _ | ⟨_ | _ | _ | _, n⟩ <;> rfl

/-- Without a mark at the front a word is not exact. -/
lemma word?_of_ne {c : Char} (h : c ≠ '!') (cs : List Char) :
    word? (c :: cs) = wordOf? false (c :: cs) (c :: cs) := by
  rw [word?, wordOf?]
  · rcases Lexeme.first? (c :: cs) with _ | ⟨_ | _ | _ | _, n⟩ <;> rfl
  · exact fun body e => h (List.cons.inj e).1

/-- Whether an exclamation mark stands in front does not depend on what follows. -/
lemma exists_wordOf?_of_ne {cs : List Char} (ne : cs ≠ []) : ∃ exact body,
    cs = (if exact then ['!'] else []) ++ body ∧
      ∀ rest, word? (cs ++ rest) = wordOf? exact (body ++ rest) (cs ++ rest) := by
  match cs with
  | c :: cs =>
    by_cases h : c = '!'
    · subst h
      exact ⟨true, cs, rfl, fun rest => word?_of_mark _⟩
    · exact ⟨false, c :: cs, rfl, fun rest => word?_of_ne h _⟩

/-- The text of a word does not depend on what follows it. -/
lemma wordText_append {lexeme : Lexeme} {n : Nat} {body : List Char} (le : n ≤ body.length) :
    wordText lexeme n (body ++ rest) = wordText lexeme n body := by
  rw [wordText, wordText, List.take_append_of_le_length le,
    List.take_append_of_le_length (Nat.le_trans (Nat.sub_le n 1) le)]

/-- The text of a word is made of characters that stand there. -/
lemma wordText_subset (lexeme : Lexeme) (n : Nat) (body : List Char) :
    wordText lexeme n body ⊆ body := by
  rw [wordText]
  split
  · exact List.Subset.trans (List.drop_subset 1 _) (List.take_subset _ body)
  · exact List.take_subset n body

/-- What the search word of a text consists of. -/
lemma exists_of_wordOf? {exact : Bool} {body cs : List Char} {l : Lexed}
    (h : wordOf? exact body cs = some l) : ∃ lexeme n, lexeme ≠ .blank ∧
      Lexeme.first? body = some (lexeme, n) ∧
      l = .split (.word (wordText lexeme n body) exact) (n + exact.toNat) cs := by
  unfold wordOf? at h
  split at h
  · cases h
  · cases h
  · next lexeme n notBlank hn =>
    cases h
    exact ⟨lexeme, n, notBlank, hn, rfl⟩

/-- The search word that a body is, given its lexeme. -/
lemma wordOf?_of_first? (exact : Bool) {body : List Char} {lexeme : Lexeme}
    (blank : lexeme ≠ .blank) (h : Lexeme.first? (body ++ rest) = some (lexeme, body.length)) :
    wordOf? exact (body ++ rest) ((if exact then ['!'] else []) ++ body ++ rest) =
      some ⟨.word (wordText lexeme body.length body) exact,
        (if exact then ['!'] else []) ++ body, rest⟩ := by
  have size : ((if exact then ['!'] else []) ++ body).length = body.length + exact.toNat := by
    cases exact <;> simp
  have same : wordText lexeme body.length (body ++ rest) = wordText lexeme body.length body :=
    wordText_append (Nat.le_refl _)
  rw [wordOf?, h]
  cases lexeme with
  | blank => exact absurd rfl blank
  | keyword => simp only [Lexed.split, ← size, List.take_left, List.drop_left, same]
  | phrase => simp only [Lexed.split, ← size, List.take_left, List.drop_left, same]
  | word => simp only [Lexed.split, ← size, List.take_left, List.drop_left, same]

/-- What a search word has been read from: a mark that makes it exact, and a body. -/
lemma exists_of_word {start : Nat} {l : Lexed} {text : List Char} {exact : Bool} (ne : cs ≠ [])
    (h : first operators start cs = .ok l) (hl : l.token = .word text exact) :
    ∃ body lexeme, l.taken = (if exact then ['!'] else []) ++ body ∧ lexeme ≠ .blank ∧
      Lexeme.first? (body ++ l.rest) = some (lexeme, body.length) ∧
      text = wordText lexeme body.length body ∧
      ∀ rest', word? (l.taken ++ rest') = wordOf? exact (body ++ rest') (l.taken ++ rest') := by
  obtain ⟨_, _, hw⟩ := word_of_first h hl
  obtain ⟨whole, taken⟩ := consumes_of_first ne h
  obtain ⟨mark, body, e, word⟩ := exists_wordOf?_of_ne taken
  have here := word l.rest
  rw [whole, hw] at here
  obtain ⟨lexeme, n, notBlank, hn, same⟩ := exists_of_wordOf? here.symm
  have size : n = body.length := by
    have le := (Lexeme.first?_bounds hn).2
    have first := congrArg (fun l => l.taken.length) same
    have total := congrArg List.length whole
    have own := congrArg List.length e
    simp only [Lexed.split, List.length_take, List.length_append] at le first total own
    cases mark <;> simp at first own <;> omega
  subst size
  have token := congrArg Lexed.token same
  rw [hl] at token
  obtain ⟨rfl, rfl⟩ := Token.word.inj token
  exact ⟨body, lexeme, e, notBlank, hn, wordText_append (Nat.le_refl _), word⟩

/-- The run that a word or a keyword is. -/
lemma take_of_first? {cs : List Char} {l : Lexeme} {n : Nat} (phrase : l ≠ .phrase)
    (blank : l ≠ .blank) (h : Lexeme.first? cs = some (l, n)) :
    cs.take n = cs.takeWhile isWordPart := by
  have size : n = (cs.takeWhile isWordPart).length := by
    match cs with
    | c :: cs =>
      simp only [Lexeme.first?] at h
      split at h
      · cases h
        exact absurd rfl blank
      · split at h
        · cases h
        · split at h
          · split at h
            · split at h <;> cases h
              · exact absurd rfl phrase
              · rfl
            · split at h <;> cases h
              rfl
          · split at h
            · split at h <;> cases h <;> rfl
            · cases h
              rfl
  rw [size]
  exact (List.prefix_iff_eq_take.1 (List.takeWhile_prefix _)).symm

section Runs

variable {body : List Char} {lexeme : Lexeme} (phrase : lexeme ≠ .phrase) (blank : lexeme ≠ .blank)
  (h : Lexeme.first? (body ++ rest) = some (lexeme, body.length))
include phrase blank h

/-- A word or a keyword is a run, and ends where a run ends. -/
lemma parts_of_first? : (∀ x ∈ body, isWordPart x = true) ∧ Stops rest := by
  have run := take_of_first? phrase blank h
  rw [List.take_left] at run
  have whole := List.takeWhile_append_dropWhile (p := isWordPart) (l := body ++ rest)
  rw [← run, List.append_cancel_left_eq] at whole
  refine ⟨fun x mem => ?_, ?_⟩
  · rw [run] at mem
    exact List.all_eq_true.1 List.all_takeWhile x mem
  · rw [← whole]
    exact stops_dropWhile _

/-- A word that begins with a quote stays a word in front of whatever ends it, unless it is a phrase
there, or has no other quote. -/
lemma first?_quoted_move (quote : body.head? = some '"') (whole : ¬IsPhrase body)
    (opened : IsOpened body → rest' = []) (st : Stops rest') :
    Lexeme.first? (body ++ rest') = some (.word, body.length) := by
  obtain ⟨cs, rfl⟩ := List.head?_eq_some_iff.1 quote
  obtain ⟨parts, stops⟩ := parts_of_first? phrase blank h
  have here := takeWhile_of_stops stops parts
  have there := takeWhile_of_stops st parts
  rw [List.cons_append] at here there h ⊢
  simp only [Lexeme.first?, here, there] at h ⊢
  rw [if_neg (by decide), if_neg (by decide), if_pos (by decide)] at h ⊢
  cases size : phraseLength? (cs ++ rest) with
  | none =>
    have alone := phraseLength?_eq_none_iff.1 size
    rw [List.mem_append, not_or] at alone
    rw [opened (isOpened_cons.2 alone.1), List.append_nil, phraseLength?_eq_none_iff.2 alone.1]
    exact if_pos rfl
  | some n =>
    obtain ⟨v, later, unquoted, e, rfl⟩ := exists_of_phraseLength? size
    simp only [size] at h
    split at h
    · exact absurd (Prod.ext_iff.1 (Option.some.inj h)).1.symm phrase
    · next long =>
      -- the phrase ends within the word
      have le : v.length + 1 ≤ cs.length := by
        rw [not_or, List.length_cons] at long
        omega
      have initial : v ++ ['"'] <+: cs := by
        refine List.prefix_of_prefix_length_le ?_ (List.prefix_append cs rest) (by simpa using le)
        rw [e]
        exact ⟨later, by simp⟩
      obtain ⟨more, rfl⟩ := initial
      have more_ne : more ≠ [] := by
        rintro rfl
        rw [List.append_nil] at whole
        exact whole (isPhrase_quoted unquoted)
      have longer : v.length + 2 < ('"' :: (v ++ ['"'] ++ more)).length := by
        have pos := List.length_pos_iff.2 more_ne
        simp only [List.length_cons, List.length_append, List.length_nil]
        omega
      have text : v ++ ['"'] ++ more ++ rest' = v ++ '"' :: (more ++ rest') := by simp
      rw [text, phraseLength?_of_not_mem unquoted]
      exact if_neg (by omega)

/-- A word stays a word, or a keyword, in front of whatever ends it. -/
lemma first?_move (ne : body ≠ []) (whole : ¬IsPhrase body) (opened : IsOpened body → rest' = [])
    (st : Stops rest') :
    ∃ lexeme', lexeme' ≠ .blank ∧ lexeme' ≠ .phrase ∧
      Lexeme.first? (body ++ rest') = some (lexeme', body.length) := by
  by_cases quote : body.head? = some '"'
  · have moved := first?_quoted_move phrase blank h quote whole opened st
    exact ⟨.word, by decide, by decide, moved⟩
  · obtain ⟨parts, _⟩ := parts_of_first? phrase blank h
    have run := takeWhile_of_stops st parts
    obtain ⟨c, cs, rfl⟩ := List.exists_cons_of_ne_nil ne
    have quote : (c == '"') = false := beq_eq_false_iff_ne.2 fun e => quote (by rw [e]; rfl)
    rw [List.cons_append] at run h ⊢
    simp only [Lexeme.first?, quote, run] at h ⊢
    split at h
    · exact absurd (Prod.ext_iff.1 (Option.some.inj h)).1.symm blank
    · next notBlank =>
      split at h
      · cases h
      · next mark =>
        rw [if_neg notBlank, if_neg mark, if_neg (by simp)]
        split
        · split
          · exact ⟨.word, by decide, by decide, rfl⟩
          · exact ⟨.keyword _, by simp, by simp, rfl⟩
        · exact ⟨.word, by decide, by decide, rfl⟩

end Runs

/-- A run that begins with a clause in front of a space does so in front of whatever stops it. -/
lemma exists_first?_of_run (ops : ∀ op ∈ operators, Clause.IsOperatorText op) {start : Nat}
    {w : List Char} {found : Clause × List Char} (parts : ∀ x ∈ w, isWordPart x = true)
    (fl : Follows rest') (st : Stops rest)
    (h : Clause.first? operators start (w ++ rest') = some found) (start' : Nat) :
    ∃ found', Clause.first? operators start' (w ++ rest) = some found' := by
  obtain ⟨c, later⟩ := found
  obtain ⟨whole, p⟩ := Clause.parts_of_source h
  have initial {xs : List Char} (h : xs <+: c.source) : xs <+: w ++ rest' :=
    h.trans (by rw [← whole]; exact List.prefix_append _ _)
  have token : ' ' ∉ c.token := fun mem => absurd (p.tokenChars _ mem) (by decide)
  have operator : ' ' ∉ c.operator :=
    fun mem => absurd ((p.isOperatorText ops).2 _ mem) (by decide)
  -- the parenthesis of a parameter cannot be in the run
  have param : c.param = none := by
    cases e : c.param with
    | none => rfl
    | some param =>
      have opening : c.token ++ ['('] <+: w := by
        refine fl.prefix_of (by simp [token]) (initial ?_)
        simp [Clause.source, e, Clause.paramText, List.prefix_append_right_inj]
      exact absurd (parts '(' (opening.subset (by simp))) (by decide)
  have source : c.source = c.token ++ c.operator ++ c.value := by
    simp [Clause.source, param, Clause.paramText]
  obtain ⟨more, rfl⟩ : c.token ++ c.operator <+: w := by
    refine fl.prefix_of (by simp [token, operator]) (initial ?_)
    rw [source]
    exact List.prefix_append _ _
  have tail : c.value ++ later = more ++ rest' := by
    rw [source, List.append_assoc, List.append_assoc (c.token ++ c.operator),
      List.append_cancel_left_eq] at whole
    exact whole
  have value := p.value
  have operatorHere := p.operator
  rw [List.append_assoc, tail, ← List.append_assoc] at operatorHere
  rw [tail] at value
  have run : ∀ x ∈ more, isWordPart x = true := fun x mem => parts x (by simp [mem])
  -- what is left of the run holds a value there if it does here
  obtain ⟨value', there⟩ := Clause.exists_valueStart?_of_run run fl st value
  obtain ⟨later', e⟩ := (Clause.valueStart?_initial there).1
  have moved := Clause.longestStart?_move ops operatorHere st
  rw [List.append_assoc, ← e, ← List.append_assoc] at moved
  have behind := p.behind
  rw [param] at behind
  have parts' : Clause.Parts operators ⟨start', c.token, none, c.operator, value'⟩ later' :=
    { token := p.token, tokenChars := p.tokenChars, behind, param := by simp, operator := moved,
      value := by rwa [e] }
  have text : Clause.source ⟨start', c.token, none, c.operator, value'⟩ ++ later' =
      c.token ++ c.operator ++ more ++ rest := by
    simp [Clause.source, Clause.paramText, e]
  rw [← text]
  exact ⟨_, parts'.first? ops⟩

/-- A phrase is the same in front of a space, wherever it stands and whatever it holds. -/
lemma first_phrase {v : List Char} (unquoted : '"' ∉ v) (exact : Bool) (fl : Follows rest')
    (start : Nat) :
    first operators start ((if exact then ['!'] else []) ++ ('"' :: v ++ ['"']) ++ rest') =
      .ok ⟨.word v exact, (if exact then ['!'] else []) ++ ('"' :: v ++ ['"']), rest'⟩ := by
  have phrase := Lexeme.first?_phrase unquoted fl
  have size : v.length + 2 = ('"' :: v ++ ['"']).length := by simp
  have text : wordText .phrase ('"' :: v ++ ['"']).length ('"' :: v ++ ['"']) = v := by
    simp [wordText]
  rw [size] at phrase
  have word (exact : Bool) := wordOf?_of_first? exact (by decide) phrase
  simp only [text] at word
  apply first_of_read
  cases exact with
  | false =>
    refine .word ⟨?_, ?_, rfl, rfl⟩ rfl ((word?_of_ne (by decide) _).trans (word false))
    · exact fun n h => nomatch phrase.symm.trans h
    · exact fun k n h => nomatch phrase.symm.trans h
  | true =>
    exact .word ⟨nofun, nofun, rfl, rfl⟩ rfl ((word?_of_mark _).trans (word true))

/-- A search word is the same in front of a space, wherever it stands, unless it is a keyword or a
phrase there. One that a quote opens must stand at the end. -/
lemma first_word_move (ops : ∀ op ∈ operators, Clause.IsOperatorText op) {start : Nat} {l : Lexed}
    {text : List Char} {exact : Bool} (ne : cs ≠ []) (h : first operators start cs = .ok l)
    (hl : l.token = .word text exact) (word : Combinator.ofWord? l.taken = none)
    (phrase : ¬IsPhrase text) (fl : Follows rest') (opened : IsOpened text → rest' = [])
    (start' : Nat) :
    first operators start' (l.taken ++ rest') = .ok ⟨.word text exact, l.taken, rest'⟩ := by
  obtain ⟨bare, noClause, _⟩ := word_of_first h hl
  obtain ⟨whole, taken⟩ := consumes_of_first ne h
  obtain ⟨body, lexeme, e, notBlank, hn, rfl, read⟩ := exists_of_word ne h hl
  by_cases notPhrase : lexeme = .phrase
  · subst notPhrase
    obtain ⟨v, later, unquoted, same, size⟩ := Lexeme.exists_of_first?_phrase hn
    obtain ⟨rfl, _⟩ := List.append_inj same (by simp [size])
    have inside : wordText .phrase ('"' :: v ++ ['"']).length ('"' :: v ++ ['"']) = v := by
      simp [wordText]
    rw [inside, e]
    exact first_phrase unquoted exact fl start'
  · have text {lexeme' : Lexeme} (h : lexeme' ≠ .phrase) :
        wordText lexeme' body.length body = body := by
      rw [wordText, if_neg h, List.take_length]
    rw [text notPhrase] at phrase opened ⊢
    have bodyNe : body ≠ [] := List.length_pos_iff.1 (Lexeme.first?_bounds hn).1
    obtain ⟨parts, stops⟩ := parts_of_first? notPhrase notBlank hn
    have all : ∀ x ∈ l.taken, isWordPart x = true := by
      rw [e]
      refine List.forall_mem_append.2 ⟨?_, parts⟩
      cases exact
      · nofun
      · exact List.forall_mem_singleton.2 (by decide)
    rw [← whole] at bare noClause
    -- a clause that began in the new place would have begun where the word was read
    have noClause' : Clause.first? operators start' (l.taken ++ rest') = none := by
      cases hc : Clause.first? operators start' (l.taken ++ rest') with
      | none => rfl
      | some found =>
        obtain ⟨found', there⟩ := exists_first?_of_run ops all fl stops hc start
        rw [noClause] at there
        cases there
    obtain ⟨lexeme', notBlank', notPhrase', hn'⟩ :=
      first?_move notPhrase notBlank hn bodyNe phrase opened fl.stops
    have read' := read rest'
    rw [e, wordOf?_of_first? _ notBlank' hn', ← e, text notPhrase'] at read'
    exact first_of_read (.word (bare.move taken word fl) noClause' read')

/-- The parentheses of a search word without quotes in it are closed. -/
lemma balanced_of_word {start : Nat} {l : Lexed} {text : List Char} {exact : Bool} (ne : cs ≠ [])
    (h : first operators start cs = .ok l) (hl : l.token = .word text exact)
    (unquoted : '"' ∉ text) : Balanced l.taken := by
  obtain ⟨body, lexeme, e, notBlank, hn, rfl, _⟩ := exists_of_word ne h hl
  rw [e]
  refine .append ?_ ?_
  · cases exact
    · exact .of_flat nofun nofun
    · exact .of_flat (List.forall_mem_singleton.2 (by decide)) (by decide)
  · by_cases phrase : lexeme = .phrase
    · subst phrase
      obtain ⟨v, later, free, same, size⟩ := Lexeme.exists_of_first?_phrase hn
      obtain ⟨rfl, _⟩ := List.append_inj same (by simp [size])
      exact .phrase free
    · rw [wordText, if_neg phrase, List.take_length] at unquoted
      have parts := (parts_of_first? phrase notBlank hn).1
      exact .of_flat (fun x mem => isParen_of_isWordPart (parts x mem)) unquoted

end Token

end Sift
