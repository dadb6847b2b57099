import Mathlib.Tactic.Lemma
import Sift.Query.Outline

/-!
# Places of tokens and terms

`Token.Read` says once how each kind of token is read. From it follows where the parts of an outline
stand in the text: the terms of a level and its groups lie within the level (`within_terms_scan`),
one behind the other (`pairwise_terms_scan`).
-/

namespace Sift

open Text Unicode

/-- A clause stands where it has been read. -/
lemma Clause.start_of_first? {operators : List (List Char)} {start : Nat} {cs rest : List Char}
    {c : Clause} (h : first? operators start cs = some (c, rest)) : c.start = start := by
  simp only [first?] at h
  split at h
  · cases h
  · split at h
    · cases h
    · split at h <;> cases h
      rfl

/-- Only a blank is read as a blank. -/
lemma Lexeme.isBlank_of_first? {c : Char} {cs : List Char} {n : Nat}
    (h : first? (c :: cs) = some (.blank, n)) : isBlank c = true := by
  simp only [first?] at h
  split at h
  · next blank => exact blank
  · split at h
    · cases h
    · split at h
      · split at h
        · split at h <;> cases h
        · split at h <;> cases h
      · split at h
        · split at h <;> cases h
        · cases h

/-- There are two parentheses. -/
lemma isParen_iff {c : Char} : isParen c = true ↔ c = '(' ∨ c = ')' := by
  rw [isParen, Bool.or_eq_true, beq_iff_eq, beq_iff_eq]

namespace Token

variable {operators : List (List Char)} {start : Nat} {cs : List Char}

/-- A text that begins with no blank, no combinator and no parenthesis. -/
structure Bare (cs : List Char) : Prop where
  blank : ∀ n, Lexeme.first? cs ≠ some (.blank, n)
  keyword : ∀ k n, Lexeme.first? cs ≠ some (.keyword k, n)
  dash : startsWithDash cs = false
  paren : (cs.head?.map isParen).getD false = false

/-- The ways to read a token at the start of a text, each with what rules out those before it. -/
inductive Read (operators : List (List Char)) (start : Nat) (cs : List Char) : Lexed → Prop where
  | blank {n} :
    Lexeme.first? cs = some (.blank, n) →
    Read operators start cs (.split .blank n cs)
  | dash :
    startsWithDash cs = true →
    Read operators start cs (.split (.combinator .not) 1 cs)
  | keyword {k n} :
    startsWithDash cs = false →
    Lexeme.first? cs = some (.keyword k, n) →
    Read operators start cs (.split (.combinator k) n cs)
  | group {n} :
    (cs.head?.map isParen).getD false = true →
    groupLength? 0 false cs = some n →
    Read operators start cs (.split (.group ((cs.take (n - 1)).drop 1)) n cs)
  | clause {c rest} :
    Bare cs →
    Clause.first? operators start cs = some (c, rest) →
    Read operators start cs ⟨.clause c, c.source, rest⟩
  | word {l} :
    Bare cs →
    Clause.first? operators start cs = none →
    word? cs = some l →
    Read operators start cs l

/-- A token is read in one of the ways there are. -/
lemma read_of_first {l : Lexed} (h : first operators start cs = .ok l) :
    Read operators start cs l := by
  unfold first at h
  split at h
  · next n hn =>
    cases h
    exact .blank hn
  · next blank =>
    split at h
    · next dash =>
      cases h
      exact .dash dash
    · next dash =>
      have dash : startsWithDash cs = false := by simpa using dash
      split at h
      · next hn =>
        cases h
        exact .keyword dash hn
      · next keyword =>
        split at h
        · next paren =>
          split at h
          · next l hg =>
            cases h
            obtain ⟨n, hn, rfl⟩ := Option.map_eq_some_iff.1 hg
            exact .group paren hn
          · cases h
        · next paren =>
          have bare : Bare cs := ⟨blank, keyword, dash, by simpa using paren⟩
          split at h
          · next hc =>
            cases h
            exact .clause bare hc
          · next hc =>
            split at h
            · next hw =>
              cases h
              exact .word bare hc hw
            · cases h

/-- A dash that negates stands in front of something. -/
lemma exists_of_startsWithDash (h : startsWithDash cs = true) : ∃ cs', cs = '-' :: cs' := by
  unfold startsWithDash at h
  split at h
  · exact ⟨_, rfl⟩
  · cases h

/-- A parenthesis is the start of a group and of nothing else. -/
lemma first?_of_isParen {c : Char} (h : isParen c = true) (cs : List Char) :
    Lexeme.first? (c :: cs) = none ∧ startsWithDash (c :: cs) = false := by
  rcases isParen_iff.1 h with rfl | rfl <;> exact ⟨rfl, rfl⟩

/-- Every way to read a token is taken. -/
lemma first_of_read {l : Lexed} (h : Read operators start cs l) :
    first operators start cs = .ok l := by
  unfold first
  cases h with
  | blank hn => rw [hn]
  | dash dash =>
    split
    · next n hn =>
      obtain ⟨cs', rfl⟩ := exists_of_startsWithDash dash
      exact absurd (Lexeme.isBlank_of_first? hn) (by decide)
    · rw [if_pos dash]
  | keyword dash hn =>
    rw [hn]
    simp [dash]
  | group paren hn =>
    match cs with
    | [] => cases paren
    | c :: cs =>
      have ⟨lexeme, dash⟩ := first?_of_isParen paren cs
      simp [lexeme, dash, group?, hn, show isParen c = true from paren]
  | clause bare hc =>
    split
    · next n hn => exact absurd hn (bare.blank n)
    · rw [if_neg (by simp [bare.dash])]
      split
      · next hn => exact absurd hn (bare.keyword _ _)
      · simp [bare.paren, hc]
  | word bare hc hw =>
    split
    · next n hn => exact absurd hn (bare.blank n)
    · rw [if_neg (by simp [bare.dash])]
      split
      · next hn => exact absurd hn (bare.keyword _ _)
      · simp [bare.paren, hc, hw]

/-- A word is read as a word. -/
lemma token_of_word? {l : Lexed} (h : word? cs = some l) :
    ∃ text exact, l.token = .word text exact := by
  simp only [word?] at h
  split at h <;> cases h <;> exact ⟨_, _, rfl⟩

/-- A clause is read where no other token is, and takes its own text. -/
lemma clause_of_first {l : Lexed} {c : Clause} (h : first operators start cs = .ok l)
    (hc : l.token = .clause c) :
    Bare cs ∧ Clause.first? operators start cs = some (c, l.rest) ∧ l.taken = c.source := by
  cases read_of_first h with
  | blank => cases hc
  | dash => cases hc
  | keyword => cases hc
  | group => cases hc
  | clause bare hf =>
    cases hc
    exact ⟨bare, hf, rfl⟩
  | word _ _ hw =>
    obtain ⟨text, exact, e⟩ := token_of_word? hw
    rw [e] at hc
    cases hc

/-- A word is read where nothing else is. -/
lemma word_of_first {l : Lexed} {text : List Char} {exact : Bool}
    (h : first operators start cs = .ok l) (hl : l.token = .word text exact) :
    Bare cs ∧ Clause.first? operators start cs = none ∧ word? cs = some l := by
  cases read_of_first h with
  | blank => cases hl
  | dash => cases hl
  | keyword => cases hl
  | group => cases hl
  | clause => cases hl
  | word bare hc hw => exact ⟨bare, hc, hw⟩

/-- The clause of a token stands where the token does. -/
lemma site_of_first {l : Lexed} {c : Clause} (h : first operators start cs = .ok l)
    (hc : l.token = .clause c) : c.site = .place start l.taken := by
  obtain ⟨_, hf, taken⟩ := clause_of_first h hc
  rw [Clause.site, Clause.start_of_first? hf, taken]

/-- The front of a text is not wider than the text. -/
lemma width_take_le (n : Nat) (cs : List Char) : width (cs.take n) ≤ width cs := by
  have := congrArg width (List.take_append_drop n cs)
  rw [width_append] at this
  omega

/-- A token and what follows it take up the text. -/
lemma width_of_first {l : Lexed} (hcs : cs ≠ []) (h : first operators start cs = .ok l) :
    width l.taken + width l.rest = width cs := by
  rw [← width_append, (consumes_of_first hcs h).1]

/-- The inside of a group is not wider than the group without its first parenthesis. -/
lemma width_group_inner (c : Char) (n : Nat) (cs : List Char) :
    width (((c :: cs).take n).drop 1) ≤ width (cs.take n) := by
  cases n with
  | zero => simp
  | succ n =>
    rw [List.take_succ_cons, List.drop_succ_cons, List.drop_zero]
    have shorter := width_take_le n (cs.take (n + 1))
    rwa [List.take_take, Nat.min_eq_left (by omega)] at shorter

/-- The text of a group lies behind its first parenthesis. -/
lemma width_group {l : Lexed} {inner : List Char} (h : first operators start cs = .ok l)
    (hg : l.token = .group inner) : width inner + 1 ≤ width l.taken := by
  cases read_of_first h with
  | blank => cases hg
  | dash => cases hg
  | keyword => cases hg
  | @group n paren hn =>
    cases hg
    have ⟨pos, le⟩ := groupLength?_bounds hn
    obtain ⟨n, rfl⟩ : ∃ m, n = m + 1 := ⟨n - 1, by omega⟩
    cases cs with
    | nil => simp at le
    | cons c cs =>
      have size := c.utf8Size_pos
      have inner := width_group_inner c n cs
      rw [Lexed.split, List.take_succ_cons, width_cons, Nat.add_sub_cancel]
      omega
  | clause => cases hg
  | word _ _ hw =>
    obtain ⟨text, exact, e⟩ := token_of_word? hw
    rw [e] at hg
    cases hg

end Token

namespace Outline

/-- The terms of a level and of the groups in it, in order. -/
def terms : Outline → List Term
  | done => []
  | broken _ => []
  | blank _ next => next.terms
  | combinator _ _ next => next.terms
  | term t next => t :: next.terms
  | group inner next => inner.terms ++ next.terms

/-- A term lies between two positions. -/
def Within (first last : Nat) (t : Term) : Prop :=
  first ≤ t.site.span.index ∧ t.site.span.stop ≤ last

/-- A term that is within bounds is within wider ones. -/
lemma Within.mono {first first' last last' : Nat} {t : Term} (w : Within first last t)
    (hf : first' ≤ first) (hl : last ≤ last') : Within first' last' t :=
  ⟨Nat.le_trans hf w.1, Nat.le_trans w.2 hl⟩

/-- A term whose text ends in front of a position is in front of it. -/
lemma within_place {t : Term} {start last : Nat} {taken : List Char}
    (h : t.site = .place start taken) (hl : start + width taken ≤ last) : Within start last t := by
  rw [Within, h]
  exact ⟨Nat.le_refl _, hl⟩

variable {operators : List (List Char)} {start : Nat} {cs : List Char}

/-- The terms of a level and its groups lie within the level. -/
lemma within_terms_scan : ∀ t ∈ (scan operators start cs).terms,
    Within start (start + width cs) t := by
  fun_induction scan operators start cs with
  | case1 => nofun
  | case2 => nofun
  | case3 start cs hcs l ht _ next _ ih =>
    have hw := Token.width_of_first hcs ht
    exact fun t mem => (ih t mem).mono (by omega) (by omega)
  | case4 start cs hcs l ht _ next _ _ ih =>
    have hw := Token.width_of_first hcs ht
    exact fun t mem => (ih t mem).mono (by omega) (by omega)
  | case5 start cs hcs l ht _ next inner hg _ ihNext ihInner =>
    have hw := Token.width_of_first hcs ht
    have hi := Token.width_group ht hg
    intro t mem
    rcases List.mem_append.1 mem with mem | mem
    · exact (ihInner t mem).mono (by omega) (by omega)
    · exact (ihNext t mem).mono (by omega) (by omega)
  | case6 start cs hcs l ht _ next c hc ih =>
    have hw := Token.width_of_first hcs ht
    intro t mem
    rcases List.mem_cons.1 mem with rfl | mem
    · exact within_place (Token.site_of_first ht hc) (by omega)
    · exact (ih t mem).mono (by omega) (by omega)
  | case7 start cs hcs l ht _ next text exact _ ih =>
    have hw := Token.width_of_first hcs ht
    intro t mem
    rcases List.mem_cons.1 mem with rfl | mem
    · exact within_place rfl (by omega)
    · exact (ih t mem).mono (by omega) (by omega)

/-- One term stands behind another. -/
def Before (a b : Term) : Prop := a.site.span.stop ≤ b.site.span.index

/-- The terms of a level and its groups stand in the text one behind the other. -/
lemma pairwise_terms_scan : (scan operators start cs).terms.Pairwise Before := by
  fun_induction scan operators start cs with
  | case1 => exact .nil
  | case2 => exact .nil
  | case3 => assumption
  | case4 => assumption
  | case5 start cs hcs l ht _ next inner hg _ ihNext ihInner =>
    have hi := Token.width_group ht hg
    refine List.pairwise_append.2 ⟨ihInner, ihNext, fun a ha b hb => ?_⟩
    have := (within_terms_scan a ha).2
    have := (within_terms_scan b hb).1
    rw [Before]
    omega
  | case6 start cs hcs l ht _ next c hc ih =>
    refine List.pairwise_cons.2 ⟨fun b hb => ?_, ih⟩
    have := (within_terms_scan b hb).1
    rwa [Before, Term.site, Token.site_of_first ht hc]
  | case7 start cs hcs l ht _ next text exact _ ih =>
    refine List.pairwise_cons.2 ⟨fun b hb => ?_, ih⟩
    exact (within_terms_scan b hb).1

end Outline

end Sift
