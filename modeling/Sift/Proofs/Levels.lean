import Sift.Proofs.Groups
import Sift.Proofs.Pieces

/-!
# The levels of a text

A level is read token by token, and the search for the end of a group reads the same text character
by character. The two agree on what a quote is as long as every quote of a word, a parameter or a
value finds its partner there, or finds none in what is left of the level (`Lexed.IsPaired`). Then
the parentheses of a level are closed before a token just if they are closed behind it
(`Token.isClosed_iff_rest`), and a level that is inside a group has no parenthesis without a partner
(`Outline.fault_of_group`). A quote inside a word that finds its partner in another group makes the
two disagree (`Outline.fault_of_split_phrase`).
-/

namespace Sift

open Text Unicode

namespace Token

/-- Every quote of a text finds its partner there, or there is none behind the text. -/
def PairedBefore (cs rest : List Char) : Prop := Even (cs.count '"') ∨ '"' ∉ rest

/-- Decided by counting quotes. -/
instance (cs rest : List Char) : Decidable (PairedBefore cs rest) :=
  inferInstanceAs (Decidable (_ ∨ _))

end Token

namespace Lexed

/-- A token whose quotes find their partners in the same word or part of a clause, or else none in
what is left of the level. -/
def IsPaired : Lexed → Prop
  | ⟨.clause c, _, rest⟩ =>
    (∀ p ∈ c.param, Token.PairedBefore p (c.operator ++ (c.value ++ rest))) ∧
      Token.PairedBefore c.operator (c.value ++ rest) ∧ Token.PairedBefore c.value rest
  | ⟨.word _ _, taken, rest⟩ => Token.PairedBefore taken rest
  | _ => True

/-- Decided by the kind of the token. -/
instance : (l : Lexed) → Decidable l.IsPaired
  | ⟨.clause _, _, _⟩ => inferInstanceAs (Decidable (_ ∧ _))
  | ⟨.word _ _, _, _⟩ => inferInstanceAs (Decidable (Token.PairedBefore _ _))
  | ⟨.blank, _, _⟩ => inferInstanceAs (Decidable True)
  | ⟨.combinator _, _, _⟩ => inferInstanceAs (Decidable True)
  | ⟨.group _, _, _⟩ => inferInstanceAs (Decidable True)

end Lexed

namespace Token

variable {operators : List (List Char)} {start : Nat} {cs rest : List Char} {l : Lexed}

/-- What has no parentheses is closed in front of a rest that it leaves no quote for. -/
lemma PairedBefore.closed (paired : PairedBefore cs rest) (flat : ∀ c ∈ cs, isParen c = false) :
    ClosedBefore cs rest :=
  (IsClosed.of_flat flat).before paired

/-- A group is what its parentheses enclose, and the search for its end has found it. -/
lemma group_of_first {inner : List Char} (h : first operators start cs = .ok l)
    (hg : l.token = .group inner) : l.taken = '(' :: inner ++ [')'] ∧
      groupLength? 1 false (inner ++ ')' :: l.rest) = some (inner.length + 1) := by
  cases read_of_first h with
  | blank => cases hg
  | dash => cases hg
  | keyword => cases hg
  | @group n paren hn =>
    cases hg
    match cs with
    | c :: cs =>
      rcases isParen_iff.1 paren with rfl | rfl
      · obtain ⟨m, hm, rfl⟩ := Option.map_eq_some_iff.1 hn
        obtain ⟨body, rest, rfl, rfl⟩ := exists_of_groupLength? hm
        have text : '(' :: (body ++ ')' :: rest) = '(' :: body ++ [')'] ++ rest := by simp
        have size : body.length + 1 + 1 = ('(' :: body ++ [')']).length := by simp
        have inner : (('(' :: (body ++ ')' :: rest)).take (body.length + 1 + 1 - 1)).drop 1 =
            body := by simp
        rw [inner, Lexed.split, text, size, List.take_left, List.drop_left]
        exact ⟨rfl, hm⟩
      · simp [groupLength?] at hn
  | clause => cases hg
  | word _ _ hw =>
    obtain ⟨text, exact, e⟩ := token_of_word? hw
    rw [e] at hg
    cases hg

/-- A keyword has no parentheses and no quotes. -/
lemma balanced_of_ofWord? {k : Combinator} (h : Combinator.ofWord? cs = some k) : Balanced cs := by
  have chars := isTokenChar_of_ofWord? h
  refine .of_flat (fun x mem => isParen_of_isTokenChar (chars x mem)) fun mem => ?_
  exact absurd (chars _ mem) (by decide)

/-- A run of blanks has no other characters. -/
lemma isBlank_of_mem_take {n : Nat} (hn : Lexeme.first? cs = some (.blank, n)) :
    ∀ c ∈ cs.take n, isBlank c = true := by
  cases cs with
  | nil => cases hn
  | cons c cs =>
    have run := Lexeme.first?_of_isBlank (Lexeme.isBlank_of_first? hn) cs
    obtain rfl := (Prod.ext_iff.1 (Option.some.inj (hn.symm.trans run))).2
    rw [← List.prefix_iff_eq_take.1 (List.takeWhile_prefix _)]
    exact fun x mem => List.all_eq_true.1 List.all_takeWhile x mem

/-- Blanks are balanced. -/
lemma balanced_of_blanks (h : ∀ c ∈ cs, isBlank c = true) : Balanced cs := by
  refine .of_flat (fun c mem => ?_) fun mem => absurd (h _ mem) (by decide)
  exact isParen_of_class (by decide) (by decide) (h c mem)

/-- What stands in front of a word's text, if it is exact. -/
lemma balanced_of_mark (exact : Bool) : Balanced (if exact then ['!'] else []) := by
  cases exact
  · exact .of_flat nofun nofun
  · exact .of_flat (List.forall_mem_singleton.2 (by decide)) (by decide)

/-- Paired quotes stay paired when a closing parenthesis follows. -/
lemma PairedBefore.behind (paired : PairedBefore cs rest) : PairedBefore cs (rest ++ [')']) := by
  refine paired.imp_right fun unquoted => ?_
  simpa using unquoted

section Tokens

variable (ops : ∀ op ∈ operators, Clause.IsOperatorText op)
include ops

/-- The parentheses of a clause are closed if its quotes are paired. -/
lemma closedBefore_of_clause {c : Clause} {taken : List Char} (p : Clause.Parts operators c rest)
    (paired : Lexed.IsPaired ⟨.clause c, taken, rest⟩) : ClosedBefore c.source (rest ++ [')']) := by
  obtain ⟨param, operator, value⟩ := paired
  have parts := (p.isOperatorText ops).2
  refine (((Balanced.before ?_ _).append ?_).append ?_).append ?_
  · refine .of_flat (fun x mem => isParen_of_isTokenChar (p.tokenChars x mem)) fun mem => ?_
    exact absurd (p.tokenChars _ mem) (by decide)
  · cases e : c.param with
    | none =>
      refine Balanced.before ?_ _
      exact .of_flat nofun nofun
    | some text =>
      refine ClosedBefore.group (PairedBefore.closed ?_ (p.param text e))
      have behind := (param text e).behind
      simpa [PairedBefore] using behind
  · refine PairedBefore.closed ?_ fun x mem => isParen_of_isWordPart (parts x mem)
    simpa [PairedBefore] using operator.behind
  · rcases Clause.phrase_or_run_of_valueStart? p.value with ⟨v, unquoted, e⟩ | run
    · rw [e]
      exact (Balanced.phrase unquoted).before _
    · exact value.behind.closed fun x mem => isParen_of_isWordPart (run x mem)

/-- The parentheses of a token whose quotes are paired are closed in front of the rest of the
level. -/
lemma closedBefore_of_first (ne : cs ≠ []) (h : first operators start cs = .ok l)
    (paired : l.IsPaired) : ClosedBefore l.taken (l.rest ++ [')']) := by
  cases read_of_first h with
  | blank hn => exact (balanced_of_blanks (isBlank_of_mem_take hn)).before _
  | dash dash =>
    obtain ⟨cs, rfl⟩ := exists_of_startsWithDash dash
    have balanced : Balanced ['-'] :=
      .of_flat (List.forall_mem_singleton.2 (by decide)) (by decide)
    exact balanced.before _
  | keyword _ hn =>
    obtain ⟨word, _, rfl⟩ := Lexeme.first?_eq_keyword_iff.1 hn
    rw [Lexed.split, ← List.prefix_iff_eq_take.1 (List.takeWhile_prefix _)]
    exact (balanced_of_ofWord? word).before _
  | group =>
    obtain ⟨taken, closed⟩ := group_of_first h rfl
    rw [taken]
    exact .group (groupLength?_of_closed closed (.inl (by simp)))
  | clause bare hc => exact closedBefore_of_clause ops (Clause.parts_of_source hc).2 paired
  | word _ _ hw =>
    obtain ⟨text, exact, token⟩ := token_of_word? hw
    obtain ⟨body, lexeme, taken, notBlank, hn, _⟩ := exists_of_word ne h token
    obtain ⟨_, _, rest⟩ := l
    subst token taken
    -- a phrase is passed over as a whole; a word has no parentheses, but may have a lone quote
    by_cases phrase : lexeme = .phrase
    · subst phrase
      obtain ⟨v, later, unquoted, same, size⟩ := Lexeme.exists_of_first?_phrase hn
      obtain ⟨rfl, _⟩ := List.append_inj same (by simp [size])
      exact ((balanced_of_mark exact).append (.phrase unquoted)).before _
    · have parts := (parts_of_first? phrase notBlank hn).1
      refine PairedBefore.closed (PairedBefore.behind paired) (List.forall_mem_append.2 ⟨?_, ?_⟩)
      · cases exact
        · exact fun x mem => absurd mem List.not_mem_nil
        · exact List.forall_mem_singleton.2 (by decide)
      · exact fun x mem => isParen_of_isWordPart (parts x mem)

/-- The parentheses of a level are closed before a token just if they are behind it. -/
lemma isClosed_iff_rest (ne : cs ≠ []) (h : first operators start cs = .ok l)
    (paired : l.IsPaired) : IsClosed cs ↔ IsClosed l.rest := by
  rw [← (consumes_of_first ne h).1]
  exact (closedBefore_of_first ops ne h paired).isClosed_append_iff

end Tokens

/-- A blank is made of blanks. -/
lemma isBlank_of_first (h : first operators start cs = .ok l) (hl : l.token = .blank) :
    ∀ c ∈ l.taken, isBlank c = true := by
  cases read_of_first h with
  | blank hn => exact isBlank_of_mem_take hn
  | dash => cases hl
  | keyword => cases hl
  | group => cases hl
  | clause => cases hl
  | word _ _ hw =>
    obtain ⟨text, exact, e⟩ := token_of_word? hw
    rw [e] at hl
    cases hl

/-- The text of a group is closed. -/
lemma isClosed_of_group {inner : List Char} (h : first operators start cs = .ok l)
    (hg : l.token = .group inner) : IsClosed inner :=
  isClosed_iff.2 (isClosed_of_groupLength? (group_of_first h hg).2)

/-- Where there is no token, a parenthesis begins no group, or nothing fits. -/
lemma error_of_first {error : QueryError} (h : first operators start cs = .error error) :
    error = .point start .noToken ∨
      (error = .point start .unbalancedParenthesis ∧
        (cs.head?.map isParen).getD false = true ∧ groupLength? 0 false cs = none) := by
  unfold first at h
  split at h
  · cases h
  · split at h
    · cases h
    · split at h
      · cases h
      · split at h
        · next paren =>
          split at h
          · cases h
          · next none =>
            cases h
            exact .inr ⟨rfl, paren, Option.map_eq_none_iff.1 none⟩
        · split at h
          · cases h
          · split at h
            · cases h
            · cases h
              exact .inl rfl

/-- No parenthesis of a closed text lacks its partner. -/
lemma cause_of_first {error : QueryError} (h : first operators start cs = .error error)
    (closed : IsClosed cs) : error.cause ≠ .unbalancedParenthesis := by
  rcases error_of_first h with rfl | ⟨_, paren, none⟩
  · nofun
  · obtain ⟨n, found⟩ := closed.exists_groupLength? paren
    rw [none] at found
    cases found

/-- The tokens of a level, up to where none can be read. -/
def level (operators : List (List Char)) (start : Nat) (cs : List Char) : List Lexed :=
  if hcs : cs = [] then []
  else
    match ht : first operators start cs with
    | .error _ => []
    | .ok l =>
      have := rest_length_lt hcs ht
      l :: level operators (start + width l.taken) l.rest
termination_by cs.length

end Token

namespace Outline

variable {operators : List (List Char)} {start : Nat} {cs inner : List Char} {l : Lexed}
  {error : QueryError}

/-- The error that a level breaks off with, if the level itself does and not a group in it. -/
def fault? : Outline → Option QueryError
  | done => none
  | broken e => some e
  | blank _ next => next.fault?
  | combinator _ _ next => next.fault?
  | term _ next => next.fault?
  | group _ next => next.fault?

/-- A token at the front is not what breaks a level off. -/
lemma fault?_of_first (ne : cs ≠ []) (h : Token.first operators start cs = .ok l) :
    (scan operators start cs).fault? = (scan operators (start + width l.taken) l.rest).fault? := by
  rw [scan_of_first ne h]
  simp only
  split <;> rfl

/-- A level of closed parentheses whose quotes are paired has no parenthesis without a partner. -/
lemma cause_of_fault? (ops : ∀ op ∈ operators, Clause.IsOperatorText op)
    (closed : Token.IsClosed cs) (paired : ∀ l ∈ Token.level operators start cs, l.IsPaired)
    (h : (scan operators start cs).fault? = some error) :
    error.cause ≠ .unbalancedParenthesis := by
  fun_induction Token.level operators start cs with
  | case1 start =>
    rw [scan_nil] at h
    cases h
  | case2 start cs ne error' first =>
    rw [scan_of_error ne first] at h
    cases h
    exact Token.cause_of_first first closed
  | case3 start cs ne l first _ ih =>
    obtain ⟨here, later⟩ := List.forall_mem_cons.1 paired
    rw [fault?_of_first ne first] at h
    exact ih ((Token.isClosed_iff_rest ops ne first here).1 closed) later h

/-- The level inside a group has no parenthesis without a partner, if every quote of its words and
clauses finds its partner in the same word or part, or finds none in the level. -/
theorem fault_of_group {tokens : List String}
    (valid : ∀ token ∈ tokens, isOperatorToken token = true)
    (h : Token.first (tokens.map String.toList) start cs = .ok l) (hg : l.token = .group inner)
    (paired : ∀ l ∈ Token.level (tokens.map String.toList) (start + 1) inner, l.IsPaired) :
    ∀ error ∈ (scan (tokens.map String.toList) (start + 1) inner).fault?,
      error.cause ≠ .unbalancedParenthesis := by
  have ops : ∀ op ∈ tokens.map String.toList, Clause.IsOperatorText op := by
    refine List.forall_mem_map.2 fun token mem => ?_
    exact (Clause.isOperatorText_of_isOperatorToken (valid token mem)).1
  have closed := Token.isClosed_of_group h hg
  exact fun error mem => cause_of_fault? ops closed paired (Option.mem_def.1 mem)

/-- Quotes inside words, in parameters and around values, one of them without a partner: the group
ends where its level does. -/
theorem fault_of_paired_quotes :
    ∃ l, Token.first ((Relation.all.map Relation.token).map String.toList) 0
        "(a\"b\"c (d) n(\"x\"):\"1)\" !\")\" e\" f) g".toList = .ok l ∧
      l.token = .group "a\"b\"c (d) n(\"x\"):\"1)\" !\")\" e\" f".toList ∧
      ∀ error ∈ (scan ((Relation.all.map Relation.token).map String.toList) 1
          "a\"b\"c (d) n(\"x\"):\"1)\" !\")\" e\" f".toList).fault?,
        error.cause ≠ .unbalancedParenthesis := by
  have valid : ∀ token ∈ Relation.all.map Relation.token, isOperatorToken token = true := by decide
  have group : Token.first ((Relation.all.map Relation.token).map String.toList) 0
      "(a\"b\"c (d) n(\"x\"):\"1)\" !\")\" e\" f) g".toList =
        .ok ⟨.group "a\"b\"c (d) n(\"x\"):\"1)\" !\")\" e\" f".toList,
          "(a\"b\"c (d) n(\"x\"):\"1)\" !\")\" e\" f)".toList, " g".toList⟩ := rfl
  exact ⟨_, group, rfl, fault_of_group valid group rfl (by decide +kernel)⟩

/-- A quote in a word that finds its partner in another word hides a parenthesis from the search for
the end of the group, and the level inside has one too many. -/
theorem fault_of_split_phrase :
    ∃ l, Token.first ((Relation.all.map Relation.token).map String.toList) 0
        "(a\"b (c d\"e) f)".toList = .ok l ∧
      l.token = .group "a\"b (c d\"e".toList ∧
      (scan ((Relation.all.map Relation.token).map String.toList) 1
        "a\"b (c d\"e".toList).fault? = some (.point 5 .unbalancedParenthesis) := by
  refine ⟨_, rfl, rfl, ?_⟩
  decide +kernel

end Outline

end Sift
