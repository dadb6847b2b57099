import Sift.Proofs.Clauses

/-!
# Splitting clauses off a text

What is split off the start of a text as a clause is the text's own parts, one behind the other,
with the longest operator in its place (`Clause.IsSplit`). The other way round, a name, a parameter,
an operator and a value that have been put together (`Clause.IsComposed`) are split into the same
parts again, whatever operators begin with one another.
-/

namespace Sift

open Text

/-- Whether a stretch is that of a part of a text; the text stands at the position `start`. -/
def Span.Bounds (s : Span) (start : Nat) (cs part : List Char) : Prop :=
  ∃ before after, cs = before ++ part ++ after ∧ s = ⟨start + width before, width part⟩

namespace Clause

variable {tokens : List String} {start : Nat} {cs rest : List Char} {c : Clause}

/-- Where the operator of a clause begins: behind the name, or behind the parenthesis that closes the
parameter. -/
def headStop (c : Clause) : Nat :=
  match c.param with
  | none => (c.partSpan .token).stop
  | some _ => (c.partSpan .param).stop + 1

/-- A clause and what follows it are a text, cut where one part ends and the next one begins. -/
structure IsSplit (operators : List (List Char)) (start : Nat) (cs : List Char) (c : Clause)
    (rest : List Char) : Prop where
  /-- The parts stand one behind the other. -/
  whole : c.token ++ paramText c.param ++ c.operator ++ c.value ++ rest = cs
  /-- The clause has the stretch and the characters of all of them. -/
  site : c.site.span.Bounds start cs c.site.source ∧ c.site.span.index = start ∧
    c.site.source = c.token ++ paramText c.param ++ c.operator ++ c.value
  /-- The name begins the clause. -/
  token : (c.partSpan .token).Bounds start cs c.token ∧ (c.partSpan .token).index = start
  /-- The parameter stands behind the name and a parenthesis. -/
  param : ∀ p ∈ c.param, (c.partSpan .param).Bounds start cs p ∧
    (c.partSpan .param).index = (c.partSpan .token).stop + 1
  /-- The operator stands behind the name and the parameter. -/
  operator : (c.partSpan .operator).Bounds start cs c.operator ∧
    (c.partSpan .operator).index = c.headStop
  /-- The value stands behind the operator and ends the clause. -/
  value : (c.partSpan .value).Bounds start cs c.value ∧
    (c.partSpan .value).index = (c.partSpan .operator).stop ∧
    (c.partSpan .value).stop = c.site.span.stop
  /-- The name is made of the characters of names, and there is no parenthesis in the parameter. -/
  head : c.token ≠ [] ∧ (∀ x ∈ c.token, isTokenChar x = true) ∧
    ∀ p ∈ c.param, ∀ x ∈ p, isParen x = false
  /-- The operator is the longest one that the text goes on with behind the name and the
  parameter. -/
  longest : c.operator ∈ operators ∧
    ∀ op ∈ operators, op <+: c.operator ++ c.value ++ rest → op.length ≤ c.operator.length
  /-- The value begins with a quote or with no operator. -/
  begins : c.value ≠ [] ∧ (c.value.head? = some '"' ∨ ∀ op ∈ operators, ¬op <+: c.value)

/-- Whether the parts of a clause can be told from one another when they are put together in front
of another text. -/
structure IsComposed (operators : List (List Char)) (c : Clause) (rest : List Char) : Prop where
  /-- The name is made of the characters of names. -/
  token : c.token ≠ [] ∧ ∀ x ∈ c.token, isTokenChar x = true
  /-- There is no parenthesis in the parameter. -/
  param : ∀ p ∈ c.param, ∀ x ∈ p, isParen x = false
  /-- The operator is one of those there are. -/
  known : c.operator ∈ operators
  /-- Without a parameter the operator does not go on with the name. -/
  apart : c.param = none → ∀ x ∈ c.operator.head?, isTokenChar x = false
  /-- The value is a quoted phrase, or a run of characters without a quote that begins with no
  operator, does not make a longer operator of the one before it, and is stopped. -/
  value : (∃ v, '"' ∉ v ∧ c.value = '"' :: v ++ ['"']) ∨
    ('"' ∉ c.value ∧ c.value ≠ [] ∧ (∀ x ∈ c.value, isWordPart x = true) ∧
      (∀ op ∈ operators, ¬op <+: c.value) ∧
      (∀ op ∈ operators, op <+: c.operator ++ c.value → op.length ≤ c.operator.length) ∧
      Stops rest)

/-- The operator begins behind the token and the parameter. -/
lemma headStop_eq (c : Clause) : c.headStop = c.start + width (c.token ++ paramText c.param) := by
  obtain ⟨start, token, param, operator, value⟩ := c
  cases param with
  | none => simp [headStop, partSpan, Span.stop, paramText]
  | some p =>
    have parens : '('.utf8Size = 1 ∧ ')'.utf8Size = 1 := by decide
    simp only [headStop, partSpan, Span.stop, paramText, width_append, width_cons, width_nil,
      List.cons_append, parens]
    omega

/-- The parts of a clause that has been read make up the text. -/
lemma Parts.isSplit {operators : List (List Char)} (p : Parts operators c rest)
    (whole : c.source ++ rest = cs) : c.IsSplit operators c.start cs rest := by
  have parts : c.token ++ paramText c.param ++ c.operator ++ c.value ++ rest = cs := whole
  obtain ⟨known, _, longest⟩ := longestStart?_eq_some_iff.1 p.operator
  obtain ⟨_, ne⟩ := valueStart?_initial p.value
  constructor
  case whole => exact parts
  case site => exact ⟨⟨[], rest, whole.symm, rfl⟩, rfl, rfl⟩
  case token =>
    refine ⟨⟨[], paramText c.param ++ c.operator ++ c.value ++ rest, ?_, rfl⟩, rfl⟩
    simpa using parts.symm
  case param =>
    intro text mem
    have param : c.param = some text := mem
    have paren : width (c.token ++ ['(']) = width c.token + 1 := by
      rw [width_append]
      rfl
    refine ⟨⟨c.token ++ ['('], ')' :: (c.operator ++ c.value ++ rest), ?_, ?_⟩, ?_⟩
    · simpa [param, paramText] using parts.symm
    · simp only [partSpan, param, paren, Nat.add_assoc]
    · simp only [partSpan, param, Span.stop]
  case operator =>
    refine ⟨⟨c.token ++ paramText c.param, c.value ++ rest, ?_, rfl⟩, c.headStop_eq.symm⟩
    simpa using parts.symm
  case value =>
    refine ⟨⟨c.token ++ paramText c.param ++ c.operator, rest, parts.symm, rfl⟩, ?_, ?_⟩
    · simp only [partSpan, Span.stop, width_append, Nat.add_assoc]
    · simp only [partSpan, Span.stop, site, Site.place, source, width_append, Nat.add_assoc]
  case head => exact ⟨p.token, p.tokenChars, p.param⟩
  case longest => exact ⟨known, longest⟩
  case begins =>
    refine ⟨ne, ?_⟩
    by_cases head : c.value.head? = some '"'
    · exact .inl head
    · obtain ⟨_, _, free⟩ := value_of_head p.value head
      simp only [List.any_eq_false, List.isPrefixOf_iff_prefix] at free
      exact .inr free

/-- Parts that can be told from one another are those of a clause. -/
lemma IsComposed.parts {operators : List (List Char)} (h : c.IsComposed operators rest)
    (ops : ∀ op ∈ operators, IsOperatorText op) (clean : ∀ op ∈ operators, '"' ∉ op) :
    Parts operators c rest := by
  have behind : ∀ x ∈ (paramText c.param ++ c.operator).head?, isTokenChar x = false := by
    cases e : c.param with
    | none => exact h.apart e
    | some p =>
      rintro x ⟨⟩
      rfl
  rcases h.value with ⟨v, unquoted, e⟩ | ⟨unquoted, ne, parts, free, longest, st⟩
  · refine ⟨h.token.1, h.token.2, behind, h.param, ?_, ?_⟩
    · -- no operator reaches beyond the quote that opens the phrase
      rw [List.append_assoc, e]
      refine longestStart?_of_stop (p := (· != '"')) h.known (fun op mem x mem' => ?_) ?_
      · exact bne_iff_ne.2 fun quote => clean op mem (quote ▸ mem')
      · rintro x ⟨⟩
        rfl
    · rw [e, valueStart?, quotedStart?_quoted unquoted]
  · refine ⟨h.token.1, h.token.2, behind, h.param, ?_, ?_⟩
    · -- no operator reaches beyond the run
      have alone : longestStart? operators (c.operator ++ c.value ++ []) = some c.operator := by
        rw [List.append_nil]
        exact longestStart?_eq_some_iff.2 ⟨h.known, List.prefix_append _ _, longest⟩
      exact longestStart?_move ops alone st
    · have head : c.value.head? ≠ some '"' := fun quote => unquoted (List.mem_of_head? quote)
      refine valueStart?_of_run (takeWhile_of_stops st parts) ne head ?_
      simpa only [List.any_eq_false, List.isPrefixOf_iff_prefix] using free

/-- A clause that is split off a text is made of parts of the text side by side, the longest operator
among them; and parts that can be told from one another, with the operators that an engine accepts,
are split off again when they are put together. -/
theorem splitting_undoes_composing (tokens : List String) :
    (∀ start cs c rest, first? (tokens.map String.toList) start cs = some (c, rest) →
      c.IsSplit (tokens.map String.toList) start cs rest) ∧
    ((∀ token ∈ tokens, isOperatorToken token = true) →
      ∀ c rest, IsComposed (tokens.map String.toList) c rest →
        first? (tokens.map String.toList) c.start (c.source ++ rest) = some (c, rest)) := by
  constructor
  · intro start cs c rest h
    obtain ⟨whole, parts⟩ := parts_of_source h
    rw [← start_of_first? h]
    exact parts.isSplit whole
  · intro valid c rest composed
    have texts : ∀ op ∈ tokens.map String.toList, IsOperatorText op ∧ '"' ∉ op :=
      List.forall_mem_map.2 fun token mem => isOperatorText_of_isOperatorToken (valid token mem)
    have ops := fun op mem => (texts op mem).1
    exact (composed.parts ops fun op mem => (texts op mem).2).first? ops

/-- An operator that begins with another one, behind a parameter and in front of a parenthesis. -/
theorem splitting_of_size_clause :
    let operators := (Relation.all.map Relation.token).map String.toList
    let c : Clause := ⟨3, "size".toList, some "kb".toList, ">=".toList, "10".toList⟩
    (∀ token ∈ Relation.all.map Relation.token, isOperatorToken token = true) ∧
      c.IsComposed operators ") x".toList ∧
      first? operators 3 "size(kb)>=10) x".toList = some (c, ") x".toList) ∧
      c.IsSplit operators 3 "size(kb)>=10) x".toList ") x".toList := by
  intro operators c
  have valid : ∀ token ∈ Relation.all.map Relation.token, isOperatorToken token = true := by decide
  have stops : Stops ") x".toList := by
    rintro x ⟨⟩
    decide
  have param : ∀ p ∈ c.param, ∀ x ∈ p, isParen x = false := by
    rintro p ⟨⟩
    have clean : "kb".toList.all (!isParen ·) = true := by decide
    simpa using clean
  have composed : c.IsComposed operators ") x".toList :=
    ⟨⟨by decide, List.all_eq_true.1 (by decide)⟩, param, by decide, nofun,
      .inr ⟨by decide, by decide, List.all_eq_true.1 (by decide), by decide, by decide, stops⟩⟩
  obtain ⟨split, compose⟩ := splitting_undoes_composing (Relation.all.map Relation.token)
  have read : first? operators 3 "size(kb)>=10) x".toList = some (c, ") x".toList) :=
    compose valid c _ composed
  exact ⟨valid, composed, read, split _ _ _ _ read⟩

end Clause

end Sift
