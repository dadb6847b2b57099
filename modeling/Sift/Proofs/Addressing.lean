import Sift.Proofs.Pieces
import Sift.Proofs.Rendering

/-!
# Addressing filters

A filter is registered by its token, and a query text names it by a run of characters that names may
have. The two do not agree on every token: a filter that an engine has accepted can be named in a
clause just where its token is such a run and can be told from what follows it (`Clause.IsLegible`,
`Engine.outline_of_quoted_clause`).
-/

namespace Sift

open Number Text Unicode

/-- The code points of a table are those of its ranges. -/
lemma Unicode.RangeTable.mem_of_covers {table : RangeTable} {n : Nat} (h : table.covers n = true) :
    n ∈ table.flatMap fun r => List.range' r.1 (r.2 + 1 - r.1) := by
  induction table with
  | nil => cases h
  | cons r later ih =>
    obtain ⟨first, last⟩ := r
    rw [covers, Bool.and_eq_true, decide_eq_true_eq, Bool.or_eq_true, decide_eq_true_eq] at h
    rw [List.flatMap_cons, List.mem_append]
    obtain ⟨above, below | within⟩ := h
    · exact .inl (List.mem_range'_1.2 ⟨above, by omega⟩)
    · exact .inr (ih within)

/-- No blank can stand in the name of a filter. -/
lemma isBlank_of_isTokenChar {c : Char} (h : Clause.isTokenChar c = true) : isBlank c = false := by
  have none : ∀ n ∈ whiteSpace.flatMap fun r => List.range' r.1 (r.2 + 1 - r.1),
      Clause.isTokenChar (Char.ofNat n) = false := by decide +kernel
  cases blank : isBlank c with
  | false => rfl
  | true =>
    have not := none c.toNat (RangeTable.mem_of_covers blank)
    rw [Char.ofNat_toNat, h] at not
    cases not

/-- The characters of a token are word characters. -/
lemma isWordPart_of_isTokenChar {c : Char} (h : Clause.isTokenChar c = true) :
    isWordPart c = true := by
  rw [isWordPart, isBlank_of_isTokenChar h, isParen_of_isTokenChar h]
  rfl

namespace Clause

variable {operators : List (List Char)} {c : Clause}

/-- Whether the name in a clause can be told from what follows it: its characters can stand in a
name, no operator goes on with such characters behind it, and in front of a parameter it is no word
for a combinator. -/
structure IsLegible (c : Clause) : Prop where
  chars : ∀ x ∈ c.token, isTokenChar x = true
  apart : c.param = none → ∀ x ∈ c.operator.head?, isTokenChar x = false
  word : c.param ≠ none → Combinator.ofWord? c.token = none

/-- The word at the start of a clause with a parameter is its name, and no blank follows. -/
lemma run_of_param (chars : ∀ x ∈ c.token, isTokenChar x = true) (param : c.param ≠ none) :
    c.source.takeWhile isWordPart = c.token ∧
      startsWithWideBlank (c.source.dropWhile isWordPart) = false := by
  obtain ⟨p, param⟩ := Option.ne_none_iff_exists'.1 param
  obtain ⟨later, text⟩ : ∃ later, c.source = c.token ++ '(' :: later :=
    ⟨p ++ ')' :: (c.operator ++ c.value), by simp [source, param, paramText]⟩
  have next : ∀ x ∈ ('(' :: later).head?, isWordPart x = false := by
    rintro x ⟨⟩
    rfl
  obtain ⟨run, rest⟩ := run_of_head (fun x mem => isWordPart_of_isTokenChar (chars x mem)) next
  rw [text, run, rest]
  exact ⟨rfl, rfl⟩

/-- A clause that is read with a parameter has no word for a combinator as its name. -/
lemma ofWord?_of_bare (chars : ∀ x ∈ c.token, isTokenChar x = true) (param : c.param ≠ none)
    (bare : Token.Bare c.source) : Combinator.ofWord? c.token = none := by
  cases word : Combinator.ofWord? c.token with
  | none => rfl
  | some k =>
    obtain ⟨run, narrow⟩ := run_of_param chars param
    rw [← run] at word
    exact absurd (Lexeme.first?_eq_keyword_iff.2 ⟨word, narrow, rfl⟩) (bare.keyword _ _)

/-- A clause with a legible name begins with nothing else than a name, if it does not begin with a
word for a combinator. -/
lemma IsLegible.bare (legible : c.IsLegible) (ne : c.token ≠ [])
    (apart : c.param = none → Combinator.ofWord? (c.source.takeWhile isWordPart) = none) :
    Token.Bare c.source := by
  obtain ⟨x, later, token⟩ := List.exists_cons_of_ne_nil ne
  have first : isTokenChar x = true := legible.chars x (by simp [token])
  obtain ⟨more, text⟩ : ∃ more, c.source = x :: more :=
    ⟨later ++ paramText c.param ++ c.operator ++ c.value, by simp [source, token]⟩
  refine ⟨fun n h => ?_, fun k n h => ?_, ?_, ?_⟩
  · rw [text] at h
    have blank := Lexeme.isBlank_of_first? h
    rw [isBlank_of_isTokenChar first] at blank
    cases blank
  · obtain ⟨word, _⟩ := Lexeme.first?_eq_keyword_iff.1 h
    by_cases param : c.param = none
    · rw [apart param] at word
      cases word
    · rw [(run_of_param legible.chars param).1, legible.word param] at word
      cases word
  · cases dash : Token.startsWithDash c.source with
    | false => rfl
    | true =>
      obtain ⟨behind, e⟩ := Token.exists_of_startsWithDash dash
      obtain ⟨rfl, _⟩ := List.cons.inj (text.symm.trans e)
      exact absurd first (by decide)
  · rw [text]
    exact isParen_of_isTokenChar first

/-- What stands in a word in front of a character that is no letter is no word for a combinator. -/
lemma ofWord?_of_mark {front back : List Char} {mark : Char}
    (parts : ∀ x ∈ front ++ [mark], isWordPart x = true)
    (foreign : ("andort".toList.all fun y => y != mark && Char.ofNat (y.toNat - 32) != mark) = true) :
    Combinator.ofWord? ((front ++ mark :: back).takeWhile isWordPart) = none := by
  have text : front ++ mark :: back = (front ++ [mark]) ++ back := by simp
  cases word : Combinator.ofWord? ((front ++ mark :: back).takeWhile isWordPart) with
  | none => rfl
  | some k =>
    rw [text, List.takeWhile_append_of_pos parts] at word
    have letters := forall_of_ofWord? (p := (· != mark)) foreign word mark
      (List.mem_append_left _ (List.mem_append_right _ List.mem_cons_self))
    rw [bne_self_eq_false] at letters
    cases letters

variable {v : List Char} (value : c.value = '"' :: v ++ ['"'])
include value

/-- A quoted value keeps the word at the start of a clause without a parameter from being a
combinator. -/
lemma ofWord?_of_quoted (chars : ∀ x ∈ c.token, isTokenChar x = true) (param : c.param = none)
    (op : IsOperatorText c.operator) :
    Combinator.ofWord? (c.source.takeWhile isWordPart) = none := by
  have text : c.source = (c.token ++ c.operator) ++ '"' :: (v ++ ['"']) := by
    simp [source, param, paramText, value]
  rw [text]
  refine ofWord?_of_mark (List.forall_mem_append.2 ⟨List.forall_mem_append.2 ⟨?_, op.2⟩, ?_⟩) rfl
  · exact fun x mem => isWordPart_of_isTokenChar (chars x mem)
  · exact List.forall_mem_singleton.2 rfl

/-- A clause with a legible name and a quoted value has the parts of a clause. -/
lemma IsLegible.parts (legible : c.IsLegible) (ne : c.token ≠ []) (unquoted : '"' ∉ v)
    (known : c.operator ∈ operators) (clean : ∀ op ∈ operators, '"' ∉ op)
    (flat : ∀ p ∈ c.param, ∀ x ∈ p, isParen x = false) : Parts operators c [] where
  token := ne
  tokenChars := legible.chars
  behind := by
    cases e : c.param with
    | none => exact legible.apart e
    | some p =>
      rintro x ⟨⟩
      rfl
  param := flat
  operator := by
    -- the quote of the value stops every operator
    rw [List.append_assoc]
    refine longestStart?_of_stop (p := (· != '"')) known (fun op mem x mem' => ?_) ?_
    · exact bne_iff_ne.2 fun e => clean op mem (e ▸ mem')
    · rw [value]
      rintro x ⟨⟩
      rfl
  value := by
    rw [value, valueStart?, quotedStart?_quoted unquoted]

end Clause

namespace Engine

variable {κ ε : Type} {e : Engine κ ε} {f : Filter κ ε} {op : String}

/-- A text that has the parts of a clause, and begins with nothing else than a name, is the
clause. -/
lemma outline_of_parts (reach : e.Reachable) {c : Clause} (start : c.start = 0)
    (bare : Token.Bare c.source) (parts : Clause.Parts e.operatorTexts c []) :
    e.outline (String.ofList c.source) = .term (.clause c) .done := by
  have read := parts.first? reach.isOperatorText
  rw [List.append_nil, start] at read
  have first := Token.first_of_read (.clause bare read)
  rw [← String.toList_ofList (l := c.source)] at first
  exact outline_of_first (by simpa using parts.ne) first

/-- A clause that names a filter of the engine and has one of its operators, a parameter without
parentheses or none, and a value in quotes, is read as just that clause if and only if its name is
legible. -/
theorem outline_of_quoted_clause (reach : e.Reachable) (registered : f ∈ e.filters)
    (known : op ∈ e.operatorTokens) {param? : Option (List Char)}
    (flat : ∀ p ∈ param?, ∀ x ∈ p, isParen x = false) {v : List Char} (unquoted : '"' ∉ v) :
    let c : Clause := ⟨0, f.token.toList, param?, op.toList, '"' :: v ++ ['"']⟩
    e.outline (String.ofList c.source) = .term (.clause c) .done ↔ c.IsLegible := by
  intro c
  have ops := reach.isOperatorText
  have mem : op.toList ∈ e.operatorTexts := List.mem_map_of_mem known
  have clean : ∀ op ∈ e.operatorTexts, '"' ∉ op := List.forall_mem_map.2 fun token mem =>
    (Clause.isOperatorText_of_isOperatorToken (reach.isOperatorToken token mem)).2
  have ne : c.token ≠ [] := by
    have token := reach.isFilterToken f registered
    rw [isFilterToken, Bool.and_eq_true, decide_eq_true_eq] at token
    simpa [c] using token.1
  have solid : c.source ≠ [] := by simp [Clause.source, ne]
  constructor
  · intro h
    rw [outline, String.toList_ofList] at h
    cases first : Token.first e.operatorTexts 0 c.source with
    | error error =>
      rw [Outline.scan_of_error solid first] at h
      cases h
    | ok l =>
      rw [Outline.scan_of_first solid first] at h
      cases token : l.token with
      | clause c' =>
        obtain ⟨bare, read, _⟩ := Token.clause_of_first first token
        rw [token] at h
        obtain ⟨e, _⟩ := Outline.term.inj h
        cases e
        have parts := (Clause.parts_of_source read).2
        refine ⟨parts.tokenChars, fun none => ?_, fun param => ?_⟩
        · have behind := parts.behind
          rwa [none] at behind
        · exact Clause.ofWord?_of_bare parts.tokenChars param bare
      | _ =>
        rw [token] at h
        cases h
  · -- the value has quotes, so what is in front of it cannot be taken for a keyword
    intro legible
    have bare := legible.bare ne fun param =>
      Clause.ofWord?_of_quoted rfl legible.chars param (ops _ mem)
    exact outline_of_parts reach rfl bare (legible.parts rfl ne unquoted mem clean flat)

/-- An engine over integers, with a filter that takes a parameter and one with a superscript in its
token. -/
def measured : Engine Empty IntRange.value.Member where
  filters := [.getWith .string (.integer .value) "size" fun n _ => n,
    .get (.integer .value) "m²" id]

/-- The engine of the example comes about by calls. -/
lemma reachable_measured : measured.Reachable := by
  have sized : (Engine.withOptions {}).registerFilter
      (.getWith .string (.integer .value) "size" fun n _ => n) =
        .ok { measured with filters := [.getWith .string (.integer .value) "size" fun n _ => n] } :=
    rfl
  have squared : ({ measured with
      filters := [.getWith .string (.integer .value) "size" fun n _ => n] } :
        Engine Empty IntRange.value.Member).registerFilter (.get (.integer .value) "m²" id) =
          .ok measured := rfl
  exact .step (.step (.withOptions {}) (.registerFilter _ sized)) (.registerFilter _ squared)

/-- A clause with a parameter, and a value that looks like more of the query. -/
theorem outline_of_size_clause :
    measured.Reachable ∧ (∃ f ∈ measured.filters, f.token = "size") ∧
      ">=" ∈ measured.operatorTokens ∧
      measured.outline "size(kb)>=\"1 or (2\"" =
        .term (.clause ⟨0, "size".toList, some "kb".toList, ">=".toList, "\"1 or (2\"".toList⟩)
          .done := by
  have known : ">=" ∈ measured.operatorTokens := by decide
  have legible : Clause.IsLegible
      ⟨0, "size".toList, some "kb".toList, ">=".toList, "\"1 or (2\"".toList⟩ :=
    ⟨List.all_eq_true.1 (by decide), nofun, fun _ => by decide⟩
  have flat : ∀ p ∈ some "kb".toList, ∀ x ∈ p, isParen x = false := by
    rintro p ⟨⟩
    exact List.forall_mem_cons.2 ⟨rfl, List.forall_mem_singleton.2 rfl⟩
  have unquoted : '"' ∉ "1 or (2".toList := by decide
  refine ⟨reachable_measured, ⟨_, List.mem_cons_self, rfl⟩, known, ?_⟩
  exact (outline_of_quoted_clause reachable_measured List.mem_cons_self known flat unquoted).2
    legible

/-- A filter may have a superscript in its token, but no name in a query text has one. -/
theorem outline_of_superscript_clause :
    measured.Reachable ∧ (∃ f ∈ measured.filters, f.token = "m²") ∧
      "=" ∈ measured.operatorTokens ∧
      measured.outline "m²=\"5\"" =
        .term (.word ⟨"m²=\"5\"".toList, false, .place 0 "m²=\"5\"".toList⟩) .done ∧
      measured.outline "m²=\"5\"" ≠
        .term (.clause ⟨0, "m²".toList, none, "=".toList, "\"5\"".toList⟩) .done := by
  have word : measured.outline "m²=\"5\"" =
      .term (.word ⟨"m²=\"5\"".toList, false, .place 0 "m²=\"5\"".toList⟩) .done := by
    have first : Token.first measured.operatorTexts 0 "m²=\"5\"".toList =
        .ok ⟨.word "m²=\"5\"".toList false, "m²=\"5\"".toList, []⟩ := by decide +kernel
    rw [outline, Outline.scan_of_first (by decide) first]
    simp only [Outline.scan_nil]
  refine ⟨reachable_measured, ⟨_, List.mem_cons_of_mem _ List.mem_cons_self, rfl⟩, by decide,
    word, ?_⟩
  rw [word]
  nofun

end Engine

end Sift
