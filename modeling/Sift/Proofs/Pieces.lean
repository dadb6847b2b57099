import Sift.Proofs.Formula
import Sift.Proofs.Grammar
import Sift.Proofs.Words
import Sift.Query.Reading

/-!
# Pieces of a query text

A piece is a text that says the same wherever it stands (`Piece`): at any position, in front of a
space or at the end of a level, and inside parentheses. Pieces are closed under the ways to negate
and to join them, so that what is written with all its parentheses is read as it is meant.
-/

namespace Sift

open Text Unicode

namespace Recorded

/-- Two changes of a result are one. -/
lemma map_map {α β γ : Type} (f : α → β) (g : β → γ) (r : Recorded α) :
    (r.map f).map g = r.map (g ∘ f) := by
  rw [map, map, map, Option.map_map]

/-- What goes on with a result without errors has its own errors only. -/
lemma ok_andThen {α β : Type} (a : α) (f : α → Recorded β) : (ok a).andThen f = f a := rfl

end Recorded

namespace Outline

variable {operators : List (List Char)} {start : Nat} {cs : List Char}

/-- The outline of a text by its first token. -/
lemma scan_of_first {l : Lexed} (ne : cs ≠ []) (h : Token.first operators start cs = .ok l) :
    scan operators start cs =
      (let next := scan operators (start + width l.taken) l.rest
      match l.token with
      | .blank => .blank l.taken next
      | .combinator k => .combinator k (.place start l.taken) next
      | .group inner => .group (scan operators (start + 1) inner) next
      | .clause c => .term (.clause c) next
      | .word text exact => .term (.word ⟨text, exact, .place start l.taken⟩) next) := by
  rw [scan, dif_neg ne]
  split
  · next e =>
    rw [h] at e
    cases e
  · next l' e =>
    obtain rfl : l = l' := Except.ok.inj (h.symm.trans e)
    split <;> simp only [*]

/-- An outline breaks off where there is no token. -/
lemma scan_of_error {error : QueryError} (ne : cs ≠ [])
    (h : Token.first operators start cs = .error error) :
    scan operators start cs = .broken error := by
  rw [scan, dif_neg ne]
  split
  · next error' e =>
    rw [Except.error.inj (h.symm.trans e)]
  · next l e =>
    rw [h] at e
    cases e

/-- A text without characters has an empty outline. -/
lemma scan_nil : scan operators start [] = .done := by
  rw [scan, dif_pos rfl]

variable {α : Type} (read : Term → Except QueryError (Option α))

/-- The text is read as the given items in front of a rest. -/
def ReadsBefore (operators : List (List Char)) (rest : List Char) (start : Nat) (text : List Char)
    (items : List (Item (Option α))) : Prop :=
  (scan operators start (text ++ rest)).row read =
    ((scan operators (start + width text) rest).row read).map (items ++ ·)

/-- The text is read as the given items, whatever follows it. -/
def Reads (operators : List (List Char)) (start : Nat) (text : List Char)
    (items : List (Item (Option α))) : Prop :=
  ∀ rest, Follows rest → (scan operators start (text ++ rest)).row read =
    ((scan operators (start + width text) rest).row read).map (items ++ ·)

/-- A text that does not begin with a blank. -/
def Solid (text : List Char) : Prop := ∃ c cs, text = c :: cs ∧ isBlank c = false

/-- A solid text is solid whatever follows it. -/
lemma Solid.append {text : List Char} (solid : Solid text) (rest : List Char) :
    Solid (text ++ rest) := by
  obtain ⟨c, cs, rfl, blank⟩ := solid
  exact ⟨c, cs ++ rest, rfl, blank⟩

variable {read} {text more : List Char} {items items' : List (Item (Option α))}

/-- A space between two pieces is no item. -/
lemma scan_space {text : List Char} (solid : Solid text) :
    scan operators start (' ' :: text) = .blank [' '] (scan operators (start + 1) text) := by
  obtain ⟨c, cs, rfl, blank⟩ := solid
  have run : (' ' :: c :: cs).takeWhile isBlank = [' '] := by
    rw [List.takeWhile_cons_of_pos (by rfl), List.takeWhile_cons, if_neg (by simp [blank])]
  have lexeme := Lexeme.first?_of_isBlank (rfl : isBlank ' ' = true) (c :: cs)
  rw [run] at lexeme
  rw [scan_of_first (by simp) (Token.first_of_read (.blank lexeme))]
  rfl

/-- What is read anywhere is read in front of a rest that may follow it. -/
lemma Reads.before {rest : List Char} (r : Reads read operators start text items)
    (fl : Follows rest) : ReadsBefore read operators rest start text items :=
  r rest fl

/-- Two texts with a blank between them are read one after the other in front of a rest. -/
lemma ReadsBefore.append {rest : List Char}
    (l : ReadsBefore read operators (' ' :: (more ++ rest)) start text items) (solid : Solid more)
    (r : ReadsBefore read operators rest (start + width text + 1) more items') :
    ReadsBefore read operators rest start (text ++ ' ' :: more) (items ++ items') := by
  have stop : start + width text + 1 + width more = start + width (text ++ ' ' :: more) := by
    have space : (' ' : Char).utf8Size = 1 := rfl
    rw [width_append, width_cons, space]
    omega
  rw [ReadsBefore, List.append_assoc, List.cons_append, l, scan_space (solid.append rest),
    Outline.row, r, Recorded.map_map, stop]
  congr 1
  funext later
  exact (List.append_assoc _ _ _).symm

/-- Two texts with a blank between them are read one after the other. -/
lemma Reads.append (l : Reads read operators start text items) (solid : Solid more)
    (r : Reads read operators (start + width text + 1) more items') :
    Reads read operators start (text ++ ' ' :: more) (items ++ items') :=
  fun _ fl => (l.before (.space _)).append solid (r.before fl)

/-- A dash that negates is a `not`. -/
lemma Reads.dash (solid : Solid text) (r : Reads read operators (start + 1) text items) :
    Reads read operators start ('-' :: text)
      (.combinator .not (.place start ['-']) :: items) := by
  intro rest fl
  obtain ⟨c, cs, rfl, blank⟩ := solid
  have dash : Token.startsWithDash ('-' :: (c :: cs ++ rest)) = true := by
    simp [Token.startsWithDash, blank]
  have stop : start + 1 + width (c :: cs) = start + width ('-' :: c :: cs) := by
    have size : ('-' : Char).utf8Size = 1 := rfl
    rw [width_cons '-', size]
    omega
  rw [List.cons_append, scan_of_first (by simp) (Token.first_of_read (.dash dash))]
  simp only [Lexed.split, List.take_succ_cons, List.take_zero, List.drop_succ_cons, List.drop_zero]
  rw [Outline.row]
  have size : width ['-'] = 1 := rfl
  rw [size, r rest fl, Recorded.map_map, stop]
  rfl

/-- The words for the combinators. -/
def keyword : Combinator → List Char
  | .not => "not".toList
  | .join c => c.keyword.toList

/-- The word for a combinator begins with a letter, and by itself is that combinator. -/
lemma exists_keyword (k : Combinator) : ∃ c cs, keyword k = c :: cs ∧ isBlank c = false ∧ c ≠ '"' ∧
    Lexeme.first? (c :: cs) = some (.keyword k, (c :: cs).length) ∧
    ∀ rest, Token.startsWithDash (c :: cs ++ rest) = false := by
  match k with
  | .not => exact ⟨_, _, rfl, rfl, by decide, rfl, fun _ => rfl⟩
  | .join .and => exact ⟨_, _, rfl, rfl, by decide, rfl, fun _ => rfl⟩
  | .join .or => exact ⟨_, _, rfl, rfl, by decide, rfl, fun _ => rfl⟩

/-- No keyword begins with a blank. -/
lemma solid_keyword (k : Combinator) : Solid (keyword k) := by
  obtain ⟨c, cs, e, blank, _⟩ := exists_keyword k
  exact ⟨c, cs, e, blank⟩

/-- The word for a combinator is read as the combinator. -/
lemma reads_keyword (k : Combinator) :
    Reads read operators start (keyword k) [.combinator k (.place start (keyword k))] := by
  intro rest fl
  obtain ⟨c, cs, e, blank, quote, alone, dash⟩ := exists_keyword k
  have lexeme := (Lexeme.first?_append fl blank quote).trans alone
  rw [e, scan_of_first (by simp) (Token.first_of_read (.keyword (dash rest) lexeme))]
  simp only [Lexed.split, List.take_left, List.drop_left]
  rfl

/-- A row without errors comes together to the tree that it is read as. -/
lemma combined_of_level {tree? : Option (Tree (Option α))} (level : Item.Level items tree?) :
    Item.combined items = .ok tree? := by
  rw [Item.combined, Item.combine_iff_level.2 level]
  rfl

/-- A level that holds nothing but a piece has the row of the piece. -/
lemma ReadsBefore.row (r : ReadsBefore read operators [] start text items) :
    (scan operators start text).row read = .ok items := by
  rw [ReadsBefore, List.append_nil, scan_nil] at r
  rw [r]
  simp [Outline.row, Recorded.map, Recorded.ok]

/-- A level in parentheses is the term that it comes together to. -/
lemma ReadsBefore.group {rest : List Char} {t : Tree (Option α)}
    (r : ReadsBefore read operators [] (start + 1) text items)
    (b : Token.ClosedBefore text (')' :: rest)) (level : Item.Level items (some t)) :
    ReadsBefore read operators rest start ('(' :: text ++ [')']) [.term t] := by
  rw [ReadsBefore, scan_of_first (by simp) (Token.first_group b start)]
  simp only
  rw [Outline.row, r.row, Recorded.ok_andThen, combined_of_level level, Recorded.ok_andThen]
  rfl

/-- Only the empty text has an empty outline. -/
lemma eq_nil_of_scan (h : scan operators start cs = .done) : cs = [] := by
  by_contra ne
  cases e : Token.first operators start cs with
  | error error =>
    rw [scan_of_error ne e] at h
    cases h
  | ok l =>
    rw [scan_of_first ne e] at h
    simp only at h
    split at h <;> cases h

/-- A term with nothing behind it takes the whole text. -/
lemma taken_of_scan {l : Lexed} (ne : cs ≠ []) (h : Token.first operators start cs = .ok l)
    (last : scan operators (start + width l.taken) l.rest = .done) : l.taken = cs ∧ l.rest = [] := by
  have rest := eq_nil_of_scan last
  have all := (Token.consumes_of_first ne h).1
  rw [rest, List.append_nil] at all
  exact ⟨all, rest⟩

end Outline

namespace Term

/-- The term where it stands at another position. -/
def move (start : Nat) : Term → Term
  | clause c => .clause { c with start }
  | word w => .word { w with site := .place start w.site.source }

/-- A term has one source wherever it stands. -/
lemma source_move (start : Nat) (t : Term) : (t.move start).site.source = t.site.source := by
  cases t <;> rfl

/-- What a term asks for, as it is written without quotes. -/
def asked : Term → List Char
  | clause c => unquote c.value
  | word w => w.text

/-- A term that is read at some place of some text. -/
inductive Occurs (operators : List (List Char)) : Term → Prop where
  | clause {start cs l c} :
    Token.first operators start cs = .ok l →
    l.token = .clause c →
    Occurs operators (.clause c)
  | word {start cs l text exact} :
    cs ≠ [] →
    Token.first operators start cs = .ok l →
    l.token = .word text exact →
    Occurs operators (.word ⟨text, exact, .place start l.taken⟩)

/-- A term that is no keyword, and whose quotes stand around what it asks for. -/
structure Movable (operators : List (List Char)) (t : Term) : Prop where
  occurs : t.Occurs operators
  quotes : Encloses t.site.source t.asked
  word : Combinator.ofWord? t.site.source = none

section Movable

variable {operators : List (List Char)} {rest : List Char} {t : Term}

/-- The text of a term does not begin with a blank. -/
lemma Occurs.solid (o : t.Occurs operators) : Outline.Solid t.site.source := by
  have solid {cs rest : List Char} (bare : Token.Bare (cs ++ rest)) (ne : cs ≠ []) :
      Outline.Solid cs := by
    match cs with
    | c :: cs => exact ⟨c, cs, rfl, Token.isBlank_of_bare bare⟩
  cases o with
  | clause h hc =>
    obtain ⟨bare, clause, _⟩ := Token.clause_of_first h hc
    obtain ⟨whole, parts⟩ := Clause.parts_of_source clause
    rw [← whole] at bare
    exact solid bare parts.ne
  | word ne h hl =>
    obtain ⟨whole, taken⟩ := Token.consumes_of_first ne h
    obtain ⟨bare, _⟩ := Token.word_of_first h hl
    rw [← whole] at bare
    exact solid bare taken

/-- A term asks for nothing but what is in its text. -/
lemma Occurs.asked_subset (o : t.Occurs operators) : t.asked ⊆ t.site.source := by
  cases o with
  | @clause _ _ _ c =>
    have within : unquote c.value ⊆ c.value := by
      rcases unquote_cases c.value with same | quoted
      · rw [same]
        exact List.Subset.refl _
      · intro x mem
        rw [quoted]
        simp [mem]
    exact List.Subset.trans within (List.subset_append_right _ _)
  | word ne h hl =>
    obtain ⟨body, lexeme, e, _, _, rfl, _⟩ := Token.exists_of_word ne h hl
    rw [site, e]
    exact List.Subset.trans (Token.wordText_subset lexeme _ body) (List.subset_append_right _ _)

/-- What a text with a quote in front and no other needs behind it: a value that there is no quote,
a word that its level ends. -/
def FitsBefore : Term → List Char → Prop
  | clause c, rest => IsOpened (unquote c.value) → '"' ∉ rest
  | word w, rest => IsOpened w.text → rest = []

/-- The text of a term is that term wherever it stands, if it is no keyword and no phrase with its
quotes, and fits what stands behind it. -/
lemma Occurs.scan (ops : ∀ op ∈ operators, Clause.IsOperatorText op) (o : t.Occurs operators)
    (word : Combinator.ofWord? t.site.source = none) (phrase : ¬IsPhrase t.asked)
    (fits : t.FitsBefore rest) (fl : Follows rest) (start : Nat) :
    Outline.scan operators start (t.site.source ++ rest) =
      .term (t.move start) (Outline.scan operators (start + width t.site.source) rest) := by
  have ne : t.site.source ++ rest ≠ [] := by
    obtain ⟨c, cs, e, _⟩ := o.solid
    simp [e]
  cases o with
  | clause h hc =>
    have first := Token.first_clause_move ops h hc word fl
      (fun opened => fits (by rwa [opened.unquote])) start
    exact Outline.scan_of_first ne first
  | word occurs h hl =>
    have first := Token.first_word_move ops occurs h hl word phrase fl fits start
    exact Outline.scan_of_first ne first

/-- What a movable term asks for has no quotes. -/
lemma Movable.unquoted (m : t.Movable operators) : '"' ∉ t.asked := by
  rcases m.quotes.cases with unquoted | ⟨_, _, unquoted, _⟩
  · exact fun mem => unquoted (m.occurs.asked_subset mem)
  · exact unquoted

/-- The parentheses in the text of a term are closed. -/
lemma Movable.balanced (ops : ∀ op ∈ operators, Clause.IsOperatorText op)
    (m : t.Movable operators) : Token.Balanced t.site.source := by
  have unquoted := m.unquoted
  cases m.occurs with
  | clause h hc =>
    obtain ⟨_, clause, _⟩ := Token.clause_of_first h hc
    obtain ⟨_, parts⟩ := Clause.parts_of_source clause
    exact .of_parts ops parts (.of_encloses (Clause.valueStart?_initial parts.value).2 m.quotes)
  | word ne h hl => exact Token.balanced_of_word ne h hl unquoted

/-- The text of a term is that term wherever it stands. -/
lemma Movable.scan (ops : ∀ op ∈ operators, Clause.IsOperatorText op) (m : t.Movable operators)
    (fl : Follows rest) (start : Nat) :
    Outline.scan operators start (t.site.source ++ rest) =
      .term (t.move start) (Outline.scan operators (start + width t.site.source) rest) := by
  refine m.occurs.scan ops m.word (fun phrase => ?_) ?_ fl start
  · exact m.unquoted phrase.mem
  · match t with
    | .clause c => exact fun opened => absurd opened.mem m.unquoted
    | .word w => exact fun opened => absurd opened.mem m.unquoted

end Movable

end Term

namespace Outline

variable {operators : List (List Char)} {cs : List Char} {t : Term}

/-- A text without quotes that is one term by itself is the text of a movable term. -/
lemma movable_of_scan_term (h : scan operators 0 cs = .term t .done) (unquoted : '"' ∉ cs) :
    t.Movable operators ∧ t.site.source = cs := by
  have ne : cs ≠ [] := by
    rintro rfl
    rw [scan_nil] at h
    cases h
  cases first : Token.first operators 0 cs with
  | error error =>
    rw [scan_of_error ne first] at h
    cases h
  | ok l =>
    rw [scan_of_first ne first] at h
    simp only at h
    split at h
    · cases h
    · cases h
    · cases h
    · next c hc =>
      obtain ⟨rfl, last⟩ := Outline.term.inj h
      obtain ⟨taken, rest⟩ := taken_of_scan ne first last
      obtain ⟨bare, _, source⟩ := Token.clause_of_first first hc
      have source : (Term.clause c).site.source = cs := source.symm.trans taken
      refine ⟨⟨.clause first hc, ?_, ?_⟩, source⟩
      · rw [source]
        exact .inl unquoted
      · rw [source]
        exact bare.ofWord?
    · next text exact hw =>
      obtain ⟨rfl, last⟩ := Outline.term.inj h
      obtain ⟨taken, rest⟩ := taken_of_scan ne first last
      obtain ⟨bare, _⟩ := Token.word_of_first first hw
      refine ⟨⟨.word ne first hw, ?_, ?_⟩, taken⟩
      · rw [Term.site, taken]
        exact .inl unquoted
      · rw [Term.site, taken]
        exact bare.ofWord?

end Outline

open Outline

variable {operators : List (List Char)} {α β : Type} {read : Term → Except QueryError (Option α)}
  {shape : Site → Option α → β} {text more : List Char} {f f' : Formula β}

/-- A text that is read as one operand with the given formula, wherever it stands. -/
structure Piece (operators : List (List Char)) (read : Term → Except QueryError (Option α))
    (shape : Site → Option α → β) (text : List Char) (f : Formula β) : Prop where
  solid : Solid text
  balanced : Token.Balanced text
  reads : ∀ start, ∃ items t, Item.Unary items t ∧ Reads read operators start text items ∧
    t.formula shape = f

namespace Piece

/-- There is no parenthesis in a keyword. -/
lemma isParen_of_keyword (k : Combinator) : ∀ c ∈ keyword k, isParen c = false := by
  match k with
  | .not => simp [keyword, isParen]
  | .join .and => simp [keyword, Connective.keyword, isParen]
  | .join .or => simp [keyword, Connective.keyword, isParen]

/-- A keyword is balanced. -/
lemma balanced_keyword (k : Combinator) : Token.Balanced (keyword k) := by
  apply Token.Balanced.of_flat (isParen_of_keyword k)
  match k with
  | .not => decide
  | .join .and => decide
  | .join .or => decide

/-- A dash in front of a piece negates it. -/
lemma dash (p : Piece operators read shape text f) :
    Piece operators read shape ('-' :: text) (.not f) where
  solid := ⟨'-', text, rfl, rfl⟩
  balanced := p.balanced.cons rfl (by decide)
  reads start := by
    obtain ⟨items, t, unary, reads, same⟩ := p.reads (start + 1)
    exact ⟨_, .not _ t, .not _ unary, reads.dash p.solid, congrArg Formula.not same⟩

/-- The keyword `not` in front of a piece negates it. -/
lemma not (p : Piece operators read shape text f) :
    Piece operators read shape (keyword .not ++ ' ' :: text) (.not f) where
  solid := (solid_keyword .not).append _
  balanced := (balanced_keyword .not).space p.balanced
  reads start := by
    obtain ⟨items, t, unary, reads, same⟩ := p.reads (start + width (keyword .not) + 1)
    exact ⟨_, .not _ t, .not _ unary, (reads_keyword .not).append p.solid reads,
      congrArg Formula.not same⟩

/-- A level in parentheses. -/
lemma group (b : Token.Balanced text)
    (h : ∀ start, ∃ items t, Item.Level items (some t) ∧ Reads read operators start text items ∧
      t.formula shape = f) :
    Piece operators read shape ('(' :: text ++ [')']) f where
  solid := ⟨'(', text ++ [')'], rfl, rfl⟩
  balanced := b.group
  reads start := by
    obtain ⟨items, t, level, reads, same⟩ := h (start + 1)
    exact ⟨_, t, .operand t, fun _ _ => (reads.before .stop).group (b.before _) level, same⟩

/-- Two pieces with a blank between them are joined by `and` in parentheses. -/
lemma gap (p : Piece operators read shape text f) (q : Piece operators read shape more f') :
    Piece operators read shape ('(' :: (text ++ ' ' :: more) ++ [')']) (.join .and f f') := by
  refine group (p.balanced.space q.balanced) fun start => ?_
  obtain ⟨items, l, left, readsLeft, sameLeft⟩ := p.reads start
  obtain ⟨items', r, right, readsRight, sameRight⟩ := q.reads (start + width text + 1)
  obtain ⟨s, level⟩ := Item.Level.next left right
  refine ⟨_, .join .and s l r, level, readsLeft.append q.solid readsRight, ?_⟩
  rw [Tree.formula, sameLeft, sameRight]

/-- Two pieces with a connective between them are joined by it in parentheses. -/
lemma join (c : Connective) (p : Piece operators read shape text f)
    (q : Piece operators read shape more f') :
    Piece operators read shape
      ('(' :: (text ++ ' ' :: (keyword (.join c) ++ ' ' :: more)) ++ [')']) (.join c f f') := by
  have words := (balanced_keyword (.join c)).space q.balanced
  refine group (p.balanced.space words) fun start => ?_
  obtain ⟨items, l, left, readsLeft, sameLeft⟩ := p.reads start
  obtain ⟨items', r, right, readsRight, sameRight⟩ :=
    q.reads (start + width text + 1 + width (keyword (.join c)) + 1)
  have both := (reads_keyword (.join c)).append q.solid readsRight
  refine ⟨_, .join c _ l r, .join c _ left right,
    readsLeft.append ((solid_keyword _).append _) both, ?_⟩
  rw [Tree.formula, sameLeft, sameRight]

end Piece

end Sift
