import Sift.Proofs.Grammar
import Sift.Proofs.Levels
import Sift.Proofs.Recovery

/-!
# Where errors stand

The items of a level stand in its text one behind the other, each within the characters that it has
been read from (`Item.Laid`), and the `and`s that are inserted stand in the gaps between them. So an
error lies within the text, and starts between two characters of it. Only a `not` with nothing behind
it is reported behind the text.
-/

namespace Sift

open Text

/-- A position between the characters of a text that stands at `start`, or at one of its ends. -/
def Text.Boundary (start : Nat) (cs : List Char) (p : Nat) : Prop :=
  ∃ before after, cs = before ++ after ∧ p = start + width before

namespace Text.Boundary

variable {start p : Nat} {cs taken rest : List Char}

/-- A boundary is inside of the text or at its edge. -/
lemma bounds (h : Boundary start cs p) : start ≤ p ∧ p ≤ start + width cs := by
  obtain ⟨before, after, rfl, rfl⟩ := h
  rw [width_append]
  omega

/-- A text begins at a boundary. -/
lemma first : Boundary start cs start := ⟨[], cs, rfl, rfl⟩

/-- A text ends at a boundary. -/
lemma last : Boundary start cs (start + width cs) := ⟨cs, [], (List.append_nil cs).symm, rfl⟩

/-- A boundary stays one when more text follows. -/
lemma append (h : Boundary start taken p) (rest : List Char) : Boundary start (taken ++ rest) p := by
  obtain ⟨before, after, rfl, rfl⟩ := h
  exact ⟨before, after ++ rest, List.append_assoc _ _ _, rfl⟩

/-- A boundary of the rest is one of the text. -/
lemma behind (h : Boundary (start + width taken) rest p) : Boundary start (taken ++ rest) p := by
  obtain ⟨before, after, rfl, rfl⟩ := h
  exact ⟨taken ++ before, after, (List.append_assoc _ _ _).symm, by rw [width_append, Nat.add_assoc]⟩

end Text.Boundary

/-- A stretch between the characters of a text. -/
structure Span.LiesIn (start : Nat) (cs : List Char) (s : Span) : Prop where
  first : Boundary start cs s.index
  last : Boundary start cs s.stop

/-- An error within a text, that starts between two characters. -/
structure QueryError.LiesIn (start : Nat) (cs : List Char) (error : QueryError) : Prop where
  boundary : Boundary start cs error.index
  length_pos : 1 ≤ error.length
  stop_le : error.index + error.length ≤ start + width cs

section Moving

variable {start : Nat} {taken rest : List Char}

/-- A span lies in a longer text, too. -/
lemma Span.LiesIn.append {s : Span} (h : s.LiesIn start taken) (rest : List Char) :
    s.LiesIn start (taken ++ rest) :=
  ⟨h.first.append rest, h.last.append rest⟩

/-- A span that lies in the rest lies in the text. -/
lemma Span.LiesIn.behind {s : Span} (h : s.LiesIn (start + width taken) rest) :
    s.LiesIn start (taken ++ rest) :=
  ⟨h.first.behind, h.last.behind⟩

/-- An error lies in a longer text, too. -/
lemma QueryError.LiesIn.append {error : QueryError} (h : error.LiesIn start taken) (rest : List Char) :
    error.LiesIn start (taken ++ rest) := by
  refine ⟨h.boundary.append rest, h.length_pos, h.stop_le.trans ?_⟩
  rw [width_append]
  omega

/-- An error that lies in the rest lies in the text. -/
lemma QueryError.LiesIn.behind {error : QueryError} (h : error.LiesIn (start + width taken) rest) :
    error.LiesIn start (taken ++ rest) := by
  refine ⟨h.boundary.behind, h.length_pos, h.stop_le.trans ?_⟩
  rw [width_append, Nat.add_assoc]

end Moving

/-- A `not` as it is written, or the dash that stands for it. -/
def WritesNot (cs : List Char) : Prop := cs = ['-'] ∨ Combinator.ofWord? cs = some .not

namespace Item

variable {α : Type} {start : Nat} {cs taken rest : List Char} {row : List (Item α)} {x : Item α}

/-- Where the items of a row can stand in a text. A connective that has been inserted may have an
empty gap, but something stands behind it. -/
inductive LiesIn (start : Nat) (cs : List Char) : Item α → Prop where
  | term {t} :
    t.site.span.LiesIn start cs →
    LiesIn start cs (.term t)
  | connective {c s} :
    s.span.LiesIn start cs →
    s.span.index + max s.span.length 1 ≤ start + width cs →
    LiesIn start cs (combinator (.join c) s)
  | not {before word after} :
    cs = before ++ word ++ after →
    WritesNot word →
    LiesIn start cs (combinator .not (.place (start + width before) word))

/-- The items of a row stand in a text one behind the other. -/
inductive Laid : Nat → List Char → List (Item α) → Prop where
  | nil (start : Nat) (cs : List Char) :
    Laid start cs []
  | skip {start : Nat} {taken rest : List Char} {row : List (Item α)} :
    Laid (start + width taken) rest row →
    Laid start (taken ++ rest) row
  | cons {start : Nat} {taken rest : List Char} {x : Item α} {row : List (Item α)} :
    taken ≠ [] →
    LiesIn start taken x →
    Laid (start + width taken) rest row →
    Laid start (taken ++ rest) (x :: row)

namespace LiesIn

/-- The span of an item lies where the item does. -/
lemma span (h : LiesIn start cs x) : x.site.span.LiesIn start cs := by
  cases h with
  | term span => exact span
  | connective span => exact span
  | @not before word after text =>
    subst text
    have first : Boundary (start + width before) word (start + width before) := .first
    have last : Boundary (start + width before) word (start + width before + width word) := .last
    exact ⟨first.behind.append after, last.behind.append after⟩

/-- An item lies in a longer text, too. -/
lemma append (h : LiesIn start taken x) (rest : List Char) : LiesIn start (taken ++ rest) x := by
  cases h with
  | term span => exact .term (span.append rest)
  | connective span le =>
    refine .connective (span.append rest) (le.trans ?_)
    rw [width_append]
    omega
  | @not before word after text writes =>
    have whole : taken ++ rest = before ++ word ++ (after ++ rest) := by
      rw [text, List.append_assoc _ after]
    exact .not whole writes

/-- An item that lies in the rest lies in the text. -/
lemma behind (h : LiesIn (start + width taken) rest x) : LiesIn start (taken ++ rest) x := by
  cases h with
  | term span => exact .term span.behind
  | connective span le =>
    refine .connective span.behind (le.trans ?_)
    rw [width_append, Nat.add_assoc]
  | @not before word after text writes =>
    have whole : taken ++ rest = taken ++ before ++ word ++ after := by
      rw [text]
      simp only [List.append_assoc]
    have place : start + width taken + width before = start + width (taken ++ before) := by
      rw [width_append, Nat.add_assoc]
    rw [place]
    exact .not whole writes

end LiesIn

namespace Laid

/-- The items of a row that is laid out in a text lie in the text. -/
lemma liesIn (h : Laid start cs row) : ∀ x ∈ row, LiesIn start cs x := by
  induction h with
  | nil => nofun
  | skip _ ih => exact fun x mem => (ih x mem).behind
  | @cons start taken rest x row _ here _ ih =>
    exact List.forall_mem_cons.2 ⟨here.append rest, fun y mem => (ih y mem).behind⟩

/-- There is text where an item stands. -/
lemma ne_nil (h : Laid start cs (x :: row)) : cs ≠ [] := by
  generalize e : x :: row = items at h
  induction h with
  | nil => cases e
  | skip _ ih => exact List.append_ne_nil_of_right_ne_nil _ (ih e)
  | cons ne => exact List.append_ne_nil_of_left_ne_nil ne _

/-- An `and` that is inserted stands in the gap between two items. -/
lemma joint (here : LiesIn start taken x) (later : Laid (start + width taken) rest row) :
    ∀ y ∈ joint x row, LiesIn start (taken ++ rest) y := by
  rcases joint_cases x row with none | ⟨y, more, rfl, inserted⟩
  · rw [none]
    nofun
  · rw [inserted]
    refine List.forall_mem_singleton.2 ?_
    have next := (later.liesIn y List.mem_cons_self).span
    have pos := width_pos later.ne_nil
    have stop := here.span.last.bounds
    have index := next.first.bounds
    have gap : (Span.between x.site.span y.site.span).stop = y.site.span.index := by
      simp only [Span.between, Span.stop] at *
      omega
    refine .connective ⟨here.span.last.append rest, ?_⟩ ?_
    · change Boundary start (taken ++ rest) (Span.between x.site.span y.site.span).stop
      rw [gap]
      exact next.first.behind
    · simp only [Site.gap, Span.between, width_append] at *
      omega

/-- The row with its `and`s stands in the text, too. -/
lemma insertAnd (h : Laid start cs row) : ∀ x ∈ insertAnd row, LiesIn start cs x := by
  induction h with
  | nil => nofun
  | skip _ ih => exact fun x mem => (ih x mem).behind
  | @cons start taken rest x row _ here later ih =>
    rw [insertAnd_cons]
    refine List.forall_mem_cons.2 ⟨here.append rest, List.forall_mem_append.2 ⟨?_, ?_⟩⟩
    · exact later.joint here
    · exact fun y mem => (ih y mem).behind

end Laid

/-- No `not` is inserted. -/
lemma mem_of_insertAnd {s : Site} (mem : combinator .not s ∈ insertAnd row) :
    combinator .not s ∈ row := by
  induction row with
  | nil => exact mem
  | cons x row ih =>
    rw [insertAnd_cons] at mem
    rcases List.mem_cons.1 mem with rfl | mem
    · exact List.mem_cons_self
    · rcases List.mem_append.1 mem with mem | mem
      · obtain none | ⟨y, rest, rfl, inserted⟩ := joint_cases x row
        · rw [none] at mem
          cases mem
        · rw [inserted, List.mem_singleton] at mem
          cases mem
      · exact List.mem_cons_of_mem x (ih mem)

section Sites

variable {P : Site → Prop}

/-- What the first pass leaves stands where items of the row stood. -/
lemma forall_site_applyNot (all : ∀ x ∈ row, P x.site) : ∀ x ∈ (applyNot row).2, P x.site := by
  fun_induction applyNot row with
  | case1 => exact List.forall_mem_nil _
  | case2 s rest errors t rest' e ih =>
    rw [e] at ih
    obtain ⟨here, behind⟩ := List.forall_mem_cons.1 all
    exact List.forall_mem_cons.2 ⟨here, (List.forall_mem_cons.1 (ih behind)).2⟩
  | case3 s rest errors rest' _ e ih =>
    rw [e] at ih
    exact ih (List.forall_mem_cons.1 all).2
  | case4 x rest _ errors rest' e ih =>
    rw [e] at ih
    obtain ⟨here, behind⟩ := List.forall_mem_cons.1 all
    exact List.forall_mem_cons.2 ⟨here, ih behind⟩

/-- So does what the pass of a connective leaves. -/
lemma forall_site_applyJoin {c : Connective} {left : Option (Item α)}
    (all : ∀ x ∈ left.toList ++ row, P x.site) : ∀ x ∈ (applyJoin c left row).2, P x.site := by
  fun_induction applyJoin c left row with
  | case1 left => simpa using all
  | case2 s l r rest ih =>
    obtain ⟨-, here, -, behind⟩ : P l.site ∧ P s ∧ P r.site ∧ ∀ x ∈ rest, P x.site := by
      simpa [site] using all
    exact ih (List.forall_mem_cons.2 ⟨here, behind⟩)
  | case3 s left rest _ errors rest' e ih =>
    rw [e] at ih
    obtain ⟨before, behind⟩ := List.forall_mem_append.1 all
    exact ih (List.forall_mem_append.2 ⟨before, (List.forall_mem_cons.1 behind).2⟩)
  | case4 left d s rest _ errors rest' e ih =>
    rw [e] at ih
    obtain ⟨before, behind⟩ := List.forall_mem_append.1 all
    exact List.forall_mem_append.2 ⟨before, ih behind⟩
  | case5 left x rest _ errors rest' e ih =>
    rw [e] at ih
    obtain ⟨before, behind⟩ := List.forall_mem_append.1 all
    exact List.forall_mem_append.2 ⟨before, ih behind⟩

end Sites

namespace Laid

/-- The term that a row combines to stands in the text. -/
lemma combine (laid : Laid start cs row) {t : Tree α} (h : (combine row).2 = some (some t)) :
    t.site.span.LiesIn start cs := by
  obtain ⟨tree?, left, e⟩ := combine_eq row
  obtain rfl : tree? = some t := by simpa [e] using h
  have spans : ∀ x ∈ combinedRow row, x.site.span.LiesIn start cs :=
    forall_site_applyJoin (P := fun s => s.span.LiesIn start cs) <|
      forall_site_applyJoin (P := fun s => s.span.LiesIn start cs) <|
        forall_site_applyNot (P := fun s => s.span.LiesIn start cs) fun x mem =>
          (laid.insertAnd x mem).span
  rw [left] at spans
  exact spans (term t) (List.mem_singleton_self _)

/-- What is wrong with a connective lies in the text. -/
lemma missingSide (laid : Laid start cs row) {c : Connective} {s : Site} {side : Side}
    (mem : combinator (.join c) s ∈ Item.insertAnd row) :
    (QueryError.on s.span (.missingSide side c)).LiesIn start cs := by
  cases laid.insertAnd _ mem with
  | connective span le => exact ⟨span.first, le_max_right _ _, le⟩

/-- What is wrong with a row lies in its text, but for a `not` that ends the text. -/
lemma errors_combine (laid : Laid start cs row) {error : QueryError}
    (mem : error ∈ (Item.combine row).1) :
    error.LiesIn start cs ∨
      ∃ before word, cs = before ++ word ∧ WritesNot word ∧
        combinator .not (.place (start + width before) word) ∈ row ∧
        error = .point (start + width cs) (.missingOperand (String.ofList word)) := by
  obtain ⟨tree?, -, e⟩ := combine_eq row
  rw [e, passErrors, List.mem_append, List.mem_append] at mem
  -- The passes in their order: those of `not`, `and` and `or`.
  rcases mem with (mem | mem) | mem
  · obtain ⟨s, among, rfl⟩ := mem_errors_applyNot mem
    cases laid.insertAnd _ among with
    | @not before word after text writes =>
      have stop : (Site.place (start + width before) word).span.stop =
          start + (width before + width word) := Nat.add_assoc _ _ _
      -- The operand is missing in the byte behind the `not`, which may be none of the text.
      cases after with
      | nil =>
        rw [List.append_nil] at text
        refine .inr ⟨before, word, text, writes, mem_of_insertAnd among, ?_⟩
        rw [missingOperand, stop, text, width_append]
        rfl
      | cons c after =>
        have pos := c.utf8Size_pos
        refine .inl ⟨⟨before ++ word, c :: after, text, ?_⟩, le_refl 1, ?_⟩
        · rw [width_append]
          exact stop
        · change (Site.place (start + width before) word).span.stop + 1 ≤ _
          rw [stop, text, width_append, width_append, width_cons]
          omega
  · obtain ⟨s, side, among, rfl⟩ := mem_errors_applyJoin mem
    exact .inl (laid.missingSide (mem_applyNot among).2)
  · obtain ⟨s, side, among, rfl⟩ := mem_errors_applyJoin mem
    obtain none | ⟨-, among⟩ := mem_applyJoin among
    · cases none
    · exact .inl (laid.missingSide (mem_applyNot among).2)

end Laid

end Item

/-- Every part of a clause lies in the clause, and an empty parameter still has its parenthesis. -/
lemma Clause.error_liesIn {c : Clause} (token : c.token ≠ []) (value : c.value ≠ [])
    (part : ClausePart) (cause : Cause) : (QueryError.on (c.partSpan part) cause).LiesIn c.start c.source := by
  have token := width_pos token
  have value := width_pos value
  have whole : width c.source =
      width c.token + width (paramText c.param) + width c.operator + width c.value := by
    rw [source, width_append, width_append, width_append]
  have ofToken : (QueryError.on ⟨c.start, width c.token⟩ cause).LiesIn c.start c.source := by
    refine ⟨.first, le_max_right _ _, ?_⟩
    simp only [QueryError.on]
    omega
  cases part with
  | token => exact ofToken
  | param =>
    -- without a parameter the error stands at the token
    cases own : c.param with
    | none =>
      rw [partSpan, own]
      exact ofToken
    | some param =>
      have inside : width (paramText c.param) = 1 + width param + 1 := by
        rw [own, paramText, width_append, width_cons]
        rfl
      have front : width (c.token ++ ['(']) = width c.token + 1 := width_append _ _
      refine ⟨⟨c.token ++ ['('], param ++ [')'] ++ c.operator ++ c.value, ?_, ?_⟩, le_max_right _ _, ?_⟩
      · rw [source, own, paramText]
        simp
      · rw [partSpan, own, front]
        exact Nat.add_assoc _ _ _
      · simp only [partSpan, own, QueryError.on]
        omega
  | operator =>
    refine ⟨⟨c.token ++ paramText c.param, c.operator ++ c.value, ?_, rfl⟩, le_max_right _ _, ?_⟩
    · rw [source, List.append_assoc]
    · simp only [partSpan, QueryError.on, width_append]
      omega
  | value =>
    refine ⟨⟨c.token ++ paramText c.param ++ c.operator, c.value, rfl, rfl⟩, le_max_right _ _, ?_⟩
    simp only [partSpan, QueryError.on, width_append]
    omega

namespace Recorded

variable {α : Type} {start : Nat} {taken rest inner : List Char} {r next : Recorded (List (Item (Option α)))}

/-- What has been read of a level stands in its text: the items of the row, and the errors. -/
structure StandsIn (start : Nat) (cs : List Char) (r : Recorded (List (Item (Option α)))) : Prop where
  errors : ∀ error ∈ r.errors, error.LiesIn start cs
  row : ∀ row, r.result? = some row → Item.Laid start cs row

/-- What stands in the rest stands in the text. -/
lemma StandsIn.skip (h : next.StandsIn (start + width taken) rest) :
    next.StandsIn start (taken ++ rest) :=
  ⟨fun error mem => (h.errors error mem).behind, fun row result => .skip (h.row row result)⟩

/-- An item in front of a row stands in the text that is in front of the row's. -/
lemma StandsIn.cons (h : next.StandsIn (start + width taken) rest) (ne : taken ≠ [])
    {x : Item (Option α)} (here : x.LiesIn start taken) :
    (next.map (x :: ·)).StandsIn start (taken ++ rest) := by
  refine ⟨fun error mem => (h.errors error mem).behind, fun row result => ?_⟩
  obtain ⟨later, behind, rfl⟩ := Option.map_eq_some_iff.1 result
  exact .cons ne here (h.row later behind)

/-- A term stands where it has been read, and so does what is wrong with it. -/
lemma StandsIn.term {read : Term → Except QueryError (Option α)} {t : Term}
    (h : next.StandsIn (start + width taken) rest) (ne : taken ≠ [])
    (site : t.site = .place start taken)
    (refused : ∀ error, read t = .error error → error.LiesIn start taken) :
    ((readLeaf read t).andThen fun leaf => next.map (.term leaf :: ·)).StandsIn start
      (taken ++ rest) := by
  have here : (Item.term (.leaf t.site (meaning? read t))).LiesIn start taken := by
    refine .term ?_
    rw [Tree.site, site]
    exact ⟨.first, .last⟩
  have later := h.cons ne here
  constructor
  case errors =>
    intro error mem
    rw [errors_andThen (result?_readLeaf read t)] at mem
    rcases List.mem_append.1 mem with mem | mem
    · rw [readLeaf] at mem
      cases meaning : read t with
      | ok a? =>
        rw [meaning] at mem
        cases mem
      | error error' =>
        rw [meaning, List.mem_singleton] at mem
        subst mem
        exact (refused error meaning).append rest
    · exact later.errors error mem
  case row =>
    intro row result
    rw [result?_andThen (result?_readLeaf read t)] at result
    exact later.row row result

/-- A group stands between its parentheses, and so do its errors: where its own text has no room for
one there is the closing parenthesis. -/
lemma StandsIn.group (h : r.StandsIn (start + 1) inner) (text : taken = '(' :: inner ++ [')'])
    (later : next.StandsIn (start + width taken) rest) :
    ((r.andThen Item.combined).andThen fun tree? =>
      next.map (tree?.toList.map .term ++ ·)).StandsIn start (taken ++ rest) := by
  subst text
  have moved {error : QueryError} (lies : error.LiesIn (start + width ['(']) inner) :
      error.LiesIn start ('(' :: inner ++ [')'] ++ rest) := (lies.behind.append [')']).append rest
  constructor
  case errors =>
    intro error mem
    rcases mem_errors_andThen mem with mem | ⟨tree?, -, mem⟩
    · rcases mem_errors_andThen mem with mem | ⟨row, result, mem⟩
      · exact moved (h.errors error mem)
      · rcases (h.row row result).errors_combine mem with lies | ⟨before, word, -, -, -, rfl⟩
        · exact moved lies
        -- A `not` that ends the group is reported at the parenthesis that closes it.
        · refine ⟨⟨'(' :: inner, [')'] ++ rest, List.append_assoc _ _ _, ?_⟩, le_refl 1, ?_⟩
          · exact Nat.add_assoc _ _ _
          · have size : width ('(' :: inner ++ [')'] ++ rest) = 1 + width inner + 1 + width rest := by
              rw [width_append, width_append, width_cons]
              rfl
            simp only [QueryError.point, QueryError.on, size]
            omega
    · exact (later.errors error mem).behind
  case row =>
    intro row result
    obtain ⟨tree?, combined, joined⟩ := exists_of_andThen result
    obtain ⟨row', result', combined⟩ := exists_of_andThen combined
    obtain ⟨behind, read, rfl⟩ := Option.map_eq_some_iff.1 joined
    cases tree? with
    | none => exact .skip (later.row behind read)
    | some t =>
      -- The tree keeps the place that it has in the group, parentheses apart.
      have span : t.site.span.LiesIn (start + width ['(']) inner :=
        (h.row row' result').combine combined
      exact .cons (List.cons_ne_nil _ _) (.term (span.behind.append [')'])) (later.row behind read)

end Recorded

/-- A token that is a `not` is one as it is written. -/
lemma Token.writesNot_of_first {operators : List (List Char)} {start : Nat} {cs : List Char} {l : Lexed}
    (h : first operators start cs = .ok l) (hk : l.token = .combinator .not) : WritesNot l.taken := by
  cases read_of_first h with
  | blank => cases hk
  | dash dash =>
    obtain ⟨cs, rfl⟩ := exists_of_startsWithDash dash
    exact .inl rfl
  | keyword _ hn =>
    cases hk
    obtain ⟨word, -, rfl⟩ := Lexeme.first?_eq_keyword_iff.1 hn
    rw [Lexed.split, ← List.prefix_iff_eq_take.1 (List.takeWhile_prefix _)]
    exact .inr word
  | group => cases hk
  | clause => cases hk
  | word _ _ hw =>
    obtain ⟨text, exact, e⟩ := token_of_word? hw
    rw [e] at hk
    cases hk

/-- The combinators of a level, without those of its groups. -/
def Outline.combinators : Outline → List (Combinator × Site)
  | done => []
  | broken _ => []
  | blank _ next => next.combinators
  | combinator k s next => (k, s) :: next.combinators
  | term _ next => next.combinators
  | group _ next => next.combinators

namespace Item

variable {α : Type}

/-- The combinators in a row. -/
def combinators : List (Item α) → List (Combinator × Site)
  | [] => []
  | combinator k s :: row => (k, s) :: combinators row
  | term _ :: row => combinators row

/-- A row without items has no combinators. -/
@[simp] lemma combinators_nil : combinators ([] : List (Item α)) = [] := rfl

/-- A combinator comes before those of the rest. -/
@[simp] lemma combinators_combinator (k : Combinator) (s : Site) (row : List (Item α)) :
    combinators (combinator k s :: row) = (k, s) :: combinators row := rfl

/-- A term is no combinator. -/
@[simp] lemma combinators_term (t : Tree α) (row : List (Item α)) :
    combinators (term t :: row) = combinators row := rfl

/-- The combinators of two rows are those of both, in order. -/
@[simp] lemma combinators_append (row row' : List (Item α)) :
    combinators (row ++ row') = combinators row ++ combinators row' := by
  induction row with
  | nil => rfl
  | cons x row ih => cases x <;> simp [ih]

/-- A combinator of a row is one of its combinators. -/
lemma mem_combinators {row : List (Item α)} {k : Combinator} {s : Site}
    (mem : combinator k s ∈ row) : (k, s) ∈ combinators row := by
  induction row with
  | nil => cases mem
  | cons x row ih =>
    rcases List.mem_cons.1 mem with rfl | later
    · exact List.mem_cons_self
    · cases x with
      | combinator => exact List.mem_cons_of_mem _ (ih later)
      | term => exact ih later

end Item

/-- The combinators of a row are those of its level. -/
lemma Outline.combinators_row {α : Type} {read : Term → Except QueryError (Option α)} {o : Outline}
    {row : List (Item (Option α))} (result : (o.row read).result? = some row) :
    Item.combinators row = o.combinators := by
  induction o generalizing row with
  | done =>
    cases result
    rfl
  | broken => cases result
  | blank _ next ih => exact ih result
  | combinator k s next ih =>
    obtain ⟨row, behind, rfl⟩ := Option.map_eq_some_iff.1 result
    rw [Item.combinators_combinator, ih behind, combinators]
  | term t next ih =>
    obtain ⟨leaf, -, result⟩ := Recorded.exists_of_andThen result
    obtain ⟨row, behind, rfl⟩ := Option.map_eq_some_iff.1 result
    rw [Item.combinators_term, ih behind, combinators]
  | group inner next _ ih =>
    obtain ⟨tree?, -, result⟩ := Recorded.exists_of_andThen result
    obtain ⟨row, behind, rfl⟩ := Option.map_eq_some_iff.1 result
    have none : Item.combinators (tree?.toList.map Item.term) = [] := by cases tree? <;> rfl
    rw [Item.combinators_append, none, ih behind]
    rfl

/-- The combinators of a row have been read on its level. -/
lemma Outline.mem_combinators {α : Type} {read : Term → Except QueryError (Option α)} {o : Outline}
    {row : List (Item (Option α))} (result : (o.row read).result? = some row) {k : Combinator}
    {s : Site} (mem : .combinator k s ∈ row) : (k, s) ∈ o.combinators :=
  combinators_row result ▸ Item.mem_combinators mem

/-- The width of a text is the number of its bytes. -/
lemma Text.width_eq (cs : List Char) : width cs = (String.ofList cs).utf8ByteSize := by
  induction cs with
  | nil => rfl
  | cons c cs ih => simp [ih]

namespace Engine

variable {κ ε : Type} (e : Engine κ ε)

/-- A clause is refused for one of its parts. -/
lemma exists_of_readTerm {e : Engine κ ε} {c : Clause} {error : QueryError}
    (refused : e.readTerm (.clause c) = .error error) :
    ∃ cause part, error = .on (c.partSpan part) cause := by
  rw [readTerm] at refused
  split at refused
  · cases refused
  · next fault _ =>
    cases refused
    exact ⟨.clause fault, fault.part, rfl⟩

/-- What is read of a level stands in its text. -/
lemma standsIn_scan (start : Nat) (cs : List Char) :
    ((Outline.scan e.operatorTexts start cs).row e.readTerm).StandsIn start cs := by
  -- The cases: no text, a lexical error, a blank, a combinator, a group, a clause and a word.
  fun_induction Outline.scan e.operatorTexts start cs with
  | case1 start =>
    refine ⟨List.forall_mem_nil _, fun row result => ?_⟩
    cases result
    exact .nil start []
  | case2 start cs hcs error ht =>
    have pos := width_pos hcs
    have lies (cause : Cause) : (QueryError.point start cause).LiesIn start cs :=
      ⟨.first, le_refl 1, Nat.add_le_add_left pos start⟩
    refine ⟨List.forall_mem_singleton.2 ?_, fun row result => by cases result⟩
    obtain rfl | ⟨rfl, -, -⟩ := Token.error_of_first ht
    · exact lies _
    · exact lies _
  | case3 start cs hcs l ht _ next _ ih =>
    rw [← (Token.consumes_of_first hcs ht).1]
    exact ih.skip
  | case4 start cs hcs l ht _ next k hk ih =>
    obtain ⟨text, ne⟩ := Token.consumes_of_first hcs ht
    rw [← text]
    refine ih.cons ne ?_
    cases k with
    | not =>
      have whole : l.taken = [] ++ l.taken ++ [] := (List.append_nil _).symm
      exact .not whole (Token.writesNot_of_first ht hk)
    | join c =>
      refine .connective ⟨.first, .last⟩ (Nat.add_le_add_left ?_ start)
      exact max_le (le_refl _) (width_pos ne)
  | case5 start cs hcs l ht _ next inner hg _ ihNext ihInner =>
    rw [← (Token.consumes_of_first hcs ht).1]
    exact ihInner.group (Token.group_of_first ht hg).1 ihNext
  | case6 start cs hcs l ht _ next c hc ih =>
    obtain ⟨text, ne⟩ := Token.consumes_of_first hcs ht
    rw [← text]
    refine ih.term ne (Token.site_of_first ht hc) fun error refused => ?_
    obtain ⟨-, hf, taken⟩ := Token.clause_of_first ht hc
    obtain ⟨cause, part, rfl⟩ := exists_of_readTerm refused
    have parts := (Clause.parts_of_source hf).2
    rw [taken, ← Clause.start_of_first? hf]
    exact Clause.error_liesIn parts.token (Clause.valueStart?_initial parts.value).2 part cause
  | case7 start cs hcs l ht _ next text exact _ ih =>
    obtain ⟨text, ne⟩ := Token.consumes_of_first hcs ht
    rw [← text]
    refine ih.term ne rfl fun error refused => ?_
    obtain rfl : error = .on (Site.place start l.taken).span .noSearchSource := by
      rw [readTerm] at refused
      split at refused <;> cases refused
      rfl
    exact ⟨.first, le_max_right _ _, Nat.add_le_add_left (max_le (le_refl _) (width_pos ne)) start⟩

/-- Every error has a length, starts between two characters of the text or at one of its ends, and
ends within the text. Only a `not`, or its dash, that is the last token of the text has its error in
the byte behind the text. -/
theorem errors_stand_in_text (text : String) :
    ∀ error ∈ (e.query text).errors,
      1 ≤ error.length ∧ error.index ≤ text.utf8ByteSize ∧
        error.index + error.length ≤ text.utf8ByteSize + 1 ∧
        (∃ before after, text = before ++ after ∧ error.index = before.utf8ByteSize) ∧
        (error.index + error.length = text.utf8ByteSize + 1 →
          ∃ before word, text = before ++ word ∧
            (word = "-" ∨ Combinator.ofWord? word.toList = some .not) ∧
            (.not, .place before.utf8ByteSize word.toList) ∈ (e.outline text).combinators ∧
            error.cause = .missingOperand word) := by
  intro error mem
  have size : width text.toList = text.utf8ByteSize := by rw [width_eq, String.ofList_toList]
  have split {before after : List Char} (split : text.toList = before ++ after) :
      text = String.ofList before ++ String.ofList after := by
    rw [← String.ofList_append, ← split, String.ofList_toList]
  have stands := e.standsIn_scan 0 text.toList
  rw [errors_query, reading, Outline.tree] at mem
  have cases : error.LiesIn 0 text.toList ∨
      ∃ before word, text.toList = before ++ word ∧ WritesNot word ∧
        (.not, .place (width before) word) ∈ (e.outline text).combinators ∧
        error = .point (width text.toList) (.missingOperand (String.ofList word)) := by
    rcases Recorded.mem_errors_andThen mem with mem | ⟨row, result, mem⟩
    · exact .inl (stands.errors error mem)
    · rcases (stands.row row result).errors_combine mem with
        lies | ⟨before, word, last, writes, among, e⟩
      · exact .inl lies
      · rw [Nat.zero_add] at among e
        exact .inr ⟨before, word, last, writes, Outline.mem_combinators result among, e⟩
  -- an error that does not lie in the text is that of a `not` at its end
  rcases cases with lies | ⟨before, word, last, writes, among, rfl⟩
  · obtain ⟨⟨before, after, whole, index⟩, pos, stop⟩ := lies
    rw [Nat.zero_add] at index stop
    rw [size] at stop
    refine ⟨pos, by omega, by omega, ⟨_, _, split whole, by rw [index, width_eq]⟩, fun behind => ?_⟩
    omega
  · rw [size]
    refine ⟨le_refl 1, le_refl _, le_refl _, ⟨text, "", (String.append_empty).symm, rfl⟩, fun _ => ?_⟩
    refine ⟨String.ofList before, String.ofList word, split last, ?_, ?_, rfl⟩
    · rw [String.toList_ofList]
      exact writes.imp_left fun dash => by rw [dash]
    · rwa [String.toList_ofList, ← width_eq]

/-- A negation of nothing, behind a letter of two bytes and in the last place of a text. -/
theorem error_behind_text :
    let e : Engine Empty Unit := .withOptions {}
    let error : QueryError := .point 6 (.missingOperand "NOT")
    error ∈ (e.query "é NOT").errors ∧ 1 ≤ error.length ∧ error.index ≤ "é NOT".utf8ByteSize ∧
      error.index + error.length = "é NOT".utf8ByteSize + 1 ∧
      ∃ before word, "é NOT" = before ++ word ∧ error.cause = .missingOperand word := by
  intro e error
  have mem : error ∈ (e.query "é NOT").errors := by decide +kernel
  obtain ⟨length, index, -, -, behind⟩ := errors_stand_in_text e "é NOT" error mem
  have stop : error.index + error.length = "é NOT".utf8ByteSize + 1 := by decide +kernel
  obtain ⟨before, word, split, -, -, cause⟩ := behind stop
  exact ⟨mem, length, index, stop, before, word, split, cause⟩

end Engine

end Sift
