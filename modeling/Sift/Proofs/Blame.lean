import Mathlib.Data.List.Perm.Subperm
import Sift.Proofs.Succession

/-!
# What missing operands are blamed on

An error of a missing side is about a connective of the text, with one exception. An `and` is also
inserted between a term and a `not`; if the `not` has no operand it is left out with an error, and
then the `and` lacks its right side. Such an error can be put down to the `not`. So there are never
more errors than combinators that can be blamed for them (`Engine.missing_sides_blame_tokens`).
-/

namespace Sift

open Text

/-- Whether a cause is that a connective lacks a side. -/
def Cause.isMissingSide : Cause → Bool
  | missingSide _ _ => true
  | _ => false

/-- The errors of connectives that lack a side, in their order. -/
def missingSides (errors : List QueryError) : List QueryError :=
  errors.filter (·.cause.isMissingSide)

/-- The errors of missing sides are those of both lists. -/
lemma missingSides_append (errors errors' : List QueryError) :
    missingSides (errors ++ errors') = missingSides errors ++ missingSides errors' :=
  List.filter_append _ _

/-- There are no errors of missing sides where no error is one. -/
lemma missingSides_eq_nil {errors : List QueryError}
    (h : ∀ error ∈ errors, error.cause.isMissingSide = false) : missingSides errors = [] :=
  List.filter_eq_nil_iff.2 fun error mem => by simp [h error mem]

/-- What a missing side is blamed on: a connective of the text, or a `not` of the text that an `and`
has been inserted in front of. -/
inductive Blame where
  | written (side : Side) (c : Connective) (s : Site)
  | inserted (before s : Site)

namespace Blame

/-- The combinator of the text that is blamed. -/
def token : Blame → Combinator × Site
  | written _ c s => (.join c, s)
  | inserted _ s => (.not, s)

/-- The error that is explained. -/
def error : Blame → QueryError
  | written side c s => .on s.span (.missingSide side c)
  | inserted before s => .on (Site.gap before s).span (.missingSide .right .and)

/-- A `not` that is blamed has an error of its own. -/
def IsExcused (errors : List QueryError) : Blame → Prop
  | written _ _ _ => True
  | inserted _ s => Item.missingOperand s ∈ errors

/-- What excuses an error still does when there are more errors. -/
lemma IsExcused.mono {errors errors' : List QueryError} {b : Blame} (h : b.IsExcused errors)
    (sub : errors ⊆ errors') : b.IsExcused errors' := by
  cases b with
  | written => trivial
  | inserted before s => exact sub h

/-- Only missing sides are blamed on something. -/
lemma missingSides_map (blamed : List Blame) :
    missingSides (blamed.map error) = blamed.map error := by
  refine List.filter_eq_self.2 fun e mem => ?_
  obtain ⟨b, -, rfl⟩ := List.mem_map.1 mem
  cases b with
  | written => rfl
  | inserted => rfl

variable {errors found : List QueryError} {tokens tokens' : List (Combinator × Site)}

/-- Each error that is found has one of the tokens to be blamed on, in the same order. -/
def Accounts (errors found : List QueryError) (tokens : List (Combinator × Site)) : Prop :=
  ∃ blamed : List Blame, found = blamed.map error ∧ (blamed.map token).Sublist tokens ∧
    ∀ b ∈ blamed, b.IsExcused errors

namespace Accounts

/-- Where nothing is found, nothing has to be accounted for. -/
lemma nil : Accounts errors [] tokens := ⟨[], rfl, List.nil_sublist _, List.forall_mem_nil _⟩

/-- More tokens account for what fewer do. -/
lemma more (h : Accounts errors found tokens) (sub : tokens.Sublist tokens') :
    Accounts errors found tokens' := by
  obtain ⟨blamed, same, own, excused⟩ := h
  exact ⟨blamed, same, own.trans sub, excused⟩

/-- One more error is accounted for by a token of its own. -/
lemma cons (h : Accounts errors found tokens) (b : Blame) (excused : b.IsExcused errors) :
    Accounts errors (b.error :: found) (b.token :: tokens) := by
  obtain ⟨blamed, rfl, own, all⟩ := h
  exact ⟨b :: blamed, rfl, own.cons_cons _, List.forall_mem_cons.2 ⟨excused, all⟩⟩

end Accounts

end Blame

/-- Every missing side among the errors has a combinator of its own to be blamed on. -/
structure Blames (errors : List QueryError) (tokens : List (Combinator × Site))
    (blamed : List Blame) : Prop where
  explained : missingSides errors = blamed.map Blame.error
  own : (blamed.map Blame.token).Subperm tokens
  excused : ∀ b ∈ blamed, b.IsExcused errors

namespace Blames

variable {errors errors' : List QueryError} {tokens tokens' : List (Combinator × Site)}
  {blamed blamed' : List Blame}

/-- Errors about other things blame no token. -/
lemma nil (h : ∀ error ∈ errors, error.cause.isMissingSide = false)
    (tokens : List (Combinator × Site)) : Blames errors tokens [] :=
  ⟨missingSides_eq_nil h, List.nil_subperm, nofun⟩

/-- What is blamed stays among the tokens when there are more of them. -/
lemma weaken (h : Blames errors tokens blamed) (sub : tokens.Subperm tokens') :
    Blames errors tokens' blamed :=
  ⟨h.explained, h.own.trans sub, h.excused⟩

/-- The errors of two parts blame the tokens of both. -/
lemma append (h : Blames errors tokens blamed) (h' : Blames errors' tokens' blamed') :
    Blames (errors ++ errors') (tokens ++ tokens') (blamed ++ blamed') := by
  refine ⟨?_, ?_, List.forall_mem_append.2 ⟨fun b mem => ?_, fun b mem => ?_⟩⟩
  · rw [missingSides_append, h.explained, h'.explained, List.map_append]
  · rw [List.map_append]
    exact h.own.append h'.own
  · exact (h.excused b mem).mono (List.subset_append_left _ _)
  · exact (h'.excused b mem).mono (List.subset_append_right _ _)

variable {α β : Type} {r : Recorded α} {f : α → Recorded β}

/-- What goes on with a result blames its own tokens besides those blamed before. -/
lemma andThen (h : ∃ blamed, Blames r.errors tokens blamed)
    (h' : ∀ a, r.result? = some a → ∃ blamed, Blames (f a).errors tokens' blamed) :
    ∃ blamed, Blames (r.andThen f).errors (tokens ++ tokens') blamed := by
  obtain ⟨blamed, blames⟩ := h
  cases result : r.result? with
  | none =>
    have errors : (r.andThen f).errors = r.errors := by rw [Recorded.andThen, result]
    rw [errors]
    exact ⟨blamed, blames.weaken (List.sublist_append_left _ _).subperm⟩
  | some a =>
    obtain ⟨blamed', blames'⟩ := h' a result
    rw [Recorded.errors_andThen result]
    exact ⟨blamed ++ blamed', blames.append blames'⟩

end Blames

variable {α : Type}

namespace Item

/-- A row in which every combinator is a token, but for `and`s with a term at each side, and for
`and`s with a term at the left that take the blame to a `not`. The flag says that there is a term in
front of the row. -/
inductive Seated (errors : List QueryError) :
    Bool → List (Item α) → List (Combinator × Site) → Prop where
  | nil {b} :
    Seated errors b [] []
  | term {b t row tokens} :
    Seated errors true row tokens →
    Seated errors b (term t :: row) tokens
  | written {b k s row tokens} :
    Seated errors false row tokens →
    Seated errors b (combinator k s :: row) ((k, s) :: tokens)
  | joined {s t row tokens} :
    Seated errors true row tokens →
    Seated errors true (combinator (.join .and) s :: Item.term t :: row) tokens
  | excused {before s row tokens} :
    missingOperand s ∈ errors →
    Seated errors true row tokens →
    Seated errors true (combinator (.join .and) (.gap before s) :: row) ((.not, s) :: tokens)

variable {row : List (Item α)} {errors errors' : List QueryError} {b : Bool}
  {tokens : List (Combinator × Site)}

namespace Seated

/-- Behind a term the rest of a row is seated with a term at its left. -/
lemma of_term {t : Tree α} (h : Seated errors b (Item.term t :: row) tokens) :
    Seated errors true row tokens := by
  cases h with
  | term h => exact h

/-- A term at the left does no harm. -/
lemma mono (h : Seated errors false row tokens) : Seated errors b row tokens := by
  cases h with
  | nil => exact .nil
  | term h => exact .term h
  | written h => exact .written h

/-- A row stays seated when there are more errors. -/
lemma weaken (h : Seated errors b row tokens) (sub : errors ⊆ errors') :
    Seated errors' b row tokens := by
  induction h with
  | nil => exact .nil
  | term _ ih => exact .term ih
  | written _ ih => exact .written ih
  | joined _ ih => exact .joined ih
  | excused mem _ ih => exact .excused (sub mem) ih

/-- The `or`s of a row are those of its tokens. -/
lemma ors (h : Seated errors b row tokens) :
    (combinators row).filter (·.1 = .join .or) = tokens.filter (·.1 = .join .or) := by
  induction h with
  | nil => rfl
  | term _ ih => exact ih
  | written _ ih => simp [List.filter_cons, ih]
  | joined _ ih => simpa using ih
  | excused _ _ ih => simpa using ih

/-- The pass of `and` finds errors that tokens are blamed for. -/
lemma accounts (left : Option (Item α)) (h : Seated errors b row tokens)
    (front : b = true → ∃ t, left = some (Item.term t)) :
    Blame.Accounts errors (applyJoin .and left row).1
      (tokens.filter fun token => !decide (token.1 = .join .or)) := by
  have skip (token : Combinator × Site) (tokens : List (Combinator × Site)) :
      (tokens.filter fun token => !decide (token.1 = .join .or)).Sublist
        ((token :: tokens).filter fun token => !decide (token.1 = .join .or)) :=
    (List.sublist_cons_self token tokens).filter _
  generalize hc : Connective.and = c
  fun_induction applyJoin c left row generalizing b tokens with
  | case1 => exact .nil
  | case2 s l r rest ih =>
    subst hc
    cases h with
    | written h => exact (ih h.of_term fun _ => ⟨_, rfl⟩).more (skip _ _)
    | joined h => exact ih h fun _ => ⟨_, rfl⟩
    | excused mem h => exact (ih h.of_term fun _ => ⟨_, rfl⟩).more (skip _ _)
  | case3 s left rest missing errors' rest' e ih =>
    subst hc
    rw [e] at ih
    -- an `and` that lacks a side is a written one, or stands in front of a `not` without operand
    cases h with
    | written h =>
      rw [List.filter_cons_of_pos rfl]
      exact (ih h.mono front).cons (.written _ _ s) trivial
    | joined h =>
      obtain ⟨t, rfl⟩ := front rfl
      exact (missing t _ _ rfl rfl).elim
    | @excused before s _ _ mem h =>
      obtain ⟨t, rfl⟩ := front rfl
      rw [List.filter_cons_of_pos rfl]
      exact (ih h fun _ => ⟨t, rfl⟩).cons (.inserted before s) mem
  | case4 left d s rest ne errors' rest' e ih =>
    subst hc
    rw [e] at ih
    cases h with
    | written h => exact (ih h fun h => absurd h Bool.false_ne_true).more (skip _ _)
    | joined h => exact (ne rfl).elim
    | excused mem h => exact (ne rfl).elim
  | case5 left x rest other errors' rest' e ih =>
    subst hc
    rw [e] at ih
    cases h with
    | term h => exact ih h fun _ => ⟨_, rfl⟩
    | written h => exact (ih h fun h => absurd h Bool.false_ne_true).more (skip _ _)
    | joined h => exact (other _ _ rfl).elim
    | excused mem h => exact (other _ _ rfl).elim

end Seated

/-- A `not` takes the term behind it, or is left out with an error. -/
lemma applyNot_not (s : Site) (row : List (Item α)) :
    (∃ t rest, (applyNot row).2 = term t :: rest ∧
      applyNot (combinator .not s :: row) = ((applyNot row).1, term (.not s t) :: rest)) ∨
    applyNot (combinator .not s :: row) =
      ((applyNot row).1 ++ [missingOperand s], (applyNot row).2) := by
  rw [applyNot]
  split
  · next errors t rest e =>
    rw [e]
    exact .inl ⟨t, rest, rfl, rfl⟩
  · next errors rest _ e =>
    rw [e]
    exact .inr rfl

/-- The pass of `not` goes past a term. -/
lemma applyNot_term (t : Tree α) (row : List (Item α)) :
    applyNot (term t :: row) = ((applyNot row).1, term t :: (applyNot row).2) := rfl

/-- The pass of `not` goes past a connective. -/
lemma applyNot_join (c : Connective) (s : Site) (row : List (Item α)) :
    applyNot (combinator (.join c) s :: row) =
      ((applyNot row).1, combinator (.join c) s :: (applyNot row).2) := rfl

/-- No side is found missing in the first pass. -/
lemma missingSides_applyNot (row : List (Item α)) : missingSides (applyNot row).1 = [] := by
  refine missingSides_eq_nil fun error mem => ?_
  obtain ⟨s, -, rfl⟩ := mem_errors_applyNot mem
  rfl

/-- Behind the first pass the combinators of a row have their seats. -/
lemma seated : ∀ row : List (Item α), ∃ tokens : List (Combinator × Site),
    Seated (applyNot (insertAnd row)).1 false (applyNot (insertAnd row)).2 tokens ∧
      tokens.Sublist (combinators row)
  | [] => ⟨[], .nil, .slnil⟩
  | combinator (.join c) s :: row => by
    obtain ⟨tokens, seats, sub⟩ := seated row
    rw [insertAnd_cons, joint_combinator, List.nil_append, applyNot_join]
    exact ⟨_, .written seats, sub.cons_cons _⟩
  | combinator .not s :: row => by
    obtain ⟨tokens, seats, sub⟩ := seated row
    rw [insertAnd_cons, joint_combinator, List.nil_append]
    rcases applyNot_not s (insertAnd row) with ⟨t, rest, left, e⟩ | e
    · rw [left] at seats
      rw [e]
      exact ⟨tokens, .term seats.of_term, sub.cons _⟩
    · rw [e]
      exact ⟨tokens, seats.weaken (List.subset_append_left _ _), sub.cons _⟩
  | [term t] => ⟨[], .term .nil, .slnil⟩
  | term t :: combinator (.join c) s :: row => by
    obtain ⟨tokens, seats, sub⟩ := seated (combinator (.join c) s :: row)
    exact ⟨tokens, .term seats.mono, sub⟩
  | term t :: term u :: row => by
    obtain ⟨tokens, seats, sub⟩ := seated (term u :: row)
    have joins : insertAnd (term t :: term u :: row) =
        term t :: combinator (.join .and) (.gap t.site u.site) :: insertAnd (term u :: row) := rfl
    rw [joins, applyNot_term, applyNot_join]
    rw [insertAnd_cons, applyNot_term] at seats ⊢
    exact ⟨tokens, .term (.joined seats.of_term), sub⟩
  | term t :: combinator .not s :: row => by
    obtain ⟨tokens, seats, sub⟩ := seated row
    have joins : insertAnd (term t :: combinator .not s :: row) =
        term t :: combinator (.join .and) (.gap t.site s) :: combinator .not s ::
          insertAnd row := by
      rw [insertAnd_cons, insertAnd_cons, joint_combinator]
      rfl
    rw [joins, applyNot_term, applyNot_join]
    rcases applyNot_not s (insertAnd row) with ⟨u, rest, left, e⟩ | e
    · rw [left] at seats
      rw [e]
      exact ⟨tokens, .term (.joined seats.of_term), sub.cons _⟩
    · -- the `not` goes without an operand, and what it lacks excuses the `and` in front of it
      rw [e]
      have among : missingOperand s ∈ (applyNot (insertAnd row)).1 ++ [missingOperand s] := by simp
      have seats := seats.weaken (List.subset_append_left _ [missingOperand s])
      exact ⟨_, .term (.excused among seats.mono), sub.cons_cons _⟩

/-- The errors of a pass are about connectives of the row. -/
lemma accounts_applyJoin (errors : List QueryError) (c : Connective) (left : Option (Item α))
    (row : List (Item α)) :
    Blame.Accounts errors (applyJoin c left row).1
      ((combinators row).filter (·.1 = .join c)) := by
  have skip (x : Item α) (rest : List (Item α)) :
      ((combinators rest).filter (·.1 = .join c)).Sublist
        ((combinators (x :: rest)).filter (·.1 = .join c)) := by
    refine List.Sublist.filter _ ?_
    cases x with
    | combinator k s => exact List.sublist_cons_self _ _
    | term t => exact .refl _
  fun_induction applyJoin c left row with
  | case1 => exact .nil
  | case2 s l r rest ih => exact ih.more ((skip _ _).trans (skip _ _))
  | case3 s left rest missing errors' rest' e ih =>
    rw [e] at ih
    rw [combinators_combinator, List.filter_cons, if_pos (decide_eq_true rfl)]
    exact ih.cons (.written _ _ s) trivial
  | case4 left d s rest ne errors' rest' e ih =>
    rw [e] at ih
    exact ih.more (skip _ _)
  | case5 left x rest other errors' rest' e ih =>
    rw [e] at ih
    exact ih.more (skip _ _)

/-- The pass of a connective only leaves combinators out. -/
lemma combinators_applyJoin (c : Connective) (left : Option (Item α)) (row : List (Item α)) :
    (combinators (applyJoin c left row).2).Sublist (combinators (left.toList ++ row)) := by
  fun_induction applyJoin c left row with
  | case1 => simp
  | case2 s l r rest ih =>
    simp only [Option.toList_some, List.singleton_append, combinators_term,
      combinators_combinator] at ih ⊢
    exact ih.cons _
  | case3 s left rest _ errors rest' e ih =>
    rw [e] at ih
    rw [combinators_append] at ih ⊢
    exact ih.trans ((List.Sublist.refl _).append (List.sublist_cons_self _ _))
  | case4 left d s rest _ errors rest' e ih =>
    rw [e] at ih
    rw [combinators_append, combinators_append]
    exact (List.Sublist.refl _).append ih
  | case5 left x rest _ errors rest' e ih =>
    rw [e] at ih
    rw [combinators_append, combinators_append]
    exact (List.Sublist.refl _).append ih

/-- The missing sides that are found in a row are blamed on its combinators. -/
lemma blames_combine (row : List (Item α)) :
    ∃ blamed, Blames (combine row).1 (combinators row) blamed := by
  obtain ⟨tree?, -, e⟩ := combine_eq row
  rw [e, passErrors]
  obtain ⟨tokens, seats, sub⟩ := seated row
  obtain ⟨ands, andErrors, andTokens, andExcused⟩ :=
    seats.accounts none fun h => absurd h Bool.false_ne_true
  obtain ⟨ors, orErrors, orTokens, orExcused⟩ := accounts_applyJoin (applyNot (insertAnd row)).1
    .or none (applyJoin .and none (applyNot (insertAnd row)).2).2
  refine ⟨ands ++ ors, ?_, ?_, List.forall_mem_append.2 ⟨fun b mem => ?_, fun b mem => ?_⟩⟩
  · rw [missingSides_append, missingSides_append, missingSides_applyNot, andErrors, orErrors,
      Blame.missingSides_map, Blame.missingSides_map, List.map_append, List.nil_append]
  · -- The two passes blame different tokens.
    have orTokens : (ors.map Blame.token).Sublist (tokens.filter (·.1 = .join .or)) := by
      rw [← seats.ors]
      exact orTokens.trans ((combinators_applyJoin .and none _).filter _)
    have perm := List.filter_append_perm (fun token => decide (token.1 = .join .or)) tokens
    rw [List.map_append]
    exact List.perm_append_comm.subperm.trans <|
      (orTokens.append andTokens).subperm.trans (perm.subperm.trans sub.subperm)
  · exact (andExcused b mem).mono (by simp)
  · exact (orExcused b mem).mono (by simp)

end Item

/-- A token that is a connective is the word of it. -/
lemma Token.ofWord?_of_first {operators : List (List Char)} {start : Nat} {cs : List Char}
    {l : Lexed} {c : Connective} (h : first operators start cs = .ok l)
    (hk : l.token = .combinator (.join c)) : Combinator.ofWord? l.taken = some (.join c) := by
  cases read_of_first h with
  | blank => cases hk
  | dash => cases hk
  | keyword _ hn =>
    cases hk
    obtain ⟨word, -, rfl⟩ := Lexeme.first?_eq_keyword_iff.1 hn
    rwa [Lexed.split, ← List.prefix_iff_eq_take.1 (List.takeWhile_prefix _)]
  | group => cases hk
  | clause => cases hk
  | word _ _ hw =>
    obtain ⟨text, exact, e⟩ := token_of_word? hw
    rw [e] at hk
    cases hk

/-- The combinators of an outline, with those of its groups. -/
def Outline.keywords : Outline → List (Combinator × Site)
  | done => []
  | broken _ => []
  | blank _ next => next.keywords
  | combinator k s next => (k, s) :: next.keywords
  | term _ next => next.keywords
  | group inner next => inner.keywords ++ next.keywords

/-- The combinators in the groups of an outline. -/
def Outline.groupKeywords : Outline → List (Combinator × Site)
  | done => []
  | broken _ => []
  | blank _ next => next.groupKeywords
  | combinator _ _ next => next.groupKeywords
  | term _ next => next.groupKeywords
  | group inner next => inner.keywords ++ next.groupKeywords

namespace Outline

/-- The keywords of an outline are those of its groups and those of its own level. -/
lemma keywords_perm (o : Outline) : o.keywords.Perm (o.groupKeywords ++ o.combinators) := by
  induction o with
  | done => exact .refl _
  | broken => exact .refl _
  | blank _ next ih => exact ih
  | combinator k s next ih => exact (ih.cons (k, s)).trans List.perm_middle.symm
  | term _ next ih => exact ih
  | group inner next _ ih =>
    rw [keywords, groupKeywords, List.append_assoc]
    exact ih.append_left inner.keywords

variable {read : Term → Except QueryError (Option α)}

/-- The combinators of a text are among its tokens. -/
lemma sublist_keywords (read : Term → Except QueryError (Option α)) (o : Outline) :
    (o.keywords.map Prod.snd).Sublist ((o.marks read).map Prod.snd) := by
  induction o with
  | done => exact .slnil
  | broken => exact .slnil
  | blank _ next ih => exact ih
  | combinator k s next ih => exact ih.cons_cons s
  | term t next ih => exact ih.cons t.site
  | group inner next ihInner ihNext =>
    rw [keywords, marks, List.map_append, List.map_append]
    exact ihInner.append ihNext

/-- Every connective of a text is written with its word. -/
lemma ofWord?_keywords (operators : List (List Char)) (start : Nat) (cs : List Char)
    {c : Connective} {s : Site} (mem : (.join c, s) ∈ (scan operators start cs).keywords) :
    Combinator.ofWord? s.source = some (.join c) := by
  fun_induction scan operators start cs with
  | case1 => cases mem
  | case2 => cases mem
  | case3 start cs ne l first _ next _ ih => exact ih mem
  | case4 start cs ne l first _ next k token ih =>
    rcases List.mem_cons.1 mem with same | mem
    · cases same
      exact Token.ofWord?_of_first first token
    · exact ih mem
  | case5 start cs ne l first _ next inner group _ ihNext ihInner =>
    exact (List.mem_append.1 mem).elim ihInner ihNext
  | case6 start cs ne l first _ next _ _ ih => exact ih mem
  | case7 start cs ne l first _ next _ _ _ ih => exact ih mem

/-- Nothing that a text breaks off with is about a side of a connective. -/
lemma isMissingSide_breaks (operators : List (List Char)) (start : Nat) (cs : List Char) :
    ∀ error ∈ (scan operators start cs).breaks, error.cause.isMissingSide = false := by
  fun_induction scan operators start cs with
  | case1 => exact List.forall_mem_nil _
  | case2 start cs ne error first =>
    refine List.forall_mem_singleton.2 ?_
    rcases Token.error_of_first first with rfl | ⟨rfl, -, -⟩ <;> rfl
  | case3 start cs ne l first _ next _ ih => exact ih
  | case4 start cs ne l first _ next _ _ ih => exact ih
  | case5 start cs ne l first _ next inner group _ ihNext ihInner =>
    exact List.forall_mem_append.2 ⟨ihInner, ihNext⟩
  | case6 start cs ne l first _ next _ _ ih => exact ih
  | case7 start cs ne l first _ next _ _ _ ih => exact ih

/-- What a row is missing is blamed on its combinators, and what its groups are on theirs. -/
lemma blames_tree {o : Outline} (h : ∃ blamed, Blames (o.row read).errors o.groupKeywords blamed) :
    ∃ blamed, Blames (o.tree read).errors o.keywords blamed := by
  obtain ⟨blamed, blames⟩ : ∃ blamed,
      Blames (o.tree read).errors (o.groupKeywords ++ o.combinators) blamed := by
    refine Blames.andThen h fun row result => ?_
    rw [← combinators_row result]
    exact Item.blames_combine row
  exact ⟨blamed, blames.weaken o.keywords_perm.symm.subperm⟩

/-- What is missing in the groups of a level is blamed on their combinators. -/
lemma blames_row {o : Outline}
    (quiet : ∀ t error, read t = .error error → error.cause.isMissingSide = false)
    (breaks : ∀ error ∈ o.breaks, error.cause.isMissingSide = false) :
    ∃ blamed, Blames (o.row read).errors o.groupKeywords blamed := by
  induction o with
  | done => exact ⟨[], .nil breaks _⟩
  | broken => exact ⟨[], .nil breaks _⟩
  | blank _ next ih => exact ih breaks
  | combinator k s next ih => exact ih breaks
  | term t next ih =>
    have leaf : Blames (readLeaf read t).errors [] [] := by
      refine .nil (fun error mem => ?_) []
      rw [readLeaf] at mem
      split at mem
      · cases mem
      · next refused =>
        obtain rfl := List.mem_singleton.1 mem
        exact quiet t _ refused
    exact Blames.andThen ⟨[], leaf⟩ fun _ _ => ih breaks
  | group inner next ihInner ihNext =>
    obtain ⟨within, behind⟩ := List.forall_mem_append.1 breaks
    exact Blames.andThen (blames_tree (ihInner within)) fun _ _ => ihNext behind

end Outline

namespace Engine

variable {κ ε : Type} (e : Engine κ ε) (text : String)

/-- The combinators of a text stand in it one behind the other. -/
lemma laid_keywords : Site.Laid (fun _ => True) 0 text.toList
    ((e.outline text).keywords.map Prod.snd) := by
  have laid : Site.Laid (fun _ => True) 0 text.toList
      (((e.outline text).marks e.readTerm).map Prod.snd) :=
    (e.laid_outline text).mono fun _ _ => trivial
  exact laid.sublist (fun _ => trivial) ((e.outline text).sublist_keywords e.readTerm)

/-- Every combinator of a text is written there. -/
lemma isSlice_keywords : ∀ s ∈ (e.outline text).keywords.map Prod.snd, s.IsSlice text := by
  intro s mem
  have sub := (e.outline text).sublist_keywords e.readTerm
  obtain ⟨m, found, rfl⟩ := List.mem_map.1 (sub.subset mem)
  refine (e.laid_keywords text).isSlice mem ?_
  simpa [Mark.isWritten] using e.isWritten_outline text m found

/-- The combinators of a text stand at different places of it. -/
lemma nodup_keywords : ((e.outline text).keywords.map fun token => token.2.span).Nodup := by
  have order := (e.laid_keywords text).pairwise
  have apart : ((e.outline text).keywords.map Prod.snd).Pairwise fun s t => s.span ≠ t.span := by
    refine order.imp_of_mem fun {s t} here _ behind same => ?_
    have pos := (e.isSlice_keywords text s here).index_lt_stop
    rw [← same] at behind
    omega
  rw [List.pairwise_map] at apart
  exact List.pairwise_map.2 apart

/-- A term is not what lacks a side. -/
lemma isMissingSide_of_readTerm {t : Term} {error : QueryError} (h : e.readTerm t = .error error) :
    error.cause.isMissingSide = false := by
  rcases cases_of_readTerm h with ⟨fault, cause⟩ | cause <;> rw [cause] <;> rfl

/-- Every error of a missing side has a combinator of the text to be blamed on, no two errors the
same one. It is the connective at the place of the error, unless the error is about an inserted
`and`: then it is the `not` behind that, which lacks its operand. -/
theorem missing_sides_blame_tokens :
    ∃ blamed : List Blame, missingSides (e.query text).errors = blamed.map Blame.error ∧
      (blamed.map Blame.token).Subperm (e.outline text).keywords ∧
      (∀ k s, (k, s) ∈ (e.outline text).keywords → s.IsSlice text ∧
        (k ≠ .not → Combinator.ofWord? s.source = some k)) ∧
      (blamed.map fun b => b.token.2.span).Nodup ∧
      ∀ before s, .inserted before s ∈ blamed → Item.missingOperand s ∈ (e.query text).errors := by
  obtain ⟨blamed, explained, own, excused⟩ := Outline.blames_tree <|
    Outline.blames_row (fun _ _ => e.isMissingSide_of_readTerm)
      (Outline.isMissingSide_breaks e.operatorTexts 0 text.toList)
  refine ⟨blamed, ?_, own, fun k s mem => ⟨?_, fun ne => ?_⟩, ?_, fun before s mem => ?_⟩
  · rw [errors_query]
    exact explained
  · exact e.isSlice_keywords text s (List.mem_map_of_mem mem)
  · cases k with
    | not => exact (ne rfl).elim
    | join c => exact Outline.ofWord?_keywords e.operatorTexts 0 text.toList mem
  · obtain ⟨tokens, perm, sub⟩ := own
    have nodup := (e.nodup_keywords text).sublist (sub.map fun token => token.2.span)
    have same := (perm.map fun token => token.2.span).nodup_iff.1 nodup
    rwa [List.map_map] at same
  · rw [errors_query]
    exact excused _ mem

/-- The only combinator of the text is a `not`, and still an `and` is said to lack a side. -/
theorem missing_side_of_inserted_and :
    flags.Reachable ∧
      (flags.outline "a not").keywords = [(.not, .place 2 "not".toList)] ∧
      (flags.query "a not").errors = [.point 5 (.missingOperand "not"),
        .on (Site.gap (.place 0 "a".toList) (.place 2 "not".toList)).span
          (.missingSide .right .and)] :=
  ⟨reachable_flags, by decide +kernel, by decide +kernel⟩

end Engine

end Sift
