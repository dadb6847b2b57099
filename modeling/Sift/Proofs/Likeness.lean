import Mathlib.Data.List.Forall2
import Sift.Proofs.Combining
import Sift.Query.Reading

/-!
# Trees that are alike

Two trees of one shape are alike if their places and their leaves correspond, whatever is meant by
that (`Likeness`). Rows that are alike come together as trees that are alike, with errors that
correspond (`Item.alike_combined`): no pass over a row looks at a place but to copy it, to insert an
`and` in a gap, or to report an operand that is missing.
-/

namespace Sift

/-- What is taken to correspond in two readings: places, leaves at their places, and errors. What is
inserted or reported where terms are combined corresponds if the places do that it comes from. -/
structure Likeness (α β : Type) where
  site : Site → Site → Prop
  leaf : Site → α → Site → β → Prop
  error : QueryError → QueryError → Prop
  site_of_leaf : ∀ {s a s' b}, leaf s a s' b → site s s'
  gap : ∀ {s s' t t'}, site s s' → site t t' → site (.gap s t) (.gap s' t')
  missingOperand : ∀ {s s'}, site s s' → error (Item.missingOperand s) (Item.missingOperand s')
  missingSide : ∀ {s s'} (side c), site s s' →
    error (.on s.span (.missingSide side c)) (.on s'.span (.missingSide side c))

section Alike

variable {α β : Type} (k : Likeness α β)

/-- Trees of one shape whose places and leaves correspond. -/
inductive Tree.Alike : Tree α → Tree β → Prop where
  | leaf {s a s' b} :
    k.leaf s a s' b →
    Alike (.leaf s a) (.leaf s' b)
  | not {s s' t t'} :
    k.site s s' →
    Alike t t' →
    Alike (.not s t) (.not s' t')
  | join {s s' l l' r r'} (c : Connective) :
    k.site s s' →
    Alike l l' →
    Alike r r' →
    Alike (.join c s l r) (.join c s' l' r')

/-- The same combinator at places that correspond, or terms that are alike. -/
inductive Item.Alike : Item α → Item β → Prop where
  | combinator {s s'} (c : Combinator) :
    k.site s s' →
    Alike (.combinator c s) (.combinator c s')
  | term {t t'} :
    t.Alike k t' →
    Alike (.term t) (.term t')

/-- Readings whose errors correspond, and whose results do if there is one of either. -/
structure Recorded.Alike {γ δ : Type} (R : γ → δ → Prop) (r : Recorded γ) (r' : Recorded δ) :
    Prop where
  errors : List.Forall₂ k.error r.errors r'.errors
  result : Option.Rel R r.result? r'.result?

end Alike

variable {α β : Type} {k : Likeness α β}

/-- Trees that are alike come from places that correspond. -/
lemma Tree.Alike.site {t : Tree α} {t' : Tree β} (h : t.Alike k t') : k.site t.site t'.site := by
  cases h with
  | leaf h => exact k.site_of_leaf h
  | not h | join _ h => exact h

namespace Item

variable {x : Item α} {y : Item β} {row : List (Item α)} {row' : List (Item β)}

/-- Items that are alike come from places that correspond. -/
lemma Alike.site (h : x.Alike k y) : k.site x.site y.site := by
  cases h with
  | combinator c h => exact h
  | term h => exact h.site

/-- Items that are alike are both terms or neither is. -/
lemma Alike.isTerm_eq (h : x.Alike k y) : x.isTerm = y.isTerm := by
  cases h <;> rfl

/-- Items that are alike are both connectives or neither is. -/
lemma Alike.isConnective_eq (h : x.Alike k y) : x.isConnective = y.isConnective := by
  cases h with
  | combinator c h => cases c <;> rfl
  | term h => rfl

/-- The `and`s are inserted alike. -/
lemma alike_insertAnd (h : List.Forall₂ (Alike k) row row') :
    List.Forall₂ (Alike k) (insertAnd row) (insertAnd row') := by
  induction h with
  | nil => exact .nil
  | cons first rest ih =>
    cases rest with
    | nil => exact .cons first .nil
    | cons second rest =>
      rw [insertAnd, insertAnd, first.isTerm_eq, second.isConnective_eq]
      split
      · exact .cons first (.cons (.combinator _ (k.gap first.site second.site)) ih)
      · exact .cons first ih

/-- The pass of `not` finds errors that correspond and leaves rows that are alike. -/
lemma alike_applyNot (h : List.Forall₂ (Alike k) row row') :
    List.Forall₂ k.error (applyNot row).1 (applyNot row').1 ∧
      List.Forall₂ (Alike k) (applyNot row).2 (applyNot row').2 := by
  induction h with
  | nil => exact ⟨.nil, .nil⟩
  | @cons x y rest rest' first _ ih =>
    cases first with
    | term h =>
      simp only [applyNot]
      exact ⟨ih.1, .cons (.term h) ih.2⟩
    | combinator c h =>
      cases c with
      | join c =>
        simp only [applyNot]
        exact ⟨ih.1, .cons (.combinator _ h) ih.2⟩
      | not =>
        rw [applyNot, applyNot]
        generalize applyNot rest = left, applyNot rest' = right at ih
        obtain ⟨errors, rest⟩ := left
        obtain ⟨errors', rest'⟩ := right
        obtain ⟨errors, rests⟩ := ih
        have missing := List.rel_append errors (.cons (k.missingOperand h) .nil)
        cases rests with
        | nil => exact ⟨missing, .nil⟩
        | cons operand rests =>
          cases operand with
          | term t => exact ⟨errors, .cons (.term (.not h t)) rests⟩
          | combinator c s => exact ⟨missing, .cons (.combinator c s) rests⟩

/-- What stands at the left decides alike which side of a connective is missing. -/
lemma alike_missingSide {left : Option (Item α)} {left' : Option (Item β)} {s s' : Site}
    (c : Connective) (hl : Option.Rel (Alike k) left left') (h : k.site s s') :
    k.error (missingSide c s left) (missingSide c s' left') := by
  have side : (left.map isTerm).getD false = (left'.map isTerm).getD false := by
    cases hl with
    | none => rfl
    | some first => exact first.isTerm_eq
  rw [missingSide, missingSide, side]
  exact k.missingSide _ c h

/-- What stands at the left is alike as a row, too. -/
lemma alike_toList {left : Option (Item α)} {left' : Option (Item β)}
    (hl : Option.Rel (Alike k) left left') : List.Forall₂ (Alike k) left.toList left'.toList := by
  cases hl with
  | none => exact .nil
  | some first => exact .cons first .nil

/-- The pass of a connective finds errors that correspond and leaves rows that are alike. -/
lemma alike_applyJoin {c : Connective} {left : Option (Item α)} {left' : Option (Item β)}
    (hl : Option.Rel (Alike k) left left') (h : List.Forall₂ (Alike k) row row') :
    List.Forall₂ k.error (applyJoin c left row).1 (applyJoin c left' row').1 ∧
      List.Forall₂ (Alike k) (applyJoin c left row).2 (applyJoin c left' row').2 := by
  fun_induction applyJoin c left row generalizing left' row' with
  | case1 left =>
    cases h
    exact ⟨.nil, alike_toList hl⟩
  | case2 s l r rest ih =>
    obtain ⟨_, _, first, behind, rfl⟩ := List.forall₂_cons_left_iff.1 h
    obtain ⟨_, _, second, rests, rfl⟩ := List.forall₂_cons_left_iff.1 behind
    cases hl with
    | some operand =>
      cases operand with
      | term tl =>
        cases first with
        | combinator _ site =>
          cases second with
          | term tr =>
            simp only [applyJoin, if_pos]
            exact ih (.some (.term (.join c site tl tr))) rests
  | case3 s left rest missing errors rest' e ih =>
    obtain ⟨_, rests', first, rests, rfl⟩ := List.forall₂_cons_left_iff.1 h
    cases first with
    | combinator _ site =>
      have ih := ih hl rests
      rw [e] at ih
      -- the other row has a term at both sides of the connective only if this one has
      have other : ∀ l r later, left' = some (.term l) → rests' = .term r :: later → False := by
        rintro l r later rfl rfl
        cases hl with
        | some operand =>
          cases operand with
          | term =>
            cases rests with
            | cons operand =>
              cases operand with
              | term => exact missing _ _ _ rfl rfl
      rw [applyJoin, if_pos rfl]
      · exact ⟨.cons (alike_missingSide c hl site) ih.1, ih.2⟩
      · exact other
  | case4 left d s rest ne errors rest' e ih =>
    obtain ⟨_, _, first, rests, rfl⟩ := List.forall₂_cons_left_iff.1 h
    cases first with
    | combinator _ site =>
      have ih := ih (.some (.combinator _ site)) rests
      rw [e] at ih
      have ne : Combinator.join d ≠ .join c := by simpa using ne
      rw [applyJoin_combinator ne]
      exact ⟨ih.1, List.rel_append (alike_toList hl) ih.2⟩
  | case5 left x rest notJoin errors rest' e ih =>
    obtain ⟨y, _, first, rests, rfl⟩ := List.forall₂_cons_left_iff.1 h
    have ih := ih (.some first) rests
    rw [e] at ih
    cases first with
    | term t => exact ⟨ih.1, List.rel_append (alike_toList hl) ih.2⟩
    | combinator k site =>
      rw [applyJoin_combinator fun e => notJoin c _ (by rw [e])]
      exact ⟨ih.1, List.rel_append (alike_toList hl) ih.2⟩

/-- Rows that are alike come together alike. -/
lemma alike_combined (h : List.Forall₂ (Alike k) row row') :
    Recorded.Alike k (Option.Rel (Tree.Alike k)) (combined row) (combined row') := by
  obtain ⟨notErrors, notRow⟩ := alike_applyNot (alike_insertAnd h)
  obtain ⟨andErrors, andRow⟩ := alike_applyJoin (c := .and) .none notRow
  obtain ⟨orErrors, orRow⟩ := alike_applyJoin (c := .or) .none andRow
  obtain ⟨tree?, left, e⟩ := combine_eq row
  obtain ⟨tree?', left', e'⟩ := combine_eq row'
  rw [combined, combined, e, e']
  refine ⟨List.rel_append (List.rel_append notErrors andErrors) orErrors, .some ?_⟩
  change List.Forall₂ (Alike k) (combinedRow row) (combinedRow row') at orRow
  rw [left, left'] at orRow
  cases tree? <;> cases tree?' <;> cases orRow
  · exact .none
  · next first _ =>
    cases first with
    | term t => exact .some t

end Item

namespace Recorded

variable {γ δ γ' δ' : Type} {R : γ → δ → Prop} {S : γ' → δ' → Prop} {r : Recorded γ}
  {r' : Recorded δ}

/-- Readings that are alike go on alike. -/
lemma Alike.andThen (h : r.Alike k R r') {f : γ → Recorded γ'} {g : δ → Recorded δ'}
    (step : ∀ a b, R a b → (f a).Alike k S (g b)) : (r.andThen f).Alike k S (r'.andThen g) := by
  obtain ⟨errors, result?⟩ := r
  obtain ⟨errors', result?'⟩ := r'
  obtain ⟨before, result⟩ := h
  cases result with
  | none => exact ⟨before, .none⟩
  | some related =>
    obtain ⟨behind, result⟩ := step _ _ related
    exact ⟨List.rel_append before behind, result⟩

/-- Readings that are alike stay alike when their results are changed alike. -/
lemma Alike.map (h : r.Alike k R r') {f : γ → γ'} {g : δ → δ'}
    (step : ∀ a b, R a b → S (f a) (g b)) : (r.map f).Alike k S (r'.map g) := by
  obtain ⟨errors, result?⟩ := r
  obtain ⟨errors', result?'⟩ := r'
  obtain ⟨errors, result⟩ := h
  cases result with
  | none => exact ⟨errors, .none⟩
  | some related => exact ⟨errors, .some (step _ _ related)⟩

/-- Where functions say what corresponds, a reading is alike to one only. -/
lemma Alike.eq_map {r : Recorded (Option (Tree α))} {r' : Recorded (Option (Tree β))}
    {onError : QueryError → QueryError} {onTree : Tree α → Tree β}
    (h : r.Alike k (Option.Rel (Tree.Alike k)) r') (errors : ∀ e e', k.error e e' → onError e = e')
    (trees : ∀ t t', t.Alike k t' → onTree t = t') :
    ⟨r.errors.map onError, r.result?.map (Option.map onTree)⟩ = r' := by
  obtain ⟨_, result?⟩ := r
  obtain ⟨errors', result?'⟩ := r'
  obtain ⟨before, result⟩ := h
  have before : List.Forall₂ (· = ·) (_ : List QueryError) errors' :=
    List.forall₂_map_left_iff.2 (before.imp errors)
  rw [List.forall₂_eq_eq_eq] at before
  refine congrArg₂ Recorded.mk before ?_
  cases result with
  | none => rfl
  | some alike =>
    cases alike with
    | none => rfl
    | some tree => exact congrArg (some ∘ some) (trees _ _ tree)

end Recorded

end Sift
