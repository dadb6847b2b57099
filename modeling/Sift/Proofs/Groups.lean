import Mathlib.Algebra.Group.Nat.Even
import Sift.Proofs.Parentheses

/-!
# Groups and what is inside

A text is closed (`Token.IsClosed`) if it is one group when it stands in parentheses. What is inside
a group is closed, and closed by itself, whatever stands behind the group
(`isClosed_of_groupLength?`): a quote inside finds its partner inside, or none. A closed text stays
closed without a start that is closed in front of what follows it
(`ClosedBefore.isClosed_append_iff`), and a parenthesis at its start begins a group
(`IsClosed.exists_groupLength?`).
-/

namespace Sift

open Text Unicode

namespace Token

variable {cs body more rest rest' : List Char} {depth k n : Nat} {quoted : Bool}

/-- What the search for the end of a group distinguishes: the quote, the two parentheses and all
other characters. -/
@[elab_as_elim]
lemma char_cases {P : Char → Prop} (quote : P '"') (opening : P '(') (closing : P ')')
    (flat : ∀ c, isParen c = false → c ≠ '"' → P c) (c : Char) : P c := by
  by_cases q : c = '"'
  · rwa [q]
  · cases paren : isParen c with
    | false => exact flat c paren q
    | true =>
      rcases isParen_iff.1 paren with rfl | rfl
      · exact opening
      · exact closing

/-- Positions behind a first character are one more than behind the others. -/
lemma map_succ_iff {o : Option Nat} : o.map (· + 1) = some (n + 1) ↔ o = some n := by
  cases o with
  | none => exact iff_of_false nofun nofun
  | some m => rw [Option.map_some, Option.some_inj, Option.some_inj, Nat.add_right_cancel_iff]

/-- A group ends with a parenthesis. -/
lemma exists_of_groupLength? (h : groupLength? depth quoted cs = some n) :
    ∃ body rest, cs = body ++ ')' :: rest ∧ n = body.length + 1 := by
  induction cs generalizing depth quoted n with
  | nil => cases h
  | cons c cs ih =>
    have step {d : Nat} {q : Bool} (h : (groupLength? d q cs).map (· + 1) = some n) :
        ∃ body rest, c :: cs = body ++ ')' :: rest ∧ n = body.length + 1 := by
      obtain ⟨m, hm, rfl⟩ := Option.map_eq_some_iff.1 h
      obtain ⟨body, rest, rfl, rfl⟩ := ih hm
      exact ⟨c :: body, rest, rfl, rfl⟩
    cases quoted with
    | true => exact step h
    | false =>
      cases c using char_cases with
      | quote => exact step h
      | opening => exact step h
      | closing =>
        match depth with
        | 0 => cases h
        | 1 =>
          cases h
          exact ⟨[], cs, rfl, rfl⟩
        | depth + 2 => exact step h
      | flat c paren quote =>
        rw [groupLength?_flat _ _ paren quote] at h
        exact step h

/-- A text that is a group when it stands in parentheses. -/
def IsClosed (cs : List Char) : Prop :=
  groupLength? 0 false ('(' :: cs ++ [')']) = some (cs.length + 2)

/-- Decided by the length of the group. -/
instance (cs : List Char) : Decidable (IsClosed cs) := inferInstanceAs (Decidable (_ = _))

/-- A text is closed if a closing parenthesis behind it is the partner of one in front of it. -/
lemma isClosed_iff : IsClosed cs ↔ groupLength? 1 false (cs ++ [')']) = some (cs.length + 1) := by
  rw [IsClosed, List.cons_append, groupLength?_open]
  exact map_succ_iff

/-- What is closed in front of a parenthesis is closed in front of a rest, if what stands behind the
two has quotes in both cases or in none, or no quote that is open at the end, or opens none, meets
another one there. -/
lemma groupLength?_of_closed
    (closed : groupLength? (k + 1) quoted (cs ++ ')' :: rest) = some (cs.length + 1))
    (apart : ('"' ∈ rest' ↔ '"' ∈ rest) ∨ (Even (cs.count '"') ↔ quoted = false)) (depth : Nat) :
    groupLength? (depth + k + 1) quoted (cs ++ rest') =
      (groupLength? (depth + 1) false rest').map (· + cs.length) := by
  have step {cs : List Char} {d d' : Nat} {q q' : Bool} {n : Nat}
      (h : groupLength? d q cs = (groupLength? d' q' rest').map (· + n)) :
      (groupLength? d q cs).map (· + 1) = (groupLength? d' q' rest').map (· + (n + 1)) := by
    rw [h, Option.map_map]
    rfl
  induction cs generalizing k quoted with
  | nil =>
    match quoted, k with
    | false, 0 => simp
    | false, k + 1 =>
      have := groupLength?_bounds ((map_succ_iff (n := 0)).1 closed)
      omega
    | true, k =>
      have := groupLength?_bounds ((map_succ_iff (n := 0)).1 closed)
      omega
  | cons c cs ih =>
    cases quoted with
    | true =>
      -- the quote that is open takes the character, and is closed by another quote
      refine step (ih (map_succ_iff.1 closed) (apart.imp_right fun even => ?_))
      by_cases quote : c = '"'
      · subst quote
        rw [List.count_cons_self, Nat.even_add_one] at even
        simpa using even
      · rw [List.count_cons_of_ne quote] at even
        simpa [quote] using even
    | false =>
      cases c using char_cases with
      | quote =>
        rw [List.count_cons_self, Nat.even_add_one, iff_true_right rfl] at apart
        have partner (odd : ¬Even (cs.count '"')) : '"' ∈ cs := by
          by_contra none
          rw [List.count_eq_zero.2 none] at odd
          exact odd Even.zero
        -- whether the quote opens a phrase is the same in front of both rests
        have same : (cs ++ rest').contains '"' = (cs ++ ')' :: rest).contains '"' := by
          rcases apart with same | odd
          · simp [same]
          · simp [partner odd]
        rw [List.cons_append, groupLength?_quote] at closed ⊢
        rw [same]
        refine step (ih (map_succ_iff.1 closed) (apart.imp_right fun odd => ?_))
        simp [odd, partner odd]
      | opening =>
        rw [List.count_cons_of_ne (by decide)] at apart
        exact step (ih (k := k + 1) (map_succ_iff.1 closed) apart)
      | closing =>
        rw [List.count_cons_of_ne (by decide)] at apart
        match k with
        | 0 => simp [groupLength?] at closed
        | k + 1 => exact step (ih (map_succ_iff.1 closed) apart)
      | flat c paren quote =>
        rw [List.count_cons_of_ne quote] at apart
        rw [List.cons_append, groupLength?_flat _ _ paren quote] at closed ⊢
        exact step (ih (map_succ_iff.1 closed) apart)

/-- A text that is closed by itself is closed in front of a rest, if it has no quote without a
partner or the rest has none. -/
lemma IsClosed.before (closed : IsClosed cs) (apart : Even (cs.count '"') ∨ '"' ∉ rest) :
    ClosedBefore cs rest := by
  intro depth
  refine groupLength?_of_closed (isClosed_iff.1 closed) ?_ depth
  rcases apart with even | unquoted
  · exact .inr (iff_of_true even rfl)
  · exact .inl (iff_of_false unquoted List.not_mem_nil)

/-- A group that is found in front of a rest is found in front of no rest: a quote inside that has no
partner inside has none behind the group, where it would hide the group's end. -/
lemma isClosed_of_groupLength?
    (h : groupLength? (k + 1) quoted (cs ++ ')' :: rest) = some (cs.length + 1)) :
    groupLength? (k + 1) quoted (cs ++ [')']) = some (cs.length + 1) := by
  induction cs generalizing k quoted with
  | nil =>
    cases quoted with
    | true =>
      have := groupLength?_bounds ((map_succ_iff (n := 0)).1 h)
      omega
    | false =>
      cases k with
      | zero => rfl
      | succ k =>
        have := groupLength?_bounds ((map_succ_iff (n := 0)).1 h)
        omega
  | cons c cs ih =>
    have step {d : Nat} {q : Bool}
        (h : (groupLength? (d + 1) q (cs ++ ')' :: rest)).map (· + 1) = some (cs.length + 2)) :
        (groupLength? (d + 1) q (cs ++ [')'])).map (· + 1) = some (cs.length + 2) := by
      rw [ih (map_succ_iff.1 h)]
      rfl
    cases quoted with
    | true => exact step h
    | false =>
      cases c using char_cases with
      | quote =>
        rw [List.cons_append, groupLength?_quote] at h ⊢
        by_cases inside : '"' ∈ cs
        · simp only [List.contains_eq_mem, List.mem_append, inside, true_or] at h ⊢
          exact step h
        · cases opens : (cs ++ ')' :: rest).contains '"' with
          | false =>
            rw [opens] at h
            have none : (cs ++ [')']).contains '"' = false := by simp [inside]
            rw [none]
            exact step h
          | true =>
            -- the quote would hide the parenthesis that ends the group
            rw [opens] at h
            have behind := map_succ_iff.1 h
            rw [groupLength?_quoted _ _ inside, groupLength?] at behind
            obtain ⟨m, hm, size⟩ := Option.map_eq_some_iff.1 behind
            obtain ⟨m', hm', rfl⟩ := Option.map_eq_some_iff.1 hm
            have := groupLength?_bounds hm'
            rw [List.length_cons] at size
            omega
      | opening => exact step (d := k + 1) h
      | closing =>
        cases k with
        | zero => simp [groupLength?] at h
        | succ k => exact step h
      | flat c paren quote =>
        rw [List.cons_append, groupLength?_flat _ _ paren quote] at h ⊢
        exact step h

/-- A text without parentheses is closed, however many quotes it has. -/
lemma IsClosed.of_flat (flat : ∀ c ∈ cs, isParen c = false) : IsClosed cs := by
  suffices h : ∀ quoted : Bool, (quoted = true → '"' ∈ cs) →
      groupLength? 1 quoted (cs ++ [')']) = some (cs.length + 1) from
    isClosed_iff.2 (h false nofun)
  induction cs with
  | nil =>
    intro quoted partner
    cases quoted with
    | false => rfl
    | true => cases partner rfl
  | cons c cs ih =>
    obtain ⟨paren, flat⟩ := List.forall_mem_cons.1 flat
    have step {q : Bool} (partner : q = true → '"' ∈ cs) :
        (groupLength? 1 q (cs ++ [')'])).map (· + 1) = some (cs.length + 2) := by
      rw [ih flat q partner]
      rfl
    intro quoted partner
    cases quoted with
    | true =>
      refine step fun other => ?_
      rcases List.mem_cons.1 (partner rfl) with rfl | mem
      · cases other
      · exact mem
    | false =>
      by_cases quote : c = '"'
      · subst quote
        exact step fun other => by simpa using other
      · rw [List.cons_append, groupLength?_flat _ _ paren quote]
        exact step nofun

/-- A text with a closed start is closed if what follows the start is. -/
lemma ClosedBefore.isClosed_append_iff (b : ClosedBefore body (more ++ [')'])) :
    IsClosed (body ++ more) ↔ IsClosed more := by
  rw [isClosed_iff, isClosed_iff, List.append_assoc, b 0, List.length_append, Option.map_eq_some_iff]
  constructor
  · rintro ⟨n, e, size⟩
    rw [e, show n = more.length + 1 by omega]
  · intro e
    exact ⟨_, e, by omega⟩

/-- A depth that a closed text comes back from, it comes back from within the text. -/
lemma exists_groupLength?_of_closed
    (closed : groupLength? (k + 2) quoted (cs ++ [')']) = some (cs.length + 1)) :
    ∃ n, groupLength? (k + 1) quoted cs = some n := by
  induction cs generalizing k quoted with
  | nil => cases quoted <;> cases closed
  | cons c cs ih =>
    have step {d : Nat} {q : Bool}
        (h : (groupLength? (d + 2) q (cs ++ [')'])).map (· + 1) = some (cs.length + 2)) :
        ∃ n, (groupLength? (d + 1) q cs).map (· + 1) = some n := by
      obtain ⟨n, e⟩ := ih (map_succ_iff.1 h)
      exact ⟨n + 1, by rw [e]; rfl⟩
    cases quoted with
    | true => exact step closed
    | false =>
      cases c using char_cases with
      | quote =>
        rw [List.cons_append, groupLength?_quote] at closed
        have same : (cs ++ [')']).contains '"' = cs.contains '"' := by simp
        rw [same] at closed
        exact step closed
      | opening => exact step (d := k + 1) closed
      | closing =>
        match k with
        | 0 => exact ⟨1, rfl⟩
        | k + 1 => exact step closed
      | flat c paren quote =>
        rw [List.cons_append, groupLength?_flat _ _ paren quote] at closed
        rw [groupLength?_flat _ _ paren quote]
        exact step closed

/-- A parenthesis at the start of a closed text begins a group. -/
lemma IsClosed.exists_groupLength? (closed : IsClosed cs)
    (paren : (cs.head?.map isParen).getD false = true) : ∃ n, groupLength? 0 false cs = some n := by
  have inner := isClosed_iff.1 closed
  match cs with
  | c :: cs =>
    rcases isParen_iff.1 paren with rfl | rfl
    · obtain ⟨n, e⟩ := exists_groupLength?_of_closed (k := 0) (map_succ_iff.1 inner)
      exact ⟨n + 1, by rw [groupLength?_open, e]; rfl⟩
    · simp [groupLength?] at inner

end Token

end Sift
