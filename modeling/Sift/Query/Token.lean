import Sift.Query.Clause

/-!
# Tokens

A query text is read token by token: blanks, combinators, groups in parentheses, clauses and search
words. The first kind that fits is taken, in this order. A dash in front of anything but a blank is
a `not`.
-/

namespace Sift
open Text Unicode

/-- The tokens of a query text. A group holds the text between its parentheses; a word has no quotes
and no exclamation mark, which makes it exact. -/
inductive Token where
  | blank
  | combinator (k : Combinator)
  | group (inner : List Char)
  | clause (c : Clause)
  | word (text : List Char) (exact : Bool)
  deriving DecidableEq

/-- A token with the characters it takes and those that follow. -/
structure Lexed where
  token : Token
  taken : List Char
  rest : List Char
  deriving DecidableEq

namespace Lexed

/-- The token that takes the first `n` characters of a text. -/
def split (token : Token) (n : Nat) (cs : List Char) : Lexed := ⟨token, cs.take n, cs.drop n⟩

end Lexed

namespace Token

/-- Whether a text begins with a dash that negates what follows. -/
def startsWithDash : List Char → Bool
  | '-' :: c :: _ => !isBlank c
  | _ => false

/-- The number of characters up to the parenthesis that closes the first one, when `depth` of them
are open. Parentheses in phrases do not count; a quote begins a phrase only if another follows. -/
def groupLength? : (depth : Nat) → (quoted : Bool) → List Char → Option Nat
  | _, _, [] => none
  | depth, true, c :: cs => (groupLength? depth (c != '"') cs).map (· + 1)
  | depth, false, c :: cs =>
    if c = '"' then (groupLength? depth (cs.contains '"') cs).map (· + 1)
    else if c = '(' then (groupLength? (depth + 1) false cs).map (· + 1)
    else if c = ')' then
      match depth with
      | 0 => none
      | 1 => some 1
      | depth + 2 => (groupLength? (depth + 1) false cs).map (· + 1)
    else (groupLength? depth false cs).map (· + 1)

/-- The group at the start of a text. -/
def group? (cs : List Char) : Option Lexed :=
  (groupLength? 0 false cs).map fun n => .split (.group ((cs.take (n - 1)).drop 1)) n cs

/-- The word or phrase at the start of a text, perhaps behind an exclamation mark. -/
def word? (cs : List Char) : Option Lexed :=
  let (exact, body) := match cs with
    | '!' :: body => (true, body)
    | body => (false, body)
  match Lexeme.first? body with
  | some (.phrase, n) =>
    some (.split (.word ((body.take (n - 1)).drop 1) exact) (n + exact.toNat) cs)
  | some (.word, n) | some (.keyword _, n) =>
    some (.split (.word (body.take n) exact) (n + exact.toNat) cs)
  | _ => none

/-- The token at the start of a text that stands at the byte position `start`. -/
def first (operators : List (List Char)) (start : Nat) (cs : List Char) :
    Except QueryError Lexed :=
  match Lexeme.first? cs with
  | some (.blank, n) => .ok (.split .blank n cs)
  | lexeme =>
    if startsWithDash cs then .ok (.split (.combinator .not) 1 cs)
    else
      match lexeme with
      | some (.keyword k, n) => .ok (.split (.combinator k) n cs)
      | _ =>
        if (cs.head?.map isParen).getD false then
          match group? cs with
          | some lexed => .ok lexed
          | none => .error (.point start .unbalancedParenthesis)
        else
          match Clause.first? operators start cs with
          | some (c, rest) => .ok ⟨.clause c, c.source, rest⟩
          | none =>
            match word? cs with
            | some lexed => .ok lexed
            | none => .error (.point start .noToken)

/-- A group ends within the text. -/
theorem groupLength?_bounds {depth : Nat} {inPhrase : Bool} {cs : List Char} {n : Nat}
    (h : groupLength? depth inPhrase cs = some n) : 0 < n ∧ n ≤ cs.length := by
  induction cs generalizing depth inPhrase n with
  | nil => simp [groupLength?] at h
  | cons c cs ih =>
    have step {d : Nat} {q : Bool} (h : (groupLength? d q cs).map (· + 1) = some n) :
        0 < n ∧ n ≤ (c :: cs).length := by
      obtain ⟨m, hm, rfl⟩ := Option.map_eq_some_iff.1 h
      have := ih hm
      simp only [List.length_cons]
      omega
    cases inPhrase with
    | true => exact step (by simpa [groupLength?] using h)
    | false =>
      simp only [groupLength?] at h
      split at h
      · exact step h
      · split at h
        · exact step h
        · split at h
          · split at h
            · cases h
            · cases h
              simp
            · exact step h
          · exact step h

/-- The token and what follows it are the whole text, and the token is not empty. -/
def Consumes (cs : List Char) (l : Lexed) : Prop := l.taken ++ l.rest = cs ∧ l.taken ≠ []

/-- A split takes characters, and the rest is what follows them. -/
theorem consumes_split {token : Token} {n : Nat} {cs : List Char} (h : 0 < n) (hcs : cs ≠ []) :
    Consumes cs (.split token n cs) := by
  refine ⟨List.take_append_drop n cs, ?_⟩
  simp only [Lexed.split, ne_eq, List.take_eq_nil_iff]
  rintro (rfl | rfl) <;> simp_all

/-- A token takes characters, and the rest is what follows them. -/
theorem consumes_of_first {operators : List (List Char)} {start : Nat} {cs : List Char} {l : Lexed}
    (hcs : cs ≠ []) (h : first operators start cs = .ok l) : Consumes cs l := by
  unfold first at h
  split at h
  · next n hn =>
    cases h
    exact consumes_split (Lexeme.first?_bounds hn).1 hcs
  · split at h
    · cases h
      exact consumes_split (by omega) hcs
    · split at h
      · next k n _ hn =>
        cases h
        exact consumes_split (Lexeme.first?_bounds hn).1 hcs
      · split at h
        · split at h
          · next lexed hg =>
            cases h
            obtain ⟨n, hn, rfl⟩ := Option.map_eq_some_iff.1 hg
            exact consumes_split (groupLength?_bounds hn).1 hcs
          · cases h
        · split at h
          · next c rest hc =>
            cases h
            have := Clause.source_append_of_first? hc
            refine ⟨this.1, ?_⟩
            simp [Clause.source, this.2]
          · split at h
            · next lexed hw =>
              cases h
              simp only [word?] at hw
              split at hw
              · next n hn =>
                cases hw
                have := Lexeme.first?_bounds hn
                exact consumes_split (by omega) hcs
              · next n hn =>
                cases hw
                have := Lexeme.first?_bounds hn
                exact consumes_split (by omega) hcs
              · next k n hn =>
                cases hw
                have := Lexeme.first?_bounds hn
                exact consumes_split (by omega) hcs
              · cases hw
            · cases h

/-- What follows a token is shorter than the text. -/
theorem rest_length_lt {operators : List (List Char)} {start : Nat} {cs : List Char} {l : Lexed}
    (hcs : cs ≠ []) (h : first operators start cs = .ok l) : l.rest.length < cs.length := by
  have ⟨happ, hne⟩ := consumes_of_first hcs h
  have := congrArg List.length happ
  have := List.length_pos_iff.2 hne
  simp only [List.length_append] at *
  omega

/-- The text between the parentheses of a group is shorter than the text. -/
theorem group_length_lt {operators : List (List Char)} {start : Nat} {cs inner : List Char}
    {l : Lexed} (h : first operators start cs = .ok l) (hg : l.token = .group inner) :
    inner.length < cs.length := by
  unfold first at h
  split at h
  · cases h
    cases hg
  · split at h
    · cases h
      cases hg
    · split at h
      · cases h
        cases hg
      · split at h
        · split at h
          · next lexed hn =>
            cases h
            obtain ⟨n, hlen, rfl⟩ := Option.map_eq_some_iff.1 hn
            have := groupLength?_bounds hlen
            cases hg
            simp only [List.length_drop, List.length_take]
            omega
          · cases h
        · split at h
          · cases h
            cases hg
          · split at h
            · next lexed hw =>
              cases h
              simp only [word?] at hw
              split at hw <;> cases hw <;> cases hg
            · cases h

end Token
end Sift
