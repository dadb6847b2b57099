import Sift.Query.Lexeme

/-!
# Clauses

A clause names a filter, perhaps with a parameter in parentheses, then an operator and a value, with
nothing between them. The operator is the longest registered one at its place; no shorter one is
tried instead. A value without quotes does not begin with an operator, so that `age>=` is no clause.
-/

namespace Sift
open Text Unicode

/-- A clause as it is written from the byte position `start` on. -/
structure Clause where
  start : Nat
  token : List Char
  param : Option (List Char)
  operator : List Char
  value : List Char
  deriving DecidableEq

namespace Clause

/-- A parameter between its parentheses. -/
def paramText : Option (List Char) → List Char
  | none => []
  | some param => '(' :: param ++ [')']

/-- The characters of the clause. -/
def source (c : Clause) : List Char := c.token ++ paramText c.param ++ c.operator ++ c.value

/-- The site of the clause. -/
def site (c : Clause) : Site := .place c.start c.source

/-- The stretch of a part of the clause; that of the token where the part is missing. -/
def partSpan (c : Clause) : ClausePart → Span
  | .token => ⟨c.start, width c.token⟩
  | .param =>
    match c.param with
    | none => ⟨c.start, width c.token⟩
    | some param => ⟨c.start + width c.token + 1, width param⟩
  | .operator => ⟨c.start + width (c.token ++ paramText c.param), width c.operator⟩
  | .value => ⟨c.start + width (c.token ++ paramText c.param ++ c.operator), width c.value⟩

/-- Whether a character can stand in the name of a filter in a query text. -/
def isTokenChar (c : Char) : Bool := isWordChar c || c == '.' || c == '#'

/-- The parameter at the start of a text, if there is one, and what follows it. -/
def splitParam (cs : List Char) : Option (List Char) × List Char :=
  match cs with
  | '(' :: inner =>
    match inner.dropWhile (!isParen ·) with
    | ')' :: rest => (some (inner.takeWhile (!isParen ·)), rest)
    | _ => (none, cs)
  | _ => (none, cs)

/-- The longer of two texts; the first of equally long ones. -/
def longer (a b : List Char) : List Char := if a.length < b.length then b else a

/-- The longest of the texts that another text begins with. -/
def longestStart? (operators : List (List Char)) (cs : List Char) : Option (List Char) :=
  match operators.filter (·.isPrefixOf cs) with
  | [] => none
  | first :: others => some (others.foldl longer first)

/-- The quoted phrase at the start of a text, with its quotes. -/
def quotedStart? : List Char → Option (List Char)
  | '"' :: cs => (phraseLength? cs).map fun n => ('"' :: cs).take n
  | _ => none

/-- The value at the start of a text: a quoted phrase, or else characters up to a blank or a
parenthesis, which do not begin with an operator unless with a quote before it. -/
def valueStart? (operators : List (List Char)) (cs : List Char) : Option (List Char) :=
  match quotedStart? cs with
  | some phrase => some phrase
  | none =>
    let run := cs.takeWhile isWordPart
    if run = [] then none
    else if run.head? ≠ some '"' ∧ operators.any (·.isPrefixOf run) then none
    else some run

/-- The clause at the start of a text, and what follows it. -/
def first? (operators : List (List Char)) (start : Nat) (cs : List Char) :
    Option (Clause × List Char) :=
  let token := cs.takeWhile isTokenChar
  if token = [] then none
  else
    let (param, rest) := splitParam (cs.dropWhile isTokenChar)
    match longestStart? operators rest with
    | none => none
    | some operator =>
      let rest := rest.drop operator.length
      match valueStart? operators rest with
      | none => none
      | some value => some (⟨start, token, param, operator, value⟩, rest.drop value.length)

/-- The parameter and the rest make up the text. -/
theorem splitParam_eq (cs : List Char) : paramText (splitParam cs).1 ++ (splitParam cs).2 = cs := by
  unfold splitParam
  split
  · next inner =>
    split
    · next rest h =>
      have := List.takeWhile_append_dropWhile (p := (!isParen ·)) (l := inner)
      rw [h] at this
      simp [paramText, this]
    · simp [paramText]
  · simp [paramText]

/-- The longest start is one of the texts. -/
theorem foldl_longer_mem (first : List Char) (others : List (List Char)) :
    others.foldl longer first ∈ first :: others := by
  induction others generalizing first with
  | nil => simp
  | cons a others ih =>
    have := ih (longer first a)
    simp only [List.foldl_cons, longer] at *
    grind

/-- The operator that is found stands at the front. -/
theorem longestStart?_mem {operators : List (List Char)} {cs op : List Char}
    (h : longestStart? operators cs = some op) : op ∈ operators ∧ op <+: cs := by
  unfold longestStart? at h
  split at h
  · cases h
  · next first others hf =>
    cases h
    have := foldl_longer_mem first others
    rw [← hf, List.mem_filter, List.isPrefixOf_iff_prefix] at this
    exact this

/-- The phrase that is found stands at the front. -/
theorem quotedStart?_initial {cs phrase : List Char} (h : quotedStart? cs = some phrase) :
    phrase <+: cs ∧ phrase ≠ [] := by
  unfold quotedStart? at h
  split at h
  · next cs =>
    obtain ⟨n, hn, rfl⟩ := Option.map_eq_some_iff.1 h
    have := (phraseLength?_bounds hn).1
    refine ⟨ List.take_prefix _ _, ?_⟩
    cases n with
    | zero => omega
    | succ n => simp
  · cases h

/-- The start of a value that is found stands at the front. -/
theorem valueStart?_initial {operators : List (List Char)} {cs value : List Char}
    (h : valueStart? operators cs = some value) : value <+: cs ∧ value ≠ [] := by
  unfold valueStart? at h
  split at h
  · next phrase hp =>
    cases h
    exact quotedStart?_initial hp
  · simp only at h
    split at h
    · cases h
    · next hne =>
      split at h
      · cases h
      · cases h
        exact ⟨ List.takeWhile_prefix _, hne⟩

/-- The parts of a clause and what follows it are the whole text. -/
theorem source_append_of_first? {operators : List (List Char)} {start : Nat} {cs rest : List Char}
    {c : Clause} (h : first? operators start cs = some (c, rest)) :
    c.source ++ rest = cs ∧ c.token ≠ [] := by
  simp only [first?] at h
  split at h
  · cases h
  · next hne =>
    split at h
    · cases h
    · next op hop =>
      split at h
      · cases h
      · next value hv =>
        cases h
        refine ⟨?_, hne⟩
        obtain ⟨behind, hb⟩ := (longestStart?_mem hop).2
        obtain ⟨rest, hr⟩ := (valueStart?_initial hv).1
        rw [← hb, List.drop_left] at hr
        have hp := splitParam_eq (cs.dropWhile isTokenChar)
        rw [← hb, ← hr] at hp
        rw [← hb, List.drop_left, ← hr, List.drop_left]
        simp only [source, List.append_assoc] at hp ⊢
        rw [hp, List.takeWhile_append_dropWhile]

end Clause
end Sift
