import Sift.Proofs.Levels
import Sift.Proofs.Likeness

/-!
# Texts at other positions

Where a text stands changes the positions in its outline, and nothing else (`Outline.scan_shift`).
So what is read from it, and what is wrong with it, is the same but for the positions
(`Engine.tree_scan_shift`). The text of a group is such a text: wherever a group is met in a text
(`Token.Meets`), its level is one of the outline.
-/

namespace Sift

open Text

/-- The span behind `n` more bytes. -/
def Span.shift (n : Nat) (s : Span) : Span := { s with index := n + s.index }

/-- The site behind `n` more bytes. -/
def Site.shift (n : Nat) (s : Site) : Site := { s with span := s.span.shift n }

/-- The error behind `n` more bytes. -/
def QueryError.shift (n : Nat) (e : QueryError) : QueryError := { e with index := n + e.index }

/-- The clause behind `n` more bytes. -/
def Clause.shift (n : Nat) (c : Clause) : Clause := { c with start := n + c.start }

/-- The search word behind `n` more bytes. -/
def SearchWord.shift (n : Nat) (w : SearchWord) : SearchWord := { w with site := w.site.shift n }

/-- The term behind `n` more bytes. -/
def Term.shift (n : Nat) : Term → Term
  | clause c => clause (c.shift n)
  | word w => word (w.shift n)

/-- The token behind `n` more bytes. -/
def Token.shift (n : Nat) : Token → Token
  | clause c => clause (c.shift n)
  | token => token

/-- The outline behind `n` more bytes. -/
def Outline.shift (n : Nat) : Outline → Outline
  | done => done
  | broken e => broken (e.shift n)
  | blank taken next => blank taken (next.shift n)
  | combinator k s next => combinator k (s.shift n) (next.shift n)
  | term t next => term (t.shift n) (next.shift n)
  | group inner next => group (inner.shift n) (next.shift n)

/-- The leaf behind `n` more bytes. An operation has no place. -/
def Leaf.shift {κ ε : Type} (n : Nat) : Leaf κ ε → Leaf κ ε
  | filter o => filter o
  | search w => search (w.shift n)

/-- The tree behind `n` more bytes. -/
def Tree.shift {κ ε : Type} (n : Nat) : Tree (Option (Leaf κ ε)) → Tree (Option (Leaf κ ε))
  | leaf s a? => leaf (s.shift n) (a?.map (Leaf.shift n))
  | not s t => not (s.shift n) (t.shift n)
  | join c s l r => join c (s.shift n) (l.shift n) (r.shift n)

section Positions

variable {n start : Nat} {operators : List (List Char)} {cs : List Char}

/-- A place is counted from the bytes in front. -/
lemma Site.place_shift (source : List Char) : place (n + start) source = (place start source).shift n :=
  rfl

/-- A span ends as much later as it begins. -/
lemma Span.stop_shift (s : Span) : (s.shift n).stop = n + s.stop := Nat.add_assoc _ _ _

/-- The gap between two sites is as far behind as they are. -/
lemma Site.gap_shift (s t : Site) : (gap s t).shift n = gap (s.shift n) (t.shift n) := by
  have stop : (s.shift n).span.stop = n + s.span.stop := s.span.stop_shift
  rw [gap, gap, Span.between, Span.between, stop, shift, shift, Span.shift, Span.shift,
    Nat.add_sub_add_left]

/-- A clause stands as far behind as its site. -/
lemma Clause.site_shift (c : Clause) : (c.shift n).site = c.site.shift n := rfl

/-- A part of a clause is as far behind as the clause. -/
lemma Clause.partSpan_shift (c : Clause) (part : ClausePart) :
    (c.shift n).partSpan part = (c.partSpan part).shift n := by
  cases part with
  | token => rfl
  | param =>
    obtain ⟨start, token, param, operator, value⟩ := c
    cases param with
    | none => rfl
    | some param => simp [partSpan, shift, Span.shift, Nat.add_assoc]
  | operator => simp [partSpan, shift, Span.shift, Nat.add_assoc]
  | value => simp [partSpan, shift, Span.shift, Nat.add_assoc]

/-- A term stands as far behind as its site. -/
lemma Term.site_shift (t : Term) : (t.shift n).site = t.site.shift n := by
  cases t <;> rfl

/-- The clause at the start of a text is the same wherever the text stands. -/
lemma Clause.first?_shift (n start : Nat) (cs : List Char) :
    first? operators (n + start) cs =
      (first? operators start cs).map fun (c, rest) => (c.shift n, rest) := by
  simp only [first?]
  split
  · rfl
  · split
    · rfl
    · split <;> rfl

/-- The token at the start of a text is the same wherever the text stands. -/
lemma Token.first_shift (n start : Nat) (cs : List Char) :
    first operators (n + start) cs =
      match first operators start cs with
      | .ok l => .ok { l with token := l.token.shift n }
      | .error e => .error (e.shift n) := by
  unfold first
  split
  · rfl
  · split
    · rfl
    · split
      · rfl
      · split
        · cases group : group? cs with
          | none => rfl
          | some l =>
            obtain ⟨_, _, rfl⟩ := Option.map_eq_some_iff.1 group
            rfl
        · rw [Clause.first?_shift]
          cases Clause.first? operators start cs with
          | some found => rfl
          | none =>
            cases word : word? cs with
            | none => rfl
            | some l =>
              obtain ⟨_, taken, rest⟩ := l
              obtain ⟨text, exact, rfl⟩ := token_of_word? word
              rfl

/-- The outline of a text is the same wherever the text stands. -/
lemma Outline.scan_shift (n start : Nat) (cs : List Char) :
    scan operators (n + start) cs = (scan operators start cs).shift n := by
  have first_eq {start : Nat} {cs : List Char} {l : Lexed}
      (first : Token.first operators start cs = .ok l) :
      Token.first operators (n + start) cs = .ok { l with token := l.token.shift n } := by
    rw [Token.first_shift, first]
  fun_induction scan operators start cs with
  | case1 => rw [scan_nil, shift]
  | case2 start cs ne error first =>
    have first' : Token.first operators (n + start) cs = .error (error.shift n) := by
      rw [Token.first_shift, first]
    rw [scan_of_error ne first', shift]
  | case3 start cs ne l first _ next token ih =>
    simp only [scan_of_first ne (first_eq first), token, Token.shift, Nat.add_assoc, ih, shift, next]
  | case4 start cs ne l first _ next k token ih =>
    simp only [scan_of_first ne (first_eq first), token, Token.shift, Nat.add_assoc, ih, shift, next,
      Site.place_shift]
  | case5 start cs ne l first _ next inner token _ ihNext ihInner =>
    simp only [scan_of_first ne (first_eq first), token, Token.shift, Nat.add_assoc, ihNext, ihInner,
      shift, next]
  | case6 start cs ne l first _ next c token ih =>
    simp only [scan_of_first ne (first_eq first), token, Token.shift, Nat.add_assoc, ih, shift, next,
      Term.shift]
  | case7 start cs ne l first _ next text exact token ih =>
    simp only [scan_of_first ne (first_eq first), token, Token.shift, Nat.add_assoc, ih, shift, next,
      Term.shift, SearchWord.shift, Site.place_shift]

end Positions

section Readings

variable {α β : Type} {k : Likeness (Option α) (Option β)} {n : Nat}
  {read : Term → Except QueryError (Option α)} {read' : Term → Except QueryError (Option β)}
  (sites : ∀ s, k.site s (s.shift n)) (errors : ∀ e, k.error e (e.shift n))
  (leaves : ∀ t, (readLeaf read t).Alike k (Tree.Alike k) (readLeaf read' (t.shift n)))
include sites errors leaves

/-- What is read behind `n` more bytes is alike, if that is so for every term. -/
lemma Outline.alike_row (o : Outline) :
    (o.row read).Alike k (List.Forall₂ (Item.Alike k)) ((o.shift n).row read') := by
  induction o with
  | done => exact ⟨.nil, .some .nil⟩
  | broken e => exact ⟨.cons (errors e) .nil, .none⟩
  | blank _ next ih => exact ih
  | combinator c s next ih =>
    exact ih.map fun row row' rows => .cons (.combinator c (sites s)) rows
  | term t next ih =>
    refine (leaves t).andThen fun leaf leaf' alike => ?_
    exact ih.map fun row row' rows => .cons (.term alike) rows
  | group inner next ihInner ihNext =>
    have inside := ihInner.andThen fun row row' => Item.alike_combined
    refine inside.andThen fun tree? tree?' trees => ?_
    refine ihNext.map fun row row' rows => List.rel_append ?_ rows
    cases trees with
    | none => exact .nil
    | some tree => exact .cons (.term tree) .nil

end Readings

/-- Places, leaves and errors correspond to those behind `n` more bytes. -/
def Likeness.shift (κ ε : Type) (n : Nat) : Likeness (Option (Leaf κ ε)) (Option (Leaf κ ε)) where
  site s s' := s.shift n = s'
  leaf s a? s' b? := s.shift n = s' ∧ a?.map (Leaf.shift n) = b?
  error e e' := e.shift n = e'
  site_of_leaf h := h.1
  gap hs ht := by rw [← hs, ← ht, Site.gap_shift]
  missingOperand {s s'} h := by
    have stop : (s.shift n).span.stop = n + s.span.stop := s.span.stop_shift
    rw [← h, Item.missingOperand, Item.missingOperand, stop]
    rfl
  missingSide side c h := by
    rw [← h]
    rfl

section Shifted

variable {κ ε : Type} {n : Nat}

/-- The reading behind `n` more bytes. -/
def Recorded.shift (n : Nat) (r : Recorded (Option (Tree (Option (Leaf κ ε))))) :
    Recorded (Option (Tree (Option (Leaf κ ε)))) :=
  ⟨r.errors.map (QueryError.shift n), r.result?.map (Option.map (Tree.shift n))⟩

/-- A tree that is alike is the tree behind more bytes. -/
lemma Tree.shift_eq_of_alike {t t' : Tree (Option (Leaf κ ε))} (h : t.Alike (.shift κ ε n) t') :
    t.shift n = t' := by
  induction h with
  | leaf h =>
    obtain ⟨rfl, rfl⟩ := h
    rfl
  | not site _ ih => rw [shift, ih, site]
  | join c site _ _ ihl ihr => rw [shift, ihl, ihr, site]

/-- A reading that is alike is the reading behind more bytes. -/
lemma Recorded.shift_eq_of_alike {r r' : Recorded (Option (Tree (Option (Leaf κ ε))))}
    (h : r.Alike (.shift κ ε n) (Option.Rel (Tree.Alike (.shift κ ε n))) r') : r.shift n = r' :=
  h.eq_map (fun _ _ same => same) fun _ _ => Tree.shift_eq_of_alike

end Shifted

namespace Engine

variable {κ ε : Type}

/-- A term means the same wherever it stands. -/
lemma readTerm_shift (e : Engine κ ε) (n : Nat) (t : Term) :
    e.readTerm (t.shift n) =
      match e.readTerm t with
      | .ok leaf? => .ok (leaf?.map (Leaf.shift n))
      | .error error => .error (error.shift n) := by
  cases t with
  | clause c =>
    have same : e.readClause (c.shift n) = e.readClause c := rfl
    rw [Term.shift, readTerm, readTerm, same]
    cases e.readClause c with
    | ok o? => cases o? <;> rfl
    | error fault =>
      simp only
      rw [Clause.partSpan_shift]
      rfl
  | word w =>
    rw [Term.shift, readTerm, readTerm]
    split <;> rfl

/-- The leaf of a term is the same wherever the term stands. -/
lemma alike_readLeaf (e : Engine κ ε) (n : Nat) (t : Term) :
    (readLeaf e.readTerm t).Alike (.shift κ ε n) (Tree.Alike (.shift κ ε n))
      (readLeaf e.readTerm (t.shift n)) := by
  rw [readLeaf, readLeaf, readTerm_shift, Term.site_shift]
  cases e.readTerm t with
  | ok leaf? => exact ⟨.nil, .some (.leaf ⟨rfl, rfl⟩)⟩
  | error error => exact ⟨.cons rfl .nil, .some (.leaf ⟨rfl, rfl⟩)⟩

/-- A text is read behind `n` more bytes as it is read by itself. -/
lemma tree_scan_shift (e : Engine κ ε) (n : Nat) (cs : List Char) :
    (Outline.scan e.operatorTexts n cs).tree e.readTerm =
      (e.reading (String.ofList cs)).shift n := by
  have rows := Outline.alike_row (k := .shift κ ε n) (fun _ => rfl) (fun _ => rfl)
    (e.alike_readLeaf n) (Outline.scan e.operatorTexts 0 cs)
  have trees := rows.andThen fun row row' => Item.alike_combined
  rw [← Outline.scan_shift, Nat.add_zero] at trees
  rw [reading, outline, String.toList_ofList]
  exact (Recorded.shift_eq_of_alike trees).symm

end Engine

section Groups

variable {operators : List (List Char)}

/-- Where the text `cs`, which stands at `start`, is read, a group is met whose own text, without the
parentheses, is `inner` and stands at `index`. It may be inside of other groups. -/
inductive Token.Meets (operators : List (List Char)) :
    (start : Nat) → (cs : List Char) → (index : Nat) → (inner : List Char) → Prop where
  | here {start cs l inner} :
    cs ≠ [] →
    first operators start cs = .ok l →
    l.token = .group inner →
    Meets operators start cs (start + 1) inner
  | later {start cs l index inner} :
    cs ≠ [] →
    first operators start cs = .ok l →
    Meets operators (start + width l.taken) l.rest index inner →
    Meets operators start cs index inner
  | inside {start cs l outer index inner} :
    cs ≠ [] →
    first operators start cs = .ok l →
    l.token = .group outer →
    Meets operators (start + 1) outer index inner →
    Meets operators start cs index inner

/-- The levels of the groups in an outline, of those inside of others too. -/
def Outline.groups : Outline → List Outline
  | done => []
  | broken _ => []
  | blank _ next => next.groups
  | combinator _ _ next => next.groups
  | term _ next => next.groups
  | group inner next => inner :: (inner.groups ++ next.groups)

/-- The levels of a group are its own, those inside of it and those behind it. -/
lemma Outline.mem_groups_group {level inner next : Outline} :
    level ∈ (group inner next).groups ↔
      level = inner ∨ level ∈ inner.groups ∨ level ∈ next.groups := by
  rw [groups, List.mem_cons, List.mem_append]

variable {start index : Nat} {cs inner : List Char}

/-- A group that is met stands in the text between its parentheses. -/
lemma Token.Meets.stands (meets : Meets operators start cs index inner) :
    ∃ before after, cs = before ++ '(' :: inner ++ ')' :: after ∧ index = start + width before + 1 := by
  have text {start : Nat} {cs inner : List Char} {l : Lexed} (ne : cs ≠ [])
      (first : Token.first operators start cs = .ok l) (group : l.token = .group inner) :
      cs = '(' :: inner ++ ')' :: l.rest := by
    rw [← (consumes_of_first ne first).1, (group_of_first first group).1]
    simp
  induction meets with
  | here ne first group => exact ⟨[], _, text ne first group, rfl⟩
  | @later start cs l index inner ne first _ ih =>
    obtain ⟨before, after, rest, e⟩ := ih
    refine ⟨l.taken ++ before, after, ?_, by rw [e, width_append, Nat.add_assoc start]⟩
    rw [← (consumes_of_first ne first).1, rest]
    simp
  | @inside start cs l outer index inner ne first group _ ih =>
    obtain ⟨before, after, rfl, e⟩ := ih
    have size : width ('(' :: before) = 1 + width before := rfl
    refine ⟨'(' :: before, after ++ ')' :: l.rest, ?_, by omega⟩
    rw [text ne first group]
    simp

/-- The level of a group that is met is one of the outline. -/
lemma Token.Meets.mem_groups (meets : Meets operators start cs index inner) :
    Outline.scan operators index inner ∈ (Outline.scan operators start cs).groups := by
  induction meets with
  | here ne first group =>
    rw [Outline.scan_of_first ne first, group]
    exact Outline.mem_groups_group.2 (.inl rfl)
  | later ne first _ ih =>
    rw [Outline.scan_of_first ne first]
    simp only
    split
    · exact ih
    · exact ih
    · exact Outline.mem_groups_group.2 (.inr (.inr ih))
    · exact ih
    · exact ih
  | inside ne first group _ ih =>
    rw [Outline.scan_of_first ne first, group]
    exact Outline.mem_groups_group.2 (.inr (.inl ih))

end Groups

end Sift
