import Sift.Proofs.Groups
import Sift.Proofs.Identifiers

/-!
# Identifiers with quotes inside

Words and values may have quotes anywhere, and an identifier puts them into parentheses. There a
quote hides the parentheses up to the next quote, be it in another leaf, although the leaf was read
without it. The identifier of a query parses to a query that says the same where no quote finds a
partner in another leaf (`Engine.identifier_is_read_again`), and may be no query at all elsewhere
(`Engine.identifier_of_split_quotes`).
-/

namespace Sift

open Text

variable {κ ε : Type}

/-- A word that begins with its only quote. -/
def Leaf.IsOpenWord : Leaf κ ε → Prop
  | .filter _ => False
  | .search w => IsOpened w.text

/-- Decided by the kind of the leaf and its quotes. -/
instance (leaf : Leaf κ ε) : Decidable leaf.IsOpenWord :=
  match leaf with
  | .filter _ => inferInstanceAs (Decidable False)
  | .search w => inferInstanceAs (Decidable (IsOpened w.text))

/-- A leaf whose quotes all have their partners in its own text. -/
def IsPaired (leaf : Site × Leaf κ ε) : Prop :=
  Even (leaf.1.source.count '"') ∧ ¬IsOpened leaf.2.asked

/-- Decided by the quotes of the leaf. -/
instance (leaf : Site × Leaf κ ε) : Decidable (IsPaired leaf) :=
  inferInstanceAs (Decidable (_ ∧ _))

namespace Tree

/-- A tree whose identifier can be read back: no leaf is a keyword or a phrase without its quotes,
the parentheses of every leaf are closed, no quote finds its partner in a later leaf, and a word that
a quote opens is the last. -/
structure IsPrintable (t : Tree (Leaf κ ε)) : Prop where
  words : ∀ leaf ∈ t.leaves, Combinator.ofWord? leaf.1.source = none
  phrases : ∀ leaf ∈ t.leaves, ¬IsPhrase leaf.2.asked
  closed : ∀ leaf ∈ t.leaves, Token.IsClosed leaf.1.source
  apart : t.leaves.Pairwise fun a b => IsPaired a ∨ '"' ∉ b.1.source
  last : ∀ leaf ∈ t.leaves.dropLast, ¬leaf.2.IsOpenWord

/-- Decided leaf by leaf. -/
instance (t : Tree (Leaf κ ε)) : Decidable t.IsPrintable :=
  decidable_of_iff ((∀ leaf ∈ t.leaves, Combinator.ofWord? leaf.1.source = none) ∧
      (∀ leaf ∈ t.leaves, ¬IsPhrase leaf.2.asked) ∧
      (∀ leaf ∈ t.leaves, Token.IsClosed leaf.1.source) ∧
      (t.leaves.Pairwise fun a b => IsPaired a ∨ '"' ∉ b.1.source) ∧
      ∀ leaf ∈ t.leaves.dropLast, ¬leaf.2.IsOpenWord)
    ⟨fun ⟨words, phrases, closed, apart, last⟩ => ⟨words, phrases, closed, apart, last⟩,
      fun p => ⟨p.words, p.phrases, p.closed, p.apart, p.last⟩⟩

/-- Where no leaf has a quote the identifier has none. -/
lemma unquoted_identifier {α : Type} {t : Tree α} (h : ∀ leaf ∈ t.leaves, '"' ∉ leaf.1.source) :
    '"' ∉ t.identifier := by
  induction t with
  | leaf s a => exact h (s, a) (by simp [leaves])
  | not s t ih =>
    have inner := ih h
    simp [identifier, inner]
  | join c s l r ihl ihr =>
    have left := ihl fun leaf mem => h leaf (List.mem_append_left _ mem)
    have right := ihr fun leaf mem => h leaf (List.mem_append_right _ mem)
    cases c <;> simp [identifier, Connective.keyword, left, right]

variable {c : Connective} {s : Site} {l r t : Tree (Leaf κ ε)} {rest : List Char}

section Sides

variable (p : (join c s l r).IsPrintable)
include p

/-- A word that a quote opens does not stand on a left side. -/
lemma IsPrintable.not_open : ∀ leaf ∈ l.leaves, ¬leaf.2.IsOpenWord := by
  have last := p.last
  rw [leaves, List.dropLast_append_of_ne_nil r.leaves_ne_nil] at last
  exact fun leaf mem => last leaf (List.mem_append_left _ mem)

/-- No quote of a left side finds its partner on the right side. -/
lemma IsPrintable.sides : ∀ leaf ∈ l.leaves, IsPaired leaf ∨ '"' ∉ r.identifier := by
  intro leaf mem
  by_cases paired : IsPaired leaf
  · exact .inl paired
  · refine .inr (unquoted_identifier fun other memRight => ?_)
    exact ((List.pairwise_append.1 p.apart).2.2 leaf mem other memRight).resolve_left paired

/-- The left side of a printable tree is printable. -/
lemma IsPrintable.left : l.IsPrintable where
  words leaf mem := p.words leaf (List.mem_append_left _ mem)
  phrases leaf mem := p.phrases leaf (List.mem_append_left _ mem)
  closed leaf mem := p.closed leaf (List.mem_append_left _ mem)
  apart := (List.pairwise_append.1 p.apart).1
  last leaf mem := p.not_open leaf (List.dropLast_subset l.leaves mem)

/-- The right side of a printable tree is printable. -/
lemma IsPrintable.right : r.IsPrintable where
  words leaf mem := p.words leaf (List.mem_append_right _ mem)
  phrases leaf mem := p.phrases leaf (List.mem_append_right _ mem)
  closed leaf mem := p.closed leaf (List.mem_append_right _ mem)
  apart := (List.pairwise_append.1 p.apart).2.1
  last := by
    have last := p.last
    rw [leaves, List.dropLast_append_of_ne_nil r.leaves_ne_nil] at last
    exact fun leaf mem => last leaf (List.mem_append_right _ mem)

/-- What no quote of a connective meets, no quote of its left side meets behind that side. -/
lemma IsPrintable.apart_left (apart : ∀ leaf ∈ (join c s l r).leaves, IsPaired leaf ∨ '"' ∉ rest) :
    ∀ leaf ∈ l.leaves, IsPaired leaf ∨
      '"' ∉ ' ' :: (Outline.keyword (.join c) ++ ' ' :: r.identifier) ++ rest := by
  intro leaf mem
  by_cases paired : IsPaired leaf
  · exact .inl paired
  · have behind := (apart leaf (List.mem_append_left _ mem)).resolve_left paired
    have right := (p.sides leaf mem).resolve_left paired
    right
    cases c <;> simp [Outline.keyword, Connective.keyword, right, behind]

end Sides

/-- A `not` is printed in front of its operand. -/
lemma identifier_not (t : Tree (Leaf κ ε)) :
    (not s t).identifier = Outline.keyword .not ++ ' ' :: t.identifier := rfl

/-- A connective is printed between its sides, in parentheses. -/
lemma identifier_join : (join c s l r).identifier =
    '(' :: (l.identifier ++ ' ' :: (Outline.keyword (.join c) ++ ' ' :: r.identifier)) ++ [')'] := by
  simp [identifier, Outline.keyword]

/-- The two sides of a connective are closed in front of a rest if each of them is in front of what
it does not meet. -/
lemma IsPrintable.closedBefore_sides (p : (join c s l r).IsPrintable)
    (left : ∀ rest, (∀ leaf ∈ l.leaves, IsPaired leaf ∨ '"' ∉ rest) →
      Token.ClosedBefore l.identifier rest)
    (right : ∀ rest, (∀ leaf ∈ r.leaves, IsPaired leaf ∨ '"' ∉ rest) →
      Token.ClosedBefore r.identifier rest)
    (apart : ∀ leaf ∈ (join c s l r).leaves, IsPaired leaf ∨ '"' ∉ rest) :
    Token.ClosedBefore
      (l.identifier ++ ' ' :: (Outline.keyword (.join c) ++ ' ' :: r.identifier)) rest := by
  refine (left _ (p.apart_left apart)).append (.cons rfl (by decide) ?_)
  refine ((Piece.balanced_keyword _).before _).append (.cons rfl (by decide) ?_)
  exact right _ fun leaf mem => apart leaf (List.mem_append_right _ mem)

/-- What is printed is closed in front of a rest, unless a quote finds its partner there. -/
lemma IsPrintable.closedBefore (p : t.IsPrintable)
    (apart : ∀ leaf ∈ t.leaves, IsPaired leaf ∨ '"' ∉ rest) :
    Token.ClosedBefore t.identifier rest := by
  induction t generalizing rest with
  | leaf s a =>
    have mem : (s, a) ∈ (leaf s a).leaves := List.mem_singleton_self _
    exact (p.closed _ mem).before ((apart _ mem).imp_left And.left)
  | not s t ih =>
    have inner := ih ⟨p.words, p.phrases, p.closed, p.apart, p.last⟩ apart
    rw [identifier_not]
    exact ((Piece.balanced_keyword .not).before _).append (inner.cons rfl (by decide))
  | join c s l r ihl ihr =>
    rw [identifier_join]
    refine .group (p.closedBefore_sides (fun _ => ihl p.left) (fun _ => ihr p.right) ?_)
    simpa using apart

end Tree

namespace Engine

variable {e : Engine κ ε} {t : Tree (Leaf κ ε)} {rest : List Char}

/-- A term fits what is behind it if its leaf does. -/
lemma fitsBefore_of_readTerm {term : Term} {leaf : Leaf κ ε}
    (reads : e.readTerm term = .ok (some leaf)) (quiet : IsOpened leaf.asked → '"' ∉ rest)
    (ends : leaf.IsOpenWord → rest = []) : term.FitsBefore rest := by
  match term with
  | .clause c =>
    rw [asked_of_readTerm reads] at quiet
    exact quiet
  | .word w =>
    rw [readTerm] at reads
    split at reads <;> cases reads
    exact ends

/-- The leaves of the tree have been read from terms of a text. -/
def ReadFrom (e : Engine κ ε) (t : Tree (Leaf κ ε)) : Prop :=
  ∀ leaf ∈ t.leaves, ∃ term, term.Occurs e.operatorTexts ∧ term.site = leaf.1 ∧
    e.readTerm term = .ok (some leaf.2)

/-- What is printed does not begin with a blank. -/
lemma ReadFrom.solid (terms : e.ReadFrom t) : Outline.Solid t.identifier := by
  match t with
  | .leaf s a =>
    obtain ⟨term, occurs, site, _⟩ := terms (s, a) (List.mem_singleton_self _)
    have solid := occurs.solid
    rwa [site] at solid
  | .not s t => exact (Outline.solid_keyword .not).append _
  | .join c s l r => exact ⟨'(', _, rfl, rfl⟩

/-- The identifier of a printable tree is read as one operand that says what the tree says, in front
of a rest that no quote of it meets. -/
lemma exists_reads_identifier (reach : e.Reachable) (terms : e.ReadFrom t) (p : t.IsPrintable)
    (fl : Follows rest) (apart : ∀ leaf ∈ t.leaves, IsPaired leaf ∨ '"' ∉ rest)
    (ends : rest = [] ∨ ∀ leaf ∈ t.leaves, ¬leaf.2.IsOpenWord) (start : Nat) :
    ∃ items t', Item.Unary items t' ∧
      Outline.ReadsBefore e.readTerm e.operatorTexts rest start t.identifier items ∧
      t'.formula (fun s leaf? => (s.source, leaf?.map Leaf.unplaced)) =
        t.formula fun s leaf => (s.source, some leaf.unplaced) := by
  induction t generalizing rest start with
  | leaf s a =>
    have mem : (s, a) ∈ (Tree.leaf s a).leaves := List.mem_singleton_self _
    obtain ⟨term, occurs, rfl, reads⟩ := terms _ mem
    have phrase := p.phrases _ mem
    rw [asked_of_readTerm reads] at phrase
    have fits : term.FitsBefore rest := by
      refine fitsBefore_of_readTerm reads (fun opened => ?_) fun opened => ?_
      · exact (apart _ mem).resolve_left fun paired => paired.2 opened
      · exact ends.resolve_right fun none => none _ mem opened
    obtain ⟨leaf?', same, readsBefore⟩ := exists_readsBefore reads start
    refine ⟨_, .leaf (term.move start).site leaf?', .operand _, ?_, ?_⟩
    · exact readsBefore rest
        (occurs.scan reach.isOperatorText (p.words _ mem) phrase fits fl start)
    · rw [Tree.formula, same, term.source_move]
      rfl
  | not s t ih =>
    have inner : t.IsPrintable := ⟨p.words, p.phrases, p.closed, p.apart, p.last⟩
    obtain ⟨items, t', unary, reads, same⟩ := ih terms inner fl apart ends
      (start + width (Outline.keyword .not) + 1)
    have within : e.ReadFrom t := terms
    have both := ((Outline.reads_keyword .not).before (.space _)).append within.solid reads
    exact ⟨_, .not _ t', .not _ unary, both, congrArg Formula.not same⟩
  | join c s l r ihl ihr =>
    have left : e.ReadFrom l := fun leaf mem => terms leaf (List.mem_append_left _ mem)
    have right : e.ReadFrom r := fun leaf mem => terms leaf (List.mem_append_right _ mem)
    -- the right side is read in front of the `)` alone, the left side in front of all behind it
    obtain ⟨items', r', unary', readsRight, sameRight⟩ := ihr right p.right .stop
      (fun _ _ => .inr List.not_mem_nil) (.inl rfl)
      (start + 1 + width l.identifier + 1 + width (Outline.keyword (.join c)) + 1)
    have both := ((Outline.reads_keyword (.join c)).before (.space _)).append
      right.solid readsRight
    have behind := p.apart_left fun _ _ => .inr List.not_mem_nil
    obtain ⟨items, l', unary, readsLeft, sameLeft⟩ := ihl left p.left (.space _) behind
      (.inr p.not_open) (start + 1)
    have sides := readsLeft.append ((Outline.solid_keyword _).append _) both
    have apart : ∀ leaf ∈ (Tree.join c s l r).leaves, IsPaired leaf ∨ '"' ∉ ')' :: rest := by
      simpa using apart
    -- what is behind the `)` is hidden from the group only if no quote reaches over it
    have closed := p.closedBefore_sides (fun _ => p.left.closedBefore)
      (fun _ => p.right.closedBefore) apart
    have whole := sides.group closed (.join c _ unary unary')
    rw [← Tree.identifier_join (s := s)] at whole
    refine ⟨_, .join c _ l' r', .operand _, whole, ?_⟩
    rw [Tree.formula, sameLeft, sameRight]
    rfl

/-- The identifier of a query whose tree is printable parses to a query that says the same: it has
the same leaves under the same connectives, the same identifier and the same answers. -/
theorem identifier_is_read_again (e : Engine κ ε) (reach : e.Reachable) (text : String)
    (valid : (e.parse text).1.isValid = true)
    (printable : ∀ t ∈ (e.parse text).1.tree?, t.IsPrintable) :
    ∃ identifier again, (e.parse text).1.identifier? = some identifier ∧
      again = ((e.parse text).2.parse identifier).1 ∧
      again.isValid = true ∧
      again.tree?.map (Tree.formula fun s leaf => (s.source, leaf.unplaced)) =
        (e.parse text).1.tree?.map (Tree.formula fun s leaf => (s.source, leaf.unplaced)) ∧
      again.identifier? = some identifier ∧
      ∀ x, again.test x = (e.parse text).1.test x := by
  obtain ⟨errors, t, tree⟩ := Query.exists_of_isValid valid
  obtain ⟨items, whole, unary, reads, same⟩ := exists_reads_identifier reach
    (exists_term_of_leaf tree) (printable t tree) .stop (fun _ _ => .inr List.not_mem_nil)
    (.inl rfl) 0
  rw [← String.toList_ofList (l := t.identifier)] at reads
  obtain ⟨errors', tree'⟩ := query_of_reads unary reads
  obtain ⟨t', pruned, same⟩ := Tree.exists_prune_of_formula same
  rw [pruned] at tree'
  have identifier : (e.parse text).1.identifier? = some (String.ofList t.identifier) := by
    rw [Query.identifier?, tree, Option.map_some]
  refine ⟨_, e.query (String.ofList t.identifier), identifier, rfl, ?_, ?_, ?_, fun x => ?_⟩
  · rw [Query.isValid, errors', Query.isEmpty, tree']
    rfl
  · rw [tree', tree, Option.map_some, Option.map_some, same]
  · rw [Query.identifier?, tree', Option.map_some, Tree.identifier_of_formula same]
  · have leaves {a a' : Leaf κ ε} (h : a.unplaced = a'.unplaced) :
        (e.parse text).1.ask x a = (e.parse text).1.ask x a' := by
      rw [← ask_unplaced, h, ask_unplaced]
    rw [Query.test_eq errors tree, ← Tree.answer_of_same same leaves]
    exact Query.test_eq errors' tree'

/-- Words and a value with quotes inside, and a word that a quote opens at the end. -/
theorem identifier_of_inner_quotes :
    flags.Reachable ∧
      (flags.parse "say\"hi\" or -age:1\"2\" \"red").1.identifier? =
        some "(say\"hi\" or (not age:1\"2\" and \"red))" ∧
      (flags.query "(say\"hi\" or (not age:1\"2\" and \"red))").isValid = true ∧
      ∀ x, (flags.query "(say\"hi\" or (not age:1\"2\" and \"red))").test x =
        (flags.query "say\"hi\" or -age:1\"2\" \"red").test x := by
  obtain ⟨identifier, again, same, rfl, valid, _, _, test⟩ :=
    identifier_is_read_again flags reachable_flags "say\"hi\" or -age:1\"2\" \"red"
      (by decide +kernel) (by decide +kernel)
  have text : (flags.parse "say\"hi\" or -age:1\"2\" \"red").1.identifier? =
      some "(say\"hi\" or (not age:1\"2\" and \"red))" := by decide +kernel
  obtain rfl := Option.some.inj (text.symm.trans same)
  exact ⟨reachable_flags, text, valid, test⟩

/-- Two words with a quote in each: in parentheses, the quotes hide one of these. -/
theorem identifier_of_split_quotes :
    flags.Reachable ∧ (flags.parse "a\"b c or d\"e").1.isValid = true ∧
      (flags.parse "a\"b c or d\"e").1.identifier? = some "((a\"b and c) or d\"e)" ∧
      ((flags.parse "a\"b c or d\"e").2.parse "((a\"b and c) or d\"e)").1.isValid = false :=
  ⟨reachable_flags, by decide +kernel, by decide +kernel, by decide +kernel⟩

end Engine

end Sift
