import Sift.Engine.Configuration
import Sift.Proofs.Parentheses
import Sift.Query.Meaning

/-!
# Clauses in context

A clause that has been read somewhere in a text is read again in front of whatever stops a word,
wherever it is put and whatever has followed it before (`Clause.Parts.move`). A value that begins
with its only quote (`IsOpened`) must not find another one in what follows.
-/

namespace Sift

open Text Unicode

/-- Whether all quotes of a text stand around the given part at its end. -/
def Encloses (source inside : List Char) : Prop :=
  '"' ∉ source ∨ (source.count '"' = 2 ∧ '"' :: inside ++ ['"'] <:+ source)

/-- Decided by counting quotes. -/
instance (source inside : List Char) : Decidable (Encloses source inside) :=
  inferInstanceAs (Decidable (_ ∨ _))

/-- All quotes stand around the part, or there are none. -/
lemma Encloses.cases {source inside : List Char} (h : Encloses source inside) :
    '"' ∉ source ∨
      ∃ head, '"' ∉ head ∧ '"' ∉ inside ∧ source = head ++ ('"' :: inside ++ ['"']) := by
  rcases h with unquoted | ⟨two, head, rfl⟩
  · exact .inl unquoted
  · simp only [List.count_append, List.count_cons_self, List.count_nil] at two
    refine .inr ⟨head, ?_, ?_, rfl⟩
    · exact List.count_eq_zero.1 (by omega)
    · exact List.count_eq_zero.1 (by omega)

/-- A text is as it is without its outer quotes, or has such. -/
lemma unquote_cases (cs : List Char) : unquote cs = cs ∨ cs = '"' :: unquote cs ++ ['"'] := by
  unfold unquote
  split
  · next h =>
    obtain ⟨size, head, last⟩ := h
    right
    obtain ⟨later, rfl⟩ := List.head?_eq_some_iff.1 head
    match later with
    | x :: later =>
      rw [List.getLast?_cons_cons] at last
      obtain ⟨_, e⟩ := List.getLast?_eq_some_iff.1 last
      simp [e]
  · exact .inl rfl

/-- A text without a quote is as it is without outer quotes. -/
lemma unquote_of_not_mem {cs : List Char} (h : '"' ∉ cs) : unquote cs = cs := by
  rcases unquote_cases cs with same | quoted
  · exact same
  · rw [quoted] at h
    exact absurd List.mem_cons_self h

/-- A text in quotes, without a quote inside. -/
def IsPhrase (cs : List Char) : Prop := '"' ∉ unquote cs ∧ cs = '"' :: unquote cs ++ ['"']

/-- Decided by the quotes of the text. -/
instance (cs : List Char) : Decidable (IsPhrase cs) := inferInstanceAs (Decidable (_ ∧ _))

/-- A text without quotes is a phrase once it is put in quotes. -/
lemma isPhrase_quoted {v : List Char} (unquoted : '"' ∉ v) : IsPhrase ('"' :: v ++ ['"']) := by
  have last : ('"' :: v ++ ['"']).getLast? = some '"' := List.getLast?_concat
  have inside : unquote ('"' :: v ++ ['"']) = v := by
    rw [unquote, if_pos ⟨by simp, rfl, last⟩]
    exact List.dropLast_concat
  rw [IsPhrase, inside]
  exact ⟨unquoted, rfl⟩

/-- A phrase has a quote. -/
lemma IsPhrase.mem {cs : List Char} (h : IsPhrase cs) : '"' ∈ cs := by
  rw [h.2]
  exact List.mem_cons_self

/-- A text that begins with its only quote. -/
def IsOpened (cs : List Char) : Prop := cs.head? = some '"' ∧ cs.count '"' = 1

/-- Decided by the first character and the number of quotes. -/
instance (cs : List Char) : Decidable (IsOpened cs) := inferInstanceAs (Decidable (_ ∧ _))

/-- A quote opens a text if the text behind it has none. -/
lemma isOpened_cons {cs : List Char} : IsOpened ('"' :: cs) ↔ '"' ∉ cs := by
  rw [IsOpened, List.count_cons_self, Nat.add_eq_right, List.count_eq_zero]
  exact and_iff_right rfl

/-- An opened text is a quote and what stands behind it. -/
lemma IsOpened.exists_cons {cs : List Char} (h : IsOpened cs) :
    ∃ later, cs = '"' :: later ∧ '"' ∉ later := by
  obtain ⟨later, rfl⟩ := List.head?_eq_some_iff.1 h.1
  exact ⟨later, rfl, isOpened_cons.1 h⟩

/-- An opened text has a quote. -/
lemma IsOpened.mem {cs : List Char} (h : IsOpened cs) : '"' ∈ cs := List.mem_of_head? h.1

/-- The quote that opens a text is none of two outer ones. -/
lemma IsOpened.unquote {cs : List Char} (h : IsOpened cs) : unquote cs = cs := by
  rcases unquote_cases cs with same | quoted
  · exact same
  · have two := h.2
    rw [quoted] at two
    simp at two

namespace Clause

variable {operators : List (List Char)} {rest rest' : List Char} {c : Clause}

/-- A text that an operator may be written as: it can stand in a word. -/
def IsOperatorText (op : List Char) : Prop := op ≠ [] ∧ ∀ c ∈ op, isWordPart c = true

/-- The token of an operator can stand in a word, and has no quotes. -/
lemma isOperatorText_of_isOperatorToken {token : String} (h : isOperatorToken token = true) :
    IsOperatorText token.toList ∧ '"' ∉ token.toList := by
  rw [isOperatorToken, Bool.and_eq_true, List.all_eq_true] at h
  obtain ⟨ne, parts⟩ := h
  refine ⟨⟨by simpa using ne, fun c mem => ?_⟩, fun mem => absurd (parts _ mem) (by decide)⟩
  have part := parts c mem
  simp only [Bool.not_eq_true', Bool.or_eq_false_iff] at part
  simp [isWordPart, isParen, part]

/-- What is chosen among texts is not shorter than any of them. -/
lemma length_le_foldl_longer (first : List Char) (others : List (List Char)) :
    ∀ op ∈ first :: others, op.length ≤ (others.foldl longer first).length := by
  induction others generalizing first with
  | nil => simp
  | cons a others ih =>
    have chosen := ih (longer first a) _ List.mem_cons_self
    have sides : first.length ≤ (longer first a).length ∧ a.length ≤ (longer first a).length := by
      rw [longer]
      split <;> omega
    intro op mem
    rw [List.foldl_cons]
    rcases List.mem_cons.1 mem with rfl | mem
    · exact Nat.le_trans sides.1 chosen
    · rcases List.mem_cons.1 mem with rfl | mem
      · exact Nat.le_trans sides.2 chosen
      · exact ih _ op (List.mem_cons_of_mem _ mem)

/-- The longest text that another begins with is one that it begins with, and no other is longer. -/
lemma longestStart?_eq_some_iff {cs op : List Char} :
    longestStart? operators cs = some op ↔
      op ∈ operators ∧ op <+: cs ∧ ∀ op' ∈ operators, op' <+: cs → op'.length ≤ op.length := by
  have longest {op} (h : longestStart? operators cs = some op) {op'} (mem : op' ∈ operators)
      (initial : op' <+: cs) : op'.length ≤ op.length := by
    have found : op' ∈ operators.filter (·.isPrefixOf cs) :=
      List.mem_filter.2 ⟨mem, List.isPrefixOf_iff_prefix.2 initial⟩
    unfold longestStart? at h
    split at h
    · cases h
    · next first others e =>
      cases h
      exact length_le_foldl_longer first others op' (e ▸ found)
  constructor
  · intro h
    obtain ⟨mem, initial⟩ := longestStart?_mem h
    exact ⟨mem, initial, fun op' => longest h⟩
  · rintro ⟨mem, initial, bound⟩
    cases h : longestStart? operators cs with
    | none =>
      unfold longestStart? at h
      split at h
      · next e =>
        have found := List.filter_eq_nil_iff.1 e op mem
        exact absurd (List.isPrefixOf_iff_prefix.2 initial) found
      · cases h
    | some op' =>
      obtain ⟨mem', initial'⟩ := longestStart?_mem h
      have le := bound op' mem' initial'
      rw [List.IsPrefix.eq_of_length_le
        (List.prefix_of_prefix_length_le initial' initial le) (longest h mem initial)]

/-- An operator is the longest one in front of what stops all of them. -/
lemma longestStart?_of_stop {p : Char → Bool} {op later : List Char} (known : op ∈ operators)
    (run : ∀ op ∈ operators, ∀ x ∈ op, p x = true) (stop : ∀ x ∈ later.head?, p x = false) :
    longestStart? operators (op ++ later) = some op := by
  refine longestStart?_eq_some_iff.2 ⟨known, List.prefix_append _ _, fun op' mem initial => ?_⟩
  exact (prefix_of_head stop (run op' mem) initial).length_le

/-- No parameter begins with another character than a parenthesis. -/
lemma splitParam_of_ne {cs : List Char} (h : cs.head? ≠ some '(') : splitParam cs = (none, cs) := by
  unfold splitParam
  split
  · exact absurd rfl h
  · rfl

/-- A parameter holds no parentheses. -/
lemma isParen_of_splitParam {cs param : List Char} (h : (splitParam cs).1 = some param) :
    ∀ c ∈ param, isParen c = false := by
  unfold splitParam at h
  split at h
  · split at h
    · cases h
      intro c mem
      simpa using List.all_eq_true.1 List.all_takeWhile c mem
    · cases h
  · cases h

/-- A parameter is split off as it was put in front. -/
lemma splitParam_paramText {param : Option (List Char)} {cs : List Char}
    (flat : ∀ p ∈ param, ∀ x ∈ p, isParen x = false) (bare : param = none → cs.head? ≠ some '(') :
    splitParam (paramText param ++ cs) = (param, cs) := by
  cases param with
  | none => exact splitParam_of_ne (bare rfl)
  | some p =>
    have all : ∀ x ∈ p, (!isParen x) = true := fun x mem => by rw [flat p rfl x mem]; rfl
    have text : paramText (some p) ++ cs = '(' :: (p ++ ')' :: cs) := by simp [paramText]
    rw [text, splitParam, List.dropWhile_append_of_pos all, List.takeWhile_append_of_pos all]
    simp [isParen]

/-- A phrase at the front is the start of a value, whatever follows it. -/
lemma quotedStart?_quoted {v : List Char} (h : '"' ∉ v) (rest : List Char) :
    quotedStart? ('"' :: v ++ ['"'] ++ rest) = some ('"' :: v ++ ['"']) := by
  have text : '"' :: v ++ ['"'] ++ rest = '"' :: (v ++ '"' :: rest) := by simp
  have all : ('"' :: (v ++ '"' :: rest)).take (v.length + 2) = '"' :: v ++ ['"'] := by
    rw [← text]
    exact List.take_left' (by simp)
  rw [text, quotedStart?, phraseLength?_of_not_mem h, Option.map_some, all]

/-- A value is a phrase or can stand in a word. -/
lemma phrase_or_run_of_valueStart? {cs value : List Char}
    (h : valueStart? operators cs = some value) :
    (∃ v, '"' ∉ v ∧ value = '"' :: v ++ ['"']) ∨ ∀ c ∈ value, isWordPart c = true := by
  unfold valueStart? at h
  split at h
  · next phrase hp =>
    cases h
    unfold quotedStart? at hp
    split at hp
    · obtain ⟨n, hn, rfl⟩ := Option.map_eq_some_iff.1 hp
      obtain ⟨v, rest, unquoted, rfl, rfl⟩ := exists_of_phraseLength? hn
      have text : '"' :: (v ++ '"' :: rest) = '"' :: v ++ ['"'] ++ rest := by simp
      refine .inl ⟨v, unquoted, ?_⟩
      rw [text]
      exact List.take_left' (by simp)
    · cases hp
  · simp only at h
    split at h
    · cases h
    · split at h <;> cases h
      exact .inr fun c mem => List.all_eq_true.1 List.all_takeWhile c mem

/-- A value without quotes can stand in a word. -/
lemma isWordPart_of_valueStart? {cs value : List Char} (h : valueStart? operators cs = some value)
    (unquoted : '"' ∉ value) : ∀ c ∈ value, isWordPart c = true := by
  rcases phrase_or_run_of_valueStart? h with ⟨v, _, rfl⟩ | run
  · simp at unquoted
  · exact run

/-- A value that does not begin with a quote is a run. -/
lemma valueStart?_of_head {cs : List Char} (h : cs.head? ≠ some '"') :
    valueStart? operators cs =
      if cs.takeWhile isWordPart = [] then none
      else if operators.any (·.isPrefixOf (cs.takeWhile isWordPart)) then none
      else some (cs.takeWhile isWordPart) := by
  have quoted : quotedStart? cs = none := by
    unfold quotedStart?
    split
    · exact absurd rfl h
    · rfl
  have head : (cs.takeWhile isWordPart).head? ≠ some '"' := by
    match cs with
    | [] => simp
    | x :: cs =>
      rw [List.takeWhile_cons]
      split
      · exact h
      · simp
  rw [valueStart?, quoted]
  simp [head]

/-- A value is a run without a quote in front, or begins with one. -/
lemma value_of_head {value : List Char} (h : valueStart? operators (value ++ rest) = some value)
    (head : value.head? ≠ some '"') :
    (value ++ rest).takeWhile isWordPart = value ∧ value ≠ [] ∧
      operators.any (·.isPrefixOf value) = false := by
  have ne := (valueStart?_initial h).2
  have head' : (value ++ rest).head? ≠ some '"' := by rwa [List.head?_append_of_ne_nil _ ne]
  rw [valueStart?_of_head head'] at h
  split at h
  · cases h
  · split at h
    · cases h
    · next free =>
      have run := Option.some.inj h
      rw [run] at free
      exact ⟨run, ne, by simpa using free⟩

/-- A run of word characters that is no operator and has no quote in front is the start of a value.
-/
lemma valueStart?_of_run {value : List Char} (run : (value ++ rest).takeWhile isWordPart = value)
    (ne : value ≠ []) (head : value.head? ≠ some '"')
    (free : operators.any (·.isPrefixOf value) = false) :
    valueStart? operators (value ++ rest) = some value := by
  have head' : (value ++ rest).head? ≠ some '"' := by rwa [List.head?_append_of_ne_nil _ ne]
  rw [valueStart?_of_head head', run, if_neg ne, if_neg (by simp [free])]

/-- A run that begins with its only quote is the start of a value. -/
lemma valueStart?_of_opened {value : List Char} (opened : IsOpened value)
    (parts : ∀ x ∈ value, isWordPart x = true) (st : Stops rest) (unquoted : '"' ∉ rest) :
    valueStart? operators (value ++ rest) = some value := by
  obtain ⟨later, rfl, alone⟩ := opened.exists_cons
  have none : quotedStart? ('"' :: later ++ rest) = none := by
    rw [List.cons_append, quotedStart?, phraseLength?_eq_none_iff.2 (by simp [alone, unquoted]),
      Option.map_none]
  have run := takeWhile_of_stops st parts
  simp only [valueStart?, none, run]
  rw [if_neg (List.cons_ne_nil _ _), if_neg (by simp)]

/-- A value that begins with a quote is a phrase, or a run with no other quote behind it. -/
lemma value_of_quote {value : List Char} (h : valueStart? operators (value ++ rest) = some value)
    (head : value.head? = some '"') : (∃ v, '"' ∉ v ∧ value = '"' :: v ++ ['"']) ∨
      (IsOpened value ∧ ∀ x ∈ value, isWordPart x = true) := by
  obtain ⟨later, rfl⟩ := List.head?_eq_some_iff.1 head
  unfold valueStart? at h
  cases size : phraseLength? (later ++ rest) with
  | none =>
    have alone := phraseLength?_eq_none_iff.1 size
    rw [List.mem_append, not_or] at alone
    simp only [List.cons_append, quotedStart?, size, Option.map_none] at h
    split at h
    · cases h
    · split at h
      · cases h
      · refine .inr ⟨isOpened_cons.2 alone.1, fun x mem => ?_⟩
        rw [← Option.some.inj h] at mem
        exact List.all_eq_true.1 List.all_takeWhile x mem
  | some n =>
    obtain ⟨v, more, unquoted, e, rfl⟩ := exists_of_phraseLength? size
    have taken := quotedStart?_quoted unquoted more
    have text : '"' :: later ++ rest = '"' :: v ++ ['"'] ++ more := by simp [e]
    rw [text, taken] at h
    exact .inl ⟨v, unquoted, (Option.some.inj h).symm⟩

/-- A run that begins with a value in front of a space does so in front of whatever stops it. -/
lemma exists_valueStart?_of_run {run value : List Char} (parts : ∀ x ∈ run, isWordPart x = true)
    (fl : Follows rest') (st : Stops rest)
    (h : valueStart? operators (run ++ rest') = some value) :
    ∃ value', valueStart? operators (run ++ rest) = some value' := by
  have here := takeWhile_of_stops fl.stops parts
  have there := takeWhile_of_stops st parts
  by_cases head : run.head? = some '"'
  · obtain ⟨later, rfl⟩ := List.head?_eq_some_iff.1 head
    cases quoted : quotedStart? ('"' :: later ++ rest) with
    | some phrase => exact ⟨phrase, by rw [valueStart?, quoted]⟩
    | none =>
      refine ⟨'"' :: later, ?_⟩
      simp only [valueStart?, quoted, there]
      rw [if_neg (List.cons_ne_nil _ _), if_neg (by simp)]
  · have head' : (run ++ rest').head? ≠ some '"' := by
      match run with
      | [] => cases fl <;> simp
      | c :: cs => exact head
    rw [valueStart?_of_head head', here] at h
    split at h
    · cases h
    · next ne =>
      split at h
      · cases h
      · next free => exact ⟨run, valueStart?_of_run there ne head (by simpa using free)⟩

/-- Whether the quotes of a clause enclose its value. -/
structure Quoted (c : Clause) : Prop where
  head : '"' ∉ c.token ++ paramText c.param ++ c.operator
  value : '"' ∉ c.value ∨ ∃ v, '"' ∉ v ∧ c.value = '"' :: v ++ ['"']

/-- Where the quotes of a clause stand around its value, they are the quotes of its value. -/
lemma Quoted.of_encloses {c : Clause} (ne : c.value ≠ [])
    (h : Encloses c.source (unquote c.value)) : c.Quoted := by
  rcases h.cases with unquoted | ⟨head, unquotedHead, unquoted, e⟩
  · simp only [source, List.mem_append, not_or] at unquoted
    exact ⟨by simp [List.mem_append, unquoted], .inl unquoted.2⟩
  · -- the text ends with a quote, and the value is its end
    have quote : '"' ∈ c.value := by
      have last := congrArg List.getLast? e
      rw [source, List.getLast?_append_of_ne_nil _ ne, ← List.append_assoc,
        List.getLast?_append_of_ne_nil _ (List.cons_ne_nil _ _)] at last
      exact List.mem_of_getLast? last
    rcases unquote_cases c.value with same | value
    · rw [same] at unquoted
      exact absurd quote unquoted
    · have text := (congrArg (c.token ++ paramText c.param ++ c.operator ++ ·) value).symm.trans e
      exact ⟨List.append_cancel_right text ▸ unquotedHead, .inr ⟨_, unquoted, value⟩⟩

/-- What the parts of a clause are, in front of what follows it. -/
structure Parts (operators : List (List Char)) (c : Clause) (rest : List Char) : Prop where
  token : c.token ≠ []
  tokenChars : ∀ x ∈ c.token, isTokenChar x = true
  behind : ∀ x ∈ (paramText c.param ++ c.operator).head?, isTokenChar x = false
  param : ∀ p ∈ c.param, ∀ x ∈ p, isParen x = false
  operator : longestStart? operators (c.operator ++ c.value ++ rest) = some c.operator
  value : valueStart? operators (c.value ++ rest) = some c.value

/-- A clause has a text. -/
lemma Parts.ne (p : Parts operators c rest) : c.source ≠ [] := by
  simp [source, p.token]

/-- What is read as a clause has the parts of a clause. -/
lemma parts_of_source {start : Nat} {cs : List Char}
    (h : first? operators start cs = some (c, rest)) :
    c.source ++ rest = cs ∧ Parts operators c rest := by
  have whole := (source_append_of_first? h).1
  refine ⟨whole, ?_⟩
  simp only [first?] at h
  split at h
  · cases h
  · next token =>
    split at h
    · cases h
    · next op hop =>
      split at h
      · cases h
      · next value hv =>
        cases h
        have split := splitParam_eq (cs.dropWhile isTokenChar)
        obtain ⟨behind, e⟩ := (longestStart?_mem hop).2
        rw [← e, List.drop_left] at hv
        obtain ⟨later, e'⟩ := (valueStart?_initial hv).1
        subst e'
        rw [← e, List.drop_left, List.drop_left]
        refine ⟨token, fun x mem => List.all_eq_true.1 List.all_takeWhile x mem, ?_, ?_, ?_, hv⟩
        · -- the parameter and the operator stand where the name has ended
          intro x mem
          have head := List.head?_dropWhile_not isTokenChar cs
          have ne : paramText (splitParam (cs.dropWhile isTokenChar)).1 ++ op ≠ [] :=
            List.ne_nil_of_mem (List.mem_of_mem_head? mem)
          rw [← split, ← e, ← List.append_assoc, List.head?_append_of_ne_nil _ ne,
            Option.mem_def.1 mem] at head
          exact head
        · exact fun p mem => isParen_of_splitParam (Option.mem_def.1 mem)
        · rwa [List.append_assoc, e]

section Parts

variable (ops : ∀ op ∈ operators, IsOperatorText op)
include ops

/-- What stands as the operator of a clause is the text of one. -/
lemma Parts.isOperatorText (p : Parts operators c rest) : IsOperatorText c.operator :=
  ops _ (longestStart?_mem p.operator).1

/-- What has the parts of a clause is read as that clause. -/
lemma Parts.first? (p : Parts operators c rest) :
    first? operators c.start (c.source ++ rest) = some (c, rest) := by
  obtain ⟨ne, parts⟩ := p.isOperatorText ops
  have bare : c.param = none → (c.operator ++ c.value ++ rest).head? ≠ some '(' := by
    intro _ head
    rw [List.append_assoc, List.head?_append_of_ne_nil _ ne] at head
    exact absurd (parts _ (List.mem_of_head? head)) (by decide)
  have text : c.source ++ rest =
      c.token ++ (paramText c.param ++ (c.operator ++ c.value ++ rest)) := by
    simp [source]
  have next : ∀ x ∈ (paramText c.param ++ (c.operator ++ c.value ++ rest)).head?,
      isTokenChar x = false := by
    have ne : paramText c.param ++ c.operator ≠ [] := by simp [ne]
    rw [List.append_assoc, ← List.append_assoc, List.head?_append_of_ne_nil _ ne]
    exact p.behind
  obtain ⟨run, left⟩ := run_of_head p.tokenChars next
  rw [← text] at run left
  have split := splitParam_paramText p.param bare
  simp only [Clause.first?, run, left, split, if_neg p.token, p.operator]
  simp only [List.append_assoc, List.drop_left, p.value]

/-- The longest operator is the same in front of whatever stops a word. -/
lemma longestStart?_move {op more : List Char}
    (h : longestStart? operators (op ++ more ++ rest) = some op) (st : Stops rest') :
    longestStart? operators (op ++ more ++ rest') = some op := by
  obtain ⟨mem, initial, longest⟩ := longestStart?_eq_some_iff.1 h
  refine longestStart?_eq_some_iff.2 ⟨mem, ?_, fun op mem initial => ?_⟩
  · rw [List.append_assoc]
    exact List.prefix_append _ _
  · -- no operator reaches into what stops a word
    have within := prefix_of_head st (ops op mem).2 initial
    exact longest op mem (within.trans (List.prefix_append _ _))

/-- The parts of a clause are the same in front of whatever stops a word, but for a value that a
quote opens. -/
lemma Parts.move (p : Parts operators c rest) (opened : IsOpened c.value → '"' ∉ rest')
    (st : Stops rest') : Parts operators c rest' where
  token := p.token
  tokenChars := p.tokenChars
  behind := p.behind
  param := p.param
  operator := longestStart?_move ops p.operator st
  value := by
    by_cases head : c.value.head? = some '"'
    · rcases value_of_quote p.value head with ⟨v, unquoted, e⟩ | ⟨alone, parts⟩
      · rw [e, valueStart?, quotedStart?_quoted unquoted]
      · exact valueStart?_of_opened alone parts st (opened alone)
    · obtain ⟨run, ne, free⟩ := value_of_head p.value head
      have parts : ∀ x ∈ c.value, isWordPart x = true := by
        rw [← run]
        exact fun x mem => List.all_eq_true.1 List.all_takeWhile x mem
      exact valueStart?_of_run (takeWhile_of_stops st parts) ne head free

end Parts

end Clause

namespace Token

variable {operators : List (List Char)} {rest rest' cs : List Char}

/-- The parentheses of a clause whose quotes enclose its value are closed. -/
lemma Balanced.of_parts (ops : ∀ op ∈ operators, Clause.IsOperatorText op) {c : Clause}
    (p : Clause.Parts operators c rest') (quoted : c.Quoted) : Balanced c.source := by
  have head := quoted.head
  simp only [List.mem_append, not_or] at head
  obtain ⟨⟨token, param⟩, operator⟩ := head
  refine ((Balanced.append ?_ ?_).append ?_).append ?_
  · exact .of_flat (fun x mem => isParen_of_isTokenChar (p.tokenChars x mem)) token
  · cases e : c.param with
    | none => exact .of_flat nofun nofun
    | some text =>
      rw [e] at param
      refine Balanced.group (.of_flat (p.param text e) ?_)
      exact fun mem => param (by simp [Clause.paramText, mem])
  · exact .of_flat (fun x mem => isParen_of_isWordPart ((p.isOperatorText ops).2 x mem)) operator
  · rcases quoted.value with unquoted | ⟨v, unquoted, e⟩
    · exact .of_flat (fun x mem => isParen_of_isWordPart
        (Clause.isWordPart_of_valueStart? p.value unquoted x mem)) unquoted
    · rw [e]
      exact .phrase unquoted

/-- A clause is the same in front of a space, wherever it stands. Where a quote opens its value,
there must be no other behind it. -/
lemma first_clause_move (ops : ∀ op ∈ operators, Clause.IsOperatorText op) {start : Nat}
    {l : Lexed} {c : Clause} (h : first operators start cs = .ok l) (hc : l.token = .clause c)
    (word : Combinator.ofWord? c.source = none) (fl : Follows rest')
    (opened : IsOpened c.value → '"' ∉ rest') (start' : Nat) :
    first operators start' (c.source ++ rest') =
      .ok ⟨.clause { c with start := start' }, c.source, rest'⟩ := by
  obtain ⟨bare, clause, _⟩ := clause_of_first h hc
  obtain ⟨whole, parts⟩ := Clause.parts_of_source clause
  rw [← whole] at bare
  have moved := parts.move ops opened fl.stops
  have parts' : Clause.Parts operators { c with start := start' } rest' := { moved with }
  exact first_of_read (.clause (bare.move parts.ne word fl) (parts'.first? ops))

end Token

end Sift
