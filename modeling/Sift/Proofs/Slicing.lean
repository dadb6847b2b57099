import Sift.Proofs.Bounds
import Sift.Query.Slicing

/-!
# Reading in bytes

Reading a text at positions in bytes comes to the same as reading the characters that stand there:
no slice that is taken on the way fails (`ByteLexed.next?_eq`). So a token begins where it is asked
for, has a length, and ends between two characters of its level. A level, with the groups in it, is
read in fewer steps than it has bytes, and its tokens are what has been read of it
(`ByteLevel.levels_are_read`).
-/

namespace Sift

open Text Unicode

section Slices

variable (before cs after : List Char)

/-- The characters between two others are a slice. -/
lemma Text.slice?_mid :
    slice? (before ++ (cs ++ after)) (width before) (width before + width cs) = some cs :=
  slice?_eq_some_iff.2 ⟨before, after, rfl, rfl, rfl⟩

/-- The characters behind others are a slice. -/
lemma Text.slice?_behind : slice? (before ++ cs) (width before) (width (before ++ cs)) = some cs :=
  slice?_eq_some_iff.2 ⟨before, [], by simp, rfl, width_append before cs⟩

/-- The characters in front of others are a slice. -/
lemma Text.slice?_front : slice? (cs ++ after) 0 (width cs) = some cs :=
  slice?_eq_some_iff.2 ⟨[], after, rfl, rfl, (Nat.zero_add _).symm⟩

/-- A slice of a slice is one of the text. -/
lemma Text.slice?_slice {start stop : Nat} {part : List Char}
    (h : slice? cs start stop = some part) :
    slice? (before ++ (cs ++ after)) (width before + start) (width before + stop) = some part := by
  obtain ⟨front, behind, rfl, rfl, rfl⟩ := slice?_eq_some_iff.1 h
  refine slice?_eq_some_iff.2 ⟨before ++ front, behind ++ after, by simp, by simp, ?_⟩
  rw [Nat.add_assoc]

end Slices

/-! ### Clauses -/

namespace Clause

variable (operators : List (List Char)) (before cs after : List Char)

/-- A clause is the same in bytes. -/
lemma firstBytes?_eq :
    firstBytes? operators (before ++ (cs ++ after)) (width before) (width before + width cs) =
      some ((first? operators (width before) cs).map fun (c, _) => (c, c.source)) := by
  rw [firstBytes?, slice?_mid, first?]
  simp only [Option.bind_eq_bind, Option.bind_some]
  by_cases empty : cs.takeWhile isTokenChar = []
  · simp [empty]
  simp only [if_neg empty]
  -- The text falls into a name, a parameter, an operator, a value and what is behind.
  have parts := List.takeWhile_append_dropWhile (p := isTokenChar) (l := cs)
  rw [← splitParam_eq (cs.dropWhile isTokenChar)] at parts
  generalize cs.takeWhile isTokenChar = name at *
  generalize splitParam (cs.dropWhile isTokenChar) = found at *
  obtain ⟨param, tail⟩ := found
  simp only at parts
  -- Each part is a slice of these.
  have part (front mid behind : List Char) {start stop : Nat} (text : cs = front ++ (mid ++ behind))
      (first : start = width front) (last : stop = start + width mid) :
      slice? cs start stop = some mid := slice?_eq_some_iff.2 ⟨front, behind, text, first, last⟩
  have behindName : slice? cs (width name + width (paramText param)) (width cs) = some tail :=
    part (name ++ paramText param) _ [] (by simp [← parts]) (by simp)
      (by simp [← parts, Nat.add_assoc])
  simp only [behindName, Option.bind_some]
  cases longest : longestStart? operators tail with
  | none => rfl
  | some operator =>
    obtain ⟨tail, rfl⟩ := (longestStart?_mem longest).2
    have behindOperator : slice? cs (width name + width (paramText param) + width operator)
        (width cs) = some tail :=
      part (name ++ paramText param ++ operator) _ [] (by simp [← parts]) (by simp [Nat.add_assoc])
        (by simp [← parts, Nat.add_assoc])
    simp only [behindOperator, Option.bind_some, List.drop_left]
    cases begins : valueStart? operators tail with
    | none => rfl
    | some value =>
      obtain ⟨rest, rfl⟩ := (valueStart?_initial begins).1
      have source :
          slice? cs 0 (width name + width (paramText param) + width operator + width value) =
            some (name ++ paramText param ++ operator ++ value) :=
        part [] _ rest (by simp [← parts]) rfl (by simp [Nat.add_assoc])
      have nameSlice : slice? cs 0 (width name) = some name :=
        part [] _ (paramText param ++ (operator ++ (value ++ rest))) (by simp [← parts]) rfl
          (by simp)
      have operatorSlice : slice? cs (width name + width (paramText param))
          (width name + width (paramText param) + width operator) = some operator :=
        part (name ++ paramText param) _ (value ++ rest) (by simp [← parts]) (by simp) rfl
      have valueSlice : slice? cs (width name + width (paramText param) + width operator)
          (width name + width (paramText param) + width operator + width value) = some value :=
        part (name ++ paramText param ++ operator) _ rest (by simp [← parts])
          (by simp [Nat.add_assoc]) rfl
      simp only [source, slice?_slice before cs after nameSlice,
        slice?_slice before cs after operatorSlice, slice?_slice before cs after valueSlice,
        Option.bind_some]
      cases param with
      | none => rfl
      | some param =>
        have paramSlice : slice? cs (width name + 1) (width name + 1 + width param) = some param :=
          part (name ++ ['(']) _ (')' :: (operator ++ (value ++ rest)))
            (by simp [← parts, paramText]) (width_append name ['(']).symm rfl
        simp only [slice?_slice before cs after paramSlice]
        rfl

end Clause

/-! ### Groups -/

namespace Token

/-- The parenthesis that closes a group is found at the byte where it stands. -/
lemma closing?_eq (depth : Nat) (quoted : Bool) (before cs : List Char) :
    closing? (before ++ cs) depth quoted (width before) cs =
      some ((groupLength? depth quoted cs).map fun n => width (before ++ cs.take (n - 1))) := by
  induction cs generalizing depth quoted before with
  | nil => rfl
  | cons c cs ih =>
    -- One character further on, the text in front has that character at its end.
    have step (depth : Nat) (quoted : Bool) :
        closing? (before ++ c :: cs) depth quoted (width before + c.utf8Size) cs =
          some (((groupLength? depth quoted cs).map (· + 1)).map fun n =>
            width (before ++ (c :: cs).take (n - 1))) := by
      have place : width before + c.utf8Size = width (before ++ [c]) := by simp
      have text : before ++ c :: cs = (before ++ [c]) ++ cs := by simp
      rw [text, place, ih]
      cases found : groupLength? depth quoted cs with
      | none => rfl
      | some n =>
        obtain ⟨m, rfl⟩ := Nat.exists_eq_succ_of_ne_zero (groupLength?_bounds found).1.ne'
        simp
    cases quoted with
    | true =>
      simp only [closing?, groupLength?]
      exact step _ _
    | false =>
      simp only [closing?, groupLength?]
      split
      · next quote =>
        subst quote
        have behind :
            slice? (before ++ '"' :: cs) (width before + 1) (width (before ++ '"' :: cs)) =
              some cs := by
          have slice := slice?_behind (before ++ ['"']) cs
          rwa [List.append_assoc, List.singleton_append, width_append before ['"']] at slice
        rw [behind]
        exact step depth _
      · split
        · exact step _ _
        · split
          · split
            · rfl
            · simp
            · exact step _ _
          · exact step _ _

end Token

/-- A token in bytes, if what holds it stands at a position. -/
def Token.inBytes (pos : Nat) : Token → ByteToken
  | blank => .blank
  | combinator k => .combinator k
  | group inner => .group (pos + 1) (pos + 1 + width inner)
  | clause c => .clause c
  | word text exact => .word text exact

/-- A token in bytes, with its stretch. -/
def Lexed.inBytes (pos : Nat) (l : Lexed) : ByteLexed := ⟨l.token.inBytes pos, ⟨pos, width l.taken⟩⟩

namespace ByteLexed

variable (operators : List (List Char)) (before cs after : List Char)

/-- What an exclamation mark stands in front of is the rest of the text. -/
lemma body_eq (cs : List Char) : ∃ mark body : List Char, ∃ exact : Bool, cs = mark ++ body ∧
    (cs.head? == some '!') = exact ∧ mark.length = exact.toNat ∧ width mark = exact.toNat ∧
    Token.word? cs = match Lexeme.first? body with
      | some (.phrase, n) =>
        some (.split (.word ((body.take (n - 1)).drop 1) exact) (n + exact.toNat) cs)
      | some (.word, n) | some (.keyword _, n) =>
        some (.split (.word (body.take n) exact) (n + exact.toNat) cs)
      | _ => none := by
  by_cases bang : cs.head? = some '!'
  · obtain ⟨body, rfl⟩ := List.head?_eq_some_iff.1 bang
    exact ⟨['!'], body, true, rfl, rfl, rfl, rfl, rfl⟩
  · refine ⟨[], cs, false, rfl, by simpa using bang, rfl, rfl, ?_⟩
    unfold Token.word?
    split
    next split =>
    split at split
    · exact (bang rfl).elim
    · cases split
      rfl

/-- A word or phrase is the same in bytes. -/
lemma word?_eq (pos : Nat) : word? pos cs =
    some (match Token.word? cs with
      | some l => .ok (l.inBytes pos)
      | none => .error (.point pos .noToken)) := by
  obtain ⟨mark, body, exact, rfl, head, length, size, word⟩ := body_eq cs
  rw [word, word?, head, ← size]
  simp only [Option.bind_eq_bind, slice?_behind, Option.bind_some, Lexeme.firstBytes?]
  have lexed (token : Token) (n : Nat) :
      (Lexed.split token (n + width mark) (mark ++ body)).inBytes pos =
        ⟨token.inBytes pos, ⟨pos, width mark + width (body.take n)⟩⟩ := by
    rw [Lexed.inBytes, Lexed.split, size, ← length, Nat.add_comm n, List.take_length_add_append,
      width_append, size, ← length]
  cases first : Lexeme.first? body with
  | none => rfl
  | some found =>
    obtain ⟨lexeme, n⟩ := found
    have whole : slice? body 0 (width (body.take n)) = some (body.take n) := by
      have front := slice?_front (body.take n) (body.drop n)
      rwa [List.take_append_drop] at front
    cases lexeme with
    | blank => rfl
    | keyword k =>
      simp only [Option.map_some, whole, Option.bind_some, lexed]
      rfl
    | word =>
      simp only [Option.map_some, whole, Option.bind_some, lexed]
      rfl
    | phrase =>
      obtain ⟨v, rest, -, rfl, rfl⟩ := Lexeme.exists_of_first?_phrase first
      have text : '"' :: v ++ ['"'] ++ rest = ['"'] ++ (v ++ ('"' :: rest)) := by simp
      have taken : ('"' :: v ++ ['"'] ++ rest).take (v.length + 2) = '"' :: v ++ ['"'] :=
        List.take_left' (by simp)
      have inner : (('"' :: v ++ ['"'] ++ rest).take (v.length + 2 - 1)).drop 1 = v := by simp
      have word :
          slice? ('"' :: v ++ ['"'] ++ rest) 1 (width ('"' :: v ++ ['"']) - 1) = some v := by
        rw [text]
        have size : width ('"' :: v ++ ['"']) = 1 + width v + 1 := width_append ('"' :: v) ['"']
        exact slice?_eq_some_iff.2 ⟨['"'], '"' :: rest, rfl, rfl, by rw [size, Nat.add_sub_cancel]⟩
      simp only [Option.map_some, lexed, taken, inner, word, Option.bind_some]
      rfl

/-- A group has a parenthesis at each end. -/
lemma inBytes_group (pos : Nat) (inner rest : List Char) :
    (Lexed.split (.group inner) (inner.length + 2) ('(' :: (inner ++ ')' :: rest))).inBytes pos =
      ⟨.group (pos + 1) (pos + 1 + width inner), ⟨pos, 1 + width inner + 1⟩⟩ := by
  have text : '(' :: (inner ++ ')' :: rest) = '(' :: inner ++ [')'] ++ rest := by simp
  have taken : ('(' :: inner ++ [')'] ++ rest).take (inner.length + 2) = '(' :: inner ++ [')'] :=
    List.take_left' (by simp)
  have size : width ('(' :: inner ++ [')']) = 1 + width inner + 1 := width_append _ _
  rw [Lexed.inBytes, Lexed.split, text, taken, size]
  rfl

/-- A group is the same in bytes. -/
lemma group?_eq (pos : Nat) (paren : (cs.head?.map isParen).getD false = true) : group? pos cs =
    some (match Token.group? cs with
      | some l => .ok (l.inBytes pos)
      | none => .error (.point pos .unbalancedParenthesis)) := by
  have closing := Token.closing?_eq 0 false [] cs
  rw [List.nil_append, width_nil] at closing
  rw [group?, closing, Token.group?]
  cases found : Token.groupLength? 0 false cs with
  | none => rfl
  | some n =>
    cases cs with
    | nil => cases paren
    | cons c cs =>
      rcases isParen_iff.1 paren with rfl | rfl
      · obtain ⟨m, closes, rfl⟩ := Option.map_eq_some_iff.1 found
        obtain ⟨inner, rest, rfl, rfl⟩ := Token.exists_of_groupLength? closes
        have front :
            ('(' :: (inner ++ ')' :: rest)).take (inner.length + 1 + 1 - 1) = '(' :: inner := by
          simp
        have close : width ('(' :: inner) = 1 + width inner := rfl
        simp only [Option.map_some, front, List.nil_append, List.drop_one, List.tail_cons, close,
          inBytes_group, Nat.add_assoc]
        rfl
      · simp [Token.groupLength?] at found

/-- A clause or word is the same in bytes. -/
lemma term?_eq :
    term? operators (before ++ (cs ++ after)) (width before) (width before + width cs) cs =
      some (match Clause.first? operators (width before) cs with
        | some (c, rest) => .ok (Lexed.inBytes (width before) ⟨.clause c, c.source, rest⟩)
        | none =>
          match Token.word? cs with
          | some l => .ok (l.inBytes (width before))
          | none => .error (.point (width before) .noToken)) := by
  rw [term?, Clause.firstBytes?_eq]
  cases Clause.first? operators (width before) cs with
  | none =>
    simp only [Option.map_none, Option.bind_eq_bind, Option.bind_some, word?_eq]
  | some found => rfl

/-- A token is the same in bytes, and no slice that is taken on the way to it fails. -/
lemma next?_eq :
    next? operators (before ++ (cs ++ after)) (width before) (width before + width cs) =
      some ((Token.first operators (width before) cs).map (Lexed.inBytes (width before))) := by
  rw [next?, slice?_mid, Token.first]
  simp only [Option.bind_eq_bind, Option.bind_some, Lexeme.firstBytes?]
  have dash (h : Token.startsWithDash cs = true) :
      (Lexed.split (.combinator .not) 1 cs).inBytes (width before) =
        ⟨.combinator .not, ⟨width before, 1⟩⟩ := by
    obtain ⟨rest, rfl⟩ := Token.exists_of_startsWithDash h
    rfl
  rcases Lexeme.first? cs with _ | ⟨_ | k | _ | _, n⟩
  case some.blank => rfl
  case some.keyword =>
    simp only [Option.map_some]
    split
    · next h => rw [Except.map, dash h]; rfl
    · rfl
  -- The remaining lexemes may begin a group, a clause or a word alike.
  all_goals
    simp only [Option.map_some, Option.map_none]
    split
    · next h => rw [Except.map, dash h]; rfl
    · split
      · next paren =>
        rw [group?_eq _ _ paren]
        cases Token.group? cs <;> rfl
      · rw [term?_eq]
        cases Clause.first? operators (width before) cs with
        | none => cases Token.word? cs <;> rfl
        | some found => rfl

end ByteLexed

/-! ### Levels -/

/-- The tokens of a level are its first one and those of the rest. -/
lemma Token.level_of_first {operators : List (List Char)} {pos : Nat} {cs : List Char} {l : Lexed}
    (ne : cs ≠ []) (h : first operators pos cs = .ok l) :
    level operators pos cs = l :: level operators (pos + width l.taken) l.rest := by
  rw [level, dif_neg ne]
  split
  · next e =>
    rw [h] at e
    cases e
  · next l' e => rw [Except.ok.inj (h.symm.trans e)]

namespace ByteLevel

variable {operators : List (List Char)}

/-- What has been read of a level that stands at a position, in bytes and in characters. -/
structure Reads (operators : List (List Char)) (pos : Nat) (cs : List Char) (level : ByteLevel) :
    Prop where
  stop : level.stop = pos + width level.sources.flatten
  front : level.sources.flatten <+: cs
  sources : level.sources <+: (Token.level operators pos cs).map Lexed.taken
  isComplete : level.isComplete = (Outline.scan operators pos cs).isComplete
  whole : level.isComplete = true → level.sources.flatten = cs

/-- Whether the level inside of a token is read to its end. -/
def isCompleteIn (operators : List (List Char)) (pos : Nat) : Token → Bool
  | .group inner => (Outline.scan operators (pos + 1) inner).isComplete
  | _ => true

/-- A level is read to its end if that inside of its first token is, and the rest is. -/
lemma isComplete_of_first {pos : Nat} {cs : List Char} {l : Lexed} (ne : cs ≠ [])
    (first : Token.first operators pos cs = .ok l) :
    (Outline.scan operators pos cs).isComplete = (isCompleteIn operators pos l.token &&
      (Outline.scan operators (pos + width l.taken) l.rest).isComplete) := by
  rw [Outline.scan_of_first ne first]
  cases l.token <;> simp [Outline.isComplete, isCompleteIn]

/-- The level inside of a token is read if those of fewer bytes than the token are. -/
lemma inside?_eq {fuel : Nat} {before cs : List Char} {l : Lexed} (after : List Char) (ne : cs ≠ [])
    (first : Token.first operators (width before) cs = .ok l)
    (levels : ∀ before inner after, width inner < width l.taken →
      ∃ level, read? operators (before ++ (inner ++ after)) fuel (width before)
        (width before + width inner) = some level ∧ Reads operators (width before) inner level) :
    ((l.inBytes (width before)).token.level?.elim (some true) fun (start, stop) =>
      (read? operators (before ++ (cs ++ after)) fuel start stop).map isComplete) =
    some (isCompleteIn operators (width before) l.token) := by
  have text := (Token.consumes_of_first ne first).1
  rw [Lexed.inBytes]
  cases token : l.token with
  | group inner =>
    have group := (Token.group_of_first first token).1
    have inside : before ++ (cs ++ after) =
        (before ++ ['(']) ++ (inner ++ ([')'] ++ (l.rest ++ after))) := by
      rw [← text, group]
      simp
    have place : width (before ++ ['(']) = width before + 1 := width_append _ _
    have size : width l.taken = 1 + width inner + 1 := by
      rw [group]
      exact width_append _ _
    obtain ⟨level, read, reads⟩ := levels (before ++ ['(']) inner ([')'] ++ (l.rest ++ after))
      (by omega)
    rw [← inside, place] at read
    simp only [Token.inBytes, ByteToken.level?, Option.elim_some, read, Option.map_some,
      isCompleteIn]
    rw [reads.isComplete, place]
  | blank => rfl
  | combinator => rfl
  | clause => rfl
  | word => rfl

namespace Reads

variable {pos : Nat} {cs : List Char} {l : Lexed} {level : ByteLevel}

/-- Nothing has been read of a level that begins with no token. -/
lemma none {e : QueryError} (ne : cs ≠ []) (first : Token.first operators pos cs = .error e) :
    Reads operators pos cs ⟨[], pos, false⟩ where
  stop := rfl
  front := List.nil_prefix
  sources := List.nil_prefix
  isComplete := by rw [Outline.scan_of_error ne first, Outline.isComplete]
  whole complete := absurd complete Bool.false_ne_true

/-- Reading is given up behind a token if the level inside is not read to its end. -/
lemma stopped (ne : cs ≠ []) (first : Token.first operators pos cs = .ok l)
    (inside : isCompleteIn operators pos l.token = false) :
    Reads operators pos cs ⟨[l.taken], pos + width l.taken, false⟩ where
  stop := by rw [List.flatten_singleton]
  front := by
    rw [List.flatten_singleton]
    exact ⟨l.rest, (Token.consumes_of_first ne first).1⟩
  sources := by
    rw [Token.level_of_first ne first, List.map_cons]
    exact List.prefix_append [_] _
  isComplete := by rw [isComplete_of_first ne first, inside, Bool.false_and]
  whole complete := absurd complete Bool.false_ne_true

/-- Reading goes on behind a token if the level inside is read to its end. -/
lemma cons (ne : cs ≠ []) (first : Token.first operators pos cs = .ok l)
    (inside : isCompleteIn operators pos l.token = true)
    (next : Reads operators (pos + width l.taken) l.rest level) :
    Reads operators pos cs ⟨l.taken :: level.sources, level.stop, level.isComplete⟩ := by
  have text := (Token.consumes_of_first ne first).1
  refine ⟨?_, ?_, ?_, ?_, fun complete => ?_⟩
  · rw [next.stop, List.flatten_cons, width_append, Nat.add_assoc]
  · rw [← text, List.flatten_cons, List.prefix_append_right_inj]
    exact next.front
  · rw [Token.level_of_first ne first, List.map_cons, List.prefix_cons_inj]
    exact next.sources
  · rw [isComplete_of_first ne first, inside, Bool.true_and]
    exact next.isComplete
  · rw [List.flatten_cons, next.whole complete, text]

end Reads

/-- A level is read in fewer steps than it has bytes. -/
lemma exists_read? (fuel : Nat) (before cs after : List Char) (enough : width cs < fuel) :
    ∃ level, read? operators (before ++ (cs ++ after)) fuel (width before)
      (width before + width cs) = some level ∧ Reads operators (width before) cs level := by
  induction fuel generalizing before cs after with
  | zero => cases enough
  | succ fuel ih =>
    rw [read?]
    by_cases ne : cs = []
    · subst ne
      refine ⟨_, if_pos (Nat.le_refl _), rfl, List.nil_prefix, List.nil_prefix, ?_, fun _ => rfl⟩
      rw [Outline.scan_nil]
      rfl
    have pos := width_pos ne
    rw [if_neg (by omega), ByteLexed.next?_eq]
    cases first : Token.first operators (width before) cs with
    | error e => exact ⟨_, rfl, .none ne first⟩
    | ok l =>
      obtain ⟨text, consumes⟩ := Token.consumes_of_first ne first
      have room : width cs = width l.taken + width l.rest := by rw [← text, width_append]
      have source := slice?_mid before l.taken (l.rest ++ after)
      rw [← List.append_assoc l.taken, text] at source
      -- a group is read with one step less, which is enough since its text is shorter
      have levels := inside?_eq after ne first fun before inner after smaller =>
        ih before inner after (by omega)
      have stop : (l.inBytes (width before)).span.stop = width before + width l.taken := rfl
      have index : (l.inBytes (width before)).span.index = width before := rfl
      simp only [Except.map, Option.bind_eq_bind, Option.bind_some, index, stop, source, levels]
      cases inside : isCompleteIn operators (width before) l.token with
      | false => exact ⟨_, rfl, .stopped ne first inside⟩
      | true =>
        have rest : before ++ (cs ++ after) = (before ++ l.taken) ++ (l.rest ++ after) := by
          rw [← text]
          simp
        have size := width_pos consumes
        obtain ⟨next, read, reads⟩ := ih (before ++ l.taken) l.rest after (by omega)
        rw [← rest, width_append, Nat.add_assoc, ← room] at read
        rw [width_append] at reads
        rw [if_pos rfl, read]
        exact ⟨_, rfl, .cons ne first inside reads⟩

/-- A token has a length, and ends with its last character. A group ends behind the level inside. -/
lemma bounds_of_first {before cs : List Char} {l : Lexed} (after : List Char)
    (h : Token.first operators (width before) cs = .ok l) :
    0 < width l.taken ∧ width l.taken ≤ width cs ∧
      Boundary 0 (before ++ (cs ++ after)) (width before + width l.taken) ∧
      ∀ inner, l.token = .group inner → width l.taken = 1 + width inner + 1 ∧
        Boundary 0 (before ++ (cs ++ after)) (width before + 1) ∧
        Boundary 0 (before ++ (cs ++ after)) (width before + 1 + width inner) := by
  have empty : cs ≠ [] := by
    rintro rfl
    cases h
  obtain ⟨rfl, ne⟩ := Token.consumes_of_first empty h
  refine ⟨width_pos ne, by rw [width_append]; omega, ?_, fun inner token => ?_⟩
  · exact ⟨before ++ l.taken, l.rest ++ after, by simp, by simp⟩
  · have group : l.taken = ['('] ++ (inner ++ [')']) := (Token.group_of_first h token).1
    rw [group]
    refine ⟨by rw [width_append, width_append, Nat.add_assoc]; rfl, ?_, ?_⟩
    · refine ⟨before ++ ['('], inner ++ [')'] ++ l.rest ++ after, by simp, ?_⟩
      rw [Nat.zero_add, width_append]
      rfl
    · refine ⟨before ++ ['('] ++ inner, [')'] ++ l.rest ++ after, by simp, ?_⟩
      rw [Nat.zero_add, width_append, width_append]
      rfl

/-- Whatever the operators, the text and the level of it between two characters: reading a token
never fails, and the token is the one that the characters of the level begin with. It begins where
it is asked for, has a length and ends between two characters of the level, and the level inside of
a group is shorter. The level is read in fewer steps than it has bytes, each slice on the way
exists, and the sources of its tokens are together what has been read: all of it, unless reading
breaks off there or in a group. -/
theorem levels_are_read (operators : List (List Char)) (before cs after : List Char) :
    let text := before ++ (cs ++ after)
    let pos := width before
    let stop := pos + width cs
    (∃ r, ByteLexed.next? operators text pos stop = some r ∧
      r = (Token.first operators pos cs).map (Lexed.inBytes pos) ∧
      ∀ l, r = .ok l →
        l.span.index = pos ∧ 0 < l.span.length ∧ l.span.stop ≤ stop ∧ Boundary 0 text l.span.stop ∧
        ∀ first last, l.token = .group first last →
          pos < first ∧ first ≤ last ∧ last < l.span.stop ∧ last - first < stop - pos ∧
            Boundary 0 text first ∧ Boundary 0 text last) ∧
    ∀ fuel, width cs < fuel → ∃ level, read? operators text fuel pos stop = some level ∧
      slice? text pos level.stop = some level.sources.flatten ∧
      level.sources <+: (Token.level operators pos cs).map Lexed.taken ∧
      level.isComplete = (Outline.scan operators pos cs).isComplete ∧
      (level.isComplete = true → level.stop = stop) := by
  intro text pos stop
  refine ⟨⟨_, ByteLexed.next?_eq operators before cs after, rfl, fun l found => ?_⟩,
    fun fuel enough => ?_⟩
  · cases first : Token.first operators (width before) cs with
    | error e =>
      rw [first] at found
      cases found
    | ok l' =>
      rw [first] at found
      obtain rfl := Except.ok.inj found
      obtain ⟨size, room, last, group⟩ := bounds_of_first after first
      refine ⟨rfl, size, Nat.add_le_add_left room pos, last, fun start stop' inside => ?_⟩
      rw [Lexed.inBytes] at inside
      cases token : l'.token with
      | group inner =>
        obtain ⟨size, left, right⟩ := group inner token
        rw [token] at inside
        cases inside
        refine ⟨Nat.lt_succ_self pos, Nat.le_add_right _ _, ?_, ?_, left, right⟩
        · change pos + 1 + width inner < pos + width l'.taken
          omega
        · omega
      | blank => rw [token] at inside; cases inside
      | combinator => rw [token] at inside; cases inside
      | clause => rw [token] at inside; cases inside
      | word => rw [token] at inside; cases inside
  · obtain ⟨level, read, reads⟩ := exists_read? fuel before cs after enough
    refine ⟨level, read, ?_, reads.sources, reads.isComplete, fun complete => ?_⟩
    · obtain ⟨left, rfl⟩ := reads.front
      refine slice?_eq_some_iff.2 ⟨before, left ++ after, by simp [text], rfl, reads.stop⟩
    · rw [reads.stop, reads.whole complete]

end ByteLevel

end Sift
