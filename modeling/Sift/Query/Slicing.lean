import Sift.Query.Token
import Sift.Text.Slice

/-!
# Tokens in bytes

A text can also be read at positions that count its bytes. What is looked at is sliced out of the
text then, and a slice fails unless its ends are between characters: each step has a result only if
all its slices do. A level is read token by token; with each group the level inside is read first,
and where no token can be read, reading is given up.
-/

namespace Sift
open Text

/-- The clause at a position of a text, which ends at `stop`, with the characters of the clause. -/
def Clause.firstBytes? (operators : List (List Char)) (text : List Char) (pos stop : Nat) :
    Option (Option (Clause × List Char)) := do
  let rest ← slice? text pos stop
  let name := rest.takeWhile isTokenChar
  if name = [] then return none
  let param := (splitParam (rest.dropWhile isTokenChar)).1
  let operatorStart := width name + width (paramText param)
  let behind ← slice? rest operatorStart (width rest)
  match longestStart? operators behind with
  | none => return none
  | some operator =>
    let valueStart := operatorStart + width operator
    let behind ← slice? rest valueStart (width rest)
    match valueStart? operators behind with
    | none => return none
    | some value =>
      let valueStop := valueStart + width value
      let part (start stop : Nat) := slice? text (pos + start) (pos + stop)
      let source ← slice? rest 0 valueStop
      let param ← match param with
        | none => some none
        | some param => (part (width name + 1) (width name + 1 + width param)).map some
      return some (⟨pos, ← part 0 (width name), param, ← part operatorStart valueStart,
        ← part valueStart valueStop⟩, source)

/-- The offset of the parenthesis that closes the first one of a text, when `depth` of them are open
and the characters from `offset` on are left. A quote begins a phrase only if another follows. -/
def Token.closing? (text : List Char) : (depth : Nat) → (quoted : Bool) → (offset : Nat) →
    List Char → Option (Option Nat)
  | _, _, _, [] => some none
  | depth, true, offset, c :: cs => closing? text depth (c != '"') (offset + c.utf8Size) cs
  | depth, false, offset, c :: cs =>
    if c = '"' then do
      let behind ← slice? text (offset + 1) (width text)
      closing? text depth (behind.contains '"') (offset + c.utf8Size) cs
    else if c = '(' then closing? text (depth + 1) false (offset + c.utf8Size) cs
    else if c = ')' then
      match depth with
      | 0 => some none
      | 1 => some (some offset)
      | depth + 2 => closing? text (depth + 1) false (offset + c.utf8Size) cs
    else closing? text depth false (offset + c.utf8Size) cs

/-- The tokens of a text in bytes. A group is the stretch between its parentheses. -/
inductive ByteToken where
  | blank
  | combinator (k : Combinator)
  | group (start stop : Nat)
  | clause (c : Clause)
  | word (text : List Char) (exact : Bool)
  deriving DecidableEq

/-- Where the level inside of a group begins and ends. -/
def ByteToken.level? : ByteToken → Option (Nat × Nat)
  | group start stop => some (start, stop)
  | _ => none

/-- A token with its stretch of the text. -/
structure ByteLexed where
  token : ByteToken
  span : Span
  deriving DecidableEq

/-- The lexeme at the start of a text and its number of bytes. -/
def Lexeme.firstBytes? (cs : List Char) : Option (Lexeme × Nat) :=
  (first? cs).map fun (lexeme, n) => (lexeme, width (cs.take n))

namespace ByteLexed

/-- The word or phrase at the start of a text that stands at `pos`. -/
def word? (pos : Nat) (rest : List Char) : Option (Except QueryError ByteLexed) := do
  let exact := rest.head? == some '!'
  let marker := exact.toNat
  let body ← slice? rest marker (width rest)
  match Lexeme.firstBytes? body with
  | some (.phrase, length) =>
    let text ← slice? body 1 (length - 1)
    return .ok ⟨.word text exact, ⟨pos, marker + length⟩⟩
  | some (.word, length) | some (.keyword _, length) =>
    let text ← slice? body 0 length
    return .ok ⟨.word text exact, ⟨pos, marker + length⟩⟩
  | _ => return .error (.point pos .noToken)

/-- The group at the start of a text that stands at `pos`. -/
def group? (pos : Nat) (rest : List Char) : Option (Except QueryError ByteLexed) := do
  match ← Token.closing? rest 0 false 0 rest with
  | some close => return .ok ⟨.group (pos + 1) (pos + close), ⟨pos, close + 1⟩⟩
  | none => return .error (.point pos .unbalancedParenthesis)

/-- The clause, word or phrase at a position of a text, from where on there is `rest`. -/
def term? (operators : List (List Char)) (text : List Char) (pos stop : Nat) (rest : List Char) :
    Option (Except QueryError ByteLexed) := do
  match ← Clause.firstBytes? operators text pos stop with
  | some (c, source) => return .ok ⟨.clause c, ⟨pos, width source⟩⟩
  | none => word? pos rest

/-- The token at a position of a text, which ends at `stop`. -/
def next? (operators : List (List Char)) (text : List Char) (pos stop : Nat) :
    Option (Except QueryError ByteLexed) := do
  let rest ← slice? text pos stop
  match Lexeme.firstBytes? rest with
  | some (.blank, length) => return .ok ⟨.blank, ⟨pos, length⟩⟩
  | lexeme =>
    if Token.startsWithDash rest then return .ok ⟨.combinator .not, ⟨pos, 1⟩⟩
    else
      match lexeme with
      | some (.keyword k, length) => return .ok ⟨.combinator k, ⟨pos, length⟩⟩
      | _ =>
        if (rest.head?.map isParen).getD false then group? pos rest
        else term? operators text pos stop rest

end ByteLexed

/-- What has been read of a level: the sources of its tokens, the position behind them, and whether
reading went to the end of the level, and to that of every group in it. -/
structure ByteLevel where
  sources : List (List Char)
  stop : Nat
  isComplete : Bool
  deriving DecidableEq

/-- The level between two positions of a text, in at most `fuel` steps of depth and length. -/
def ByteLevel.read? (operators : List (List Char)) (text : List Char) :
    (fuel : Nat) → (pos stop : Nat) → Option ByteLevel
  | 0, _, _ => none
  | fuel + 1, pos, stop =>
    if stop ≤ pos then some ⟨[], pos, true⟩
    else do
      match ← ByteLexed.next? operators text pos stop with
      | .error _ => return ⟨[], pos, false⟩
      | .ok l =>
        let source ← slice? text l.span.index l.span.stop
        let isComplete ← l.token.level?.elim (some true) fun (start, stop) =>
          (read? operators text fuel start stop).map isComplete
        if isComplete then
          let next ← read? operators text fuel l.span.stop stop
          return ⟨source :: next.sources, next.stop, next.isComplete⟩
        else return ⟨[source], l.span.stop, false⟩

end Sift
