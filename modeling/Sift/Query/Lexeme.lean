import Sift.Query.Error
import Sift.Text.Occurrence
import Sift.Unicode.Class

/-!
# Lexemes

The smallest units of a query text: blanks, quoted phrases, words and the three keywords. The
longest lexeme at a position wins, and of equally long ones the phrase or keyword rather than the
word. Two rules make exceptions. A keyword or a phrase without gaps stays a word in front of a blank
that is not ASCII. And a quote that is not closed begins a word only if that word is all that
follows.
-/

namespace Sift
open Text Unicode

/-- The words with a meaning of their own. -/
inductive Combinator where
  | not
  | join (c : Connective)
  deriving DecidableEq

/-- The kinds of lexemes. -/
inductive Lexeme where
  | blank
  | keyword (k : Combinator)
  | phrase
  | word
  deriving DecidableEq

/-- Whether a character is a parenthesis. -/
def isParen (c : Char) : Bool := c == '(' || c == ')'

/-- Whether a character can stand in a word. -/
def isWordPart (c : Char) : Bool := !isBlank c && !isParen c

/-- The keyword that a text is, in any case of letters. -/
def Combinator.ofWord? (cs : List Char) : Option Combinator :=
  if equalIgnoringAsciiCase cs "and".toList then some (.join .and)
  else if equalIgnoringAsciiCase cs "or".toList then some (.join .or)
  else if equalIgnoringAsciiCase cs "not".toList then some .not
  else none

/-- Whether a text begins with a blank that is not ASCII. -/
def startsWithWideBlank : List Char → Bool
  | [] => false
  | c :: _ => isBlank c && 0x80 ≤ c.toNat

/-- The number of characters of a phrase, given the text behind its opening quote. -/
def phraseLength? (cs : List Char) : Option Nat := (cs.findIdx? (· == '"')).map (· + 2)

/-- The lexeme at the start of a text and its number of characters. -/
def Lexeme.first? : List Char → Option (Lexeme × Nat)
  | [] => none
  | c :: cs =>
    let size := ((c :: cs).takeWhile isWordPart).length
    let wide := startsWithWideBlank ((c :: cs).drop size)
    if isBlank c then some (.blank, ((c :: cs).takeWhile isBlank).length)
    else if isParen c || c == '!' then none
    else if c == '"' then
      match phraseLength? cs with
      | some n =>
        if size < n ∨ (size = n ∧ wide = false) then some (.phrase, n) else some (.word, size)
      | none => if size = cs.length + 1 then some (.word, size) else none
    else
      match Combinator.ofWord? ((c :: cs).take size) with
      | some k => if wide then some (.word, size) else some (.keyword k, size)
      | none => some (.word, size)

/-- What a run takes is part of the text. -/
theorem length_takeWhile_le (p : Char → Bool) (cs : List Char) :
    (cs.takeWhile p).length ≤ cs.length :=
  ( List.takeWhile_prefix p).length_le

/-- A run that begins at the first character is not empty. -/
theorem length_takeWhile_pos {p : Char → Bool} {c : Char} (h : p c = true) (cs : List Char) :
    0 < ((c :: cs).takeWhile p).length := by
  simp [h]

/-- A phrase has at least its two quotes, and ends within the text. -/
theorem phraseLength?_bounds {cs : List Char} {n : Nat} (h : phraseLength? cs = some n) :
    0 < n ∧ n ≤ cs.length + 1 := by
  obtain ⟨i, hi, rfl⟩ := Option.map_eq_some_iff.1 h
  have := (List.findIdx?_eq_some_iff_getElem.1 hi).1
  omega

/-- A character that is neither a blank nor a parenthesis can stand in a word. -/
theorem isWordPart_of_not {c : Char} (hb : ¬isBlank c = true) (hp : ¬isParen c = true) :
    isWordPart c = true := by
  simp [isWordPart, hb, hp]

/-- A lexeme is not empty and ends within the text. -/
theorem Lexeme.first?_bounds {cs : List Char} {l : Lexeme} {n : Nat}
    (h : Lexeme.first? cs = some (l, n)) : 0 < n ∧ n ≤ cs.length := by
  cases cs with
  | nil => simp [Lexeme.first?] at h
  | cons c cs =>
    have run := length_takeWhile_le isWordPart (c :: cs)
    have blanks := length_takeWhile_le isBlank (c :: cs)
    simp only [Lexeme.first?] at h
    split at h
    · next hb =>
      have := length_takeWhile_pos hb cs
      grind
    · next hb =>
      split at h
      · cases h
      · next hp =>
        have := length_takeWhile_pos
          (isWordPart_of_not hb (by simp_all : ¬isParen c = true)) cs
        split at h
        · split at h
          · next n hn =>
            have := phraseLength?_bounds hn
            simp only [List.length_cons] at *
            grind
          · grind
        · grind

end Sift
