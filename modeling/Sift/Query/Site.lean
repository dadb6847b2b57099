import Sift.Text.Width

/-!
# Places in a query text

A span is a stretch of the text in bytes. A site is where a part of a query comes from: its span and
the characters there. What the reader of a query inserts has a span but no characters.
-/

namespace Sift
open Text

/-- A stretch of a text, in bytes. -/
structure Span where
  index : Nat
  length : Nat
  deriving DecidableEq

namespace Span

/-- The position behind the stretch. -/
def stop (s : Span) : Nat := s.index + s.length

/-- The gap from the end of one stretch to the start of another; empty if they overlap. -/
def between (before after : Span) : Span := ⟨before.stop, after.index - before.stop⟩

end Span

/-- Where a part of a query comes from. -/
structure Site where
  span : Span
  source : List Char
  deriving DecidableEq

namespace Site

/-- The site of characters that stand at a position. -/
def place (index : Nat) (source : List Char) : Site := ⟨⟨index, width source⟩, source⟩

/-- The site of what is inserted between two parts. -/
def gap (before after : Site) : Site := ⟨.between before.span after.span, []⟩

end Site
end Sift
