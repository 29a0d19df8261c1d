/-
TreeQuote/Text/Blank.lean

Blanks in the wide sense: the spaces, tabs and line ends of every script.  Call
text is separated by them.  A number written as a string may be surrounded by them,
the four separators of files, groups, records and units apart.
-/
import TreeQuote.Text.Basic

namespace TreeQuote.CodePoint

/-- The ranges of blank code points, in increasing order. -/
def blankRanges : List (Nat × Nat) :=
  [(0x09, 0x0D), (0x1C, 0x20), (0x85, 0x85), (0xA0, 0xA0), (0x1680, 0x1680), (0x2000, 0x200A),
   (0x2028, 0x2029), (0x202F, 0x202F), (0x205F, 0x205F), (0x3000, 0x3000)]

/-- A space, tab or line end of any script. -/
def isBlank (c : CodePoint) : Bool := blankRanges.any fun r => inRange r.1 r.2 c

/-- The separators of files, groups, records and units. -/
def isSeparator (c : CodePoint) : Bool := inRange 0x1C 0x1F c

/-- A blank that may stand around a number. -/
def isPadding (c : CodePoint) : Bool := isBlank c && !isSeparator c

/-- Every blank of the basic class is a blank. -/
theorem isBlank_of_isWhitespace (c : Char) (h : c.isWhitespace = true) :
    isBlank (ofChar c) = true := by
  simp only [Char.isWhitespace, Bool.or_eq_true, decide_eq_true_eq] at h
  rcases h with ((rfl | rfl) | rfl) | rfl <;> decide

end TreeQuote.CodePoint
