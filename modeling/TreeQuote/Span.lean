/-
TreeQuote/Span.lean

Where a token came from.  A span never takes part in the equality of trees: a tree
built by calls equals the parsed one although only the latter has spans.
-/
import TreeQuote.Text.Basic

namespace TreeQuote

/-- A range of the source.  The parser counts lines and columns from one and offsets from zero;
a span that is given may hold any numbers.  What is not known is left out. -/
structure Span where
  file : Option Text := none
  line : Option Int := none
  column : Option Int := none
  endLine : Option Int := none
  endColumn : Option Int := none
  start : Option Int := none
  stop : Option Int := none
  deriving DecidableEq

namespace Span

/-- The first name, unless it is missing or empty. -/
def fileOr (first second : Option Text) : Option Text :=
  match first with
  | some (c :: t) => some (c :: t)
  | _ => second

/-- From the start of one span to the end of another. -/
def cover (a b : Span) : Span where
  file := fileOr a.file b.file
  line := a.line
  column := a.column
  endLine := b.endLine
  endColumn := b.endColumn
  start := a.start
  stop := b.stop

/-- The span of an optional location; a file name given beside it comes first. -/
def ofLocation (loc : Option Span) (file : Option Text) : Span :=
  match loc with
  | none => { file := file }
  | some s => { s with file := fileOr file s.file }

/-- A number, or a question mark. -/
def numberText : Option Int → Text
  | some n => Text.decimalInt n
  | none => Text.of "?"

/-- Line and column with a colon between them. -/
def text (s : Span) : Text := numberText s.line ++ Text.of ":" ++ numberText s.column

end Span

/-- What went wrong, where, and who found it. -/
structure Diagnostic where
  message : Text
  code : Option Text := none
  phase : Option Text := none
  severity : Text := Text.of "error"
  span : Span := {}
  notes : List Text := []
  deriving DecidableEq

end TreeQuote
