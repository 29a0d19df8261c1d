/-
TreeQuote/Tree/Token.lean

Tokens and the trivia around them.  A token owns the trivia on both of its sides,
so the full texts of the tokens of a tree, one after the other, are the source the
tree was parsed from.

The builders at the end are the only places that pair a token's text with its
value; the parser and the factories both use them.
-/
import TreeQuote.Scalar
import TreeQuote.Span
import TreeQuote.Tree.Fault
import TreeQuote.Tree.Kind

namespace TreeQuote

/-- What keeps a trivia from having a text. -/
inductive Flaw where
  /-- A value of the type stands in place of the text. -/
  | notText (type : Text)
  /-- The text would be so many copies of a value of the type. -/
  | notRepeatable (type : Text)
  /-- It is a token in the place of a trivia, and has only a kind and a text. -/
  | isToken
  /-- It is something else in the place of a trivia. -/
  | noText
  deriving DecidableEq

/-- White space, a comment or skipped text beside a token.  A documentation comment carries
its content, the part after the slashes. -/
structure Trivia where
  kind : Kind
  text : Text
  content : Option Text := none
  flaw : Option Flaw := none
  deriving DecidableEq

namespace Trivia

/-- White space or a line end. -/
def isWhitespace (t : Trivia) : Bool :=
  t.kind = .whitespaceTrivia || t.kind = .endOfLineTrivia

/-- A run of spaces. -/
def whitespace (t : Text) : Trivia := { kind := .whitespaceTrivia, text := t }

/-- A line end. -/
def endOfLine (t : Text) : Trivia := { kind := .endOfLineTrivia, text := t }

/-- Text that the parser passed over. -/
def skipped (t : Text) : Trivia := { kind := .skippedTokensTrivia, text := t }

/-- The documentation comment with the given content. -/
def documentation (content : Text) : Trivia where
  kind := .documentationCommentTrivia
  text := Text.of "///" ++ content
  content := some content

/-- The texts one after the other. -/
def fullText (ts : List Trivia) : Text := ts.flatMap (·.text)

/-- The first trivia, counted from `position`, with another value in place of its text. -/
def joinFault? (position : Nat) : List Trivia → Option Fault
  | [] => none
  | t :: ts => match t.flaw with
    | some (.notText type) => some (.notText position type)
    | _ => joinFault? (position + 1) ts

/-- The texts one after the other.  All texts are fetched before they are joined. -/
def fullText? (ts : List Trivia) : Except Fault Text :=
  if ts.any fun t => t.flaw = some .noText then .error .noProperty
  else match joinFault? 0 ts with
    | some f => .error f
    | none => .ok (fullText ts)

/-- Trivia without a flaw are joined without a fault. -/
theorem joinFault?_eq_none {ts : List Trivia} (h : ∀ t ∈ ts, t.flaw = none) (position : Nat) :
    joinFault? position ts = none := by
  induction ts generalizing position with
  | nil => rfl
  | cons t ts ih =>
    have ht : t.flaw = none := h t List.mem_cons_self
    have hts : ∀ u ∈ ts, u.flaw = none := fun u hu => h u (List.mem_cons_of_mem t hu)
    simp only [joinFault?, ht]
    exact ih hts (position + 1)

/-- Trivia without a flaw have a text. -/
theorem fullText?_eq_ok {ts : List Trivia} (h : ∀ t ∈ ts, t.flaw = none) :
    fullText? ts = .ok (fullText ts) := by
  have hany : (ts.any fun t => decide (t.flaw = some .noText)) = false := by
    rw [List.any_eq_false]
    intro t ht
    simp [h t ht]
  simp [fullText?, hany, joinFault?_eq_none h]

end Trivia

/-- A token with its trivia. -/
structure Token where
  kind : Kind
  text : Text
  value : Scalar := .none
  leading : List Trivia := []
  trailing : List Trivia := []
  missing : Bool := false
  span : Option Span := none
  deriving DecidableEq

namespace Token

/-- The absent token. -/
def absent : Token := { kind := .none, text := [] }

/-- A token of kind `none` stands for an absent one. -/
def isAbsent (t : Token) : Bool := t.kind = .none

/-- The text with the trivia on both sides. -/
def fullText (t : Token) : Text :=
  Trivia.fullText t.leading ++ t.text ++ Trivia.fullText t.trailing

/-- The text with the trivia on both sides, if all trivia have a text. -/
def fullText? (t : Token) : Except Fault Text := do
  let lead ← Trivia.fullText? t.leading
  let trail ← Trivia.fullText? t.trailing
  return lead ++ t.text ++ trail

/-- A token whose trivia have no flaw has a full text. -/
theorem fullText?_eq_ok {t : Token} (hl : ∀ c ∈ t.leading, c.flaw = none)
    (hr : ∀ c ∈ t.trailing, c.flaw = none) : t.fullText? = .ok t.fullText := by
  simp only [fullText?, Trivia.fullText?_eq_ok hl, Trivia.fullText?_eq_ok hr]
  rfl

/-- The token without trivia. -/
def bare (t : Token) : Token := { t with leading := [], trailing := [] }

/-- The same token with the given trivia. -/
def withTrivia (t : Token) (leading trailing : List Trivia) : Token :=
  { t with leading := leading, trailing := trailing }

/-- Equality of tokens: spans are ignored and values compare by number. -/
def eqv (a b : Token) : Bool :=
  a.kind = b.kind && a.text = b.text && a.value.same b.value && a.leading = b.leading
    && a.trailing = b.trailing && a.missing = b.missing

/-! ### Builders -/

/-- The token with the fixed text of its kind. -/
def fixed? (k : Kind) : Option Token :=
  if k = .none then some absent
  else k.fixedText?.map fun t => { kind := k, text := t, value := .str t }

/-- A token that the source lacks. -/
def missingOf (k : Kind) : Token := { kind := k, text := [], missing := true }

/-- A name. -/
def identifier (t : Text) : Token := { kind := .identifierToken, text := t, value := .str t }

/-- The kind of the literal token for a value. -/
def literalKind? : Scalar → Option Kind
  | .str _ => some .stringLiteralToken
  | .int _ => some .numericLiteralToken
  | .float _ => some .numericLiteralToken
  | _ => none

/-- The complaint about a type whose values have no literal token. -/
def noLiteral (type : Text) : Text := Text.of "no literal token for " ++ type ++ Text.of " values"

/-- A literal, when the value is a number or a text. -/
def literal? (t : Text) (v : Scalar) : Option Token :=
  (literalKind? v).map fun k => { kind := k, text := t, value := v }

end Token

end TreeQuote
