/-
TreeQuote/Tree/Shown.lean

Values as a message shows them: every part with its name.  An integer with too many
digits cannot be shown.
-/
import TreeQuote.Tree.Value

namespace TreeQuote

/-- A plain value as a message shows it. -/
def Scalar.shown? : Scalar → Option Text
  | .none => some (Text.of "None")
  | .bool b => some (Text.of (if b then "True" else "False"))
  | .int n => Integer.text? n
  | .float x => some x.text
  | .str t => some t.shown

namespace Value

/-- A constructor with its parts, each after its name. -/
def record (name : Text) (parts : List (Text × Text)) : Text :=
  name ++ Text.of "("
    ++ Text.join (Text.of ", ") (parts.map fun (n, t) => n ++ Text.of "=" ++ t) ++ Text.of ")"

/-- Items in round brackets; a comma follows a single one. -/
def bracketed (items : List Text) : Text :=
  match items with
  | [t] => Text.of "(" ++ t ++ Text.of ",)"
  | ts => Text.of "(" ++ Text.join (Text.of ", ") ts ++ Text.of ")"

/-- A kind with its number. -/
def shownKind (k : Kind) : Text :=
  Text.of "<SyntaxKind." ++ k.name ++ Text.of ": " ++ Text.decimal k.ordinal ++ Text.of ">"

/-- A trivia with its parts. -/
def shownTrivia (t : Trivia) : Text :=
  record (Text.of "SyntaxTrivia")
    [(Text.of "kind", shownKind t.kind), (Text.of "text", t.text.shown),
     (Text.of "structure", match t.content with
        | some c => record (Text.of "DocumentationComment") [(Text.of "content", c.shown)]
        | Option.none => Text.of "None")]

/-- A list of trivia. -/
def shownTriviaList (ts : List Trivia) : Text :=
  record (Text.of "SyntaxTriviaList") [(Text.of "items", bracketed (ts.map shownTrivia))]

/-- A token with its parts, between what its sides show. -/
def shownToken? (t : Token) (leading trailing : Text) : Option Text := do
  return record (Text.of "SyntaxToken")
    [(Text.of "kind", shownKind t.kind), (Text.of "text", t.text.shown),
     (Text.of "value", ← t.value.shown?), (Text.of "leading_trivia", leading),
     (Text.of "trailing_trivia", trailing),
     (Text.of "is_missing", Text.of (if t.missing then "True" else "False"))]

mutual

/-- A value as a message shows it. -/
def shown? : Value → Option Text
  | .scalar s => s.shown?
  | .kind k => some (shownKind k)
  | .trivia t => some (shownTrivia t)
  | .triviaList ts => some (shownTriviaList ts)
  | .token t => shownToken? t (shownTriviaList t.leading) (shownTriviaList t.trailing)
  | .framed t l r => do
    let leading ← shown? l
    let trailing ← shown? r
    shownToken? t leading trailing
  | .tokens vs => do
    return record (Text.of "SyntaxTokenList") [(Text.of "items", bracketed (← shownList? vs))]
  | .node c vs => do
    let ts ← shownList? vs
    return record c.name ((c.fields.map (·.name)).zip ts)
  | .nodes vs => do
    return record (Text.of "SyntaxList") [(Text.of "items", bracketed (← shownList? vs))]
  | .separated vs => do
    return record (Text.of "SeparatedSyntaxList")
      [(Text.of "nodes_and_tokens", bracketed (← shownList? vs))]
  | .array vs => do
    return Text.of "[" ++ Text.join (Text.of ", ") (← shownList? vs) ++ Text.of "]"

/-- The members of a list, one by one. -/
def shownList? : List Value → Option (List Text)
  | [] => some []
  | v :: vs =>
    match shown? v, shownList? vs with
    | some t, some ts => some (t :: ts)
    | _, _ => Option.none

end

end Value

end TreeQuote
