/-
TreeQuote/Factory/Spelling.lean

Shapes from their spelling: names, `Optional[...]`, `Union[..., ...]`, alternatives with
a bar between them, and lists with their elements in square brackets.
-/
import TreeQuote.Tree.NodeClass

namespace TreeQuote.Shape

/-- The shapes that are a single name. -/
def named : List (String × Shape) :=
  [("Any", .any), ("None", .nothing), ("str", .text), ("int", .integer), ("float", .decimal),
   ("bool", .boolean), ("SyntaxKind", .kind), ("SyntaxToken", .token),
   ("SyntaxTokenList", .tokens), ("SyntaxTrivia", .trivia), ("SyntaxTriviaList", .triviaList),
   ("SyntaxList", .nodes none), ("SeparatedSyntaxList", .separated none),
   ("T", .variable (some (.category .node))), ("U", .variable none), ("list", .array),
   ("object", .any), ("Sequence", .sequence .any), ("Iterable", .sequence .any),
   ("List", .sequence .any), ("Tuple", .sequence .any), ("unresolved", .unresolved)]

/-- The names of ordered collections, which are spelled with the shape of their elements. -/
def collections : List Text :=
  ["Sequence", "Iterable", "List", "Tuple", "list", "tuple"].map Text.of

/-- The shape with the given name; a name that says nothing takes nothing. -/
def ofName (t : Text) : Shape :=
  match named.find? fun p => Text.of p.1 = t with
  | some p => p.2
  | none => match NodeType.ofName? t with
    | some n => .node n
    | none => .foreign t

/-- Splits at the separator `c` outside square brackets. -/
def splitOutside (c : CodePoint) : Nat → Text → List Text
  | _, [] => [[]]
  | depth, x :: xs =>
    if x = c && depth = 0 then [] :: splitOutside c depth xs
    else
      let next := if x = '[' then depth + 1 else if x = ']' then depth - 1 else depth
      match splitOutside c next xs with
      | [] => [[x]]
      | p :: ps => (x :: p) :: ps

/-- Alternatives, the first that takes a value first. -/
def alternatives : List Shape → Shape
  | [] => .unresolved
  | [a] => a
  | a :: as => .union a (alternatives as)

/-- The element type of a list. -/
def element? (t : Text) : Option NodeType := NodeType.ofName? t

/-- The shape of a spelling nested at most `fuel` deep. -/
def ofSpellingIn : Nat → Text → Shape
  | 0, t => .foreign t
  | fuel + 1, t =>
    let trimmed := Text.trim (· = CodePoint.ofChar ' ') t
    match splitOutside (CodePoint.ofChar '|') 0 trimmed with
    | a :: b :: rest => alternatives ((a :: b :: rest).map (ofSpellingIn fuel))
    | _ =>
      match Text.cut? (CodePoint.ofChar '[') trimmed with
      | none => ofName trimmed
      | some (head, body) =>
        let inner := body.dropLast
        if head = Text.of "Optional" then .optional (ofSpellingIn fuel inner)
        else if head = Text.of "Union" then
          alternatives ((splitOutside (CodePoint.ofChar ',') 0 inner).map (ofSpellingIn fuel))
        else if head = Text.of "SyntaxList" then .nodes (element? inner)
        else if head = Text.of "SeparatedSyntaxList" then .separated (element? inner)
        else if collections.contains head then .sequence (ofSpellingIn fuel inner)
        else .foreign trimmed

/-- The shape of a spelling. -/
def ofSpelling (t : Text) : Shape := ofSpellingIn t.length t

end TreeQuote.Shape
