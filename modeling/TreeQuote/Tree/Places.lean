/-
TreeQuote/Tree/Places.lean

The tokens of a tree in source order, each with its place: the class of the node it
hangs on and the position of the property that holds it.  Absent tokens have no
place.

`places` lists them and `refill` puts a list of tokens back in the same order, so
whatever is computed on the flat list (layout, trivia, stripping) goes back into the
tree.  Texts and spans of a tree are those of its tokens.
-/
import TreeQuote.Tree.Value

namespace TreeQuote

/-- A token and where it hangs. -/
structure Place where
  /-- The token as the tree holds it. -/
  held : Value
  token : Token
  parent : NodeClass
  slot : Nat

namespace Value

/-! ### Reading the tokens off -/

mutual

/-- The places below a property `slot` of a node of class `c`. -/
def placesIn (c : NodeClass) (slot : Nat) : Value → List Place
  | .token t => if t.isAbsent then [] else [⟨.token t, t, c, slot⟩]
  | .framed t l r =>
    if t.isAbsent then []
    else [⟨.framed t l r, t.withTrivia l.asTriviaList r.asTriviaList, c, slot⟩]
  | .tokens vs => listPlaces c slot vs
  | .node d vs => fieldPlaces d 0 vs
  | .nodes vs => listPlaces c slot vs
  | .separated vs => listPlaces c slot vs
  | _ => []

/-- The places below the members of a list. -/
def listPlaces (c : NodeClass) (slot : Nat) : List Value → List Place
  | [] => []
  | v :: vs => placesIn c slot v ++ listPlaces c slot vs

/-- The places below the properties of a node, the first of which has position `slot`. -/
def fieldPlaces (c : NodeClass) (slot : Nat) : List Value → List Place
  | [] => []
  | v :: vs => placesIn c slot v ++ fieldPlaces c (slot + 1) vs

end

/-- The places of a node; other values have none. -/
def places : Value → List Place
  | .node c vs => fieldPlaces c 0 vs
  | _ => []

/-- The tokens of a node in source order. -/
def nodeTokens (v : Value) : List Token := v.places.map (·.token)

mutual

/-- The tokens of a value that are not absent, in order, without their places. -/
def leaves : Value → List Token
  | .token t => if t.isAbsent then [] else [t]
  | .framed t l r => if t.isAbsent then [] else [t.withTrivia l.asTriviaList r.asTriviaList]
  | .tokens vs => leavesList vs
  | .node _ vs => leavesList vs
  | .nodes vs => leavesList vs
  | .separated vs => leavesList vs
  | _ => []

/-- The tokens of some values. -/
def leavesList : List Value → List Token
  | [] => []
  | v :: vs => leaves v ++ leavesList vs

end

/-! ### Putting tokens back -/

/-- Replaces a token that is not absent with the first of the supply. -/
def refillToken (v : Value) (t : Token) (supply : List Token) : Value × List Token :=
  if t.isAbsent then (v, supply)
  else match supply with
    | [] => (v, [])
    | s :: supply => (.token s, supply)

mutual

/-- Replaces the tokens of a value with the supply, in order; the rest of the supply is
handed back. -/
def refill : Value → List Token → Value × List Token
  | .token t, supply => refillToken (.token t) t supply
  | .framed t l r, supply => refillToken (.framed t l r) t supply
  | .tokens vs, supply =>
    let r := refillList vs supply
    (.tokens r.1, r.2)
  | .node c vs, supply =>
    let r := refillList vs supply
    (.node c r.1, r.2)
  | .nodes vs, supply =>
    let r := refillList vs supply
    (.nodes r.1, r.2)
  | .separated vs, supply =>
    let r := refillList vs supply
    (.separated r.1, r.2)
  | v, supply => (v, supply)

/-- Replaces the tokens of a list of values. -/
def refillList : List Value → List Token → List Value × List Token
  | [], supply => ([], supply)
  | v :: vs, supply =>
    let r := refill v supply
    let s := refillList vs r.2
    (r.1 :: s.1, s.2)

end

/-- The node with each token replaced. -/
def mapTokens (f : Token → Token) (v : Value) : Value := (v.refill (v.nodeTokens.map f)).1

/-- The node with no trivia on any token. -/
def stripped (v : Value) : Value := v.mapTokens Token.bare

/-! ### Text and span -/

mutual

/-- The exact text of a tree, a token, a trivia or a list of them. -/
def fullText? : Value → Except Fault Text
  | .trivia t => .ok t.text
  | .triviaList ts => Trivia.fullText? ts
  | .token t => t.fullText?
  | .framed t l r => do
    let lead ← fullText? l
    let trail ← fullText? r
    return lead ++ t.text ++ trail
  | .tokens vs => fullTextList? vs
  | .node .documentationComment vs =>
    match vs with
    | [.scalar (.str content)] => .ok (Text.of "///" ++ content)
    | v :: _ => .error (.notAppendable v.typeName)
    | [] => .error .noProperty
  | .node _ vs => tokenTextList? vs
  | .nodes vs => fullTextList? vs
  | .separated vs => fullTextList? vs
  | _ => .error .noProperty

/-- The exact texts of the members, one after the other. -/
def fullTextList? : List Value → Except Fault Text
  | [] => .ok []
  | v :: vs => do
    let text ← fullText? v
    let rest ← fullTextList? vs
    return text ++ rest

/-- The exact texts of the tokens below a value. -/
def tokenText? : Value → Except Fault Text
  | .token t => if t.isAbsent then .ok [] else t.fullText?
  | .framed t l r =>
    if t.isAbsent then .ok []
    else do
      let lead ← fullText? l
      let trail ← fullText? r
      return lead ++ t.text ++ trail
  | .tokens vs => tokenTextList? vs
  | .node _ vs => tokenTextList? vs
  | .nodes vs => tokenTextList? vs
  | .separated vs => tokenTextList? vs
  | _ => .ok []

/-- The exact texts of the tokens below the members of a list. -/
def tokenTextList? : List Value → Except Fault Text
  | [] => .ok []
  | v :: vs => do
    let text ← tokenText? v
    let rest ← tokenTextList? vs
    return text ++ rest

end

/-- The text behind the first of some tokens: the others, without what trails the last. -/
def restText? : Place → List Place → Except Fault Text
  | p, [] => do
    let lead ← p.held.leading.fullText?
    return lead ++ p.token.text
  | p, q :: rest => do
    let text ← p.held.fullText?
    let more ← restText? q rest
    return text ++ more

/-- The text of some tokens without the trivia in front of the first and behind the last. -/
def innerText? : List Place → Except Fault Text
  | [] => .ok []
  | [p] => .ok p.token.text
  | p :: q :: rest => do
    let trail ← p.held.trailing.fullText?
    let more ← restText? q rest
    return p.token.text ++ trail ++ more

/-- The text of a node without the trivia around it. -/
def text? (v : Value) : Except Fault Text := innerText? v.places

/-- From the start of the first token with a span to the end of the last. -/
def span? (v : Value) : Option Span :=
  let spans := v.nodeTokens.filterMap (·.span)
  match spans.head?, spans.getLast? with
  | some a, some b => some (a.cover b)
  | _, _ => Option.none

end Value

end TreeQuote
