/-
TreeQuote/Grammar/Machine.lean

The shift-reduce machine.  It holds a stack of frames, the newest first; a frame is a
state and the parts of the tree that led to it.  Feeding a token applies productions
until the token is shifted, the text is complete, or no action is left.  Reductions
made before a token is rejected stay made: repair goes on from there.
-/
import TreeQuote.Grammar.Table
import TreeQuote.Tree.Value

namespace TreeQuote.Grammar

/-- A state, and the parts that were read to reach it from the frame below. -/
structure Frame where
  state : Nat
  parts : List Value

/-- The frames, newest first. -/
abbrev Stack := List Frame

/-- What feeding a token comes to. -/
inductive Outcome where
  | shifted (stack : Stack)
  | accepted (parts : List Value)
  | rejected (stack : Stack)

/-! ### Building nodes -/

/-- The token in a value. -/
def token? : Value → Option Token
  | .token t => some t
  | _ => none

/-- The kind that the token of an expression gives it. -/
def kindFor (c : NodeClass) (parts : List Value) : Kind :=
  ((parts.findSome? token?).bind fun t => Kind.expressionOf? c.kindTable t.kind).getD .none

/-- The value of a property, from the parts that go to it. -/
def property (a : Shape) (kind : Kind) (parts : List Value) : Value :=
  match a with
  | .kind => .kind kind
  | .tokens => .tokens (parts.filter Value.isToken)
  | .nodes _ => .nodes parts
  | .separated _ => .separated parts
  | .token => parts.headD (.token .absent)
  | _ => parts.headD .none

/-- The parts whose target is the property `slot`. -/
def partsAt (slot : Nat) (targets : List Nat) (parts : List (List Value)) : List Value :=
  (targets.zip parts).flatMap fun (target, vs) => if target = slot then vs else []

/-- The properties of a node, the first of which has position `slot`. -/
def properties (targets : List Nat) (parts : List (List Value)) (kind : Kind) :
    Nat → List Field → List Value
  | _, [] => []
  | slot, f :: fs =>
    property f.shape kind (partsAt slot targets parts)
      :: properties targets parts kind (slot + 1) fs

/-- What a production makes of the parts of its symbols. -/
def Build.apply (b : Build) (parts : List (List Value)) : List Value :=
  match b with
  | .parts => parts.flatten
  | .node c targets => [.node c (properties targets parts (kindFor c parts.flatten) 0 c.fields)]

/-! ### Running -/

/-- The row of a state.  It is irreducible, so that unfolding the machine leaves the tables
alone. -/
@[irreducible] def row (state : Nat) : Row := rows[state]?.getD {}

/-- The state in which a stack is. -/
def top (stack : Stack) : Nat := (stack.head?.map (·.state)).getD 0

/-- The production that a row applies in front of a token. -/
def Row.reduction? (r : Row) (k : Kind) : Option Production :=
  (r.reductions.find? fun p => p.2.contains k).bind fun p => productions[p.1]?

/-- The kinds of tokens for which a row has an action. -/
def Row.looksFor (r : Row) (k : Kind) : Bool :=
  r.shifts.any (fun p => p.1 = k) || r.reductions.any fun p => p.2.contains k

/-- Applies a production: its frames are replaced by one.  The parts are values, so the old frames stay
what they were. -/
def reduce (p : Production) (stack : Stack) : Option Stack :=
  let n := p.rhs.length
  let below := stack.drop n
  let parts := (stack.take n).reverse.map (·.parts)
  ((row (top below)).gotos.lookup p.lhs).map fun s => ⟨s, p.builds.apply parts⟩ :: below

/-- Feeds a token in at most `fuel` reductions; a complete text ends in the state `goal`. -/
def feedFrom (goal : Nat) (k : Kind) (v : Value) : Nat → Stack → Outcome
  | 0, stack => .rejected stack
  | fuel + 1, stack =>
    let r := row (top stack)
    match r.shifts.lookup k with
    | some s => .shifted (⟨s, [v]⟩ :: stack)
    | none =>
      match (r.reduction? k).bind fun p => reduce p stack with
      | none => .rejected stack
      | some next =>
        if k = .endOfFileToken && top next = goal then
          .accepted ((next.head?.map (·.parts)).getD [])
        else feedFrom goal k v fuel next

/-- More reductions than can stand between two shifts on a stack of this height: between
two that pop a frame there are fewer than there are levels of precedence. -/
def reductionBound (stack : Stack) : Nat := 32 * (stack.length + 1)

/-- Feeds a token. -/
def feed (c : Context) (t : Token) (stack : Stack) : Outcome :=
  feedFrom c.endState t.kind (.token t) (reductionBound stack) stack

/-- Says that the text ends. -/
def finish (c : Context) (stack : Stack) : Outcome :=
  feedFrom c.endState .endOfFileToken .none (reductionBound stack) stack

/-- The machine before the first token. -/
def initial (c : Context) : Stack := [⟨c.startState, []⟩]

end TreeQuote.Grammar
