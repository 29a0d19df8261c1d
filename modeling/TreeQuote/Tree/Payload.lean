/-
TreeQuote/Tree/Payload.lean

Telling undefined numbers apart.  An undefined number equals nothing, but a list or a node
that holds one is equal to itself: inside it, two undefined numbers are the same if they
came from one place.  `Value.marked` gives every undefined number of a value that says
nothing yet a payload of its own; from then on the number keeps it, wherever it goes.
-/
import TreeQuote.Tree.Value

namespace TreeQuote

/-- The plain value, with payload `n` if it is an undefined number without one, and the next
payload. -/
def Scalar.marked (n : Nat) : Scalar → Scalar × Nat
  | .float (.nan 0) => (.float (.nan n), n + 1)
  | s => (s, n)

/-- The token with its value marked, and the next payload. -/
def Token.marked (n : Nat) (t : Token) : Token × Nat :=
  let s := t.value.marked n
  ({ t with value := s.1 }, s.2)

namespace Value

mutual

/-- The value with payloads from `n` on, and the next payload. -/
def marked (n : Nat) : Value → Value × Nat
  | .scalar s =>
    let r := s.marked n
    (.scalar r.1, r.2)
  | .token t =>
    let r := t.marked n
    (.token r.1, r.2)
  | .framed t leading trailing =>
    let r := t.marked n
    let l := marked r.2 leading
    let m := marked l.2 trailing
    (.framed r.1 l.1 m.1, m.2)
  | .tokens vs =>
    let r := markedList n vs
    (.tokens r.1, r.2)
  | .node c vs =>
    let r := markedList n vs
    (.node c r.1, r.2)
  | .nodes vs =>
    let r := markedList n vs
    (.nodes r.1, r.2)
  | .separated vs =>
    let r := markedList n vs
    (.separated r.1, r.2)
  | .array vs =>
    let r := markedList n vs
    (.array r.1, r.2)
  | v => (v, n)

/-- The values with payloads from `n` on, and the next payload. -/
def markedList (n : Nat) : List Value → List Value × Nat
  | [] => ([], n)
  | v :: vs =>
    let r := marked n v
    let s := markedList r.2 vs
    (r.1 :: s.1, s.2)

end

end Value

end TreeQuote
