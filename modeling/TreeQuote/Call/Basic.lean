/-
TreeQuote/Call/Basic.lean

Calls: the form between a tree and the code that builds it.  A call is a literal, a
named value, an array, or the call of a factory with arguments by position and by name,
followed by modifiers that are applied to its result one after the other.

`hole` is what is left where no call stands; it can be neither printed nor evaluated.
-/
import TreeQuote.Text.Basic

namespace TreeQuote

mutual

/-- A call expression. -/
inductive Call where
  /-- The text of a plain value. -/
  | literal (text : Text)
  /-- A named value. -/
  | ref (name : Text)
  | array (items : List Call)
  /-- A factory call; the name may end with a type in square brackets. -/
  | factory (name : Text) (arguments : List Call) (keywords : List Keyword)
      (modifiers : List Modifier)
  | hole

/-- An argument by name. -/
inductive Keyword where
  | mk (name : Text) (value : Call)

/-- A modifier with its arguments. -/
inductive Modifier where
  | mk (name : Text) (arguments : List Call)

end

namespace Keyword

/-- The name of the parameter. -/
def name : Keyword → Text
  | .mk n _ => n

/-- The argument. -/
def value : Keyword → Call
  | .mk _ v => v

end Keyword

namespace Modifier

/-- The name of the modifier. -/
def name : Modifier → Text
  | .mk n _ => n

/-- The arguments of the modifier. -/
def arguments : Modifier → List Call
  | .mk _ as => as

/-- A modifier that replaces a property. -/
def replaces (m : Modifier) : Bool := (Text.of "with_").isPrefixOf m.name

/-- The modifier that lays a tree out. -/
def normalize : Modifier := .mk (Text.of "normalize_whitespace") []

end Modifier

namespace Call

instance : Inhabited Call := ⟨.hole⟩

/-- A factory call without keywords and modifiers. -/
def plain (name : String) (arguments : List Call) : Call := .factory (Text.of name) arguments [] []

/-- The name of a factory without its type. -/
def baseName (name : Text) : Text := name.takeWhile (· ≠ CodePoint.ofChar '[')

/-- The type in the name of a factory. -/
def typeArgument? (name : Text) : Option Text :=
  (Text.cut? (CodePoint.ofChar '[') name).map fun p =>
    Text.trimRight (· = CodePoint.ofChar ']') p.2

/-- A literal or a named value. -/
def isLeaf : Call → Bool
  | .literal _ => true
  | .ref _ => true
  | _ => false

/-! ### Counting -/

mutual

/-- The number of modifiers in a call, at any depth. -/
def modifierCount : Call → Nat
  | .literal _ => 0
  | .ref _ => 0
  | .hole => 0
  | .array items => modifierCountList items
  | .factory _ args kws mods =>
    mods.length + modifierCountList args + modifierCountKeywords kws + modifierCountModifiers mods

/-- The number of modifiers in some calls. -/
def modifierCountList : List Call → Nat
  | [] => 0
  | c :: cs => modifierCount c + modifierCountList cs

/-- The number of modifiers in arguments by name. -/
def modifierCountKeywords : List Keyword → Nat
  | [] => 0
  | .mk _ v :: ks => modifierCount v + modifierCountKeywords ks

/-- The number of modifiers in the arguments of modifiers. -/
def modifierCountModifiers : List Modifier → Nat
  | [] => 0
  | .mk _ as :: ms => modifierCountList as + modifierCountModifiers ms

end

/-! ### Nesting -/

mutual

/-- How deep arrays and factory calls nest in a call. -/
def depth : Call → Nat
  | .literal _ => 0
  | .ref _ => 0
  | .hole => 0
  | .array items => depthList items + 1
  | .factory _ args kws mods =>
    max (depthList args) (max (depthKeywords kws) (depthModifiers mods)) + 1

/-- How deep some calls nest. -/
def depthList : List Call → Nat
  | [] => 0
  | c :: cs => max (depth c) (depthList cs)

/-- How deep arguments by name nest. -/
def depthKeywords : List Keyword → Nat
  | [] => 0
  | .mk _ v :: ks => max (depth v) (depthKeywords ks)

/-- How deep the arguments of modifiers nest. -/
def depthModifiers : List Modifier → Nat
  | [] => 0
  | .mk _ as :: ms => max (depthList as) (depthModifiers ms)

end

/-! ### Equality -/

mutual

/-- Equality of calls. -/
def eqv : Call → Call → Bool
  | .literal a, .literal b => a = b
  | .ref a, .ref b => a = b
  | .hole, .hole => true
  | .array as, .array bs => eqvList as bs
  | .factory n as ks ms, .factory n' as' ks' ms' =>
    n = n' && eqvList as as' && eqvKeywords ks ks' && eqvModifiers ms ms'
  | _, _ => false

/-- Equality of lists of calls. -/
def eqvList : List Call → List Call → Bool
  | [], [] => true
  | a :: as, b :: bs => eqv a b && eqvList as bs
  | _, _ => false

/-- Equality of arguments by name. -/
def eqvKeywords : List Keyword → List Keyword → Bool
  | [], [] => true
  | .mk n a :: as, .mk m b :: bs => n = m && eqv a b && eqvKeywords as bs
  | _, _ => false

/-- Equality of modifiers. -/
def eqvModifiers : List Modifier → List Modifier → Bool
  | [], [] => true
  | .mk n a :: as, .mk m b :: bs => n = m && eqvList a b && eqvModifiers as bs
  | _, _ => false

end

/-- The call with more modifiers behind those it has. -/
def modifiedBy (more : List Modifier) : Call → Call
  | .factory n as ks ms => .factory n as ks (ms ++ more)
  | c => c

end Call

end TreeQuote
