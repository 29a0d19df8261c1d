/-
TreeQuote/Factory/Registry.lean

What quoting and evaluation know: the factories that may be used, the types of nodes
and the named trivia.  A registry is the catalogue, possibly with names taken out and
overloads listed anew.
-/
import TreeQuote.Factory.Catalogue

namespace TreeQuote

/-- The factories, types and constants that calls may use. -/
structure Registry where
  factories : List Factory
  types : List NodeType
  constants : List (Text × Trivia)

namespace Registry

/-- An overload together with its factory. -/
structure Entry where
  factory : Factory
  overload : Overload

/-- The factories that only delegate. -/
def delegating : List Text := Catalogue.delegatingFactories.map (·.name)

/-- How a registry differs from the catalogue. -/
structure Change where
  /-- Names that are taken out. -/
  without : List Text := []
  /-- The only names that stay, if given. -/
  only : Option (List Text) := none
  /-- Factories whose overloads are listed anew, by position. -/
  overloads : List (Text × List Nat) := []
  /-- Factories that are left out. -/
  deny : List Text := delegating

namespace Change

/-- A name that stays public. -/
def keeps (c : Change) (name : Text) : Bool :=
  !c.without.contains name && (match c.only with
    | some names => names.contains name
    | none => true)

/-- The factory with its overloads listed anew. -/
def relist (c : Change) (f : Factory) : Factory :=
  match c.overloads.lookup f.name with
  | some positions => { f with overloads := positions.filterMap fun i => f.overloads[i]? }
  | none => f

end Change

/-- The catalogue with a change. -/
def ofChange (c : Change) : Registry where
  factories :=
    ((Catalogue.factories.filter fun f => c.keeps f.name && !c.deny.contains f.name).map
      c.relist).filter fun f => !f.overloads.isEmpty
  types := NodeType.all.filter fun t => c.keeps t.name
  constants := Catalogue.constants.filter fun p => c.keeps p.1

/-- The whole catalogue but the delegating factories. -/
def standard : Registry := ofChange {}

/-- A registry with one class and one factory, which takes half of its properties. -/
def pairs : Registry where
  factories :=
    [{ name := Text.of "pair"
       overloads := [Catalogue.makes .pair [Catalogue.req "left" .token]
        [.argument 0, .fixed (.token .absent)]] }]
  types := [.cls .pair]
  constants := []

variable (r : Registry)

/-- The names of the factories, in order. -/
def names : List Text := r.factories.map (·.name)

/-- The factory with the given name. -/
def factory? (name : Text) : Option Factory := r.factories.find? fun f => f.name = name

/-- All overloads, in order. -/
def entries : List Entry := r.factories.flatMap fun f => f.overloads.map fun o => ⟨f, o⟩

/-- The overloads that produce exactly what the shape says, in order. -/
def makers (s : Shape) : List Entry := r.entries.filter fun e => e.overload.produces = s

/-- The overloads that produce exactly the given type of nodes, in order. -/
def producing (t : NodeType) : List Entry := r.makers (.node t)

/-- The overload takes a kind. -/
def Entry.takesKind (e : Entry) : Bool := (e.overload.parameter? (Text.of "kind")).isSome

/-- Some overload that produces the type takes a kind. -/
def hasKindParameter (t : NodeType) : Bool := (r.producing t).any Entry.takesKind

/-- The type of nodes with the given name. -/
def type? (name : Text) : Option NodeType := r.types.find? fun t => t.name = name

/-- The trivia with the given name. -/
def constant? (name : Text) : Option Trivia := r.constants.lookup name

/-- The first name of a trivia. -/
def constantName? (t : Trivia) : Option Text :=
  (r.constants.find? fun p => p.2 = t).map (·.1)

end Registry

end TreeQuote
