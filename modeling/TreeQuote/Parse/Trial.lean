/-
TreeQuote/Parse/Trial.lean

Attempts that share lists.  A lexeme is tried on a copy of the machine, with its own stack
but with the same lists of repeated parts, and a production that adds an element to such a
list does so in place.  So what an attempt has added to a list of the machine is still there
when the attempt is given up and the lexeme is skipped.  With immutable lists there is
nothing to see of such an attempt; `Lists` says which of the two it is.

A `Trial` is a copy at work next to its original.  The two share the frames at the bottom;
a list is in the same frame of both, or only one of them has it.

Only an attempt that is given up has to be followed.  The frames of one that succeeds are
those of `attempt`, for its original is not used any more.  And a kind that is refused as an
insertion has added to no list: a list is extended only in front of what is then taken.

A token that an attempt inserts is made for it, so tokens carry a mark that tells them apart,
and one of an attempt that was given up has none.
-/
import TreeQuote.Parse.Repair

namespace TreeQuote

open Grammar

/-- The production adds to the list that its first symbol stands for. -/
def Grammar.Production.extends (p : Production) : Bool :=
  p.rhs.head? = some (.nonterminal p.lhs) && p.builds = .parts

namespace Repair

/-- What becomes of a list that an attempt adds to. -/
inductive Lists where
  /-- Lists are values: the machine keeps the list as it was. -/
  | immutable
  /-- The machine and the attempt have the same list. -/
  | shared

/-- A copy of a machine and its original. -/
structure Trial where
  /-- The frames that only the copy has. -/
  ahead : Stack
  /-- The frames that both have. -/
  shared : Stack
  /-- The frames that only the original has. -/
  behind : Stack

namespace Trial

/-- A copy that has done nothing yet. -/
def start (stack : Stack) : Trial := ⟨[], stack, []⟩

/-- The stack of the copy. -/
def stack (t : Trial) : Stack := t.ahead ++ t.shared

/-- The stack of the original, with what the copy has added to its lists. -/
def origin (t : Trial) : Stack := t.behind ++ t.shared

/-- The copy gets a frame of its own. -/
def push (f : Frame) (t : Trial) : Trial := { t with ahead := f :: t.ahead }

/-- A production replaces frames of the copy by the frame `f`.  If it extends a list in a shared
frame, then in the original the list is extended too. -/
def settle (p : Production) (f : Frame) (t : Trial) : Trial :=
  if p.rhs.length ≤ t.ahead.length then { t with ahead := f :: t.ahead.drop p.rhs.length }
  else
    let n := p.rhs.length - t.ahead.length
    if p.extends then ⟨[], f :: t.shared.drop n, t.behind ++ t.shared.take (n - 1)⟩
    else ⟨[f], t.shared.drop n, t.behind ++ t.shared.take n⟩

/-- Applies productions in front of a kind, until it is shifted or no production applies. -/
def advanceFrom (k : Kind) : Nat → Trial → Trial
  | 0, t => t
  | fuel + 1, t =>
    match (row (top t.stack)).shifts.lookup k with
    | some _ => t
    | none =>
      match (row (top t.stack)).reduction? k with
      | none => t
      | some p =>
        match reduce p t.stack with
        | some (f :: _) => advanceFrom k fuel (t.settle p f)
        | _ => t

/-- Applies all productions in front of a kind. -/
def advance (k : Kind) (t : Trial) : Trial := t.advanceFrom k (reductionBound t.stack)

end Trial

/-- An attempt that is given up: the kind is offered up to `tries` times, and each time something is
inserted in front of it. -/
def abandon (c : Context) (k : Kind) : Nat → Trial → Trial
  | 0, t => t
  | tries + 1, t =>
    match insert? c (t.advance k).stack with
    | some (j, f :: _) => abandon c k tries (((t.advance k).advance j).push f)
    | _ => t.advance k

/-- What the machine is when it has skipped a lexeme. -/
def residue (m : Lists) (c : Context) (l : Lexeme) (stack : Stack) : Stack :=
  match m with
  | .immutable => stack
  | .shared => (abandon c l.kind (maxInsertions + 1) (.start stack)).origin

/-! ### Tokens with a mark -/

/-- The token of a lexeme, marked with its place. -/
def marked (l : Lexeme) : Token := { plain l with span := some { start := some l.start.offset } }

/-- A token that is inserted at some place behind `i` others. -/
def markedMissing (offset i : Nat) (k : Kind) : Token :=
  { Token.missingOf k with span := some { start := some offset, stop := some i } }

/-- A lexeme behind what was inserted in front of it. -/
def takenTokens (ks : List Kind) (l : Lexeme) : List Token :=
  ks.mapIdx (markedMissing l.start.offset) ++ [marked l]

/-- The tokens that the steps fed. -/
def markedTokens : List Step → List Token
  | [] => []
  | .taken ks l :: rest => takenTokens ks l ++ markedTokens rest
  | .skipped _ :: rest => markedTokens rest

/-- The tokens that a run fed to the end of a text. -/
def Run.markedTokens (r : Run) (stop : Nat) : List Token :=
  Repair.markedTokens r.steps ++ r.final.mapIdx (markedMissing stop)

/-! ### Runs -/

/-- Feeds the lexemes one by one; where one is skipped, the attempt to take it leaves its residue. -/
def feedLexemes (m : Lists) (c : Context) : Stack → List Lexeme → List Step × Stack
  | stack, [] => ([], stack)
  | stack, l :: ls =>
    match attempt c (feed c (marked l)) (maxInsertions + 1) stack
        (markedMissing l.start.offset) with
    | some (ks, .shifted next) =>
      let r := feedLexemes m c next ls
      (.taken ks l :: r.1, r.2)
    | _ =>
      let r := feedLexemes m c (residue m c l stack) ls
      (.skipped l :: r.1, r.2)

/-- A whole run over a text that ends at `stop`; nothing if repair gives up there. -/
def runLexemes? (m : Lists) (c : Context) (stop : Nat) (ls : List Lexeme) : Option Run :=
  let (steps, stack) := feedLexemes m c (initial c) ls
  match attempt c (finish c) (maxFinalInsertions + 1) stack (markedMissing stop) with
  | some (ks, .accepted [tree]) => some ⟨steps, ks, tree⟩
  | _ => none

end Repair

end TreeQuote
