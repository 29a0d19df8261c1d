/-
TreeQuote/Parse/Repair.lean

Feeding lexemes to the machine, with repair.  When a lexeme is rejected, tokens that
are missing in front of it are inserted, one after the other; if that does not lead on
within `maxInsertions`, the lexeme is skipped and the machine is what it was before it.
At the end of the text there is no skipping, but more may be inserted.

Parse trees are immutable values here: an attempt that is given up leaves no trace.  The
parser itself tries on shallow copies that share the lists of repeated parts, and what such an
attempt has added to a list stays in it (`Repair.Trial`).

`Step` says what became of each lexeme; everything the parser reports follows from the
steps.
-/
import TreeQuote.Grammar.Machine
import TreeQuote.Source.Lexeme

namespace TreeQuote.Repair

open Grammar

/-- Tokens that are inserted rather than others, the most preferred first. -/
def preferred : List Kind :=
  [.semicolonToken, .closeBraceToken, .closeParenToken, .greaterThanToken, .identifierToken,
   .equalsToken, .colonToken, .openBraceToken, .openParenToken]

/-- The other tokens of the grammar, by name. -/
def others : List Kind :=
  [.ampersandAmpersandToken, .asteriskToken, .asKeyword, .barBarToken, .breakKeyword, .commaToken,
   .constKeyword, .continueKeyword, .dotToken, .elseKeyword, .equalsEqualsToken,
   .exclamationEqualsToken, .exclamationToken, .falseKeyword, .fnKeyword,
   .greaterThanEqualsToken, .ifKeyword, .importKeyword, .lessThanEqualsToken, .lessThanToken,
   .minusToken, .numericLiteralToken, .percentToken, .plusToken, .pubKeyword, .returnsKeyword,
   .returnKeyword, .slashToken, .stringLiteralToken, .structKeyword, .trueKeyword, .valKeyword,
   .varKeyword, .whileKeyword]

/-- The most tokens inserted in front of a lexeme. -/
def maxInsertions : Nat := 4

/-- The most tokens inserted at the end of the text. -/
def maxFinalInsertions : Nat := 16

/-- The token that a lexeme gives the machine; trivia and value come later. -/
def plain (l : Lexeme) : Token := { kind := l.kind, text := l.text }

/-- Inserts the first missing token that the machine takes; `missing` makes it. -/
def insert? (c : Context) (stack : Stack) (missing : Kind → Token := .missingOf) :
    Option (Kind × Stack) :=
  let r := row (top stack)
  ((preferred ++ others).filter r.looksFor).findSome? fun k =>
    match feed c (missing k) stack with
    | .shifted next => some (k, next)
    | _ => none

/-- Tries `offer` with up to `tries - 1` insertions in front of it; the kinds inserted and
what `offer` came to, which is not a rejection.  The tokens inserted are numbered for `missing`. -/
def attempt (c : Context) (offer : Stack → Outcome) : (tries : Nat) → (stack : Stack) →
    (missing : Nat → Kind → Token := fun _ => .missingOf) → Option (List Kind × Outcome)
  | 0, _, _ => none
  | tries + 1, stack, missing =>
    match offer stack with
    | .rejected stuck =>
      match insert? c stuck (missing 0) with
      | none => none
      | some (k, next) =>
        (attempt c offer tries next fun i => missing (i + 1)).map fun (ks, o) => (k :: ks, o)
    | o => some ([], o)

/-- What became of a lexeme. -/
inductive Step where
  /-- It was taken after these tokens had been inserted. -/
  | taken (inserted : List Kind) (l : Lexeme)
  | skipped (l : Lexeme)
  deriving DecidableEq

/-- Feeds the lexemes one by one. -/
def feedAll (c : Context) : Stack → List Lexeme → List Step × Stack
  | stack, [] => ([], stack)
  | stack, l :: ls =>
    match attempt c (feed c (plain l)) (maxInsertions + 1) stack with
    | some (ks, .shifted next) =>
      let r := feedAll c next ls
      (.taken ks l :: r.1, r.2)
    | _ =>
      let r := feedAll c stack ls
      (.skipped l :: r.1, r.2)

/-- A whole run: the steps, the tokens inserted at the end, and the tree. -/
structure Run where
  steps : List Step
  final : List Kind
  tree : Value

/-- Feeds the lexemes and ends the text; nothing if repair gives up there. -/
def run? (c : Context) (ls : List Lexeme) : Option Run :=
  let (steps, stack) := feedAll c (initial c) ls
  match attempt c (finish c) (maxFinalInsertions + 1) stack with
  | some (ks, .accepted [tree]) => some ⟨steps, ks, tree⟩
  | _ => none

end TreeQuote.Repair
