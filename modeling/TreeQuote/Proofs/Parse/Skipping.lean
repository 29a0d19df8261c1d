/-
TreeQuote/Proofs/Parse/Skipping.lean

Skipping leaves no trace.  A lexeme that is skipped gives the machine back as it was before the
lexeme, whatever was reduced and inserted in the attempts on it.  So the lexemes that were taken,
without the ones that were skipped between them, go through the machine by the very same steps
(`Repair.steps_unskipped`): nothing is skipped any more, the same tokens are inserted in front of
the same lexemes, and the machine ends in the same stack.  What follows from the stack is the same
then, whether repair gives up at the end and, if not, what is inserted there and the tree; only
trivia and spans depend on where the lexemes stand.

Main statement: `ofLexemes?_unskipped`.
-/
import TreeQuote.Proofs.Parse.Respacing

namespace TreeQuote

open Grammar Dressing

/-! ### Lexemes that are taken -/

namespace Repair

/-- The lexeme of the step was taken. -/
def Step.isTaken : Step → Bool
  | .taken .. => true
  | .skipped _ => false

/-- What becomes of each lexeme. -/
def steps (c : Context) (ls : List Lexeme) : List Step := (feedAll c (initial c) ls).1

/-- The lexemes that are taken. -/
def unskipped (c : Context) (ls : List Lexeme) : List Lexeme :=
  ((steps c ls).filter Step.isTaken).map Step.lexeme

/-- The run without its skipped lexemes. -/
def Run.unskipped (r : Run) : Run := { r with steps := r.steps.filter Step.isTaken }

variable {c : Context}

/-- From any stack, the lexemes that are taken lead on their own to the stack that all of them lead
to. -/
theorem feedAll_filter_taken (ls : List Lexeme) (stack : Stack) :
    feedAll c stack (((feedAll c stack ls).1.filter Step.isTaken).map Step.lexeme)
      = ((feedAll c stack ls).1.filter Step.isTaken, (feedAll c stack ls).2) := by
  induction ls generalizing stack with
  | nil => rfl
  | cons l ls ih =>
    rw [feedAll]
    split
    · rename_i ks next hattempt
      rw [List.filter_cons_of_pos (show (Step.taken ks l).isTaken = true from rfl), List.map_cons]
      show feedAll c stack (l :: _) = _
      rw [feedAll, hattempt]
      simp only [ih next]
    · -- The stack in front of the lexeme is the stack behind it.
      rw [List.filter_cons_of_neg (show ¬ (Step.skipped l).isTaken = true from Bool.false_ne_true)]
      exact ih stack

theorem steps_lexemes (c : Context) (ls : List Lexeme) : (steps c ls).map Step.lexeme = ls :=
  (feedAll_stacked ls (.initial (c := c))).2

theorem feedAll_unskipped (c : Context) (ls : List Lexeme) :
    feedAll c (initial c) (unskipped c ls)
      = ((steps c ls).filter Step.isTaken, (feedAll c (initial c) ls).2) :=
  feedAll_filter_taken ls (initial c)

/-- The lexemes that are taken have the same steps on their own. -/
theorem steps_unskipped (c : Context) (ls : List Lexeme) :
    steps c (unskipped c ls) = (steps c ls).filter Step.isTaken :=
  congrArg Prod.fst (feedAll_unskipped c ls)

theorem givesUp_unskipped (c : Context) (ls : List Lexeme) :
    GivesUp c (unskipped c ls) ↔ GivesUp c ls := by
  rw [GivesUp, GivesUp, feedAll_unskipped]

/-- The run of the lexemes that are taken is the run of all of them, without the skipped ones. -/
theorem run?_unskipped (c : Context) (ls : List Lexeme) :
    run? c (unskipped c ls) = (run? c ls).map Run.unskipped := by
  simp only [run?, feedAll_unskipped]
  split <;> rfl

end Repair

namespace Dressing

/-- Skipped lexemes feed nothing. -/
theorem fed_filter_taken (steps : List Repair.Step) :
    fed (steps.filter Repair.Step.isTaken) = fed steps := by
  induction steps with
  | nil => rfl
  | cons s steps ih =>
    cases s with
    | taken ks l => exact congrArg (ks.map Fed.inserted ++ .read l :: ·) ih
    | skipped l => exact ih

theorem skipped_filter_taken (steps : List Repair.Step) :
    skipped (steps.filter Repair.Step.isTaken) = [] := by
  induction steps with
  | nil => rfl
  | cons s steps ih => cases s <;> exact ih

end Dressing

theorem Repair.Run.fed_unskipped (r : Run) : r.unskipped.fed = r.fed :=
  congrArg (· ++ r.final.map Fed.inserted) (fed_filter_taken r.steps)

/-! ### Dressing for different places -/

namespace Dressing

/-- Tokens fed once and dressed twice, with whatever stands around them, are the same but for
trivia and spans; and they are dressed both times or not at all. -/
theorem dress_cores (file file' : Option Text) {c : Context} (gaps gaps' : Gaps) (stop stop' : Nat)
    (fs : List Fed) :
    (dress file c gaps stop fs).map (·.1.map Token.core)
      = (dress file' c gaps' stop' fs).map (·.1.map Token.core) := by
  have hlike : List.Forall₂ Fed.Like fs fs := by
    refine List.forall₂_same.2 fun f _ => ?_
    cases f with
    | inserted k => exact .inserted k
    | read l => exact .read rfl
  have hsome : (dress file c gaps stop fs).isSome = (dress file' c gaps' stop' fs).isSome := by
    rw [dress_isSome, dress_isSome, reads_isSome hlike]
  cases hd : dress file c gaps stop fs with
  | none =>
    have hnone : dress file' c gaps' stop' fs = none := by
      rw [← Option.not_isSome_iff_eq_none, ← hsome, hd]
      exact Bool.false_ne_true
    rw [hnone]
  | some d =>
    rw [hd] at hsome
    obtain ⟨d', hd'⟩ := Option.isSome_iff_exists.1 hsome.symm
    rw [hd']
    exact congrArg some (wears_cores hlike (dress_wears hd) (dress_wears hd'))

end Dressing

/-! ### Reading lexemes -/

/-- Reads lexemes of a source as a tree: what reading a text does behind the scan. -/
def Parsed.ofLexemes? (source : Text) (c : Context) (file : Option Text) (ls : List Lexeme) :
    Option Parsed := do
  let run ← Repair.run? c ls
  let (tokens, eof) ← dress file c (Gap.scan source (skipped run.steps)) source.length run.fed
  return {
    root := Parsed.close c (Parsed.endOfFile file source eof) (run.tree.refill tokens).1
    diagnostics :=
      Parsed.report file run.steps
        ++ run.final.map (Parsed.missing file (Parsed.endCursor source ls)) }

/-- A text is read by reading its lexemes. -/
theorem parsePure?_eq_ofLexemes? (source : Text) (c : Context) (file : Option Text) :
    parsePure? source c file = (Lexeme.scan? source).bind (Parsed.ofLexemes? source c file) := rfl

/-- The lexemes that are taken are read alone as they are read among all, from whichever places, but
for trivia and spans. -/
theorem Parsed.ofLexemes?_retoken (source source' : Text) (c : Context) (file file' : Option Text)
    (ls : List Lexeme) :
    (ofLexemes? source' c file' (Repair.unskipped c ls)).map (·.root.retoken Token.core)
      = (ofLexemes? source c file ls).map (·.root.retoken Token.core) := by
  simp only [ofLexemes?, Repair.run?_unskipped]
  cases Repair.run? c ls with
  | none => rfl
  | some r =>
    have hcores := dress_cores file file' (c := c) (Gap.scan source (skipped r.steps))
      (Gap.scan source' (skipped r.unskipped.steps)) source.length source'.length r.fed
    simp only [Option.map_some, Option.bind_eq_bind, Option.bind_some, Repair.Run.fed_unskipped]
    cases hd : dress file c (Gap.scan source (skipped r.steps)) source.length r.fed with
    | none =>
      rw [hd] at hcores
      rw [Option.map_eq_none_iff.1 hcores.symm]
      rfl
    | some d =>
      rw [hd] at hcores
      obtain ⟨d', hd', htokens⟩ := Option.map_eq_some_iff.1 hcores.symm
      rw [hd']
      exact congrArg some (close_retoken rfl (Value.refill_retoken _ _ htokens r.tree).1)

open Repair in
/-- **Skipping leaves no trace.**  Of any lexemes, take those that are not skipped: on their own they
are read by the same steps, so that none of them is skipped; the same tokens are fed, inserted ones
included; repair gives up at their end exactly when it does at the end of all; and if not, then the
tree is the same, from whichever places the lexemes are taken, but for trivia and spans. -/
theorem ofLexemes?_unskipped (c : Context) (ls : List Lexeme) :
    (steps c ls).map Step.lexeme = ls
      ∧ steps c (unskipped c ls) = (steps c ls).filter Step.isTaken
      ∧ skipped (steps c (unskipped c ls)) = []
      ∧ fed (steps c (unskipped c ls)) = fed (steps c ls)
      ∧ (GivesUp c (unskipped c ls) ↔ GivesUp c ls)
      ∧ (run? c (unskipped c ls)).map (fun r => (r.fed, r.tree))
        = (run? c ls).map (fun r => (r.fed, r.tree))
      ∧ ∀ (source source' : Text) (file file' : Option Text),
        (Parsed.ofLexemes? source' c file' (unskipped c ls)).map (·.root.retoken Token.core)
          = (Parsed.ofLexemes? source c file ls).map (·.root.retoken Token.core) := by
  have hsteps := steps_unskipped c ls
  have hskipped : skipped (steps c (unskipped c ls)) = [] := by
    rw [hsteps, skipped_filter_taken]
  have hfed : fed (steps c (unskipped c ls)) = fed (steps c ls) := by
    rw [hsteps, fed_filter_taken]
  have hrun : (run? c (unskipped c ls)).map (fun r => (r.fed, r.tree))
      = (run? c ls).map (fun r => (r.fed, r.tree)) := by
    rw [run?_unskipped, Option.map_map]
    exact congrArg (Option.map · (run? c ls)) (funext fun r => congrArg (·, r.tree) r.fed_unskipped)
  exact ⟨steps_lexemes c ls, hsteps, hskipped, hfed, givesUp_unskipped c ls, hrun,
    fun source source' file file' => Parsed.ofLexemes?_retoken source source' c file file' ls⟩

/-- A parenthesis in the way is skipped; what stands around it is read as if it were not there. -/
example : (Lexeme.scan? (Text.of "x ) + 1")).map (fun ls =>
    (Repair.unskipped .expression ls).map (·.text))
      = some [Text.of "x", Text.of "+", Text.of "1"] := by
  decide +kernel

end TreeQuote
