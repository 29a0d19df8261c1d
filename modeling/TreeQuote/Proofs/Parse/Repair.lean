/-
TreeQuote/Proofs/Parse/Repair.lean

Repair keeps to the grammar.  Whatever is inserted or skipped on the way, the machine
always holds a derivation of the tokens that were fed to it, inserted ones included, and
every lexeme is accounted for by one step.

Main statement: `run?_yields`, the tree of a run is what the start symbol builds from the
tokens that were fed.
-/
import TreeQuote.Parse.Dressing
import TreeQuote.Proofs.Grammar.Safety

namespace TreeQuote

open Grammar

/-- The token that was fed, before it is dressed. -/
def Dressing.Fed.plain : Dressing.Fed → Token
  | .inserted k => .missingOf k
  | .read l => Repair.plain l

/-- The lexeme that a step is about. -/
def Repair.Step.lexeme : Repair.Step → Lexeme
  | .taken _ l => l
  | .skipped l => l

namespace Repair

variable {c : Context} {stack : Stack} {xs : List Symbol} {ts : List Token}

/-- An inserted token is derived like any other. -/
theorem insert?_stacked {k : Kind} {next : Stack} {missing : Kind → Token}
    (h : Stacked c stack xs ts) (hi : insert? c stack missing = some (k, next)) :
    ∃ xs', Stacked c next xs' (ts ++ [missing k]) := by
  obtain ⟨j, -, hj⟩ := List.exists_of_findSome?_eq_some hi
  split at hj
  · rename_i next' hfeed
    cases hj
    exact feed_shifted h hfeed
  · cases hj

/-- Insertions in front of an offer are derived; the offer is made behind them. -/
theorem attempt_inserted {offer : Stack → Outcome} {tries : Nat} {ks : List Kind} {o : Outcome}
    {missing : Nat → Kind → Token}
    (hoffer : ∀ {stack xs ts next}, Stacked c stack xs ts → offer stack = .rejected next →
      ∃ xs', Stacked c next xs' ts)
    (h : Stacked c stack xs ts) (ha : attempt c offer tries stack missing = some (ks, o)) :
    ∃ stack' xs', Stacked c stack' xs' (ts ++ ks.mapIdx missing) ∧ offer stack' = o := by
  induction tries generalizing stack xs ts ks missing with
  | zero => cases ha
  | succ tries ih =>
    rw [attempt] at ha
    split at ha
    · rename_i stuck hstuck
      obtain ⟨ys, hys⟩ := hoffer h hstuck
      split at ha
      · cases ha
      · rename_i k next hinsert
        obtain ⟨zs, hzs⟩ := insert?_stacked hys hinsert
        obtain ⟨⟨ks', o'⟩, hrest, heq⟩ := Option.map_eq_some_iff.1 ha
        cases heq
        obtain ⟨stack', xs', hstack', ho⟩ := ih hzs hrest
        refine ⟨stack', xs', ?_, ho⟩
        rw [List.mapIdx_cons, List.append_cons]
        exact hstack'
    · cases ha
      exact ⟨stack, xs, by simpa using h, rfl⟩

/-- Insertions of tokens that are not numbered. -/
theorem attempt_stacked {offer : Stack → Outcome} {tries : Nat} {ks : List Kind} {o : Outcome}
    (hoffer : ∀ {stack xs ts next}, Stacked c stack xs ts → offer stack = .rejected next →
      ∃ xs', Stacked c next xs' ts)
    (h : Stacked c stack xs ts) (ha : attempt c offer tries stack = some (ks, o)) :
    ∃ stack' xs', Stacked c stack' xs' (ts ++ ks.map .missingOf) ∧ offer stack' = o := by
  obtain ⟨stack', xs', hstack', ho⟩ := attempt_inserted hoffer h ha
  have hmap : ks.mapIdx (fun _ => Token.missingOf) = ks.map .missingOf :=
    List.ext_getElem (by simp) (by simp)
  exact ⟨stack', xs', hmap ▸ hstack', ho⟩

/-- Feeding lexemes derives what the steps fed, and each lexeme has its step. -/
theorem feedAll_stacked (ls : List Lexeme) (h : Stacked c stack xs ts) :
    (∃ xs', Stacked c (feedAll c stack ls).2 xs'
        (ts ++ (Dressing.fed (feedAll c stack ls).1).map Dressing.Fed.plain))
      ∧ (feedAll c stack ls).1.map Step.lexeme = ls := by
  induction ls generalizing stack xs ts with
  | nil => exact ⟨⟨xs, by simpa [feedAll, Dressing.fed] using h⟩, rfl⟩
  | cons l ls ih =>
    rw [feedAll]
    split
    · rename_i ks next hattempt
      obtain ⟨stack', ys, hstack', ho⟩ := attempt_stacked feed_rejected h hattempt
      obtain ⟨zs, hzs⟩ := feed_shifted hstack' ho
      obtain ⟨⟨ws, hws⟩, hsteps⟩ := ih hzs
      refine ⟨⟨ws, ?_⟩, congrArg (l :: ·) hsteps⟩
      have hfed : (Dressing.fed (.taken ks l :: (feedAll c next ls).1)).map Dressing.Fed.plain
          = ks.map .missingOf
            ++ plain l :: (Dressing.fed (feedAll c next ls).1).map Dressing.Fed.plain := by
        simp [Dressing.fed, Dressing.Fed.plain, Function.comp_def]
      rw [hfed]
      simpa using hws
    · obtain ⟨hstack', hsteps⟩ := ih h
      exact ⟨hstack', congrArg (l :: ·) hsteps⟩

/-- The tokens that a run fed, in order. -/
def Run.fed (r : Run) : List Dressing.Fed := Dressing.fed r.steps ++ r.final.map .inserted

/-- The tree of a run is what the start symbol builds from the tokens that were fed. -/
theorem run?_yields {ls : List Lexeme} {r : Run} (h : run? c ls = some r) :
    Yields (.nonterminal c.start) [r.tree] (r.fed.map Dressing.Fed.plain) := by
  have hfeed := (feedAll_stacked ls (.initial (c := c))).1
  simp only [run?] at h
  split at h
  · rename_i ks tree hattempt
    cases h
    obtain ⟨xs, hstack⟩ := hfeed
    obtain ⟨stack', ys, hstack', ho⟩ := attempt_stacked finish_rejected hstack hattempt
    have hyields := finish_accepted hstack' ho
    simpa [Run.fed, Dressing.Fed.plain, Function.comp_def] using hyields
  · cases h

/-- Every lexeme has its step in a run. -/
theorem run?_steps {ls : List Lexeme} {r : Run} (h : run? c ls = some r) :
    r.steps.map Step.lexeme = ls := by
  have hsteps := (feedAll_stacked ls (.initial (c := c))).2
  simp only [run?] at h
  split at h
  · cases h
    exact hsteps
  · cases h

end Repair

/-! ### What the steps fed and skipped -/

namespace Dressing

/-- The lexemes that were read, in order. -/
def reads (fs : List Fed) : List Lexeme := fs.filterMap Fed.lexeme?

@[simp] theorem reads_nil : reads [] = [] := rfl

@[simp] theorem reads_inserted (k : Kind) (fs : List Fed) : reads (.inserted k :: fs) = reads fs :=
  rfl

@[simp] theorem reads_read (l : Lexeme) (fs : List Fed) : reads (.read l :: fs) = l :: reads fs :=
  rfl

theorem reads_append (fs gs : List Fed) : reads (fs ++ gs) = reads fs ++ reads gs := by
  simp [reads]

theorem reads_inserted_all (ks : List Kind) : reads (ks.map .inserted) = [] := by
  simp [reads, Fed.lexeme?]

/-- What was read is part of all lexemes, in their order. -/
theorem reads_fed_sublist (steps : List Repair.Step) :
    (reads (fed steps)).Sublist (steps.map Repair.Step.lexeme) := by
  induction steps with
  | nil => exact List.Sublist.slnil
  | cons s steps ih =>
    cases s with
    | taken ks l =>
      rw [fed, reads_append, reads_inserted_all, List.nil_append, reads_read]
      exact ih.cons_cons l
    | skipped l => exact ih.cons l

/-- What was skipped is part of all lexemes. -/
theorem skipped_subset (steps : List Repair.Step) :
    ∀ l ∈ skipped steps, l ∈ steps.map Repair.Step.lexeme := by
  induction steps with
  | nil => simp [skipped]
  | cons s steps ih =>
    intro l hl
    cases s with
    | taken ks m => exact List.mem_cons_of_mem _ (ih l hl)
    | skipped m =>
      rcases List.mem_cons.1 hl with rfl | hl
      · exact List.mem_cons_self
      · exact List.mem_cons_of_mem _ (ih l hl)

end Dressing

end TreeQuote
