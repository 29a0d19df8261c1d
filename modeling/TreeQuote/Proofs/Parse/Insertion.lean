/-
TreeQuote/Proofs/Parse/Insertion.lean

What repair inserts.  A lexeme that was rejected is still rejected, so what is inserted in front of it
is of another kind.  Three keywords are never inserted: wherever the machine takes one of them it
takes a kind that is preferred as well, by a finite check of the tables.

Without a lexeme that is taken, what is inserted depends on the context only.

Main statements: `attempt_apart`, `insert?_mem` and `run?_apart`.
-/
import TreeQuote.Proofs.Parse.Acceptance

namespace TreeQuote

open Grammar Dressing

namespace Grammar

variable {c : Context} {stack stuck : Stack} {xs : List Symbol} {ts : List Token}

/-! ### Rejection -/

/-- Where a kind is rejected, nothing can be done with it. -/
theorem feedFrom_stuck {k : Kind} {v : Value} {fuel : Nat} (h : Stacked c stack xs ts)
    (hcost : cost xs + 2 ≤ fuel) (hf : feedFrom c.endState k v fuel stack = .rejected stuck) :
    (row (top stuck)).shifts.lookup k = none
      ∧ (((row (top stuck)).reduction? k).bind fun p => reduce p stuck) = none := by
  induction fuel generalizing stack xs with
  | zero => omega
  | succ fuel ih =>
    simp only [feedFrom] at hf
    split at hf
    · cases hf
    rename_i hshift
    split at hf
    · rename_i hreduce
      cases hf
      exact ⟨hshift, hreduce⟩
    rename_i next hnext
    obtain ⟨p, hp, hr⟩ := Option.bind_eq_some_iff.1 hnext
    split at hf
    · cases hf
    by_cases hrhs : p.rhs = []
    · have hnone := reduction?_behind_empty hp hrhs hr
      obtain ⟨fuel, rfl⟩ : ∃ m, fuel = m + 1 := ⟨fuel - 1, by omega⟩
      simp only [feedFrom, hnone, Option.bind_none] at hf
      split at hf
      · cases hf
      · rename_i hshift'
        cases hf
        exact ⟨hshift', by rw [hnone, Option.bind_none]⟩
    · obtain ⟨zs, rfl, hnext'⟩ := h.reduce hp hr
      have hless := cost_reduce (reduction?_past hp).1 hrhs zs
      exact ih hnext' (by omega) hf

/-- A token of the kind that was rejected is rejected again. -/
theorem feed_again {t u : Token} (h : Stacked c stack xs ts) (hf : feed c t stack = .rejected stuck)
    (hk : u.kind = t.kind) : feed c u stuck = .rejected stuck := by
  obtain ⟨hshift, hreduce⟩ := feedFrom_stuck h h.cost_le hf
  obtain ⟨n, hn⟩ : ∃ n, reductionBound stuck = n + 1 :=
    ⟨32 * (stuck.length + 1) - 1, by rw [reductionBound]; omega⟩
  rw [feed, hn, hk]
  simp only [feedFrom, hshift, hreduce]

/-! ### Kinds that are taken alike -/

/-- Where the row does something with the first kind, it does the same with the second one or takes
it. -/
def Row.follows (r : Row) (k j : Kind) : Bool :=
  (r.shifts.lookup j).isSome
    || (r.shifts.lookup k).isNone
      && (match r.reductions.find? fun p => p.2.contains k with
        | some p => (r.reductions.find? fun p => p.2.contains j).map (·.1) = some p.1
        | none => true)

/-- A kind that follows another one is taken where the other one is. -/
theorem feedFrom_follows {k j : Kind} (hrow : ∀ s, (row s).follows k j = true)
    (hk : k ≠ .endOfFileToken) (hj : j ≠ .endOfFileToken) {goal : Nat} {v w : Value} {fuel : Nat}
    {next : Stack} (h : feedFrom goal k v fuel stack = .shifted next) :
    ∃ next', feedFrom goal j w fuel stack = .shifted next' := by
  induction fuel generalizing stack with
  | zero => cases h
  | succ fuel ih =>
    simp only [feedFrom, hk, hj, decide_false, Bool.false_and, Bool.false_eq_true, if_false]
      at h ⊢
    cases hshift : (row (top stack)).shifts.lookup j with
    | some s => exact ⟨_, rfl⟩
    | none =>
      have hfollows := hrow (top stack)
      rw [Row.follows, hshift] at hfollows
      simp only [Option.isSome_none, Bool.false_or, Bool.and_eq_true, Option.isNone_iff_eq_none]
        at hfollows
      rw [hfollows.1] at h
      simp only at h
      have hsame : (row (top stack)).reduction? j = (row (top stack)).reduction? k
          ∨ (row (top stack)).reduction? k = none := by
        have hcases := hfollows.2
        split at hcases
        · rename_i p hp
          obtain ⟨q, hq, hqp⟩ := Option.map_eq_some_iff.1 (of_decide_eq_true hcases)
          left
          rw [Row.reduction?, Row.reduction?, hp, hq, Option.bind_some, Option.bind_some, hqp]
        · rename_i hp
          right
          rw [Row.reduction?, hp, Option.bind_none]
      rcases hsame with hsame | hnone
      · rw [hsame]
        split at h
        · cases h
        · rename_i next' hnext
          exact ih h
      · rw [hnone, Option.bind_none] at h
        cases h

/-- A row looks for a kind that is taken there. -/
theorem looksFor_of_shifted {t : Token} {next : Stack} (h : feed c t stack = .shifted next) :
    (row (top stack)).looksFor t.kind = true := by
  obtain ⟨n, hn⟩ : ∃ n, reductionBound stack = n + 1 :=
    ⟨32 * (stack.length + 1) - 1, by rw [reductionBound]; omega⟩
  rw [feed, hn] at h
  simp only [feedFrom] at h
  rw [Row.looksFor, Bool.or_eq_true]
  cases hshift : (row (top stack)).shifts.lookup t.kind with
  | some s => exact .inl (List.any_eq_true.2 ⟨_, mem_of_lookup hshift, by simp⟩)
  | none =>
    rw [hshift] at h
    cases hred : (row (top stack)).reduction? t.kind with
    | none =>
      rw [hred, Option.bind_none] at h
      cases h
    | some p =>
      obtain ⟨q, hq, -⟩ := Option.bind_eq_some_iff.1 hred
      have hmem : q.2.contains t.kind = true := by
        simpa using List.find?_some hq
      exact .inr (List.any_eq_true.2 ⟨q, List.mem_of_find?_eq_some hq, hmem⟩)

end Grammar

namespace Repair

variable {c : Context} {stack : Stack} {xs : List Symbol} {ts : List Token}

/-! ### Insertions -/

/-- The kinds that are never inserted, each with one that is inserted rather than it. -/
def eclipsed : List (Kind × Kind) :=
  [(.asKeyword, .semicolonToken), (.returnsKeyword, .openBraceToken), (.importKeyword, .constKeyword)]

theorem rows_eclipsed : (rows.toList.all fun r =>
    eclipsed.all fun p => r.follows p.1 p.2) = true := by
  decide +kernel

theorem row_eclipsed (s : Nat) : ∀ p ∈ eclipsed, (row s).follows p.1 p.2 = true := by
  unfold row
  rcases hs : rows[s]? with - | r
  · decide
  · have hmem : r ∈ rows.toList := Array.mem_toList_iff.2 (Array.mem_of_getElem? hs)
    exact List.all_eq_true.1 (List.all_eq_true.1 rows_eclipsed r hmem)

theorem eclipsed_order : (eclipsed.all fun p =>
    ((preferred ++ others).takeWhile fun k => k ≠ p.1).contains p.2
      && p.1 ≠ .endOfFileToken && p.2 ≠ .endOfFileToken) = true := by
  decide

/-- The kinds that may be inserted. -/
def isInserted (k : Kind) : Bool := !(eclipsed.map (·.1)).contains k

/-- What is inserted is taken by the machine, and is one of the kinds that it knows. -/
theorem insert?_taken {missing : Kind → Token} {k : Kind} {next : Stack}
    (h : insert? c stack missing = some (k, next)) :
    feed c (missing k) stack = .shifted next ∧ k ∈ preferred ++ others := by
  obtain ⟨i, hmem, hi⟩ := List.exists_of_findSome?_eq_some h
  split at hi
  · rename_i next' hnext
    cases hi
    exact ⟨hnext, (List.mem_filter.1 hmem).1⟩
  · cases hi

/-- What is inserted is taken by the machine, and is none of the kinds that are never inserted. -/
theorem insert?_mem {k : Kind} {next : Stack} (h : insert? c stack = some (k, next)) :
    feed c (.missingOf k) stack = .shifted next ∧ isInserted k = true := by
  have hshifted := (insert?_taken h).1
  refine ⟨hshifted, ?_⟩
  by_contra hk
  obtain ⟨⟨i, j⟩, hp, hi⟩ : ∃ p ∈ eclipsed, p.1 = k := by simpa [isInserted] using hk
  obtain rfl : i = k := hi
  have horder := List.all_eq_true.1 eclipsed_order _ hp
  simp only [Bool.and_eq_true, List.contains_iff_mem, decide_eq_true_eq] at horder
  obtain ⟨⟨hj, hi⟩, hj'⟩ := horder
  -- The preferred kind comes first in the list, and is taken as well.
  obtain ⟨next', hnext⟩ : ∃ next', feed c (.missingOf j) stack = .shifted next' :=
    feedFrom_follows (fun s => row_eclipsed s _ hp) hi hj' hshifted
  have hlooks := looksFor_of_shifted hnext
  have hsplit := List.takeWhile_append_dropWhile (p := fun k => k ≠ i) (l := preferred ++ others)
  rw [insert?, ← hsplit, List.filter_append, List.findSome?_append] at h
  have hmem : j ∈ ((preferred ++ others).takeWhile fun k => k ≠ i).filter (row (top stack)).looksFor :=
    List.mem_filter.2 ⟨hj, hlooks⟩
  rcases Option.or_eq_some_iff.1 h with hfirst | ⟨hnone, -⟩
  · obtain ⟨l, hl, hb⟩ := List.exists_of_findSome?_eq_some hfirst
    split at hb
    · cases hb
      have hne := List.all_eq_true.1 List.all_takeWhile _ (List.mem_of_mem_filter hl)
      simp at hne
    · cases hb
  · have hrejected := List.findSome?_eq_none_iff.1 hnone j hmem
    rw [hnext] at hrejected
    cases hrejected

/-- Whatever is offered, only some kinds are inserted in front of it. -/
theorem attempt_mem {offer : Stack → Outcome} {tries : Nat} {ks : List Kind} {o : Outcome}
    (ha : attempt c offer tries stack = some (ks, o)) : ∀ k ∈ ks, isInserted k = true := by
  induction tries generalizing stack ks with
  | zero => cases ha
  | succ tries ih =>
    rw [attempt] at ha
    split at ha
    · split at ha
      · cases ha
      · rename_i k next hinsert
        obtain ⟨⟨ks', o'⟩, hrest, heq⟩ := Option.map_eq_some_iff.1 ha
        cases heq
        exact List.forall_mem_cons.2 ⟨(insert?_mem hinsert).2, ih hrest⟩
    · cases ha
      exact List.forall_mem_nil _

/-- What is inserted in front of a token is of another kind. -/
theorem attempt_apart {t : Token} {tries : Nat} {ks : List Kind} {o : Outcome}
    {missing : Nat → Kind → Token} (hmissing : ∀ i k, (missing i k).kind = k)
    (h : Stacked c stack xs ts) (ha : attempt c (feed c t) tries stack missing = some (ks, o)) :
    ∀ k ∈ ks, k ≠ t.kind := by
  induction tries generalizing stack xs ts ks missing with
  | zero => cases ha
  | succ tries ih =>
    rw [attempt] at ha
    split at ha
    · rename_i stuck hstuck
      obtain ⟨ys, hys⟩ := feed_rejected h hstuck
      split at ha
      · cases ha
      · rename_i k next hinsert
        obtain ⟨zs, hzs⟩ := insert?_stacked hys hinsert
        obtain ⟨⟨ks', o'⟩, hrest, heq⟩ := Option.map_eq_some_iff.1 ha
        cases heq
        refine List.forall_mem_cons.2 ⟨?_, ih (fun i => hmissing (i + 1)) hzs hrest⟩
        intro hk
        have hagain := feed_again (u := missing 0 k) h hstuck ((hmissing 0 k).trans hk)
        rw [(insert?_taken hinsert).1] at hagain
        cases hagain
    · cases ha
      exact List.forall_mem_nil _

end Repair

/-! ### What is fed -/

namespace Dressing

/-- No inserted token is followed, through inserted ones only, by a lexeme of its kind, and all are of
kinds that may be inserted. -/
def Apart : List Fed → Prop
  | [] => True
  | .inserted k :: fs =>
    Repair.isInserted k = true ∧ (∀ l ∈ (reads fs).head?, k ≠ l.kind) ∧ Apart fs
  | .read _ :: fs => Apart fs

/-- Inserted tokens in front of others. -/
theorem Apart.insert {ks : List Kind} {fs : List Fed} (hks : ∀ k ∈ ks, Repair.isInserted k = true)
    (hne : ∀ k ∈ ks, ∀ l ∈ (reads fs).head?, k ≠ l.kind) (h : Apart fs) :
    Apart (ks.map .inserted ++ fs) := by
  induction ks with
  | nil => exact h
  | cons k ks ih =>
    obtain ⟨hk, hks⟩ := List.forall_mem_cons.1 hks
    obtain ⟨hkne, hksne⟩ := List.forall_mem_cons.1 hne
    refine ⟨hk, ?_, ih hks hksne⟩
    show ∀ l ∈ (reads (ks.map .inserted ++ fs)).head?, k ≠ l.kind
    rwa [reads_append, reads_inserted_all, List.nil_append]

end Dressing

namespace Repair

variable {c : Context} {stack : Stack} {xs : List Symbol} {ts : List Token}

/-- What is fed for some lexemes keeps apart, whatever is inserted at the end. -/
theorem feedAll_apart (ls : List Lexeme) (h : Stacked c stack xs ts) {final : List Kind}
    (hfinal : ∀ k ∈ final, isInserted k = true) :
    Apart (fed (feedAll c stack ls).1 ++ final.map .inserted) := by
  have hend : Apart (final.map .inserted) := by
    have hinsert : Apart (final.map .inserted ++ []) :=
      Apart.insert hfinal (fun _ _ l hl => by cases hl) trivial
    rwa [List.append_nil] at hinsert
  induction ls generalizing stack xs ts with
  | nil => exact hend
  | cons l ls ih =>
    rw [feedAll]
    split
    · rename_i ks next hattempt
      obtain ⟨stack', ys, hstack', ho⟩ := attempt_stacked feed_rejected h hattempt
      obtain ⟨zs, hzs⟩ := feed_shifted hstack' ho
      rw [fed, List.append_assoc]
      refine .insert (attempt_mem hattempt) (fun k hk m hm => ?_) (ih hzs)
      obtain rfl : l = m := Option.some.inj hm
      exact attempt_apart (fun _ _ => rfl) h hattempt k hk
    · exact ih h

/-- What a run feeds keeps apart. -/
theorem run?_apart {ls : List Lexeme} {r : Run} (h : run? c ls = some r) : Apart r.fed := by
  simp only [run?] at h
  split at h
  · rename_i ks tree hattempt
    cases h
    exact feedAll_apart ls .initial (attempt_mem hattempt)
  · cases h

/-! ### Runs that take nothing -/

/-- Without a lexeme that is taken, the machine stays where it is. -/
theorem feedAll_of_reads {ls : List Lexeme} (h : reads (fed (feedAll c stack ls).1) = []) :
    (feedAll c stack ls).2 = stack := by
  induction ls with
  | nil => rfl
  | cons l ls ih =>
    rw [feedAll] at h ⊢
    split at h
    · rw [fed, reads_append, reads_inserted_all] at h
      cases h
    · exact ih h

/-- A run that takes nothing ends like that of an empty text. -/
theorem run?_of_reads {ls : List Lexeme} {r : Run} (h : run? c ls = some r)
    (hreads : reads r.fed = []) :
    run? c [] = some ⟨[], r.final, r.tree⟩ ∧ r.fed = r.final.map .inserted := by
  simp only [run?] at h
  split at h
  · rename_i ks tree hattempt
    cases h
    rw [Run.fed, reads_append, reads_inserted_all, List.append_nil] at hreads
    rw [feedAll_of_reads hreads] at hattempt
    have hfed : fed (feedAll c (initial c) ls).1 = [] := by
      generalize (feedAll c (initial c) ls).1 = steps at hreads
      induction steps with
      | nil => rfl
      | cons s steps ih =>
        cases s with
        | taken ks l =>
          rw [fed, reads_append, reads_inserted_all] at hreads
          cases hreads
        | skipped l => exact ih hreads
    refine ⟨?_, by rw [Run.fed, hfed, List.nil_append]⟩
    simp only [run?, feedAll, hattempt]
  · cases h

end Repair

end TreeQuote
