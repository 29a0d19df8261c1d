/-
TreeQuote/Proofs/Parse/Sharing.lean

Runs with one kind of lists next to the runs of `Repair.run?`.  What the machine does depends on its
states only, so both take the same steps.  They differ in the parts of the frames, and only if lists
are shared, behind a lexeme that was skipped when something had been read.

Two stacks are `Alike R` if they are in the same states and their parts are related by `R`; the
machine keeps any relation that the productions respect.  With the relation that always holds, this
compares the steps, and with equal skeletons also the trees.

Main statements:
* `runLexemes?_run`: both runs take the same steps, and build the same tree if nothing is lost or
  repeated;
* `runLexemes?_yields`: the tokens of the tree.
-/
import Mathlib.Data.List.Forall2
import TreeQuote.Proofs.Grammar.Refill
import TreeQuote.Proofs.Parse.Report
import TreeQuote.Proofs.Parse.Totality
import TreeQuote.Proofs.Parse.Trial

namespace TreeQuote

open Grammar Dressing

/-! ### Machines that are alike -/

namespace Grammar

variable {R : List Value → List Value → Prop} {s s' : Stack}

/-- The stacks are in the same states, with related parts. -/
def Stack.Alike (R : List Value → List Value → Prop) : Stack → Stack → Prop :=
  List.Forall₂ fun f g => f.state = g.state ∧ R f.parts g.parts

/-- The same came of two stacks. -/
inductive Outcome.Alike (R : List Value → List Value → Prop) : Outcome → Outcome → Prop where
  | shifted {s s' : Stack} (h : Stack.Alike R s s') : Alike R (.shifted s) (.shifted s')
  | accepted {vs ws : List Value} (h : R vs ws) : Alike R (.accepted vs) (.accepted ws)
  | rejected {s s' : Stack} (h : Stack.Alike R s s') : Alike R (.rejected s) (.rejected s')

/-- Productions keep the relation, and it does not tell tokens of one kind apart. -/
structure Respected (R : List Value → List Value → Prop) : Prop where
  refl : ∀ vs, R vs vs
  apply : ∀ (b : Build) {ps qs : List (List Value)}, List.Forall₂ R ps qs → R (b.apply ps) (b.apply qs)
  token : ∀ {t u : Token}, t.kind = u.kind → t.kind ≠ .none → R [.token t] [.token u]

theorem Stack.Alike.top (h : Stack.Alike R s s') : top s = top s' := by
  cases h with
  | nil => rfl
  | cons hf _ => exact hf.1

theorem Stack.Alike.refl (hR : Respected R) (s : Stack) : Stack.Alike R s s :=
  List.forall₂_same.2 fun _ _ => ⟨rfl, hR.refl _⟩

/-- If all parts are related, the states decide. -/
theorem Stack.alike_of_states (hall : ∀ vs ws, R vs ws) (h : s.map (·.state) = s'.map (·.state)) :
    Stack.Alike R s s' := by
  rw [← List.forall₂_eq_eq_eq, List.forall₂_map_left_iff, List.forall₂_map_right_iff] at h
  exact h.imp fun f g hfg => ⟨hfg, hall _ _⟩

theorem Stack.Alike.states (h : Stack.Alike R s s') : s.map (·.state) = s'.map (·.state) := by
  rw [← List.forall₂_eq_eq_eq, List.forall₂_map_left_iff, List.forall₂_map_right_iff]
  exact h.imp fun f g hfg => hfg.1

theorem reduce_alike (hR : Respected R) (p : Production) (h : Stack.Alike R s s') :
    Option.Rel (Stack.Alike R) (reduce p s) (reduce p s') := by
  have hbelow : Stack.Alike R (s.drop p.rhs.length) (s'.drop p.rhs.length) := List.forall₂_drop _ h
  have hparts : List.Forall₂ R ((s.take p.rhs.length).reverse.map (·.parts))
      ((s'.take p.rhs.length).reverse.map (·.parts)) := by
    rw [List.forall₂_map_left_iff, List.forall₂_map_right_iff, List.forall₂_reverse_iff]
    exact (List.forall₂_take _ h).imp fun f g hfg => hfg.2
  unfold reduce
  simp only [hbelow.top]
  cases (row (Grammar.top (s'.drop p.rhs.length))).gotos.lookup p.lhs with
  | none => exact .none
  | some state => exact .some (.cons ⟨rfl, hR.apply _ hparts⟩ hbelow)

theorem feedFrom_alike (hR : Respected R) {goal : Nat} {k : Kind} {v w : Value} {fuel : Nat}
    (hvw : R [v] [w]) (h : Stack.Alike R s s') :
    Outcome.Alike R (feedFrom goal k v fuel s) (feedFrom goal k w fuel s') := by
  induction fuel generalizing s s' with
  | zero => exact .rejected h
  | succ fuel ih =>
    simp only [feedFrom, h.top]
    cases (row (top s')).shifts.lookup k with
    | some state => exact .shifted (.cons ⟨rfl, hvw⟩ h)
    | none =>
      cases (row (top s')).reduction? k with
      | none => exact .rejected h
      | some p =>
        simp only [Option.bind_some]
        have hreduce := reduce_alike hR p h
        generalize reduce p s = r, reduce p s' = r' at hreduce
        cases hreduce with
        | none => exact .rejected h
        | some hnext =>
          simp only [hnext.top]
          split
          · refine .accepted ?_
            cases hnext with
            | nil => exact hR.refl _
            | cons hf _ => exact hf.2
          · exact ih hnext

theorem feed_alike (hR : Respected R) {c : Context} {t u : Token} (htu : t.kind = u.kind)
    (hne : t.kind ≠ .none) (h : Stack.Alike R s s') : Outcome.Alike R (feed c t s) (feed c u s') := by
  rw [feed, feed, reductionBound, reductionBound, h.length_eq, htu]
  exact feedFrom_alike hR (hR.token htu hne) h

theorem finish_alike (hR : Respected R) {c : Context} (h : Stack.Alike R s s') :
    Outcome.Alike R (finish c s) (finish c s') := by
  rw [finish, finish, reductionBound, reductionBound, h.length_eq]
  exact feedFrom_alike hR (hR.refl _) h

/-- All parts are related. -/
theorem respected_all : Respected fun _ _ => True :=
  ⟨fun _ => trivial, fun _ _ _ _ => trivial, fun _ _ => trivial⟩

/-- The parts have the same skeletons. -/
theorem respected_skeleton :
    Respected fun vs ws => vs.map Value.skeleton = ws.map Value.skeleton where
  refl _ := rfl
  apply b ps qs h := by
    have happly := fun rs => apply_retoken b rs rfl Token.outline_kind
    have hparts : ps.map (List.map Value.skeleton) = qs.map (List.map Value.skeleton) := by
      rw [← List.forall₂_eq_eq_eq, List.forall₂_map_left_iff, List.forall₂_map_right_iff]
      exact h
    exact (happly ps).symm.trans ((congrArg b.apply hparts).trans (happly qs))
  token {t u} htu hne := by
    have hout : t.outline = u.outline := by simp [Token.outline, Token.isAbsent, ← htu, hne]
    simp only [List.map_cons, List.map_nil, Value.skeleton, Value.retoken, hout]

end Grammar

namespace Repair

variable {R : List Value → List Value → Prop} {m : Lists} {c : Context} {s s' : Stack}

/-! ### Attempts that are alike -/

theorem findSome?_alike {α β γ : Type} {r : β → γ → Prop} {f : α → Option β} {g : α → Option γ}
    {l : List α} (h : ∀ a ∈ l, Option.Rel r (f a) (g a)) :
    Option.Rel r (l.findSome? f) (l.findSome? g) := by
  induction l with
  | nil => exact .none
  | cons a l ih =>
    obtain ⟨ha, hl⟩ := List.forall_mem_cons.1 h
    simp only [List.findSome?_cons]
    generalize f a = b, g a = d at ha
    cases ha with
    | none => exact ih hl
    | some hbd => exact .some hbd

theorem kind_ne_none : ∀ k ∈ preferred ++ others, k ≠ .none := by decide

theorem insert?_alike (hR : Respected R) {missing missing' : Kind → Token}
    (hm : ∀ k, (missing k).kind = k) (hm' : ∀ k, (missing' k).kind = k) (h : Stack.Alike R s s') :
    Option.Rel (fun a b => a.1 = b.1 ∧ Stack.Alike R a.2 b.2) (insert? c s missing)
      (insert? c s' missing') := by
  unfold insert?
  simp only [h.top]
  refine findSome?_alike fun k hk => ?_
  have hne : (missing k).kind ≠ .none := by
    rw [hm]
    exact kind_ne_none k (List.mem_filter.1 hk).1
  have hfeed := feed_alike hR (c := c) ((hm k).trans (hm' k).symm) hne h
  generalize feed c (missing k) s = o, feed c (missing' k) s' = o' at hfeed
  cases hfeed with
  | shifted hnext => exact .some ⟨rfl, hnext⟩
  | accepted => exact .none
  | rejected => exact .none

theorem attempt_alike (hR : Respected R) {f g : Nat → Kind → Token} (hf : ∀ i k, (f i k).kind = k)
    (hg : ∀ i k, (g i k).kind = k) {offer offer' : Stack → Outcome}
    (hoffer : ∀ {s s'}, Stack.Alike R s s' → Outcome.Alike R (offer s) (offer' s')) (tries : Nat)
    (h : Stack.Alike R s s') :
    Option.Rel (fun a b => a.1 = b.1 ∧ Outcome.Alike R a.2 b.2) (attempt c offer tries s f)
      (attempt c offer' tries s' g) := by
  induction tries generalizing s s' f g with
  | zero => exact .none
  | succ tries ih =>
    rw [attempt, attempt]
    have ho := hoffer h
    generalize offer s = o, offer' s' = o' at ho
    cases ho with
    | shifted hnext => exact .some ⟨rfl, .shifted hnext⟩
    | accepted hvs => exact .some ⟨rfl, .accepted hvs⟩
    | rejected hstuck =>
      rename_i stuck stuck'
      have hinsert := insert?_alike hR (c := c) (hf 0) (hg 0) hstuck
      simp only
      generalize insert? c stuck (f 0) = a, insert? c stuck' (g 0) = a' at hinsert
      cases hinsert with
      | none => exact .none
      | some hnext =>
        rename_i p q
        obtain ⟨k, next⟩ := p
        obtain ⟨k', next'⟩ := q
        obtain ⟨rfl, hnext⟩ := hnext
        have hrest := ih (fun i => hf (i + 1)) (fun i => hg (i + 1)) hnext
        simp only
        generalize attempt c offer tries next _ = b, attempt c offer' tries next' _ = b' at hrest
        cases hrest with
        | none => exact .none
        | some hb => exact .some ⟨congrArg (k :: ·) hb.1, hb.2⟩

/-! ### Runs that are alike -/

/-- Nothing is lost or repeated in the steps from a stack on: lists are immutable, no lexeme is
skipped, or none is read and none was. -/
def Kept (m : Lists) (c : Context) (s : Stack) (steps : List Step) : Prop :=
  m = .immutable ∨ skipped steps = [] ∨ s = initial c ∧ reads (fed steps) = []

theorem Kept.of_taken {ks : List Kind} {l : Lexeme} {steps : List Step}
    (h : Kept m c s (.taken ks l :: steps)) (s' : Stack) : Kept m c s' steps := by
  rcases h with him | hnone | ⟨-, hreads⟩
  · exact .inl him
  · exact .inr (.inl hnone)
  · have htaken : reads (fed (.taken ks l :: steps)) = [] := hreads
    rw [fed, reads_append, reads_inserted_all] at htaken
    cases htaken

/-- A lexeme that is skipped then leaves nothing behind. -/
theorem Kept.of_skipped {l : Lexeme} {steps : List Step} (h : Kept m c s (.skipped l :: steps)) :
    residue m c l s = s ∧ Kept m c s steps := by
  rcases h with rfl | hnone | ⟨rfl, hreads⟩
  · exact ⟨rfl, .inl rfl⟩
  · cases hnone
  · exact ⟨residue_initial m l, .inr (.inr ⟨rfl, hreads⟩)⟩

/-- Lexemes are taken and skipped alike.  Where one is skipped the parts may differ, unless nothing is
lost or repeated. -/
theorem feedLexemes_alike (hR : Respected R) {ls : List Lexeme} (hls : ∀ l ∈ ls, l.kind ≠ .none)
    {xs : List Symbol} {ts : List Token} (hstacked : Stacked c s xs ts)
    (hkept : (∀ vs ws, R vs ws) ∨ Kept m c s (feedLexemes m c s ls).1) (h : Stack.Alike R s s') :
    (feedLexemes m c s ls).1 = (feedAll c s' ls).1
      ∧ Stack.Alike R (feedLexemes m c s ls).2 (feedAll c s' ls).2 := by
  induction ls generalizing s s' xs ts with
  | nil => exact ⟨rfl, h⟩
  | cons l ls ih =>
    obtain ⟨hl, hls⟩ := List.forall_mem_cons.1 hls
    have hattempt := attempt_alike hR (c := c) (f := markedMissing l.start.offset)
      (g := fun _ => .missingOf) (fun _ _ => rfl) (fun _ _ => rfl)
      (feed_alike hR (c := c) (t := marked l) (u := plain l) rfl hl) (maxInsertions + 1) h
    rw [feedLexemes] at hkept ⊢
    rw [feedAll]
    generalize ha : attempt c (feed c (marked l)) (maxInsertions + 1) s _ = a,
      attempt c (feed c (plain l)) (maxInsertions + 1) s' = a' at hattempt hkept ⊢
    have hskip : ∀ {t : Stack}, t = residue m c l s →
        ((∀ vs ws, R vs ws) ∨ Kept m c s (.skipped l :: (feedLexemes m c t ls).1)) →
        (.skipped l :: (feedLexemes m c t ls).1 : List Step) = .skipped l :: (feedAll c s' ls).1
          ∧ Stack.Alike R (feedLexemes m c t ls).2 (feedAll c s' ls).2 := by
      rintro t rfl hkept
      rcases hkept with hall | hkept
      · obtain ⟨⟨xs', ts', hresidue, -⟩, hstates⟩ := residue_stacked patched_true hstacked trivial m l
        obtain ⟨hsteps, hend⟩ := ih hls hresidue (.inl hall)
          (Stack.alike_of_states hall (hstates.trans h.states))
        exact ⟨by rw [hsteps], hend⟩
      · obtain ⟨hsame, hrest⟩ := hkept.of_skipped
        rw [hsame] at hrest ⊢
        obtain ⟨hsteps, hend⟩ := ih hls hstacked (.inr hrest) h
        exact ⟨by rw [hsteps], hend⟩
    cases hattempt with
    | none => exact hskip rfl hkept
    | @some p q hpq =>
      obtain ⟨ks, o⟩ := p
      obtain ⟨ks', o'⟩ := q
      obtain ⟨rfl, ho⟩ := hpq
      cases ho with
      | shifted hnext =>
        obtain ⟨stack', ys, hstack', ho⟩ := attempt_inserted feed_rejected hstacked ha
        obtain ⟨zs, hzs⟩ := feed_shifted hstack' ho
        rename_i next next'
        obtain ⟨hsteps, hend⟩ := ih hls hzs (hkept.imp_right (·.of_taken next)) hnext
        exact ⟨congrArg (Step.taken ks l :: ·) hsteps, hend⟩
      | accepted => exact hskip rfl hkept
      | rejected => exact hskip rfl hkept

/-! ### Tokens -/

/-- A lexeme is taken behind what was inserted, or it is skipped and leaves its residue. -/
theorem feedLexemes_cons (m : Lists) (c : Context) (s : Stack) (l : Lexeme) (ls : List Lexeme) :
    (∃ ks next, attempt c (feed c (marked l)) (maxInsertions + 1) s (markedMissing l.start.offset)
          = some (ks, .shifted next)
        ∧ feedLexemes m c s (l :: ls)
          = (.taken ks l :: (feedLexemes m c next ls).1, (feedLexemes m c next ls).2))
      ∨ feedLexemes m c s (l :: ls)
        = (.skipped l :: (feedLexemes m c (residue m c l s) ls).1,
          (feedLexemes m c (residue m c l s) ls).2) := by
  rw [feedLexemes]
  split
  · rename_i ks next hattempt
    exact .inl ⟨ks, next, hattempt, rfl⟩
  · exact .inr rfl

/-- A lexeme that is taken is derived behind what was inserted, which is of other kinds. -/
theorem taken_stacked {xs : List Symbol} {ts : List Token} {ks : List Kind} {l : Lexeme} {next : Stack}
    (h : Stacked c s xs ts) (ha : attempt c (feed c (marked l)) (maxInsertions + 1) s
      (markedMissing l.start.offset) = some (ks, .shifted next)) :
    (∃ xs', Stacked c next xs' (ts ++ takenTokens ks l)) ∧ ∀ k ∈ ks, k ≠ l.kind := by
  obtain ⟨stack', ys, hstack', ho⟩ := attempt_inserted feed_rejected h ha
  obtain ⟨zs, hzs⟩ := feed_shifted hstack' ho
  rw [List.append_assoc] at hzs
  exact ⟨⟨zs, hzs⟩, attempt_apart (fun _ _ => rfl) h ha⟩

/-- What is patched and holds of the tokens of each lexeme that is taken holds of all tokens. -/
theorem feedLexemes_stacked {P : List Token → Prop} (hP : Patched P) {ls : List Lexeme}
    {xs : List Symbol} {ts : List Token} (h : Stacked c s xs ts) (hts : P ts)
    (htaken : ∀ ks l, .taken ks l ∈ (feedLexemes m c s ls).1 → (∀ k ∈ ks, k ≠ l.kind)
      → ∀ {us}, P us → P (us ++ takenTokens ks l)) :
    ∃ xs' ts', Stacked c (feedLexemes m c s ls).2 xs' ts' ∧ P ts' := by
  induction ls generalizing s xs ts with
  | nil => exact ⟨xs, ts, h, hts⟩
  | cons l ls ih =>
    rcases feedLexemes_cons m c s l ls with ⟨ks, next, hattempt, heq⟩ | heq
    · rw [heq] at htaken ⊢
      obtain ⟨⟨xs', hnext⟩, hks⟩ := taken_stacked h hattempt
      exact ih hnext (htaken ks l List.mem_cons_self hks hts)
        fun ks' l' hmem => htaken ks' l' (List.mem_cons_of_mem _ hmem)
    · rw [heq] at htaken ⊢
      obtain ⟨⟨xs', ts', hresidue, hts'⟩, -⟩ := residue_stacked hP h hts m l
      exact ih hresidue hts' fun ks' l' hmem => htaken ks' l' (List.mem_cons_of_mem _ hmem)

/-- If nothing is lost or repeated, the tokens are those that were fed. -/
theorem feedLexemes_kept {ls : List Lexeme} {xs : List Symbol} {ts : List Token} (h : Stacked c s xs ts)
    (hkept : Kept m c s (feedLexemes m c s ls).1) :
    ∃ xs', Stacked c (feedLexemes m c s ls).2 xs' (ts ++ markedTokens (feedLexemes m c s ls).1) := by
  induction ls generalizing s xs ts with
  | nil => exact ⟨xs, by simpa [feedLexemes, markedTokens] using h⟩
  | cons l ls ih =>
    rcases feedLexemes_cons m c s l ls with ⟨ks, next, hattempt, heq⟩ | heq
    · rw [heq] at hkept ⊢
      obtain ⟨⟨xs', hnext⟩, -⟩ := taken_stacked h hattempt
      obtain ⟨ys, hend⟩ := ih hnext (hkept.of_taken next)
      exact ⟨ys, by rwa [markedTokens, ← List.append_assoc]⟩
    · rw [heq] at hkept ⊢
      obtain ⟨hsame, hrest⟩ := hkept.of_skipped
      rw [hsame] at hrest ⊢
      exact ih h hrest

/-- No token that was fed is lost. -/
theorem feedLexemes_complete {ls : List Lexeme} {xs : List Symbol} {ts us : List Token}
    (h : Stacked c s xs ts) (hus : us ⊆ ts) :
    ∃ xs' ts', Stacked c (feedLexemes m c s ls).2 xs' ts'
      ∧ us ++ markedTokens (feedLexemes m c s ls).1 ⊆ ts' := by
  induction ls generalizing s xs ts us with
  | nil => exact ⟨xs, ts, h, by simpa [feedLexemes, markedTokens] using hus⟩
  | cons l ls ih =>
    rcases feedLexemes_cons m c s l ls with ⟨ks, next, hattempt, heq⟩ | heq
    · rw [heq, markedTokens, ← List.append_assoc]
      obtain ⟨⟨xs', hnext⟩, -⟩ := taken_stacked h hattempt
      exact ih hnext (List.append_subset.2
        ⟨List.subset_append_of_subset_left _ hus, List.subset_append_right _ _⟩)
    · rw [heq]
      have hpatched : Patched (us ⊆ ·) :=
        ⟨fun hts _ => List.subset_append_of_subset_left _ hts,
          fun _ hts => List.subset_append_of_subset_left _ hts⟩
      obtain ⟨⟨xs', ts', hresidue, hts'⟩, -⟩ := residue_stacked hpatched h hus m l
      exact ih hresidue hts'

/-! ### Whole runs -/

/-- What ends a text gives a single tree. -/
theorem finish_single {xs : List Symbol} {ts : List Token} {vs : List Value} (h : Stacked c s xs ts)
    (ho : finish c s = .accepted vs) : ∃ tree, vs = [tree] := by
  have htakes := (finish_accepted h ho).grown.1
  rw [c.start_form] at htakes
  obtain ⟨tree, rfl, -⟩ := htakes
  exact ⟨tree, rfl⟩

/-- Both runs take the same steps, and both give up or none; their trees have the same skeleton if
nothing is lost or repeated. -/
theorem runLexemes?_run (m : Lists) (c : Context) (stop : Nat) {ls : List Lexeme}
    (hls : ∀ l ∈ ls, l.kind ≠ .none) :
    Option.Rel (fun r r' : Run => r.steps = r'.steps ∧ r.final = r'.final
        ∧ (Kept m c (initial c) r.steps → r.tree.skeleton = r'.tree.skeleton))
      (runLexemes? m c stop ls) (run? c ls) := by
  obtain ⟨xs, ts, hstacked, -⟩ : ∃ xs ts, Stacked c (feedLexemes m c (initial c) ls).2 xs ts ∧ True :=
    feedLexemes_stacked patched_true .initial trivial
      fun _ _ _ _ => fun _ => trivial
  obtain ⟨⟨xs', hstacked'⟩, -⟩ := feedAll_stacked ls (.initial (c := c))
  obtain ⟨hsteps, hstates⟩ := feedLexemes_alike respected_all hls (.initial (c := c))
    (.inl fun _ _ => trivial) (.refl respected_all (initial c))
  have hattempt := fun {R} (hR : Respected R)
      (h : Stack.Alike R (feedLexemes m c (initial c) ls).2 (feedAll c (initial c) ls).2) =>
    attempt_alike hR (c := c) (f := markedMissing stop) (g := fun _ => .missingOf) (fun _ _ => rfl)
      (fun _ _ => rfl) (finish_alike hR (c := c)) (maxFinalInsertions + 1) h
  have hend := hattempt respected_all hstates
  have htree := fun hkept => hattempt respected_skeleton (feedLexemes_alike respected_skeleton hls
    (.initial (c := c)) (.inr hkept) (.refl respected_skeleton (initial c))).2
  simp only [runLexemes?, run?]
  generalize ha : attempt c (finish c) (maxFinalInsertions + 1) (feedLexemes m c (initial c) ls).2 _ = a
    at hend htree
  generalize ha' : attempt c (finish c) (maxFinalInsertions + 1) (feedAll c (initial c) ls).2 = a'
    at hend htree
  cases hend with
  | none => exact .none
  | @some p q hpq =>
    obtain ⟨ks, o⟩ := p
    obtain ⟨ks', o'⟩ := q
    obtain ⟨rfl, ho⟩ := hpq
    cases ho with
    | shifted => exact .none
    | rejected => exact .none
    | accepted =>
      obtain ⟨_, _, hlast, ho⟩ := attempt_inserted finish_rejected hstacked ha
      obtain ⟨_, _, hlast', ho'⟩ := attempt_stacked finish_rejected hstacked' ha'
      obtain ⟨tree, rfl⟩ := finish_single hlast ho
      obtain ⟨tree', rfl⟩ := finish_single hlast' ho'
      refine .some ⟨hsteps, rfl, fun hkept => ?_⟩
      cases htree hkept with
      | some hpq =>
        cases hpq.2 with
        | accepted hsame => exact (List.cons.inj hsame).1

/-- The tree of a run is what the start symbol builds from tokens of which holds what is patched, and
from those inserted at the end. -/
theorem runLexemes?_yields {P : List Token → Prop} (hP : Patched P) {stop : Nat} {ls : List Lexeme}
    {r : Run} (hnil : P []) (h : runLexemes? m c stop ls = some r)
    (htaken : ∀ ks l, .taken ks l ∈ r.steps → (∀ k ∈ ks, k ≠ l.kind)
      → ∀ {us}, P us → P (us ++ takenTokens ks l)) :
    ∃ ts, Yields (.nonterminal c.start) [r.tree] (ts ++ r.final.mapIdx (markedMissing stop))
      ∧ P ts := by
  simp only [runLexemes?] at h
  split at h
  · rename_i ks tree hattempt
    cases h
    obtain ⟨xs, ts, hstacked, hts⟩ := feedLexemes_stacked hP (.initial (c := c)) hnil htaken
    obtain ⟨_, _, hlast, ho⟩ := attempt_inserted finish_rejected hstacked hattempt
    exact ⟨ts, finish_accepted hlast ho, hts⟩
  · cases h

/-- Every token that was fed is in the tree. -/
theorem runLexemes?_complete {stop : Nat} {ls : List Lexeme} {r : Run}
    (h : runLexemes? m c stop ls = some r) : r.markedTokens stop ⊆ r.tree.leaves := by
  simp only [runLexemes?] at h
  split at h
  · rename_i ks tree hattempt
    cases h
    obtain ⟨xs, ts, hstacked, hts⟩ :=
      feedLexemes_complete (.initial (c := c)) (List.nil_subset [])
    obtain ⟨_, _, hlast, ho⟩ := attempt_inserted finish_rejected hstacked hattempt
    rw [(finish_accepted hlast ho).tree.2.2]
    exact List.append_subset.2 ⟨List.subset_append_of_subset_left _ hts, List.subset_append_right _ _⟩
  · cases h

/-- If nothing is lost or repeated, these are the tokens that the run fed. -/
theorem runLexemes?_kept {stop : Nat} {ls : List Lexeme} {r : Run}
    (h : runLexemes? m c stop ls = some r) (hkept : Kept m c (initial c) r.steps) :
    Yields (.nonterminal c.start) [r.tree] (r.markedTokens stop) := by
  simp only [runLexemes?] at h
  split at h
  · rename_i ks tree hattempt
    cases h
    obtain ⟨xs, hstacked⟩ := feedLexemes_kept (.initial (c := c)) hkept
    obtain ⟨_, _, hlast, ho⟩ := attempt_inserted finish_rejected hstacked hattempt
    exact finish_accepted hlast ho
  · cases h

end Repair

end TreeQuote
