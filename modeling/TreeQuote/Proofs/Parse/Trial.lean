/-
TreeQuote/Proofs/Parse/Trial.lean

What an abandoned attempt leaves behind is derived like the rest.  A list that was extended holds
more elements of its kind, so the frame that holds it still holds a derivation of its symbol, in
the same state.

The tokens derived are those of the machine, with those of the copy from some point on in front
of them.  What holds of both and is `Patched` holds of the residue.

In an attempt that goes on, kinds are refused too, as insertions.  These need not be followed: a list
is extended only in front of what is then taken (`rows_extendsBefore`).

Main statements:
* `Trial.advance_rejected`: a kind that is refused has added to no list;
* `residue_stacked`: what an attempt leaves behind is derived.
-/
import TreeQuote.Parse.Trial
import TreeQuote.Proofs.Parse.Insertion

namespace TreeQuote

open Grammar

/-! ### Stacks -/

namespace Grammar

theorem row_mem (s : Nat) : row s = {} ∨ row s ∈ rows.toList := by
  unfold row
  rcases hs : rows[s]? with - | r
  · exact .inl rfl
  · exact .inr (Array.mem_toList_iff.2 (Array.mem_of_getElem? hs))

theorem rows_gotos : (rows.toList.all fun r =>
    r.gotos.all fun e => r.gotos.lookup e.1 = some e.2) = true := by
  decide +kernel

/-- A nonterminal leads to one state only. -/
theorem Leads.goto {s s' : Nat} {n : Nonterminal} (h : Leads s (.nonterminal n) s') :
    (row s).gotos.lookup n = some s' := by
  have hmem : (n, s') ∈ (row s).gotos := by
    simp only [Leads, Row.edges, List.mem_append, List.mem_map] at h
    rcases h with ⟨e, -, heq⟩ | ⟨e, he, heq⟩
    · cases heq
    · cases heq
      exact he
  have hr := (row_mem s).resolve_left fun h => by
    rw [h] at hmem
    cases hmem
  simpa using List.all_eq_true.1 (List.all_eq_true.1 rows_gotos _ hr) _ hmem

variable {c : Context} {stack : Stack} {xs : List Symbol} {ts : List Token}

/-- The frames on top can be put on any other stack that ends in the same state. -/
theorem Stacked.cut {as bs : Stack} (hbs : bs ≠ []) (h : Stacked c (as ++ bs) xs ts) :
    ∃ ys zs us ws, xs = ys ++ zs ∧ ts = us ++ ws ∧ ys.length = as.length ∧ Stacked c bs zs us
      ∧ ∀ {bs' zs' us'}, Stacked c bs' zs' us' → top bs' = top bs
        → Stacked c (as ++ bs') (ys ++ zs') (us' ++ ws) := by
  induction as generalizing xs ts with
  | nil => exact ⟨[], xs, ts, [], rfl, (List.append_nil ts).symm, rfl, h,
      fun h' _ => by rw [List.append_nil]; exact h'⟩
  | cons f as ih =>
    generalize hst : f :: as ++ bs = st at h
    cases h with
    | initial =>
      obtain ⟨-, hnil⟩ := List.cons.inj hst
      exact absurd (List.append_eq_nil_iff.1 hnil).2 hbs
    | push hbelow hlead hvs =>
      obtain ⟨rfl, rfl⟩ := List.cons.inj hst
      obtain ⟨ys, zs, us, ws, rfl, rfl, hlen, hstack, hput⟩ := ih hbelow
      refine ⟨_ :: ys, zs, us, ws ++ _, rfl, List.append_assoc _ _ _, by simp [hlen], hstack,
        fun {bs' zs' us'} h' htop => ?_⟩
      rw [← List.append_assoc]
      refine .push (hput h' htop) ?_ hvs
      -- the state below the new top is that of the old stack
      have hsame : top (as ++ bs') = top (as ++ bs) := by
        cases as with
        | nil => exact htop
        | cons g as => rfl
      exact hsame ▸ hlead

/-- What a production does to a stack. -/
theorem reduce_eq {p : Production} {f : Frame} {below : Stack}
    (h : reduce p stack = some (f :: below)) :
    below = stack.drop p.rhs.length ∧ (row (top below)).gotos.lookup p.lhs = some f.state := by
  simp only [reduce, Option.map_eq_some_iff] at h
  obtain ⟨s, hs, heq⟩ := h
  obtain ⟨rfl, rfl⟩ := List.cons.inj heq
  exact ⟨rfl, hs⟩

/-- A list that is extended stays in its state. -/
theorem Stacked.extended {k : Kind} {p : Production} {f g : Frame} {as below : Stack}
    (h : Stacked c (as ++ g :: below) xs ts)
    (hp : (row (top (as ++ g :: below))).reduction? k = some p) (hext : p.extends = true)
    (hlen : p.rhs.length = as.length + 1)
    (hr : Grammar.reduce p (as ++ g :: below) = some (f :: below)) : f.state = g.state := by
  obtain ⟨zs, hxs, -⟩ := h.reduce hp hr
  obtain ⟨ys, zs', us, ws, hcut, -, hys, hbelow, -⟩ := h.cut (List.cons_ne_nil g below)
  simp only [Production.extends, Bool.and_eq_true, decide_eq_true_eq] at hext
  obtain ⟨rest, hrest⟩ := List.head?_eq_some_iff.1 hext.1
  cases hbelow with
  | initial =>
    have hcount := congrArg List.length (hxs.symm.trans hcut)
    simp only [List.length_append, List.length_reverse, List.length_nil] at hcount
    omega
  | push _ hlead _ =>
    rw [hrest, List.reverse_cons, List.append_assoc, List.singleton_append] at hxs
    rw [hrest, List.length_cons] at hlen
    obtain ⟨-, hsymbols⟩ := List.append_inj (hxs.symm.trans hcut) (by simp; omega)
    obtain ⟨rfl, -⟩ := List.cons.inj hsymbols
    exact Option.some.inj ((reduce_eq hr).2.symm.trans hlead.goto)

/-! ### Behind a list that was extended -/

/-- The kind is shifted in a state. -/
def shiftsIn (k : Kind) (s : Nat) : Bool := ((row s).shifts.lookup k).isSome

/-- The kind is shifted behind a frame in the state `s`, at once or behind one production that takes
no other frame; `r` is the row of the state below. -/
def Row.takesBehind (r : Row) (s : Nat) (k : Kind) : Bool :=
  shiftsIn k s || ((row s).reduction? k).any fun q =>
    q.rhs.length = 0 && ((row s).gotos.lookup q.lhs).any (shiftsIn k)
      || q.rhs.length = 1 && (r.gotos.lookup q.lhs).any (shiftsIn k)

/-- Where a list is extended in front of a kind, the kind is taken behind it. -/
def Row.extendsBefore (r : Row) : Bool :=
  r.reductions.all fun (i, ks) => (productions[i]?).all fun p =>
    !p.extends || ks.all fun k => k = .endOfFileToken || rows.toList.all fun below =>
      (below.gotos.lookup p.lhs).all fun s => below.takesBehind s k

theorem rows_extendsBefore : rows.toList.all Row.extendsBefore = true := by decide +kernel

theorem takesBehind_of_extends {s below next : Nat} {k : Kind} {p : Production}
    (hp : (row s).reduction? k = some p) (hext : p.extends = true) (hk : k ≠ .endOfFileToken)
    (hgoto : (row below).gotos.lookup p.lhs = some next) : (row below).takesBehind next k = true := by
  obtain ⟨⟨i, ks⟩, hfind, hi⟩ := Option.bind_eq_some_iff.1 hp
  have hmem : (i, ks) ∈ (row s).reductions := List.mem_of_find?_eq_some hfind
  have hks : ks.contains k = true := by simpa using List.find?_some hfind
  have hs := (row_mem s).resolve_left fun h => by
    rw [h] at hmem
    cases hmem
  have hbelow := (row_mem below).resolve_left fun h => by
    rw [h] at hgoto
    cases hgoto
  have hrow := List.all_eq_true.1 (List.all_eq_true.1 rows_extendsBefore _ hs) _ hmem
  simp only [show productions[i]? = some p from hi, Option.all_some, hext, Bool.not_true,
    Bool.false_or, List.all_eq_true] at hrow
  have htaken := hrow k (List.contains_iff_mem.1 hks)
  simp only [hk, decide_false, Bool.false_or, List.all_eq_true] at htaken
  simpa only [hgoto, Option.all_some] using htaken _ hbelow

/-- A production that does not end the text is a step of the machine. -/
theorem feedFrom_reduce {goal fuel : Nat} {k : Kind} {v : Value} {p : Production} {next : Stack}
    (hshift : (row (top stack)).shifts.lookup k = none)
    (hp : (row (top stack)).reduction? k = some p) (hr : reduce p stack = some next)
    (hk : k ≠ .endOfFileToken) :
    feedFrom goal k v (fuel + 1) stack = feedFrom goal k v fuel next := by
  simp [feedFrom, hshift, hp, hr, hk]

/-- A kind that is taken is shifted. -/
theorem feedFrom_takesBehind (goal : Nat) (v : Value) {fuel : Nat} {k : Kind} {f : Frame}
    {below : Stack} (h : (row (top below)).takesBehind f.state k = true) (hk : k ≠ .endOfFileToken)
    (hfuel : 2 ≤ fuel) : ∃ next, feedFrom goal k v fuel (f :: below) = .shifted next := by
  obtain ⟨fuel, rfl⟩ : ∃ m, fuel = m + 2 := ⟨fuel - 2, by omega⟩
  have hshifts : ∀ {stack : Stack}, shiftsIn k (top stack) = true →
      ∃ next, feedFrom goal k v (fuel + 1) stack = .shifted next := by
    intro stack hshift
    obtain ⟨s, hs⟩ := Option.isSome_iff_exists.1 hshift
    exact ⟨⟨s, [v]⟩ :: stack, by simp only [feedFrom, hs]⟩
  have htop : f.state = top (f :: below) := rfl
  rw [htop, Row.takesBehind, Bool.or_eq_true] at h
  cases hs : (row (top (f :: below))).shifts.lookup k with
  | some s => exact ⟨⟨s, [v]⟩ :: f :: below, by simp only [feedFrom, hs]⟩
  | none =>
    rw [shiftsIn, hs, Option.any_eq_true] at h
    obtain ⟨q, hq, h⟩ := h.resolve_left Bool.false_ne_true
    simp only [Bool.or_eq_true, Bool.and_eq_true, decide_eq_true_eq, Option.any_eq_true] at h
    -- an empty production leaves the frame, one with a single symbol takes it
    rcases h with ⟨hlen, s, hgoto, htaken⟩ | ⟨hlen, s, hgoto, htaken⟩
    · have hr : reduce q (f :: below) = some (⟨s, q.builds.apply []⟩ :: f :: below) := by
        simp only [reduce, hlen]
        exact congrArg (Option.map _) hgoto
      rw [feedFrom_reduce hs hq hr hk]
      exact hshifts htaken
    · have hr : reduce q (f :: below) = some (⟨s, q.builds.apply [f.parts]⟩ :: below) := by
        simp only [reduce, hlen]
        exact congrArg (Option.map _) hgoto
      rw [feedFrom_reduce hs hq hr hk]
      exact hshifts htaken

end Grammar

namespace Repair

/-! ### Trials -/

/-- What holds of the tokens of two stacks holds of those of the first with a part of those of the
second behind them, and an inserted token without a mark changes nothing. -/
structure Patched (P : List Token → Prop) : Prop where
  join : ∀ {ts us ws : List Token}, P ts → P (us ++ ws) → P (ts ++ ws)
  insert : ∀ {ts : List Token} (k : Kind), P ts → P (ts ++ [.missingOf k])

theorem patched_true : Patched fun _ => True := ⟨fun _ _ => trivial, fun _ _ => trivial⟩

/-- Both stacks of a trial hold derivations, and `P` holds of their tokens; the original is in the
states `states`. -/
structure Trial.Sound (c : Context) (P : List Token → Prop) (states : List Nat) (t : Trial) : Prop where
  copy : ∃ xs ts, Stacked c t.stack xs ts ∧ P ts
  origin : ∃ xs ts, Stacked c t.origin xs ts ∧ P ts
  states : t.origin.map (·.state) = states

namespace Trial

variable {c : Context} {P : List Token → Prop} {states : List Nat} {t : Trial}

/-- The copy is what the production makes of it. -/
theorem settle_stack {p : Production} {f : Frame} {below : Stack}
    (hr : reduce p t.stack = some (f :: below)) : (t.settle p f).stack = f :: below := by
  obtain ⟨rfl, -⟩ := reduce_eq hr
  unfold settle
  split
  · rename_i hlen
    rw [stack, stack, List.drop_append_of_le_length hlen, List.cons_append]
  · have hdrop : t.stack.drop p.rhs.length = t.shared.drop (p.rhs.length - t.ahead.length) := by
      rw [stack, List.drop_append, List.drop_eq_nil_of_le (by omega), List.nil_append]
    rw [hdrop]
    split <;> rfl

/-- A production that extends no shared list leaves the original alone. -/
theorem settle_origin {p : Production} {f : Frame}
    (h : p.rhs.length ≤ t.ahead.length ∨ p.extends = false) : (t.settle p f).origin = t.origin := by
  unfold settle
  split
  · rfl
  · rename_i hlen
    rw [if_neg (by simp [h.resolve_left hlen])]
    rw [origin, origin, List.append_assoc, List.take_append_drop]

/-- One that does extends the list of the original. -/
theorem settle_extended {p : Production} {f : Frame} (hlen : ¬p.rhs.length ≤ t.ahead.length)
    (hext : p.extends = true) :
    (t.settle p f).origin = t.behind ++ t.shared.take (p.rhs.length - t.ahead.length - 1)
      ++ f :: t.shared.drop (p.rhs.length - t.ahead.length) := by
  unfold settle
  rw [if_neg hlen, if_pos hext]
  rfl

/-- Applying a production keeps a trial sound. -/
theorem Sound.settle {k : Kind} {p : Production} {f : Frame} {below : Stack} (hP : Patched P)
    (h : t.Sound c P states) (hp : (row (top t.stack)).reduction? k = some p)
    (hr : reduce p t.stack = some (f :: below)) : (t.settle p f).Sound c P states := by
  obtain ⟨xs, ts, hcopy, hts⟩ := h.copy
  obtain ⟨ys, us, horigin, hus⟩ := h.origin
  obtain ⟨zs, hxs, hnext⟩ := hcopy.reduce hp hr
  have hstack : ∃ xs ts, Stacked c (t.settle p f).stack xs ts ∧ P ts :=
    ⟨_, ts, by rw [settle_stack hr]; exact hnext, hts⟩
  by_cases hown : p.rhs.length ≤ t.ahead.length ∨ p.extends = false
  · exact ⟨hstack, by rw [settle_origin hown]; exact h.origin,
      by rw [settle_origin hown]; exact h.states⟩
  · simp only [not_or, Bool.not_eq_false] at hown
    obtain ⟨hlen, hext⟩ := hown
    obtain ⟨n, hn⟩ : ∃ n, p.rhs.length = t.ahead.length + (n + 1) :=
      ⟨p.rhs.length - t.ahead.length - 1, by omega⟩
    have hshared : n < t.shared.length := by
      have hcount := hcopy.length_eq
      rw [hxs, stack] at hcount
      simp only [List.length_append, List.length_reverse] at hcount
      omega
    -- the list is the last frame that the production takes from the shared ones
    obtain ⟨g, hg⟩ : ∃ g, t.shared = t.shared.take n ++ g :: t.shared.drop (n + 1) :=
      ⟨t.shared[n], by rw [List.getElem_cons_drop, List.take_append_drop]⟩
    have hbelow : below = t.shared.drop (n + 1) := by
      rw [(reduce_eq hr).1, stack, hn, List.drop_append, List.drop_eq_nil_of_le (by omega),
        List.nil_append]
      congr 1
      omega
    have hcopy' : t.stack = (t.ahead ++ t.shared.take n) ++ g :: below := by
      rw [Trial.stack, hbelow, List.append_assoc, ← hg]
    have horigin' : t.origin = (t.behind ++ t.shared.take n) ++ g :: below := by
      rw [Trial.origin, hbelow, List.append_assoc, ← hg]
    have hsettled : (t.settle p f).origin = (t.behind ++ t.shared.take n) ++ f :: below := by
      rw [settle_extended hlen hext, hbelow, hn, Nat.add_sub_cancel_left, Nat.add_sub_cancel]
    have hstate : f.state = g.state := by
      rw [hcopy'] at hcopy hp hr
      exact hcopy.extended hp hext (by simp; omega) hr
    rw [horigin'] at horigin
    obtain ⟨_, _, us₁, us₂, -, rfl, -, -, hput⟩ := horigin.cut (List.cons_ne_nil g below)
    have hpatched := hput hnext hstate
    rw [← hsettled] at hpatched
    refine ⟨hstack, ⟨_, _, hpatched, hP.join hts hus⟩, ?_⟩
    rw [← h.states, hsettled, horigin']
    simp [hstate]

/-- What applying productions in front of a kind begins with: the kind is shifted, nothing is left to
apply, or a production is applied. -/
theorem advanceFrom_succ (k : Kind) (fuel : Nat) (t : Trial) :
    (∃ s, (row (top t.stack)).shifts.lookup k = some s ∧ t.advanceFrom k (fuel + 1) = t)
      ∨ ((row (top t.stack)).shifts.lookup k = none
        ∧ (((row (top t.stack)).reduction? k).bind fun p => reduce p t.stack) = none
        ∧ t.advanceFrom k (fuel + 1) = t)
      ∨ ∃ p f below, (row (top t.stack)).shifts.lookup k = none
        ∧ (row (top t.stack)).reduction? k = some p ∧ reduce p t.stack = some (f :: below)
        ∧ t.advanceFrom k (fuel + 1) = (t.settle p f).advanceFrom k fuel := by
  cases hs : (row (top t.stack)).shifts.lookup k with
  | some s => exact .inl ⟨s, rfl, by simp only [advanceFrom, hs]⟩
  | none =>
    refine .inr ?_
    cases hp : (row (top t.stack)).reduction? k with
    | none => exact .inl ⟨rfl, rfl, by simp only [advanceFrom, hs, hp]⟩
    | some p =>
      cases hr : reduce p t.stack with
      | none => exact .inl ⟨rfl, hr, by simp only [advanceFrom, hs, hp, hr]⟩
      | some next =>
        obtain ⟨f, below, rfl⟩ : ∃ f below, next = f :: below := by
          simp only [reduce, Option.map_eq_some_iff] at hr
          obtain ⟨s, -, rfl⟩ := hr
          exact ⟨_, _, rfl⟩
        exact .inr ⟨p, f, below, rfl, rfl, hr, by simp only [advanceFrom, hs, hp, hr]⟩

/-- And so do all productions in front of a kind. -/
theorem Sound.advanceFrom {k : Kind} {fuel : Nat} (hP : Patched P) (h : t.Sound c P states) :
    (t.advanceFrom k fuel).Sound c P states := by
  induction fuel generalizing t with
  | zero => exact h
  | succ fuel ih =>
    rcases advanceFrom_succ k fuel t with ⟨-, -, heq⟩ | ⟨-, -, heq⟩ | ⟨p, f, below, -, hp, hr, heq⟩
    · rwa [heq]
    · rwa [heq]
    · rw [heq]
      exact ih (h.settle hP hp hr)

/-- A kind that is shifted is shifted behind all productions in front of it. -/
theorem advanceFrom_shifted {goal : Nat} {k : Kind} {v : Value} {fuel : Nat} {next : Stack}
    (h : feedFrom goal k v fuel t.stack = .shifted next) :
    ∃ s, next = ⟨s, [v]⟩ :: (t.advanceFrom k fuel).stack := by
  induction fuel generalizing t with
  | zero => cases h
  | succ fuel ih =>
    rcases advanceFrom_succ k fuel t with ⟨s, hs, heq⟩ | ⟨hs, hnone, heq⟩
      | ⟨p, f, below, hs, hp, hr, heq⟩
    · simp only [feedFrom, hs] at h
      cases h
      exact ⟨s, by rw [heq]⟩
    · simp only [feedFrom, hs, hnone] at h
      cases h
    · simp only [feedFrom, hs, hp, hr, Option.bind_some] at h
      rw [heq]
      refine ih ?_
      rw [settle_stack hr]
      by_cases hend : (k = .endOfFileToken && top (f :: below) = goal) = true
      · rw [if_pos hend] at h
        cases h
      · rwa [if_neg hend] at h

theorem advanceFrom_rejected {k : Kind} {v : Value} {fuel : Nat} {stuck : Stack} {xs : List Symbol}
    {ts : List Token} (hk : k ≠ .endOfFileToken) (h : Stacked c t.stack xs ts) (hcost : cost xs + 2 ≤ fuel)
    (hf : feedFrom c.endState k v fuel t.stack = .rejected stuck) :
    (t.advanceFrom k fuel).origin = t.origin := by
  induction fuel generalizing t xs ts with
  | zero => rfl
  | succ fuel ih =>
    rcases advanceFrom_succ k fuel t with ⟨-, -, heq⟩ | ⟨-, -, heq⟩ | ⟨p, f, below, hs, hp, hr, heq⟩
    · rw [heq]
    · rw [heq]
    rw [heq]
    rw [feedFrom_reduce hs hp hr hk] at hf
    by_cases hrhs : p.rhs = []
    · -- behind an empty production no other is applied
      have hnone := reduction?_behind_empty hp hrhs hr k
      rw [← settle_stack hr] at hnone
      have hext : p.extends = false := by simp [Production.extends, hrhs]
      refine .trans ?_ (settle_origin (f := f) (.inr hext))
      cases fuel with
      | zero => rfl
      | succ fuel =>
        rcases advanceFrom_succ k fuel (t.settle p f) with ⟨-, -, heq⟩ | ⟨-, -, heq⟩
          | ⟨q, -, -, -, hq, -⟩
        · rw [heq]
        · rw [heq]
        · cases hq.symm.trans hnone
    · obtain ⟨zs, rfl, hnext⟩ := h.reduce hp hr
      have hless := cost_reduce (reduction?_past hp).1 hrhs zs
      have hext : p.extends = false := by
        by_contra hext
        have htaken := takesBehind_of_extends hp (by simpa using hext) hk (reduce_eq hr).2
        have hfuel : 2 ≤ fuel := by omega
        obtain ⟨next, hshifted⟩ := feedFrom_takesBehind c.endState v htaken hk hfuel
        rw [hshifted] at hf
        cases hf
      rw [ih (by rw [settle_stack hr]; exact hnext) (by omega) (by rw [settle_stack hr]; exact hf)]
      exact settle_origin (.inr hext)

/-- **A kind that is refused has added to no list.** -/
theorem advance_rejected {u : Token} {stuck : Stack} {xs : List Symbol} {ts : List Token}
    (hu : u.kind ≠ .endOfFileToken) (h : Stacked c t.stack xs ts) (hf : feed c u t.stack = .rejected stuck) :
    (t.advance u.kind).origin = t.origin :=
  advanceFrom_rejected hu h h.cost_le hf

end Trial

/-! ### Attempts that are given up -/

variable {c : Context} {P : List Token → Prop} {states : List Nat}

theorem abandon_sound {k : Kind} {tries : Nat} {t : Trial} (hP : Patched P)
    (h : t.Sound c P states) : (abandon c k tries t).Sound c P states := by
  induction tries generalizing t with
  | zero => exact h
  | succ tries ih =>
    have hstuck : (t.advance k).Sound c P states := h.advanceFrom hP
    rw [abandon]
    split
    · rename_i j f rest hinsert
      have hnext : ((t.advance k).advance j).Sound c P states := hstuck.advanceFrom hP
      obtain ⟨xs, ts, hcopy, hts⟩ := hstuck.copy
      obtain ⟨xs', htaken⟩ := insert?_stacked hcopy hinsert
      obtain ⟨s, heq⟩ := Trial.advanceFrom_shifted (insert?_taken hinsert).1
      obtain ⟨rfl, rfl⟩ := List.cons.inj heq
      exact ih ⟨⟨xs', _, htaken, hP.insert j hts⟩, hnext.origin, hnext.states⟩
    · exact hstuck

/-- **What an attempt leaves behind is derived**, in the states in which the machine was. -/
theorem residue_stacked {stack : Stack} {xs : List Symbol} {ts : List Token} (hP : Patched P)
    (h : Stacked c stack xs ts) (hts : P ts) (m : Lists) (l : Lexeme) :
    (∃ xs' ts', Stacked c (residue m c l stack) xs' ts' ∧ P ts')
      ∧ (residue m c l stack).map (·.state) = stack.map (·.state) := by
  cases m with
  | immutable => exact ⟨⟨xs, ts, h, hts⟩, rfl⟩
  | shared =>
    have hstart : (Trial.start stack).Sound c P (stack.map (·.state)) :=
      ⟨⟨xs, ts, h, hts⟩, ⟨xs, ts, h, hts⟩, rfl⟩
    have hend : (abandon c l.kind (maxInsertions + 1) (.start stack)).Sound c P
        (stack.map (·.state)) := abandon_sound hP hstart
    exact ⟨hend.origin, hend.states⟩

/-- Before the first token there is no list to add to. -/
theorem residue_initial (m : Lists) (l : Lexeme) : residue m c l (initial c) = initial c := by
  obtain ⟨⟨xs, ts, hstacked, -⟩, hstates⟩ :=
    residue_stacked patched_true (Stacked.initial (c := c)) trivial m l
  have hlength := congrArg List.length hstates
  rw [List.length_map, hstacked.length_eq] at hlength
  obtain rfl : xs = [] := List.length_eq_zero_iff.1 (by simpa [initial] using hlength)
  generalize residue m c l (initial c) = stack at hstacked
  cases hstacked
  rfl

end Repair

end TreeQuote
