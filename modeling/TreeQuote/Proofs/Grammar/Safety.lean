/-
TreeQuote/Proofs/Grammar/Safety.lean

The tables of the machine only apply productions that fit.  Every state stands behind a
known row of symbols: `past s` is what was read last on every way to the state `s`.  Two
finite checks of the tables carry that along any stack, however high: a transition keeps
the past, and a production is only applied where its right-hand side is the past.

`Stacked c stack xs ts` is the invariant: the frames of the stack hold derivations of the
symbols `xs`, newest first, and together they derive the tokens `ts`.

Main statements:
* `feed_shifted`, `feed_rejected`: feeding a token adds it to the tokens derived, or adds
  nothing;
* `finish_accepted`: a text that is accepted is derived from the start symbol.
-/
import TreeQuote.Proofs.Grammar.Derivation

namespace TreeQuote.Grammar

/-! ### The past of a state -/

/-- For each state a production and how many of its symbols have been read.  The states that
complete a text need none. -/
def items : List (Nat × Nat) :=
  [(0, 0), (8, 0), (9, 0), (10, 0), (0, 0), (1, 1), (2, 1), (4, 1), (6, 1), (11, 1), (14, 1),
   (15, 1), (16, 1), (21, 1), (39, 1), (18, 1), (19, 1), (0, 0), (8, 1), (0, 0), (9, 1), (51, 1),
   (52, 1), (53, 1), (54, 1), (55, 1), (56, 1), (57, 1), (58, 1), (59, 1), (63, 1), (69, 1),
   (71, 1), (72, 1), (76, 1), (77, 1), (78, 1), (65, 1), (66, 1), (79, 1), (80, 1), (82, 1),
   (84, 1), (86, 1), (89, 1), (94, 1), (97, 1), (101, 1), (102, 1), (103, 1), (104, 1), (107, 1),
   (108, 1), (109, 1), (44, 1), (110, 1), (111, 1), (112, 1), (113, 1), (114, 1), (0, 0),
   (10, 1), (3, 2), (5, 2), (7, 2), (11, 2), (41, 1), (42, 1), (43, 1), (44, 1), (21, 2),
   (30, 2), (39, 2), (20, 2), (59, 2), (60, 2), (61, 1), (63, 2), (69, 2), (70, 2), (71, 2),
   (72, 2), (76, 2), (77, 2), (78, 2), (81, 2), (83, 2), (85, 2), (87, 2), (88, 2), (90, 2),
   (91, 2), (92, 2), (93, 2), (95, 2), (96, 2), (98, 2), (99, 2), (100, 2), (105, 2), (106, 2),
   (115, 1), (102, 2), (103, 2), (114, 2), (11, 3), (12, 3), (46, 2), (13, 1), (45, 2), (47, 1),
   (21, 3), (30, 3), (39, 3), (60, 3), (62, 2), (63, 3), (64, 3), (68, 1), (67, 1), (70, 3),
   (72, 3), (76, 3), (81, 3), (83, 3), (85, 3), (87, 3), (88, 3), (90, 3), (91, 3), (92, 3),
   (93, 3), (95, 3), (96, 3), (98, 3), (99, 3), (100, 3), (106, 3), (115, 2), (116, 2), (120, 1),
   (114, 3), (12, 4), (46, 3), (13, 2), (47, 2), (40, 1), (21, 4), (23, 1), (30, 4), (39, 4),
   (63, 4), (64, 4), (68, 2), (67, 2), (73, 4), (74, 1), (116, 3), (117, 3), (118, 1), (47, 3),
   (48, 3), (49, 1), (21, 5), (22, 5), (29, 1), (23, 2), (24, 2), (28, 1), (30, 5), (31, 5),
   (38, 1), (39, 5), (64, 5), (74, 2), (75, 2), (117, 4), (119, 2), (118, 2), (48, 4), (50, 2),
   (49, 2), (22, 6), (29, 2), (24, 3), (25, 3), (26, 1), (28, 2), (33, 6), (31, 6), (32, 6),
   (36, 1), (38, 2), (39, 6), (119, 3), (50, 3), (25, 4), (27, 2), (26, 2), (28, 3), (34, 7),
   (32, 7), (37, 2), (36, 2), (38, 3), (39, 7), (27, 3), (35, 8), (37, 3)]

/-- The symbols read last in front of a state, newest first. -/
def past (s : Nat) : List Symbol :=
  match items[s]? with
  | some (p, n) => (((productions.toList[p]?.map (·.rhs)).getD []).take n).reverse
  | none => []

/-- The transitions of a state. -/
def Row.edges (r : Row) : List (Symbol × Nat) :=
  r.shifts.map (fun p => (.terminal p.1, p.2)) ++ r.gotos.map fun p => (.nonterminal p.1, p.2)

/-- The symbol leads from one state to another. -/
def Leads (s : Nat) (x : Symbol) (s' : Nat) : Prop := (x, s') ∈ (row s).edges

/-- All contexts. -/
def contexts : List Context := [.unit, .member, .statement, .expression]

/-- A transition from `s` keeps the past, does not lead back to a start, and leads to the end of
a text only from its start. -/
def keepsPast (s : Nat) (e : Symbol × Nat) : Bool :=
  (past e.2).isPrefixOf (e.1 :: past s)
    && contexts.all fun c =>
      e.2 ≠ c.startState
        && (e.2 ≠ c.endState || (s = c.startState && e.1 = .nonterminal c.start))

/-- A production is applied in `s` only where its right-hand side was read. -/
def fitsPast (s : Nat) (i : Nat) : Bool :=
  match productions.toList[i]? with
  | some p => p.rhs.reverse.isPrefixOf (past s)
  | none => true

/-- The row of a state passes both checks. -/
def isSafe (s : Nat) (r : Row) : Bool :=
  r.edges.all (keepsPast s) && r.reductions.all fun p => fitsPast s p.1

theorem rows_safe : (rows.toList.zipIdx.all fun p => isSafe p.2 p.1) = true := by
  decide +kernel

/-- Every state passes both checks; beyond the tables there is nothing to check. -/
theorem row_safe (s : Nat) : isSafe s (row s) = true := by
  unfold row
  rcases hs : rows[s]? with - | r
  · rfl
  · have hmem : (r, s) ∈ rows.toList.zipIdx := by
      rw [List.mem_zipIdx_iff_getElem?, Array.getElem?_toList]
      exact hs
    exact List.all_eq_true.1 rows_safe (r, s) hmem

theorem Context.mem_contexts (c : Context) : c ∈ contexts := by
  cases c <;> decide

section Edges

variable {s s' : Nat} {x : Symbol}

/-- A pair that a table gives for a key stands in it. -/
theorem mem_of_lookup {α β : Type} [BEq α] [LawfulBEq α] {a : α} {b : β} {table : List (α × β)}
    (h : table.lookup a = some b) : (a, b) ∈ table := by
  obtain ⟨before, after, heq, -⟩ := List.lookup_eq_some_iff.1 h
  rw [heq]
  exact List.mem_append_right _ List.mem_cons_self

theorem Leads.of_shift {k : Kind} (h : (row s).shifts.lookup k = some s') :
    Leads s (.terminal k) s' := by
  have hmem := mem_of_lookup h
  simp only [Leads, Row.edges, List.mem_append, List.mem_map]
  exact Or.inl ⟨(k, s'), hmem, rfl⟩

theorem Leads.of_goto {n : Nonterminal} (h : (row s).gotos.lookup n = some s') :
    Leads s (.nonterminal n) s' := by
  have hmem := mem_of_lookup h
  simp only [Leads, Row.edges, List.mem_append, List.mem_map]
  exact Or.inr ⟨(n, s'), hmem, rfl⟩

theorem Leads.keepsPast (h : Leads s x s') : keepsPast s (x, s') = true := by
  have hs := row_safe s
  simp only [isSafe, Bool.and_eq_true, List.all_eq_true] at hs
  exact hs.1 _ h

/-- What is known behind a transition was known in front of it. -/
theorem Leads.past_prefix (h : Leads s x s') : past s' <+: x :: past s := by
  have hk := h.keepsPast
  simp only [Grammar.keepsPast, Bool.and_eq_true] at hk
  exact List.isPrefixOf_iff_prefix.1 hk.1

/-- No transition leads back to a start. -/
theorem Leads.ne_start (h : Leads s x s') (c : Context) : s' ≠ c.startState := by
  have hk := h.keepsPast
  simp only [Grammar.keepsPast, Bool.and_eq_true, List.all_eq_true] at hk
  simpa using (hk.2 c c.mem_contexts).1

/-- The end of a text is reached from its start only, by the start symbol. -/
theorem Leads.endState {c : Context} (h : Leads s x c.endState) :
    s = c.startState ∧ x = .nonterminal c.start := by
  have hk := h.keepsPast
  simp only [Grammar.keepsPast, Bool.and_eq_true, List.all_eq_true] at hk
  simpa using (hk.2 c c.mem_contexts).2

end Edges

/-- A production that a row applies is one of the grammar, and its symbols were read last. -/
theorem reduction?_past {s : Nat} {k : Kind} {p : Production}
    (h : (row s).reduction? k = some p) : p ∈ productions ∧ p.rhs.reverse <+: past s := by
  obtain ⟨⟨i, ks⟩, hfind, hi⟩ := Option.bind_eq_some_iff.1 h
  have hs := row_safe s
  simp only [isSafe, Bool.and_eq_true, List.all_eq_true] at hs
  have hfit := hs.2 _ (List.mem_of_find?_eq_some hfind)
  simp only [fitsPast, Array.getElem?_toList, hi] at hfit
  exact ⟨Array.mem_of_getElem? hi, List.isPrefixOf_iff_prefix.1 hfit⟩

/-! ### The invariant of the stack -/

/-- The frames hold derivations of the symbols, newest first, of the tokens in order. -/
inductive Stacked (c : Context) : Stack → List Symbol → List Token → Prop where
  | initial : Stacked c (initial c) [] []
  | push {stack : Stack} {xs : List Symbol} {ts us : List Token} {x : Symbol} {s : Nat}
      {vs : List Value} (h : Stacked c stack xs ts) (hlead : Leads (top stack) x s)
      (hvs : Yields x vs us) : Stacked c (⟨s, vs⟩ :: stack) (x :: xs) (ts ++ us)

namespace Stacked

variable {c : Context} {stack : Stack} {xs : List Symbol} {ts : List Token}

/-- The past of the top state is what the frames hold. -/
theorem past_prefix (h : Stacked c stack xs ts) : past (top stack) <+: xs := by
  induction h with
  | initial => cases c <;> decide
  | push _ hlead _ ih => exact hlead.past_prefix.trans ((List.prefix_cons_inj _).2 ih)

/-- The frames on top that hold the symbols `ys` come off as a derivation of them. -/
theorem split {ys zs : List Symbol} (h : Stacked c stack (ys ++ zs) ts) :
    ∃ us ws, ts = us ++ ws ∧ Stacked c (stack.drop ys.length) zs us
      ∧ YieldsAll ys.reverse ((stack.take ys.length).reverse.map (·.parts)) ws := by
  induction ys generalizing stack ts with
  | nil => exact ⟨ts, [], (List.append_nil ts).symm, h, .nil⟩
  | cons y ys ih =>
    rw [List.cons_append] at h
    cases h with
    | @push stack _ ts' vs' _ s vs h hlead hvs =>
      obtain ⟨us, ws, rfl, hbelow, hys⟩ := ih h
      refine ⟨us, ws ++ vs', List.append_assoc _ _ _, hbelow, ?_⟩
      simp only [List.length_cons, List.take_succ_cons, List.reverse_cons, List.map_append,
        List.map_cons, List.map_nil]
      exact hys.append hvs

/-- Applying a production keeps the invariant: its left-hand side stands for the symbols of its
right-hand side. -/
theorem reduce {k : Kind} {p : Production} {next : Stack} (h : Stacked c stack xs ts)
    (hp : (row (top stack)).reduction? k = some p) (hr : Grammar.reduce p stack = some next) :
    ∃ zs, xs = p.rhs.reverse ++ zs ∧ Stacked c next (.nonterminal p.lhs :: zs) ts := by
  obtain ⟨hmem, hpre⟩ := reduction?_past hp
  obtain ⟨zs, rfl⟩ := hpre.trans h.past_prefix
  obtain ⟨us, ws, rfl, hbelow, hall⟩ := h.split
  rw [List.length_reverse] at hbelow hall
  rw [List.reverse_reverse] at hall
  simp only [Grammar.reduce, Option.map_eq_some_iff] at hr
  obtain ⟨s, hs, rfl⟩ := hr
  exact ⟨zs, rfl, hbelow.push (.of_goto hs) (.production hmem hall)⟩

/-- At the end of a text the stack holds the start symbol and nothing else. -/
theorem accepted {s : Nat} {vs : List Value} (h : Stacked c (⟨s, vs⟩ :: stack) xs ts)
    (hs : s = c.endState) : Yields (.nonterminal c.start) vs ts := by
  subst hs
  generalize hst : (⟨c.endState, vs⟩ :: stack : Stack) = st at h
  cases h with
  | initial => cases c <;> simp [Grammar.initial, Context.endState, Context.startState] at hst
  | push hbelow hlead hvs =>
    cases hst
    obtain ⟨htop, rfl⟩ := hlead.endState
    cases hbelow with
    | initial => exact hvs
    | push _ hlead' _ => exact absurd htop (hlead'.ne_start c)

end Stacked

/-! ### Feeding -/

/-- What the invariant says of an outcome when `v` was fed to a stack that derives `ts`. -/
def Outcome.Sound (c : Context) (k : Kind) (v : Value) (ts : List Token) : Outcome → Prop
  | .shifted next => ∃ stack xs s, Stacked c stack xs ts ∧ Leads (top stack) (.terminal k) s
      ∧ next = ⟨s, [v]⟩ :: stack
  | .accepted vs => Yields (.nonterminal c.start) vs ts
  | .rejected stack => ∃ xs, Stacked c stack xs ts

variable {c : Context} {stack : Stack} {xs : List Symbol} {ts : List Token}

theorem feedFrom_sound {k : Kind} {v : Value} {fuel : Nat} (h : Stacked c stack xs ts) :
    (feedFrom c.endState k v fuel stack).Sound c k v ts := by
  induction fuel generalizing stack xs with
  | zero => exact ⟨xs, h⟩
  | succ fuel ih =>
    simp only [feedFrom]
    split
    · rename_i s hs
      exact ⟨stack, xs, s, h, .of_shift hs, rfl⟩
    · split
      · exact ⟨xs, h⟩
      · rename_i next hnext
        obtain ⟨p, hp, hr⟩ := Option.bind_eq_some_iff.1 hnext
        obtain ⟨zs, -, h'⟩ := h.reduce hp hr
        split
        · rename_i hend
          simp only [Bool.and_eq_true, decide_eq_true_eq] at hend
          cases next with
          | nil => cases h'
          | cons f below => exact h'.accepted hend.2
        · exact ih h'

theorem feed_sound (t : Token) (h : Stacked c stack xs ts) :
    (feed c t stack).Sound c t.kind (.token t) ts := by
  rw [feed]
  exact feedFrom_sound h

theorem finish_sound (h : Stacked c stack xs ts) :
    (finish c stack).Sound c .endOfFileToken .none ts := by
  rw [finish]
  exact feedFrom_sound h

/-- A token that is taken is derived behind the others. -/
theorem feed_shifted {t : Token} {next : Stack} (h : Stacked c stack xs ts)
    (hf : feed c t stack = .shifted next) : ∃ xs', Stacked c next xs' (ts ++ [t]) := by
  have hs := feed_sound t h
  rw [hf] at hs
  obtain ⟨below, ys, s, hbelow, hlead, rfl⟩ := hs
  exact ⟨_, hbelow.push hlead (.token t)⟩

/-- A token that is rejected leaves the tokens derived as they were. -/
theorem feed_rejected {t : Token} {next : Stack} (h : Stacked c stack xs ts)
    (hf : feed c t stack = .rejected next) : ∃ xs', Stacked c next xs' ts := by
  have hs := feed_sound t h
  rw [hf] at hs
  exact hs

/-- A text that does not end here leaves the tokens derived as they were. -/
theorem finish_rejected {next : Stack} (h : Stacked c stack xs ts)
    (hf : finish c stack = .rejected next) : ∃ xs', Stacked c next xs' ts := by
  have hs := finish_sound h
  rw [hf] at hs
  exact hs

/-- A text that is accepted is derived from the start symbol. -/
theorem finish_accepted {vs : List Value} (h : Stacked c stack xs ts)
    (hf : finish c stack = .accepted vs) : Yields (.nonterminal c.start) vs ts := by
  have hs := finish_sound h
  rw [hf] at hs
  exact hs

end TreeQuote.Grammar
