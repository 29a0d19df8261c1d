/-
TreeQuote/Proofs/Grammar/Completeness.lean

The machine misses no derivation.  One finite check of the tables is enough: where a state
has a transition for a nonterminal, it has a way along the right-hand side of each of its
productions, and at the end of that way the production is applied in front of every token
that the state behind the nonterminal looks for.  No sets of items are needed: what may
follow a nonterminal is read off the state behind it.

`YieldsAll.moves` follows a derivation with the machine, by induction on the derivation.
Feeding has a bound on its reductions; `feedFrom_fuel` says that the bound is never reached,
because a production with one symbol goes up one level of the grammar and any longer one
lowers the stack.

Main statement: `Moves.feed` and `Moves.finish`, which turn the moves of the machine into what
feeding a token and ending a text come to.
-/
import TreeQuote.Proofs.Grammar.Safety

namespace TreeQuote.Grammar

/-! ### Ways through the tables -/

/-- The state that a symbol leads to. -/
def target? (s : Nat) : Symbol → Option Nat
  | .terminal k => (row s).shifts.lookup k
  | .nonterminal n => (row s).gotos.lookup n

/-- The state that symbols lead to, one after the other. -/
def path? (s : Nat) : List Symbol → Option Nat
  | [] => some s
  | x :: xs => (target? s x).bind fun s' => path? s' xs

/-- The kinds that a state looks for; a state that completes a text looks for its end. -/
def ahead (s : Nat) : List Kind :=
  (row s).shifts.map (·.1) ++ (row s).reductions.flatMap (·.2)
    ++ if contexts.any (fun c => c.endState = s) then [.endOfFileToken] else []

/-- In front of the kind, the state applies the production at a position and shifts nothing. -/
def applies (s i : Nat) (k : Kind) : Bool :=
  ((row s).shifts.lookup k).isNone
    && ((row s).reductions.find? fun q => q.2.contains k).map (·.1) = some i

/-- Every production of a nonterminal has its way from the state, and is applied at its end in
front of the given kinds. -/
def completes (s : Nat) (n : Nonterminal) (ks : List Kind) : Bool :=
  productions.toList.zipIdx.all fun q => q.1.lhs ≠ n || (match path? s q.1.rhs with
    | some s' => ks.all (applies s' q.2)
    | none => false)

/-- The productions of a nonterminal with their positions. -/
def alternatives (n : Nonterminal) : List (Production × Nat) :=
  productions.toList.zipIdx.filter fun q => q.1.lhs = n

/-- A property of each transition by a nonterminal: its state, the nonterminal and its target. -/
def allGotos (P : Nat → Nonterminal → Nat → Bool) : Bool :=
  rows.toList.zipIdx.all fun (r, s) => r.gotos.all fun (n, s') => P s n s'

theorem completes_eq (s : Nat) (n : Nonterminal) (ks : List Kind) :
    completes s n ks = (alternatives n).all fun q =>
      (path? s q.1.rhs).any fun s' => ks.all (applies s' q.2) := by
  rw [completes, alternatives, List.all_filter]
  refine List.all_congr rfl fun q => ?_
  cases path? s q.1.rhs <;> simp [Bool.or_comm]

theorem rows_complete : (rows.toList.zipIdx.all fun q =>
    q.1.gotos.all fun e => completes q.2 e.1 (ahead e.2)) = true := by
  -- The productions of a nonterminal are looked up once, not at each of its transitions.
  have hall : allGotos (fun s n s' => (alternatives n).all fun q =>
      (path? s q.1.rhs).any fun e => (ahead s').all (applies e q.2)) = true := by
    decide +kernel
  simp only [completes_eq]
  exact hall

/-- A property of all rows holds of every state that has one. -/
theorem row_of_all {P : Row → Nat → Bool} (h : (rows.toList.zipIdx.all fun q => P q.1 q.2) = true)
    (s : Nat) : row s = {} ∨ P (row s) s = true := by
  unfold row
  rcases hs : rows[s]? with - | r
  · exact Or.inl rfl
  · refine Or.inr (List.all_eq_true.1 h (r, s) ?_)
    rw [List.mem_zipIdx_iff_getElem?, Array.getElem?_toList]
    exact hs

/-- A production of a nonterminal is read along its way and then applied. -/
theorem exists_path {s s' : Nat} {p : Production} (hp : p ∈ productions)
    (h : (row s).gotos.lookup p.lhs = some s') :
    ∃ e, path? s p.rhs = some e ∧ ∀ k ∈ ahead s', (row e).shifts.lookup k = none
      ∧ (row e).reduction? k = some p := by
  have hmem := mem_of_lookup h
  rcases row_of_all (P := fun r s => r.gotos.all fun e => completes s e.1 (ahead e.2))
    rows_complete s with hs | hs
  · rw [hs] at hmem
    cases hmem
  obtain ⟨i, hi⟩ := Array.mem_iff_getElem?.1 hp
  have hpi : (p, i) ∈ productions.toList.zipIdx := by
    rw [List.mem_zipIdx_iff_getElem?, Array.getElem?_toList]
    exact hi
  have hall := List.all_eq_true.1 (List.all_eq_true.1 hs _ hmem) _ hpi
  simp only [ne_eq, not_true_eq_false, decide_false, Bool.false_or] at hall
  split at hall
  · rename_i e he
    refine ⟨e, he, fun k hk => ?_⟩
    have happ := List.all_eq_true.1 hall k hk
    simp only [applies, Bool.and_eq_true, Option.isNone_iff_eq_none, decide_eq_true_eq] at happ
    refine ⟨happ.1, ?_⟩
    obtain ⟨q, hq, hqi⟩ := Option.map_eq_some_iff.1 happ.2
    rw [Row.reduction?, hq, Option.bind_some, hqi, hi]
  · cases hall

/-- A kind that is shifted is looked for. -/
theorem mem_ahead_of_shift {s s' : Nat} {k : Kind} (h : (row s).shifts.lookup k = some s') :
    k ∈ ahead s := by
  rw [ahead, List.append_assoc]
  exact List.mem_append_left _ (List.mem_map.2 ⟨_, mem_of_lookup h, rfl⟩)

/-- A kind in front of which a production is applied is looked for. -/
theorem mem_ahead_of_reduction {s : Nat} {k : Kind} {p : Production}
    (h : (row s).reduction? k = some p) : k ∈ ahead s := by
  obtain ⟨q, hq, -⟩ := Option.bind_eq_some_iff.1 h
  have hk : k ∈ q.2 := by simpa using List.find?_some hq
  rw [ahead]
  exact List.mem_append_left _ (List.mem_append_right _
    (List.mem_flatMap.2 ⟨q, List.mem_of_find?_eq_some hq, hk⟩))

/-! ### The kind in front -/

/-- The kind of the first of some tokens, in front of another kind. -/
def firstKind (ts : List Token) (k : Kind) : Kind := (ts.head?.map (·.kind)).getD k

@[simp] theorem firstKind_nil (k : Kind) : firstKind [] k = k := rfl

@[simp] theorem firstKind_cons (t : Token) (ts : List Token) (k : Kind) :
    firstKind (t :: ts) k = t.kind := rfl

theorem firstKind_append (ts us : List Token) (k : Kind) :
    firstKind (ts ++ us) k = firstKind ts (firstKind us k) := by
  cases ts <;> rfl

/-- A state looks for what the symbols on a way from it derive, and for what follows them where
they derive nothing. -/
theorem YieldsAll.firstKind_mem {xs : List Symbol} {parts : List (List Value)} {ts : List Token}
    (h : YieldsAll xs parts ts) {s s' : Nat} {k : Kind} (hpath : path? s xs = some s')
    (hk : k ∈ ahead s') : firstKind ts k ∈ ahead s := by
  induction h generalizing s s' k with
  | nil =>
    cases hpath
    exact hk
  | token t _ _ =>
    obtain ⟨s₁, hs₁, -⟩ := Option.bind_eq_some_iff.1 hpath
    exact mem_ahead_of_shift hs₁
  | production hp _ _ ih ih' =>
    obtain ⟨s₁, hs₁, hrest⟩ := Option.bind_eq_some_iff.1 hpath
    obtain ⟨e, he, happ⟩ := exists_path hp hs₁
    rw [firstKind_append]
    exact ih he (mem_ahead_of_reduction (happ _ (ih' hrest hk)).2)

/-! ### Moves -/

/-- The machine goes from one stack and rest of the text to another, without completing the
text. -/
inductive Moves (c : Context) : Stack → List Token → Stack → List Token → Prop where
  | refl (stack : Stack) (ts : List Token) : Moves c stack ts stack ts
  | shift {stack stack' : Stack} {t : Token} {ts ts' : List Token} {s : Nat}
      (hs : (row (top stack)).shifts.lookup t.kind = some s)
      (h : Moves c (⟨s, [.token t]⟩ :: stack) ts stack' ts') : Moves c stack (t :: ts) stack' ts'
  | reduce {stack stack' next : Stack} {ts ts' : List Token} {p : Production}
      (hs : (row (top stack)).shifts.lookup (firstKind ts .endOfFileToken) = none)
      (hp : (row (top stack)).reduction? (firstKind ts .endOfFileToken) = some p)
      (hr : reduce p stack = some next) (hend : top next ≠ c.endState)
      (h : Moves c next ts stack' ts') : Moves c stack ts stack' ts'

theorem Moves.trans {c : Context} {stack stack' stack'' : Stack} {ts ts' ts'' : List Token}
    (h : Moves c stack ts stack' ts') (h' : Moves c stack' ts' stack'' ts'') :
    Moves c stack ts stack'' ts'' := by
  induction h with
  | refl => exact h'
  | shift hs _ ih => exact .shift hs (ih h')
  | reduce hs hp hr hend _ ih => exact .reduce hs hp hr hend (ih h')

theorem productions_rhs_ne_start : (productions.all fun p =>
    p.rhs.all fun x => contexts.all fun c => x ≠ .nonterminal c.start) = true := by
  decide +kernel

/-- No production asks for a start symbol. -/
theorem rhs_ne_start (c : Context) {p : Production} (hp : p ∈ productions) :
    ∀ x ∈ p.rhs, x ≠ .nonterminal c.start := by
  intro x hx
  have hall := Array.all_eq_true_iff_forall_mem.1 productions_rhs_ne_start p hp
  have hc := List.all_eq_true.1 (List.all_eq_true.1 hall x hx) c c.mem_contexts
  simpa using hc

/-- The frames of a right-hand side are replaced by one for the left-hand side. -/
theorem reduce_frames {p : Production} {frames stack : Stack} {s : Nat}
    (hlen : frames.length = p.rhs.length) (hs : (row (top stack)).gotos.lookup p.lhs = some s) :
    reduce p (frames ++ stack)
      = some (⟨s, p.builds.apply (frames.reverse.map (·.parts))⟩ :: stack) := by
  simp only [reduce, ← hlen, List.drop_left, List.take_left, hs, Option.map_some]

/-- The machine follows a derivation: it takes the tokens and leaves one frame for each
symbol. -/
theorem YieldsAll.moves {c : Context} {xs : List Symbol} {parts : List (List Value)}
    {ts : List Token} (h : YieldsAll xs parts ts) (hxs : ∀ x ∈ xs, x ≠ .nonterminal c.start)
    {stack : Stack} {s : Nat} (hpath : path? (top stack) xs = some s) {rest : List Token}
    (hrest : firstKind rest .endOfFileToken ∈ ahead s) :
    ∃ frames : Stack, top (frames ++ stack) = s ∧ frames.length = xs.length
      ∧ frames.reverse.map (·.parts) = parts ∧ Moves c stack (ts ++ rest) (frames ++ stack) rest := by
  induction h generalizing stack s rest with
  | nil =>
    cases hpath
    exact ⟨[], rfl, rfl, rfl, .refl _ _⟩
  | @token xs parts ts t _ ih =>
    obtain ⟨s₁, hs₁, hpath⟩ := Option.bind_eq_some_iff.1 hpath
    have hpath : path? (top (⟨s₁, [.token t]⟩ :: stack)) xs = some s := hpath
    obtain ⟨frames, htop, hlen, hparts, hmoves⟩ :=
      ih (fun x hx => hxs x (List.mem_cons_of_mem _ hx)) hpath hrest
    refine ⟨frames ++ [⟨s₁, [.token t]⟩], ?_, ?_, ?_, ?_⟩
    · simpa using htop
    · simp [hlen]
    · simp [hparts]
    · rw [List.append_assoc]
      exact .shift hs₁ hmoves
  | @production p parts ts xs rest' us hp hrhs htail ih ih' =>
    obtain ⟨s₁, hs₁, hpath⟩ := Option.bind_eq_some_iff.1 hpath
    obtain ⟨e, he, happ⟩ := exists_path hp hs₁
    -- what follows the production is looked for behind its left-hand side
    have hnext : firstKind (us ++ rest) .endOfFileToken ∈ ahead s₁ := by
      rw [firstKind_append]
      exact htail.firstKind_mem hpath hrest
    obtain ⟨hshift, hred⟩ := happ _ hnext
    obtain ⟨frames, htop, hlen, hparts, hmoves⟩ :=
      ih (rhs_ne_start c hp) he (mem_ahead_of_reduction hred)
    have hreduce := reduce_frames hlen hs₁
    rw [hparts] at hreduce
    have hend : s₁ ≠ c.endState := by
      rintro rfl
      exact hxs _ List.mem_cons_self (Leads.of_goto hs₁).endState.2
    have hpath : path? (top (⟨s₁, p.builds.apply parts⟩ :: stack)) xs = some s := hpath
    obtain ⟨frames', htop', hlen', hparts', hmoves'⟩ :=
      ih' (fun x hx => hxs x (List.mem_cons_of_mem _ hx)) hpath hrest
    refine ⟨frames' ++ [⟨s₁, p.builds.apply parts⟩], ?_, ?_, ?_, ?_⟩
    · simpa using htop'
    · simp [hlen']
    · simp [hparts']
    · rw [List.append_assoc, List.append_assoc]
      refine hmoves.trans (.reduce ?_ ?_ hreduce hend hmoves')
      · rw [htop]; exact hshift
      · rw [htop]; exact hred

/-! ### The bound on reductions -/

/-- How many productions with one symbol can be applied to a symbol, one after the other. -/
def level : Symbol → Nat
  | .terminal _ => 15
  | .nonterminal n =>
    match n with
    | .identifierName | .literalExpression | .parenthesizedExpression | .genericName
    | .qualifiedName => 14
    | .primary => 13
    | .suffixed => 12
    | .unary => 11
    | .multiplicative => 10
    | .additive => 9
    | .relational => 8
    | .equality => 7
    | .logicalAnd => 6
    | .logicalOr => 5
    | .assignment => 4
    | .expression | .publics | .name | .block | .localDeclarationStatement | .returnStatement
    | .expressionStatement | .ifStatement | .whileStatement | .breakStatement
    | .continueStatement | .functionDeclaration | .structDeclaration | .constDeclaration => 3
    | .member | .statement | .importDirective => 2
    | .imports | .members => 1
    | _ => 0

theorem level_lt (x : Symbol) : level x < 16 := by
  unfold level
  repeat' split
  all_goals omega

theorem productions_level : (productions.all fun p =>
    match p.rhs with
    | [x] => level (.nonterminal p.lhs) < level x
    | _ => true) = true := by
  decide +kernel

/-- More than the number of reductions that a stack of some symbols allows. -/
def cost : List Symbol → Nat
  | [] => 0
  | x :: xs => 16 * xs.length + level x

/-- A production with symbols lowers the cost. -/
theorem cost_reduce {p : Production} (hp : p ∈ productions) (hne : p.rhs ≠ []) (zs : List Symbol) :
    cost (.nonterminal p.lhs :: zs) < cost (p.rhs.reverse ++ zs) := by
  have hall := Array.all_eq_true_iff_forall_mem.1 productions_level p hp
  have hlevel := level_lt (.nonterminal p.lhs)
  cases hrev : p.rhs.reverse with
  | nil => exact absurd (List.reverse_eq_nil_iff.1 hrev) hne
  | cons x ys =>
    cases ys with
    | nil =>
      have hone : p.rhs = [x] := by rw [← List.reverse_reverse p.rhs, hrev, List.reverse_singleton]
      rw [hone] at hall
      simp only [decide_eq_true_eq] at hall
      simp only [cost, List.cons_append, List.nil_append]
      omega
    | cons y ys =>
      simp only [cost, List.cons_append, List.length_cons, List.length_append]
      omega

/-- A production without symbols is applied only where none is applied after it. -/
def endsEmpty (s : Nat) (r : Row) : Bool :=
  r.reductions.all fun q =>
    match productions[q.1]? with
    | some p => p.rhs ≠ [] || (match (row s).gotos.lookup p.lhs with
      | some s' => (row s').reductions.isEmpty
      | none => true)
    | none => true

theorem rows_endsEmpty : (rows.toList.zipIdx.all fun q => endsEmpty q.2 q.1) = true := by
  decide +kernel

theorem reductions_of_empty {s s' : Nat} {k : Kind} {p : Production}
    (hp : (row s).reduction? k = some p) (hrhs : p.rhs = [])
    (hs : (row s).gotos.lookup p.lhs = some s') : (row s').reductions = [] := by
  obtain ⟨q, hq, hi⟩ := Option.bind_eq_some_iff.1 hp
  have hmem := List.mem_of_find?_eq_some hq
  rcases row_of_all (P := fun r s => endsEmpty s r) rows_endsEmpty s with hrow | hrow
  · rw [hrow] at hmem
    cases hmem
  · have hall := List.all_eq_true.1 hrow q hmem
    simpa [hi, hrhs, hs] using hall

theorem Stacked.length_eq {c : Context} {stack : Stack} {xs : List Symbol} {ts : List Token}
    (h : Stacked c stack xs ts) : stack.length = xs.length + 1 := by
  induction h with
  | initial => rfl
  | push _ _ _ ih => simp [ih]

variable {c : Context} {stack : Stack} {xs : List Symbol} {ts : List Token}

/-- Behind a production without symbols no other one is applied. -/
theorem reduction?_behind_empty {k : Kind} {p : Production} {next : Stack}
    (hp : (row (top stack)).reduction? k = some p) (hrhs : p.rhs = [])
    (hr : reduce p stack = some next) (j : Kind) : (row (top next)).reduction? j = none := by
  simp only [reduce, hrhs, List.length_nil, List.drop_zero, Option.map_eq_some_iff] at hr
  obtain ⟨s, hs, rfl⟩ := hr
  have hred : (row s).reductions = [] := reductions_of_empty hp hrhs hs
  simp [top, Row.reduction?, hred]

/-- More fuel than the cost of the stack makes no difference. -/
theorem feedFrom_fuel {k : Kind} {v : Value} {fuel fuel' : Nat} (h : Stacked c stack xs ts)
    (hcost : cost xs + 2 ≤ fuel) (hle : fuel ≤ fuel') :
    feedFrom c.endState k v fuel' stack = feedFrom c.endState k v fuel stack := by
  induction fuel generalizing stack xs fuel' with
  | zero => omega
  | succ fuel ih =>
    obtain ⟨fuel', rfl⟩ : ∃ m, fuel' = m + 1 := ⟨fuel' - 1, by omega⟩
    simp only [feedFrom]
    split
    · rfl
    split
    · rfl
    rename_i next hnext
    obtain ⟨p, hp, hr⟩ := Option.bind_eq_some_iff.1 hnext
    split
    · rfl
    by_cases hrhs : p.rhs = []
    · have hnone := reduction?_behind_empty hp hrhs hr
      obtain ⟨fuel, rfl⟩ : ∃ m, fuel = m + 1 := ⟨fuel - 1, by omega⟩
      obtain ⟨fuel', rfl⟩ : ∃ m, fuel' = m + 1 := ⟨fuel' - 1, by omega⟩
      simp only [feedFrom, hnone, Option.bind_none]
    · obtain ⟨zs, rfl, hnext⟩ := h.reduce hp hr
      have hless := cost_reduce (reduction?_past hp).1 hrhs zs
      exact ih hnext (by omega) (by omega)

/-! ### Feeding -/

/-- With enough fuel, feeding comes to an outcome. -/
def Feeds (c : Context) (k : Kind) (v : Value) (stack : Stack) (o : Outcome) : Prop :=
  ∃ n, ∀ fuel, n ≤ fuel → feedFrom c.endState k v fuel stack = o

/-- The bound on reductions is more than the cost of the stack. -/
theorem Stacked.cost_le (h : Stacked c stack xs ts) : cost xs + 2 ≤ reductionBound stack := by
  rw [reductionBound, h.length_eq]
  cases xs with
  | nil => simp only [cost]; omega
  | cons x xs =>
    have := level_lt x
    simp only [cost, List.length_cons]
    omega

/-- The bound on reductions is enough fuel. -/
theorem Feeds.bounded {k : Kind} {v : Value} {o : Outcome} (h : Feeds c k v stack o)
    (hstack : Stacked c stack xs ts) :
    feedFrom c.endState k v (reductionBound stack) stack = o := by
  obtain ⟨n, hn⟩ := h
  rw [← feedFrom_fuel hstack hstack.cost_le (Nat.le_max_right n _)]
  exact hn _ (Nat.le_max_left n _)

theorem Feeds.shift {k : Kind} {v : Value} {s : Nat}
    (h : (row (top stack)).shifts.lookup k = some s) :
    Feeds c k v stack (.shifted (⟨s, [v]⟩ :: stack)) := by
  refine ⟨1, fun fuel hfuel => ?_⟩
  obtain ⟨fuel, rfl⟩ : ∃ m, fuel = m + 1 := ⟨fuel - 1, by omega⟩
  simp only [feedFrom, h]

theorem Feeds.reduce {k : Kind} {v : Value} {p : Production} {next : Stack} {o : Outcome}
    (hs : (row (top stack)).shifts.lookup k = none)
    (hp : (row (top stack)).reduction? k = some p) (hr : Grammar.reduce p stack = some next)
    (hend : top next ≠ c.endState) (h : Feeds c k v next o) : Feeds c k v stack o := by
  obtain ⟨n, hn⟩ := h
  refine ⟨n + 1, fun fuel hfuel => ?_⟩
  obtain ⟨fuel, rfl⟩ : ∃ m, fuel = m + 1 := ⟨fuel - 1, by omega⟩
  simp only [feedFrom, hs, hp, Option.bind_some, hr, hend, decide_false, Bool.and_false,
    Bool.false_eq_true, if_false]
  exact hn fuel (by omega)

theorem Feeds.accept {v : Value} {p : Production} {vs : List Value}
    (hs : (row (top stack)).shifts.lookup .endOfFileToken = none)
    (hp : (row (top stack)).reduction? .endOfFileToken = some p) {below : Stack}
    (hr : Grammar.reduce p stack = some (⟨c.endState, vs⟩ :: below)) :
    Feeds c .endOfFileToken v stack (.accepted vs) := by
  refine ⟨1, fun fuel hfuel => ?_⟩
  obtain ⟨fuel, rfl⟩ : ∃ m, fuel = m + 1 := ⟨fuel - 1, by omega⟩
  have htop : top (⟨c.endState, vs⟩ :: below) = c.endState := rfl
  simp only [feedFrom, hs, hp, Option.bind_some, hr, htop, decide_true, Bool.and_self, if_true]
  rfl

/-- Moves that take a first token feed it. -/
theorem Moves.feed {stack' : Stack} {t : Token} (h : Moves c stack (t :: ts) stack' []) :
    ∃ next, Feeds c t.kind (.token t) stack (.shifted next) ∧ Moves c next ts stack' [] := by
  generalize hus : t :: ts = us at h
  generalize hend : ([] : List Token) = vs at h
  induction h with
  | refl => rw [← hus] at hend; cases hend
  | shift hs h =>
    cases hus
    cases hend
    exact ⟨_, .shift hs, h⟩
  | reduce hs hp hr hgoal _ ih =>
    obtain ⟨next, hfeeds, hmoves⟩ := ih hus hend
    subst hus
    exact ⟨next, .reduce hs hp hr hgoal hfeeds, hmoves⟩

/-- Moves at the end of the text lead to where the text ends. -/
theorem Moves.finish {stack' : Stack} {ts' : List Token} {v : Value} {o : Outcome}
    (h : Moves c stack ts stack' ts') (hts : ts = [])
    (hend : Feeds c .endOfFileToken v stack' o) : Feeds c .endOfFileToken v stack o := by
  induction h with
  | refl => exact hend
  | shift => cases hts
  | reduce hs hp hr hgoal _ ih =>
    subst hts
    exact .reduce hs hp hr hgoal (ih rfl hend)

end TreeQuote.Grammar
