/-
TreeQuote/Proofs/Grammar/Rules.lean

The grammar of Drift as it is written: one pattern for each rule, with optional, repeated and
alternative parts.  `Matches` says which sequences of kinds a pattern derives; it knows nothing
of productions, tables or the machine.

The productions are this grammar written out.  A repeated part has a nonterminal of its own,
which derives the part once or more often, so a pattern expands to finitely many right-hand
sides.

Main statement: `matches_iff_derives`, a rule derives a sequence of kinds exactly when its
productions do.
-/
import TreeQuote.Proofs.Grammar.Derivation

namespace TreeQuote.Grammar

/-! ### Patterns -/

/-- The right-hand side of a rule. -/
inductive Pattern where
  | empty
  | fail
  | token (k : Kind)
  | rule (n : Nonterminal)
  | seq (p q : Pattern)
  | alt (p q : Pattern)
  | opt (p : Pattern)
  | many (p : Pattern)
  deriving DecidableEq

namespace Pattern

/-- Patterns one after the other. -/
def all : List Pattern → Pattern
  | [] => .empty
  | p :: ps => .seq p (all ps)

/-- One of several patterns. -/
def any : List Pattern → Pattern
  | [] => .fail
  | p :: ps => .alt p (any ps)

/-- A left-associative operator: the operand of the next level, or an operation on it. -/
def operators (self next : Nonterminal) (ks : List Kind) : Pattern :=
  .any (.rule next :: ks.map fun k => .all [.rule self, .token k, .rule next])

end Pattern

open Pattern in
/-- The rules.  The nonterminals of repeated parts are no rules and derive nothing. -/
def rule : Nonterminal → Pattern
  | .compilationUnit => all [many (.rule .importDirective), many (.rule .member)]
  | .memberContext => .rule .member
  | .statementContext => .rule .statement
  | .expressionContext => .rule .expression
  -- imports
  | .importDirective =>
    all [token .importKeyword, .rule .name, opt (.rule .importAlias), token .semicolonToken]
  | .importAlias => all [token .asKeyword, .rule .identifierName]
  -- declarations
  | .member =>
    any [.rule .functionDeclaration, .rule .structDeclaration, .rule .constDeclaration]
  | .modifiers => many (token .pubKeyword)
  | .functionDeclaration =>
    all [.rule .modifiers, token .fnKeyword, token .identifierToken, .rule .parameterList,
      opt (.rule .returnClause), .rule .block]
  | .parameterList =>
    all [token .openParenToken,
      opt (all [.rule .parameter, many (all [token .commaToken, .rule .parameter])]),
      token .closeParenToken]
  | .parameter => all [token .identifierToken, token .colonToken, .rule .type]
  | .returnClause => all [token .returnsKeyword, .rule .type]
  | .structDeclaration =>
    all [.rule .modifiers, token .structKeyword, token .identifierToken, token .openBraceToken,
      opt (all [.rule .fieldDeclaration, many (all [token .commaToken, .rule .fieldDeclaration])]),
      token .closeBraceToken, opt (token .semicolonToken)]
  | .fieldDeclaration => all [token .identifierToken, token .colonToken, .rule .type]
  | .constDeclaration =>
    all [token .constKeyword, token .identifierToken, token .colonToken, .rule .type,
      token .equalsToken, .rule .expression, token .semicolonToken]
  -- types and names
  | .type => .rule .name
  | .name => any [.rule .identifierName, .rule .genericName, .rule .qualifiedName]
  | .identifierName => token .identifierToken
  | .genericName => all [token .identifierToken, .rule .typeArgumentList]
  | .qualifiedName => all [.rule .name, token .dotToken, .rule .identifierName]
  | .typeArgumentList =>
    all [token .lessThanToken, .rule .type, many (all [token .commaToken, .rule .type]),
      token .greaterThanToken]
  -- statements
  | .statement =>
    any [.rule .block, .rule .localDeclarationStatement, .rule .returnStatement,
      .rule .expressionStatement, .rule .ifStatement, .rule .whileStatement,
      .rule .breakStatement, .rule .continueStatement]
  | .block => all [token .openBraceToken, many (.rule .statement), token .closeBraceToken]
  | .localDeclarationStatement =>
    all [.rule .bindingKeyword, token .identifierToken, opt (.rule .typeClause),
      .rule .equalsValueClause, token .semicolonToken]
  | .bindingKeyword => any [token .valKeyword, token .varKeyword]
  | .typeClause => all [token .colonToken, .rule .type]
  | .equalsValueClause => all [token .equalsToken, .rule .expression]
  | .returnStatement =>
    all [token .returnKeyword, opt (.rule .expression), token .semicolonToken]
  | .expressionStatement => all [.rule .expression, token .semicolonToken]
  | .ifStatement =>
    all [token .ifKeyword, .rule .expression, .rule .block, opt (.rule .elseClause)]
  | .elseClause =>
    any [all [token .elseKeyword, .rule .block], all [token .elseKeyword, .rule .ifStatement]]
  | .whileStatement => all [token .whileKeyword, .rule .expression, .rule .block]
  | .breakStatement => all [token .breakKeyword, token .semicolonToken]
  | .continueStatement => all [token .continueKeyword, token .semicolonToken]
  -- expressions, lowest precedence first
  | .expression => .rule .assignment
  | .assignment =>
    any [.rule .logicalOr, all [.rule .logicalOr, token .equalsToken, .rule .assignment]]
  | .logicalOr => operators .logicalOr .logicalAnd [.barBarToken]
  | .logicalAnd => operators .logicalAnd .equality [.ampersandAmpersandToken]
  | .equality => operators .equality .relational [.equalsEqualsToken, .exclamationEqualsToken]
  | .relational =>
    operators .relational .additive
      [.lessThanToken, .greaterThanToken, .lessThanEqualsToken, .greaterThanEqualsToken]
  | .additive => operators .additive .multiplicative [.plusToken, .minusToken]
  | .multiplicative =>
    operators .multiplicative .unary [.asteriskToken, .slashToken, .percentToken]
  | .unary =>
    any [.rule .suffixed, all [token .minusToken, .rule .unary],
      all [token .exclamationToken, .rule .unary]]
  | .suffixed =>
    any [.rule .primary, all [.rule .suffixed, .rule .argumentList],
      all [.rule .suffixed, token .dotToken, .rule .identifierName]]
  | .primary =>
    any [.rule .identifierName, .rule .literalExpression, .rule .parenthesizedExpression]
  | .literalExpression =>
    any [token .numericLiteralToken, token .stringLiteralToken, token .trueKeyword,
      token .falseKeyword]
  | .parenthesizedExpression =>
    all [token .openParenToken, .rule .expression, token .closeParenToken]
  | .argumentList =>
    all [token .openParenToken,
      opt (all [.rule .argument, many (all [token .commaToken, .rule .argument])]),
      token .closeParenToken]
  | .argument => .rule .expression
  | .imports | .members | .publics | .moreParameters | .moreFields | .moreTypes | .statements
  | .moreArguments => .fail

/-- The pattern derives the kinds. -/
inductive Matches : Pattern → List Kind → Prop where
  | empty : Matches .empty []
  | token (k : Kind) : Matches (.token k) [k]
  | rule {n : Nonterminal} {ks : List Kind} (h : Matches (rule n) ks) : Matches (.rule n) ks
  | seq {p q : Pattern} {ks js : List Kind} (hp : Matches p ks) (hq : Matches q js) :
      Matches (.seq p q) (ks ++ js)
  | left {p : Pattern} (q : Pattern) {ks : List Kind} (h : Matches p ks) : Matches (.alt p q) ks
  | right (p : Pattern) {q : Pattern} {ks : List Kind} (h : Matches q ks) : Matches (.alt p q) ks
  | absent (p : Pattern) : Matches (.opt p) []
  | present {p : Pattern} {ks : List Kind} (h : Matches p ks) : Matches (.opt p) ks
  | none (p : Pattern) : Matches (.many p) []
  | more {p : Pattern} {ks js : List Kind} (h : Matches (.many p) ks) (hp : Matches p js) :
      Matches (.many p) (ks ++ js)

/-! ### Expansion -/

/-- The nonterminals of the repeated parts: each derives its part once or more often. -/
def repeated : List (Pattern × Nonterminal) :=
  [(.rule .importDirective, .imports), (.rule .member, .members),
   (.token .pubKeyword, .publics),
   (.all [.token .commaToken, .rule .parameter], .moreParameters),
   (.all [.token .commaToken, .rule .fieldDeclaration], .moreFields),
   (.all [.token .commaToken, .rule .type], .moreTypes),
   (.rule .statement, .statements),
   (.all [.token .commaToken, .rule .argument], .moreArguments)]

/-- The right-hand sides that a pattern stands for. -/
def Pattern.expansions : Pattern → List (List Symbol)
  | .empty => [[]]
  | .fail => []
  | .token k => [[t k]]
  | .rule n => [[.nonterminal n]]
  | .seq p q => p.expansions.flatMap fun xs => q.expansions.map fun ys => xs ++ ys
  | .alt p q => p.expansions ++ q.expansions
  | .opt p => [] :: p.expansions
  | .many p =>
    match repeated.lookup p with
    | some h => [[], [.nonterminal h]]
    | Option.none => []

/-- The nonterminal of no repeated part. -/
def isRule (m : Nonterminal) : Bool := repeated.all fun e => e.2 ≠ m

/-- The pattern is made of tokens and rules, and every repeated part has its nonterminal. -/
def Pattern.isExpandable : Pattern → Bool
  | .rule m => isRule m
  | .seq p q => p.isExpandable && q.isExpandable
  | .alt p q => p.isExpandable && q.isExpandable
  | .opt p => p.isExpandable
  | .many p => p.isExpandable && (repeated.lookup p).isSome
  | _ => true

/-! ### Derivation by productions -/

/-- The symbols derive the kinds one after the other. -/
inductive Derives : List Symbol → List Kind → Prop where
  | nil : Derives [] []
  | token (k : Kind) {xs : List Symbol} {ks : List Kind} (h : Derives xs ks) :
      Derives (.terminal k :: xs) (k :: ks)
  | production {p : Production} {xs : List Symbol} {ks js : List Kind} (hp : p ∈ productions)
      (h : Derives p.rhs ks) (hrest : Derives xs js) :
      Derives (.nonterminal p.lhs :: xs) (ks ++ js)

theorem Derives.append {xs ys : List Symbol} {ks js : List Kind} (h : Derives xs ks)
    (h' : Derives ys js) : Derives (xs ++ ys) (ks ++ js) := by
  induction h with
  | nil => exact h'
  | token k _ ih => exact .token k ih
  | production hp h _ _ ih =>
    rw [List.append_assoc]
    exact .production hp h ih

/-- A production derives what its right-hand side does. -/
theorem Derives.of_production {p : Production} {ks : List Kind} (hp : p ∈ productions)
    (h : Derives p.rhs ks) : Derives [.nonterminal p.lhs] ks := by
  have hone := Derives.production hp h .nil
  rwa [List.append_nil] at hone

/-- Derivations of kinds are derivations of tokens that have these kinds. -/
theorem derives_iff_yieldsAll {xs : List Symbol} {ts : List Token} :
    Derives xs (ts.map (·.kind)) ↔ ∃ parts, YieldsAll xs parts ts := by
  constructor
  · intro h
    generalize hks : ts.map (·.kind) = ks at h
    induction h generalizing ts with
    | nil =>
      obtain rfl := List.map_eq_nil_iff.1 hks
      exact ⟨[], .nil⟩
    | token k _ ih =>
      obtain ⟨u, us, rfl, rfl, hus⟩ := List.map_eq_cons_iff.1 hks
      obtain ⟨parts, h⟩ := ih hus
      exact ⟨_, .token u h⟩
    | production hp _ _ ih ih' =>
      obtain ⟨us, vs, rfl, hus, hvs⟩ := List.map_eq_append_iff.1 hks
      obtain ⟨parts, h⟩ := ih hus
      obtain ⟨rest, h'⟩ := ih' hvs
      exact ⟨_, .production hp h h'⟩
  · rintro ⟨parts, h⟩
    induction h with
    | nil => exact .nil
    | token u _ ih => exact .token u.kind ih
    | production hp _ _ ih ih' =>
      rw [List.map_append]
      exact .production hp ih ih'

/-! ### The productions are the rules written out -/

/-- The right-hand side is that of a production. -/
def hasProduction (m : Nonterminal) (xs : List Symbol) : Bool :=
  productions.toList.any fun p => p.lhs = m && p.rhs = xs

theorem exists_production {m : Nonterminal} {xs : List Symbol} (h : hasProduction m xs = true) :
    ∃ p ∈ productions, p.lhs = m ∧ p.rhs = xs := by
  obtain ⟨p, hp, heq⟩ := List.any_eq_true.1 h
  simp only [Bool.and_eq_true, decide_eq_true_eq] at heq
  exact ⟨p, Array.mem_toList_iff.1 hp, heq⟩

/-- Every right-hand side of a rule is that of a production. -/
theorem rule_expands (m : Nonterminal) :
    (rule m).isExpandable = true ∧ (rule m).expansions.all (hasProduction m) = true := by
  cases m <;> decide +kernel

/-- A repeated part is derived once, or behind others. -/
theorem repeated_expands : (repeated.all fun e => e.1.expansions.all fun xs =>
    hasProduction e.2 xs && hasProduction e.2 (.nonterminal e.2 :: xs)) = true := by
  decide +kernel

/-- A production writes out a rule, or a repeated part. -/
def writesOut (p : Production) : Bool :=
  (rule p.lhs).expansions.contains p.rhs
    || repeated.any fun e => e.2 = p.lhs
      && (e.1.expansions.contains p.rhs
        || e.1.expansions.any fun xs => p.rhs = .nonterminal e.2 :: xs)

theorem productions_writeOut : productions.toList.all writesOut = true := by
  decide +kernel

theorem repeated_fail : (repeated.all fun e => rule e.2 = .fail) = true := by
  decide +kernel

/-- The nonterminal of a repeated part derives it once, or behind others. -/
theorem repeated_productions {p : Pattern} {m : Nonterminal} (h : repeated.lookup p = some m)
    {xs : List Symbol} (hxs : xs ∈ p.expansions) {ks : List Kind} (hks : Derives xs ks) :
    Derives [.nonterminal m] ks
      ∧ ∀ js, Derives [.nonterminal m] js → Derives [.nonterminal m] (js ++ ks) := by
  obtain ⟨before, after, heq, -⟩ := List.lookup_eq_some_iff.1 h
  have hmem : (p, m) ∈ repeated := heq ▸ List.mem_append_right _ List.mem_cons_self
  have hall := List.all_eq_true.1 (List.all_eq_true.1 repeated_expands _ hmem) xs hxs
  obtain ⟨hone, hmore⟩ := Bool.and_eq_true_iff.1 hall
  obtain ⟨q, hq, hqlhs, hqrhs⟩ := exists_production hone
  obtain ⟨r, hr, hrlhs, hrrhs⟩ := exists_production hmore
  have hone := Derives.of_production hq (hqrhs ▸ hks)
  rw [hqlhs] at hone
  refine ⟨hone, fun js hjs => ?_⟩
  have hboth : Derives r.rhs (js ++ ks) := by
    rw [hrrhs]
    exact Derives.append hjs hks
  have hrest := Derives.of_production hr hboth
  rwa [hrlhs] at hrest

/-- What a pattern derives is derived by one of the right-hand sides it stands for. -/
theorem Matches.derives {p : Pattern} {ks : List Kind} (h : Matches p ks)
    (hp : p.isExpandable = true) : ∃ xs ∈ p.expansions, Derives xs ks := by
  induction h with
  | empty => exact ⟨[], List.mem_singleton.2 rfl, .nil⟩
  | token k => exact ⟨[t k], List.mem_singleton.2 rfl, .token k .nil⟩
  | @rule m ks _ ih =>
    obtain ⟨hexp, hall⟩ := rule_expands m
    obtain ⟨xs, hxs, hks⟩ := ih hexp
    obtain ⟨q, hq, rfl, rfl⟩ := exists_production (List.all_eq_true.1 hall xs hxs)
    exact ⟨_, List.mem_singleton.2 rfl, .of_production hq hks⟩
  | seq _ _ ih ih' =>
    obtain ⟨hp, hq⟩ := Bool.and_eq_true_iff.1 hp
    obtain ⟨xs, hxs, hks⟩ := ih hp
    obtain ⟨ys, hys, hjs⟩ := ih' hq
    exact ⟨xs ++ ys, List.mem_flatMap.2 ⟨xs, hxs, List.mem_map.2 ⟨ys, hys, rfl⟩⟩, hks.append hjs⟩
  | left q _ ih =>
    obtain ⟨xs, hxs, hks⟩ := ih (Bool.and_eq_true_iff.1 hp).1
    exact ⟨xs, List.mem_append_left _ hxs, hks⟩
  | right q _ ih =>
    obtain ⟨xs, hxs, hks⟩ := ih (Bool.and_eq_true_iff.1 hp).2
    exact ⟨xs, List.mem_append_right _ hxs, hks⟩
  | absent => exact ⟨[], List.mem_cons_self, .nil⟩
  | present _ ih =>
    obtain ⟨xs, hxs, hks⟩ := ih hp
    exact ⟨xs, List.mem_cons_of_mem _ hxs, hks⟩
  | none p =>
    obtain ⟨m, hm⟩ := Option.isSome_iff_exists.1 (Bool.and_eq_true_iff.1 hp).2
    exact ⟨[], by simp [Pattern.expansions, hm], .nil⟩
  | @more p ks js _ _ ih ih' =>
    obtain ⟨m, hm⟩ := Option.isSome_iff_exists.1 (Bool.and_eq_true_iff.1 hp).2
    obtain ⟨xs, hxs, hks⟩ := ih hp
    obtain ⟨ys, hys, hjs⟩ := ih' (Bool.and_eq_true_iff.1 hp).1
    obtain ⟨hone, hmore⟩ := repeated_productions hm hys hjs
    refine ⟨[.nonterminal m], by simp [Pattern.expansions, hm], ?_⟩
    simp only [Pattern.expansions, hm, List.mem_cons, List.not_mem_nil, or_false] at hxs
    rcases hxs with rfl | rfl
    · cases hks
      exact hone
    · exact hmore ks hks

/-! ### The rules say no less -/

/-- The pattern of a symbol: of a nonterminal for a repeated part, the part once or more often. -/
def Symbol.pattern : Symbol → Pattern
  | .terminal k => .token k
  | .nonterminal m =>
    match repeated.find? fun e => e.2 = m with
    | some e => .seq (.many e.1) e.1
    | none => .rule m

theorem matches_all_append {xs ys : List Symbol} {ks : List Kind}
    (h : Matches (.all ((xs ++ ys).map Symbol.pattern)) ks) :
    ∃ is js, ks = is ++ js ∧ Matches (.all (xs.map Symbol.pattern)) is
      ∧ Matches (.all (ys.map Symbol.pattern)) js := by
  induction xs generalizing ks with
  | nil => exact ⟨[], ks, rfl, .empty, h⟩
  | cons x xs ih =>
    cases h with
    | seq hx hrest =>
      obtain ⟨is, js, rfl, his, hjs⟩ := ih hrest
      exact ⟨_ ++ is, js, (List.append_assoc _ _ _).symm, .seq hx his, hjs⟩

theorem matches_all_singleton {x : Symbol} {ks : List Kind}
    (h : Matches (.all ([x].map Symbol.pattern)) ks) : Matches x.pattern ks := by
  cases h with
  | seq hx hrest =>
    cases hrest
    rwa [List.append_nil]

theorem pattern_of_isRule {m : Nonterminal} (h : isRule m = true) :
    (Symbol.nonterminal m).pattern = .rule m := by
  have hnone : (repeated.find? fun e => e.2 = m) = none := by
    rw [List.find?_eq_none]
    intro e he
    simpa using List.all_eq_true.1 h e he
  simp [Symbol.pattern, hnone]

theorem repeated_distinct :
    (repeated.all fun e => (repeated.find? fun f => f.2 = e.2) = some e) = true := by
  decide +kernel

theorem pattern_of_mem_repeated {e : Pattern × Nonterminal} (h : e ∈ repeated) :
    (Symbol.nonterminal e.2).pattern = .seq (.many e.1) e.1 := by
  have hfind := List.all_eq_true.1 repeated_distinct e h
  simp only [decide_eq_true_eq] at hfind
  simp [Symbol.pattern, hfind]

/-- A pattern derives what one of its right-hand sides does. -/
theorem Pattern.matches_of_expansion {p : Pattern} (hp : p.isExpandable = true) {xs : List Symbol}
    (hxs : xs ∈ p.expansions) {ks : List Kind}
    (h : Matches (.all (xs.map Symbol.pattern)) ks) : Matches p ks := by
  induction p generalizing xs ks with
  | empty =>
    obtain rfl := List.mem_singleton.1 hxs
    exact h
  | fail => cases hxs
  | token k =>
    obtain rfl := List.mem_singleton.1 hxs
    exact matches_all_singleton h
  | rule m =>
    obtain rfl := List.mem_singleton.1 hxs
    rw [← pattern_of_isRule hp]
    exact matches_all_singleton h
  | seq p q ihp ihq =>
    obtain ⟨hp, hq⟩ := Bool.and_eq_true_iff.1 hp
    obtain ⟨ys, hys, hxs⟩ := List.mem_flatMap.1 hxs
    obtain ⟨zs, hzs, rfl⟩ := List.mem_map.1 hxs
    obtain ⟨is, js, rfl, his, hjs⟩ := matches_all_append h
    exact .seq (ihp hp hys his) (ihq hq hzs hjs)
  | alt p q ihp ihq =>
    obtain ⟨hp, hq⟩ := Bool.and_eq_true_iff.1 hp
    rcases List.mem_append.1 hxs with hxs | hxs
    · exact .left q (ihp hp hxs h)
    · exact .right p (ihq hq hxs h)
  | opt p ih =>
    rcases List.mem_cons.1 hxs with rfl | hxs
    · cases h
      exact .absent p
    · exact .present (ih hp hxs h)
  | many p _ =>
    obtain ⟨m, hm⟩ := Option.isSome_iff_exists.1 (Bool.and_eq_true_iff.1 hp).2
    simp only [Pattern.expansions, hm, List.mem_cons, List.not_mem_nil, or_false] at hxs
    rcases hxs with rfl | rfl
    · cases h
      exact .none p
    · obtain ⟨before, after, heq, -⟩ := List.lookup_eq_some_iff.1 hm
      have hmem : (p, m) ∈ repeated := heq ▸ List.mem_append_right _ List.mem_cons_self
      have hone := matches_all_singleton h
      rw [pattern_of_mem_repeated hmem] at hone
      cases hone with
      | seq hmany hlast => exact .more hmany hlast

theorem repeated_isExpandable : (repeated.all fun e => e.1.isExpandable) = true := by
  decide +kernel

/-- A production builds what the pattern of its left-hand side derives. -/
theorem matches_of_production {p : Production} (hp : p ∈ productions) {ks : List Kind}
    (h : Matches (.all (p.rhs.map Symbol.pattern)) ks) :
    Matches (Symbol.nonterminal p.lhs).pattern ks := by
  have hw := List.all_eq_true.1 productions_writeOut p (Array.mem_toList_iff.2 hp)
  simp only [writesOut, Bool.or_eq_true, List.contains_iff_mem, List.any_eq_true,
    Bool.and_eq_true, decide_eq_true_eq] at hw
  rcases hw with hrule | ⟨e, he, hlhs, hrhs⟩
  · have hexp := (rule_expands p.lhs).1
    have hisRule : isRule p.lhs = true := by
      refine List.all_eq_true.2 fun e he => ?_
      have hfail : rule e.2 = .fail := by simpa using List.all_eq_true.1 repeated_fail e he
      rw [decide_eq_true_eq]
      intro heq
      rw [← heq, hfail] at hrule
      cases hrule
    rw [pattern_of_isRule hisRule]
    exact .rule (Pattern.matches_of_expansion hexp hrule h)
  · rw [← hlhs, pattern_of_mem_repeated he]
    have hexp := List.all_eq_true.1 repeated_isExpandable e he
    rcases hrhs with hone | ⟨xs, hxs, hmore⟩
    · exact .seq (.none e.1) (Pattern.matches_of_expansion hexp hone h)
    · rw [hmore, ← List.singleton_append] at h
      obtain ⟨is, js, rfl, his, hjs⟩ := matches_all_append h
      have hfirst := matches_all_singleton his
      rw [pattern_of_mem_repeated he] at hfirst
      cases hfirst with
      | seq hmany hlast =>
        exact .seq (.more hmany hlast) (Pattern.matches_of_expansion hexp hxs hjs)

/-- What symbols derive by productions, their patterns derive. -/
theorem Derives.matches {xs : List Symbol} {ks : List Kind} (h : Derives xs ks) :
    Matches (.all (xs.map Symbol.pattern)) ks := by
  induction h with
  | nil => exact .empty
  | token k _ ih => exact .seq (.token k) ih
  | production hp _ _ ih ih' => exact .seq (matches_of_production hp ih) ih'

/-- A rule derives a sequence of kinds exactly when its productions do. -/
theorem matches_iff_derives {m : Nonterminal} (hm : isRule m = true) {ks : List Kind} :
    Matches (.rule m) ks ↔ Derives [.nonterminal m] ks := by
  constructor
  · intro h
    obtain ⟨xs, hxs, hks⟩ := h.derives hm
    rwa [List.mem_singleton.1 hxs] at hks
  · intro h
    have hmatch := matches_all_singleton h.matches
    rwa [pattern_of_isRule hm] at hmatch

end TreeQuote.Grammar
