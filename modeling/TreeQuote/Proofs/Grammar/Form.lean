/-
TreeQuote/Proofs/Grammar/Form.lean

What the parts of a symbol look like.  Every symbol has a form, such as one token, one
node of a type, or commas and nodes taking turns, and so has every property of a node.
A finite check of the grammar says that each production puts parts of the right form in
each property, every part in one of them, and all of them in source order.

Main statement: `Yields.grown`, what a nonterminal builds has its form, every node in it
has the properties that its class asks for, and its leaves are the tokens, in order.
-/
import TreeQuote.Proofs.Grammar.Derivation
import TreeQuote.Proofs.Tree.Leaves
import TreeQuote.Proofs.Tree.Spelling

namespace TreeQuote.Grammar

/-! ### Forms -/

/-- What stands in a property, or what a symbol builds. -/
inductive Form where
  | nothing
  /-- A token of one of the kinds. -/
  | token (ks : List Kind)
  /-- A token of the kind, or nothing. -/
  | perhaps (k : Kind)
  /-- Tokens of the kind. -/
  | tokens (k : Kind)
  | node (t : NodeType)
  /-- A node or nothing. -/
  | optional (t : NodeType)
  | nodes (t : NodeType)
  /-- Commas and nodes taking turns, a comma first. -/
  | more (t : NodeType)
  /-- Nodes with commas between them. -/
  | separated (t : NodeType)
  deriving DecidableEq

/-- A token of one of the kinds. -/
def IsTokenOf (ks : List Kind) (v : Value) : Prop := ∃ t : Token, v = .token t ∧ t.kind ∈ ks

/-- Commas and nodes taking turns, a comma first. -/
inductive More (t : NodeType) : List Value → Prop where
  | nil : More t []
  | cons {c v : Value} {vs : List Value} (hc : IsTokenOf [.commaToken] c)
      (hv : v.isNodeOf t = true) (h : More t vs) : More t (c :: v :: vs)

/-- One more turn at the end. -/
theorem More.concat {t : NodeType} {vs : List Value} {c v : Value} (h : More t vs)
    (hc : IsTokenOf [.commaToken] c) (hv : v.isNodeOf t = true) : More t (vs ++ [c, v]) := by
  induction h with
  | nil => exact .cons hc hv .nil
  | cons hc' hv' _ ih => exact .cons hc' hv' ih

namespace Form

/-- The values are what the form says. -/
def Takes : Form → List Value → Prop
  | .nothing, vs => vs = []
  | .token ks, vs => ∃ v, vs = [v] ∧ IsTokenOf ks v
  | .perhaps k, vs => vs = [] ∨ ∃ v, vs = [v] ∧ IsTokenOf [k] v
  | .tokens k, vs => ∀ v ∈ vs, IsTokenOf [k] v
  | .node t, vs => ∃ v, vs = [v] ∧ v.isNodeOf t = true
  | .optional t, vs => vs = [] ∨ ∃ v, vs = [v] ∧ v.isNodeOf t = true
  | .nodes t, vs => ∀ v ∈ vs, v.isNodeOf t = true
  | .more t, vs => More t vs
  | .separated t, vs => vs = [] ∨ ∃ v ws, vs = v :: ws ∧ v.isNodeOf t = true ∧ More t ws

/-- The value of a property is made of what the form says. -/
def Holds : Form → Value → Prop
  | .nothing, v => ∃ k, v = .kind k
  | .token ks, v => IsTokenOf ks v
  | .perhaps k, v => v = .token .absent ∨ IsTokenOf [k] v
  | .tokens k, v => ∃ vs, v = .tokens vs ∧ (Form.tokens k).Takes vs
  | .node t, v => v.isNodeOf t = true
  | .optional t, v => v = .none ∨ v.isNodeOf t = true
  | .nodes t, v => ∃ vs, v = .nodes vs ∧ (Form.nodes t).Takes vs
  | .separated t, v => ∃ vs, v = .separated vs ∧ (Form.separated t).Takes vs
  | .more _, _ => False

/-- The shape of a property with the form. -/
def shape : Form → Shape
  | .nothing => .kind
  | .token _ => .token
  | .perhaps _ => .token
  | .tokens _ => .tokens
  | .node t => .node t
  | .optional t => .optional (.node t)
  | .nodes t => .nodes (some t)
  | .separated t => .separated (some t)
  | .more _ => .any

/-- One value, which the property holds as it is. -/
def isSingle : Form → Bool
  | .nothing => true
  | .token _ => true
  | .node _ => true
  | _ => false

end Form

/-- What holds of a value by its form holds of all properties. -/
theorem forall_holds {P : Value → Prop} {fs : List Form} {vs : List Value}
    (h : List.Forall₂ Form.Holds fs vs) (hP : ∀ f ∈ fs, ∀ v ∈ vs, f.Holds v → P v) :
    ∀ v ∈ vs, P v := by
  induction h with
  | nil => exact List.forall_mem_nil _
  | cons hv _ ih =>
    refine List.forall_mem_cons.2 ⟨hP _ List.mem_cons_self _ List.mem_cons_self hv, ?_⟩
    exact ih fun f hf v hv => hP f (List.mem_cons_of_mem _ hf) v (List.mem_cons_of_mem _ hv)

/-- Properties in two parts. -/
theorem holds_append {fs gs : List Form} {vs : List Value}
    (h : List.Forall₂ Form.Holds (fs ++ gs) vs) :
    ∃ us ws, vs = us ++ ws ∧ List.Forall₂ Form.Holds fs us ∧ List.Forall₂ Form.Holds gs ws := by
  have hfront := List.forall₂_take fs.length h
  have hback := List.forall₂_drop fs.length h
  rw [List.take_left] at hfront
  rw [List.drop_left] at hback
  exact ⟨_, _, (List.take_append_drop fs.length vs).symm, hfront, hback⟩

/-! ### Parts that make up a form -/

/-- Every class of the first type is one of the second. -/
def within (s t : NodeType) : Bool :=
  (NodeClass.pair :: NodeClass.all).all fun c => !s.holds c || t.holds c

theorem isNodeOf_within {s t : NodeType} {v : Value} (h : within s t = true)
    (hv : v.isNodeOf s = true) : v.isNodeOf t = true := by
  cases v with
  | node c vs =>
    have hc := List.all_eq_true.1 h c c.mem_pair_all
    have hs : s.holds c = true := hv
    show t.holds c = true
    simpa [hs] using hc
  | _ => exact absurd hv Bool.false_ne_true

/-- Parts of the forms, one after the other, make up a form. -/
def covers : List Form → Form → Bool
  | [], f =>
    match f with
    | .token _ | .node _ => false
    | _ => true
  | [.token ks], .token js => ks.all js.contains
  | [.token ks], .perhaps k => ks = [k]
  | [.token ks], .tokens k => ks = [k]
  | [.tokens j], .tokens k => j = k
  | [.tokens j, .token ks], .tokens k => j = k && ks = [k]
  | [.node s], .node t => within s t
  | [.node s], .optional t => within s t
  | [.node s], .nodes t => within s t
  | [.node s], .separated t => within s t
  | [.nodes s], .nodes t => within s t
  | [.nodes s, .node s'], .nodes t => within s t && within s' t
  | [.token ks, .node s], .more t => ks = [.commaToken] && within s t
  | [.more s, .token ks, .node s'], .more t => s = t && ks = [.commaToken] && within s' t
  | [.node s, .more s'], .separated t => within s t && s' = t
  | _, _ => false

/-- No parts are taken by every form that does not ask for one. -/
theorem takes_nil {f : Form} (h : covers [] f = true) : f.Takes [] := by
  cases f with
  | token => cases h
  | node => cases h
  | nothing => rfl
  | more => exact .nil
  | perhaps => exact Or.inl rfl
  | optional => exact Or.inl rfl
  | separated => exact Or.inl rfl
  | tokens => exact fun v hv => absurd hv List.not_mem_nil
  | nodes => exact fun v hv => absurd hv List.not_mem_nil

section Parts

variable {f g : Form} {parts : List (List Value)}

theorem forall₂_one (h : List.Forall₂ Form.Takes [f] parts) :
    ∃ vs, parts.flatten = vs ∧ f.Takes vs := by
  cases h with
  | cons hf hrest =>
    cases hrest
    exact ⟨_, List.append_nil _, hf⟩

theorem forall₂_two (h : List.Forall₂ Form.Takes [f, g] parts) :
    ∃ vs ws, parts.flatten = vs ++ ws ∧ f.Takes vs ∧ g.Takes ws := by
  cases h with
  | cons hf hrest =>
    obtain ⟨ws, hws, hg⟩ := forall₂_one hrest
    exact ⟨_, ws, congrArg _ hws, hf, hg⟩

/-- A token of a list of one kind. -/
theorem isTokenOf_singleton {ks : List Kind} {k : Kind} {v : Value} (h : ks = [k])
    (hv : IsTokenOf ks v) : IsTokenOf [k] v := h ▸ hv

end Parts

/-- The check is sound: such parts are what the form says. -/
theorem covers_takes {fs : List Form} {f : Form} {parts : List (List Value)}
    (h : covers fs f = true) (hp : List.Forall₂ Form.Takes fs parts) :
    f.Takes parts.flatten := by
  unfold covers at h
  split at h
  · cases hp
    exact takes_nil h
  -- One token.
  · obtain ⟨_, hflat, v, rfl, t, rfl, ht⟩ := forall₂_one hp
    rw [hflat]
    refine ⟨_, rfl, t, rfl, ?_⟩
    exact List.contains_iff_mem.1 (List.all_eq_true.1 h _ ht)
  · obtain ⟨_, hflat, v, rfl, hv⟩ := forall₂_one hp
    rw [hflat]
    exact Or.inr ⟨v, rfl, isTokenOf_singleton (of_decide_eq_true h) hv⟩
  · obtain ⟨_, hflat, v, rfl, hv⟩ := forall₂_one hp
    rw [hflat]
    intro w hw
    rw [List.mem_singleton.1 hw]
    exact isTokenOf_singleton (of_decide_eq_true h) hv
  -- Tokens.
  · obtain ⟨vs, hflat, hvs⟩ := forall₂_one hp
    rw [hflat, ← of_decide_eq_true h]
    exact hvs
  · obtain ⟨vs, _, hflat, hvs, v, rfl, hv⟩ := forall₂_two hp
    simp only [Bool.and_eq_true, decide_eq_true_eq] at h
    rw [hflat, ← h.1]
    intro w hw
    rcases List.mem_append.1 hw with hw | hw
    · exact hvs w hw
    · rw [List.mem_singleton.1 hw, h.1]
      exact isTokenOf_singleton h.2 hv
  -- One node.
  · obtain ⟨_, hflat, v, rfl, hv⟩ := forall₂_one hp
    rw [hflat]
    exact ⟨v, rfl, isNodeOf_within h hv⟩
  · obtain ⟨_, hflat, v, rfl, hv⟩ := forall₂_one hp
    rw [hflat]
    exact Or.inr ⟨v, rfl, isNodeOf_within h hv⟩
  · obtain ⟨_, hflat, v, rfl, hv⟩ := forall₂_one hp
    rw [hflat]
    intro w hw
    rw [List.mem_singleton.1 hw]
    exact isNodeOf_within h hv
  · obtain ⟨_, hflat, v, rfl, hv⟩ := forall₂_one hp
    rw [hflat]
    exact Or.inr ⟨v, [], rfl, isNodeOf_within h hv, .nil⟩
  -- Nodes.
  · obtain ⟨vs, hflat, hvs⟩ := forall₂_one hp
    rw [hflat]
    exact fun w hw => isNodeOf_within h (hvs w hw)
  · obtain ⟨vs, _, hflat, hvs, v, rfl, hv⟩ := forall₂_two hp
    simp only [Bool.and_eq_true] at h
    rw [hflat]
    intro w hw
    rcases List.mem_append.1 hw with hw | hw
    · exact isNodeOf_within h.1 (hvs w hw)
    · rw [List.mem_singleton.1 hw]
      exact isNodeOf_within h.2 hv
  -- Commas and nodes.
  · obtain ⟨_, _, hflat, ⟨c, rfl, hc⟩, v, rfl, hv⟩ := forall₂_two hp
    simp only [Bool.and_eq_true, decide_eq_true_eq] at h
    rw [hflat]
    exact .cons (isTokenOf_singleton h.1 hc) (isNodeOf_within h.2 hv) .nil
  · cases hp with
    | cons hmore hrest =>
      obtain ⟨_, _, hflat, ⟨c, rfl, hc⟩, v, rfl, hv⟩ := forall₂_two hrest
      simp only [Bool.and_eq_true, decide_eq_true_eq] at h
      obtain ⟨⟨rfl, hk⟩, hw⟩ := h
      rw [List.flatten_cons, hflat]
      exact More.concat hmore (isTokenOf_singleton hk hc) (isNodeOf_within hw hv)
  · obtain ⟨_, ws, hflat, ⟨v, rfl, hv⟩, hws⟩ := forall₂_two hp
    simp only [Bool.and_eq_true, decide_eq_true_eq] at h
    obtain ⟨hw, rfl⟩ := h
    rw [hflat]
    exact Or.inr ⟨v, ws, rfl, isNodeOf_within hw hv, hws⟩
  · cases h

/-! ### The forms of symbols and properties -/

/-- A node of a class. -/
abbrev Form.cls (c : NodeClass) : Form := .node (.cls c)

/-- A node of a category. -/
abbrev Form.cat (c : Category) : Form := .node (.category c)

/-- The kinds of operators between two expressions. -/
def binaryKinds : List Kind := Kind.binaryOperators.map (·.2)

/-- The form of what a nonterminal builds. -/
def Nonterminal.form : Nonterminal → Form
  | .compilationUnit => .cls .compilationUnit
  | .imports => .nodes (.cls .importDirective)
  | .members => .nodes (.category .member)
  | .memberContext | .member => .cat .member
  | .statementContext | .statement => .cat .statement
  | .importDirective => .cls .importDirective
  | .importAlias => .cls .importAlias
  | .modifiers | .publics => .tokens .pubKeyword
  | .functionDeclaration => .cls .functionDeclaration
  | .parameterList => .cls .parameterList
  | .moreParameters => .more (.cls .parameter)
  | .parameter => .cls .parameter
  | .returnClause => .cls .returnClause
  | .structDeclaration => .cls .structDeclaration
  | .moreFields => .more (.cls .fieldDeclaration)
  | .fieldDeclaration => .cls .fieldDeclaration
  | .constDeclaration => .cls .constDeclaration
  | .type => .cat .type
  | .name => .cat .name
  | .identifierName => .cls .identifierName
  | .genericName => .cls .genericName
  | .qualifiedName => .cls .qualifiedName
  | .typeArgumentList => .cls .typeArgumentList
  | .moreTypes => .more (.category .type)
  | .block => .cls .block
  | .statements => .nodes (.category .statement)
  | .localDeclarationStatement => .cls .localDeclarationStatement
  | .bindingKeyword => .token [.valKeyword, .varKeyword]
  | .typeClause => .cls .typeClause
  | .equalsValueClause => .cls .equalsValueClause
  | .returnStatement => .cls .returnStatement
  | .expressionStatement => .cls .expressionStatement
  | .ifStatement => .cls .ifStatement
  | .elseClause => .cls .elseClause
  | .whileStatement => .cls .whileStatement
  | .breakStatement => .cls .breakStatement
  | .continueStatement => .cls .continueStatement
  | .expressionContext | .expression | .assignment | .logicalOr | .logicalAnd | .equality
  | .relational | .additive | .multiplicative | .unary | .suffixed | .primary => .cat .expression
  | .literalExpression => .cls .literalExpression
  | .parenthesizedExpression => .cls .parenthesizedExpression
  | .argumentList => .cls .argumentList
  | .moreArguments => .more (.cls .argument)
  | .argument => .cls .argument

/-- The form of what a symbol builds. -/
def Symbol.form : Symbol → Form
  | .terminal k => .token [k]
  | .nonterminal n => n.form

/-- The forms of the properties of a class, in trees that are read. -/
def slots : NodeClass → List Form
  | .compilationUnit =>
    [.nodes (.cls .importDirective), .nodes (.category .member), .perhaps .endOfFileToken]
  | .importDirective =>
    [.token [.importKeyword], .cat .name, .optional (.cls .importAlias), .token [.semicolonToken]]
  | .importAlias => [.token [.asKeyword], .cls .identifierName]
  | .functionDeclaration =>
    [.tokens .pubKeyword, .token [.fnKeyword], .token [.identifierToken], .cls .parameterList,
     .optional (.cls .returnClause), .cls .block]
  | .parameterList =>
    [.token [.openParenToken], .separated (.cls .parameter), .token [.closeParenToken]]
  | .parameter => [.token [.identifierToken], .token [.colonToken], .cat .type]
  | .returnClause => [.token [.returnsKeyword], .cat .type]
  | .structDeclaration =>
    [.tokens .pubKeyword, .token [.structKeyword], .token [.identifierToken],
     .token [.openBraceToken], .separated (.cls .fieldDeclaration), .token [.closeBraceToken],
     .perhaps .semicolonToken]
  | .fieldDeclaration => [.token [.identifierToken], .token [.colonToken], .cat .type]
  | .constDeclaration =>
    [.token [.constKeyword], .token [.identifierToken], .token [.colonToken], .cat .type,
     .token [.equalsToken], .cat .expression, .token [.semicolonToken]]
  | .block => [.token [.openBraceToken], .nodes (.category .statement), .token [.closeBraceToken]]
  | .localDeclarationStatement =>
    [.token [.valKeyword, .varKeyword], .token [.identifierToken], .optional (.cls .typeClause),
     .cls .equalsValueClause, .token [.semicolonToken]]
  | .typeClause => [.token [.colonToken], .cat .type]
  | .equalsValueClause => [.token [.equalsToken], .cat .expression]
  | .returnStatement =>
    [.token [.returnKeyword], .optional (.category .expression), .token [.semicolonToken]]
  | .expressionStatement => [.cat .expression, .token [.semicolonToken]]
  | .ifStatement =>
    [.token [.ifKeyword], .cat .expression, .cls .block, .optional (.cls .elseClause)]
  | .elseClause => [.token [.elseKeyword], .cat .statement]
  | .whileStatement => [.token [.whileKeyword], .cat .expression, .cls .block]
  | .breakStatement => [.token [.breakKeyword], .token [.semicolonToken]]
  | .continueStatement => [.token [.continueKeyword], .token [.semicolonToken]]
  | .identifierName => [.token [.identifierToken]]
  | .qualifiedName => [.cat .name, .token [.dotToken], .cls .identifierName]
  | .genericName => [.token [.identifierToken], .cls .typeArgumentList]
  | .typeArgumentList =>
    [.token [.lessThanToken], .separated (.category .type), .token [.greaterThanToken]]
  | .literalExpression => [.nothing, .token (Kind.literalTokens.map (·.2))]
  | .binaryExpression => [.nothing, .cat .expression, .token binaryKinds, .cat .expression]
  | .assignmentExpression => [.cat .expression, .token [.equalsToken], .cat .expression]
  | .prefixUnaryExpression =>
    [.nothing, .token (Kind.unaryOperators.map (·.2)), .cat .expression]
  | .parenthesizedExpression =>
    [.token [.openParenToken], .cat .expression, .token [.closeParenToken]]
  | .invocationExpression => [.cat .expression, .cls .argumentList]
  | .argumentList =>
    [.token [.openParenToken], .separated (.cls .argument), .token [.closeParenToken]]
  | .argument => [.cat .expression]
  | .memberAccessExpression => [.cat .expression, .token [.dotToken], .cls .identifierName]
  | .documentationComment | .pair => []

/-! ### The check of the grammar -/

/-- The forms with targets fill the properties from `slot` on, each property with the forms
that come next. -/
def fills : Nat → List Form → List (Nat × Form) → Bool
  | _, [], ps => ps.isEmpty
  | slot, f :: fs, ps =>
    covers ((ps.takeWhile (·.1 = slot)).map (·.2)) f
      && (ps.dropWhile (·.1 = slot)).all (fun p => slot < p.1)
      && fills (slot + 1) fs (ps.dropWhile (·.1 = slot))

/-- A class with several kinds gets one of its tokens, and its properties are single values. -/
def givesKind (c : NodeClass) (fs : List Form) : Bool :=
  c.kindTable.isEmpty
    || ((slots c).all Form.isSingle
      && fs.any (fun f => match f with | .token _ => true | _ => false)
      && fs.all fun f => match f with
        | .token ks => ks.all (c.kindTable.map (·.2)).contains
        | .node _ => true
        | _ => false)

/-- A production builds the form of its symbol. -/
def Production.isTyped (p : Production) : Bool :=
  let fs := p.rhs.map Symbol.form
  p.rhs.all (fun x => x ≠ .terminal .none && x ≠ .terminal .endOfFileToken)
    && match p.builds with
      | .parts => covers fs p.lhs.form
      | .node c targets =>
        covers [.cls c] p.lhs.form && targets.length = fs.length
          && c.fields.map (·.shape) = (slots c).map Form.shape
          && fills 0 (slots c) (targets.zip fs) && givesKind c fs

theorem productions_typed : productions.all Production.isTyped = true := by
  decide +kernel

/-! ### Properties -/

/-- The value of a property is made of the parts that go to it. -/
theorem property_holds {f : Form} {vs : List Value} (k : Kind) (hf : ∀ t, f ≠ .more t)
    (h : f.Takes vs) : f.Holds (property f.shape k vs) := by
  cases f with
  | nothing => exact ⟨k, rfl⟩
  | token ks =>
    obtain ⟨v, rfl, hv⟩ := h
    exact hv
  | perhaps j =>
    obtain rfl | ⟨v, rfl, hv⟩ := h
    · exact Or.inl rfl
    · exact Or.inr hv
  | tokens j =>
    refine ⟨_, rfl, fun v hv => ?_⟩
    exact h v (List.mem_filter.1 hv).1
  | node t =>
    obtain ⟨v, rfl, hv⟩ := h
    exact hv
  | optional t =>
    obtain rfl | ⟨v, rfl, hv⟩ := h
    · exact Or.inl rfl
    · exact Or.inr hv
  | nodes t => exact ⟨vs, rfl, h⟩
  | separated t => exact ⟨vs, rfl, h⟩
  | more t => exact absurd rfl (hf t)

/-- The leaves of a property are those of the parts that go to it. -/
theorem property_leaves {f : Form} {vs : List Value} (k : Kind) (hf : ∀ t, f ≠ .more t)
    (h : f.Takes vs) : (property f.shape k vs).leaves = vs.flatMap Value.leaves := by
  cases f with
  | nothing =>
    subst h
    rfl
  | token ks =>
    obtain ⟨v, rfl, hv⟩ := h
    exact (List.append_nil _).symm
  | perhaps j =>
    obtain rfl | ⟨v, rfl, hv⟩ := h
    · rfl
    · exact (List.append_nil _).symm
  | tokens j =>
    have hall : vs.filter Value.isToken = vs := by
      refine List.filter_eq_self.2 fun v hv => ?_
      obtain ⟨t, rfl, -⟩ := h v hv
      rfl
    show Value.leavesList (vs.filter Value.isToken) = _
    rw [hall, Value.leavesList_eq_flatMap]
  | node t =>
    obtain ⟨v, rfl, hv⟩ := h
    exact (List.append_nil _).symm
  | optional t =>
    obtain rfl | ⟨v, rfl, hv⟩ := h
    · rfl
    · exact (List.append_nil _).symm
  | nodes t => exact Value.leavesList_eq_flatMap vs
  | separated t => exact Value.leavesList_eq_flatMap vs
  | more t => exact absurd rfl (hf t)

/-- A property that holds one value has its token, if it is one. -/
theorem property_token {f : Form} {vs : List Value} (k : Kind) (hf : f.isSingle = true)
    (h : f.Takes vs) :
    (token? (property f.shape k vs)).toList = vs.flatMap fun v => (token? v).toList := by
  cases f with
  | nothing =>
    subst h
    rfl
  | token ks =>
    obtain ⟨v, rfl, hv⟩ := h
    exact (List.append_nil _).symm
  | node t =>
    obtain ⟨v, rfl, hv⟩ := h
    exact (List.append_nil _).symm
  | _ => cases hf

/-- The parts of a symbol with its form and its target. -/
structure Piece where
  target : Nat
  form : Form
  parts : List Value

/-- The parts that go to a property, in order. -/
theorem partsAt_pieces (slot : Nat) (ps : List Piece) :
    partsAt slot (ps.map (·.target)) (ps.map (·.parts))
      = (ps.filter (·.target = slot)).flatMap (·.parts) := by
  induction ps with
  | nil => rfl
  | cons p ps ih =>
    have hcons : partsAt slot ((p :: ps).map (·.target)) ((p :: ps).map (·.parts))
        = (if p.target = slot then p.parts else [])
          ++ partsAt slot (ps.map (·.target)) (ps.map (·.parts)) := rfl
    rw [hcons, ih, List.filter_cons]
    by_cases h : p.target = slot <;> simp [h]

/-- Properties depend on the parts that go to them only. -/
theorem properties_congr {targets targets' : List Nat} {parts parts' : List (List Value)}
    {k : Kind} (slot : Nat) (fs : List Field)
    (h : ∀ s, slot ≤ s → partsAt s targets parts = partsAt s targets' parts') :
    properties targets parts k slot fs = properties targets' parts' k slot fs := by
  induction fs generalizing slot with
  | nil => rfl
  | cons f fs ih =>
    rw [properties, properties, h slot (Nat.le_refl slot),
      ih (slot + 1) fun s hs => h s (Nat.le_of_succ_le hs)]

/-- Pieces that fill a property come first, and the others go to later ones. -/
theorem pieces_split {slot : Nat} {ps : List Piece}
    (h : ∀ p ∈ ps.dropWhile (·.target = slot), slot < p.target) :
    partsAt slot (ps.map (·.target)) (ps.map (·.parts))
        = (ps.takeWhile (·.target = slot)).flatMap (·.parts)
      ∧ ∀ s, slot + 1 ≤ s → partsAt s (ps.map (·.target)) (ps.map (·.parts))
        = partsAt s ((ps.dropWhile (·.target = slot)).map (·.target))
            ((ps.dropWhile (·.target = slot)).map (·.parts)) := by
  have hfront : ∀ p ∈ ps.takeWhile (·.target = slot), p.target = slot := fun p hp => by
    simpa using List.all_eq_true.1 List.all_takeWhile p hp
  have hps : ps.takeWhile (·.target = slot) ++ ps.dropWhile (·.target = slot) = ps :=
    List.takeWhile_append_dropWhile
  refine ⟨?_, fun s hs => ?_⟩
  · rw [partsAt_pieces]
    conv => lhs; rw [← hps]
    rw [List.filter_append]
    have h₁ : (ps.takeWhile (·.target = slot)).filter (·.target = slot)
        = ps.takeWhile (·.target = slot) :=
      List.filter_eq_self.2 fun p hp => by simpa using hfront p hp
    have h₂ : (ps.dropWhile (·.target = slot)).filter (·.target = slot) = [] :=
      List.filter_eq_nil_iff.2 fun p hp => by have := h p hp; simp; omega
    rw [h₁, h₂, List.append_nil]
  · rw [partsAt_pieces, partsAt_pieces]
    conv => lhs; rw [← hps]
    rw [List.filter_append]
    have h₁ : (ps.takeWhile (·.target = slot)).filter (·.target = s) = [] :=
      List.filter_eq_nil_iff.2 fun p hp => by have := hfront p hp; simp; omega
    rw [h₁, List.nil_append]

section Filled

variable {forms : List Form} {fs : List Field} {slot : Nat} {ps : List Piece} {k : Kind}

/-- The parts in front fit the first property, and the rest fills the others. -/
theorem fills_cons {f : Form} (h : fills slot (f :: forms) (ps.map fun p => (p.target, p.form)) = true)
    (htakes : ∀ p ∈ ps, p.form.Takes p.parts) :
    f.Takes ((ps.takeWhile (·.target = slot)).flatMap (·.parts))
      ∧ (∀ p ∈ ps.dropWhile (·.target = slot), slot < p.target)
      ∧ fills (slot + 1) forms
          ((ps.dropWhile (·.target = slot)).map fun p => (p.target, p.form)) = true := by
  simp only [fills, List.takeWhile_map, List.dropWhile_map, List.map_map, List.all_map,
    Bool.and_eq_true, List.all_eq_true, Function.comp_def, decide_eq_true_eq] at h
  obtain ⟨⟨hcover, hlater⟩, hrest⟩ := h
  refine ⟨?_, hlater, hrest⟩
  have hall : List.Forall₂ Form.Takes ((ps.takeWhile (·.target = slot)).map (·.form))
      ((ps.takeWhile (·.target = slot)).map (·.parts)) := by
    rw [List.forall₂_map_left_iff, List.forall₂_map_right_iff]
    exact List.forall₂_same.2 fun p hp => htakes p (List.takeWhile_sublist _ |>.subset hp)
  rw [List.flatMap_def]
  exact covers_takes hcover hall

/-- Each property holds what its form says. -/
theorem properties_holds (hshape : fs.map (·.shape) = forms.map Form.shape)
    (hmore : ∀ f ∈ forms, ∀ t, f ≠ .more t)
    (hfill : fills slot forms (ps.map fun p => (p.target, p.form)) = true)
    (htakes : ∀ p ∈ ps, p.form.Takes p.parts) :
    List.Forall₂ Form.Holds forms
      (properties (ps.map (·.target)) (ps.map (·.parts)) k slot fs) := by
  induction forms generalizing fs slot ps with
  | nil =>
    obtain rfl : fs = [] := List.map_eq_nil_iff.1 hshape
    exact .nil
  | cons f forms ih =>
    obtain ⟨g, gs, rfl, hg, hgs⟩ := List.map_eq_cons_iff.1 hshape
    obtain ⟨hf, hlater, hrest⟩ := fills_cons hfill htakes
    obtain ⟨hhere, hthere⟩ := pieces_split hlater
    rw [properties, hhere, properties_congr _ _ hthere, hg]
    refine .cons (property_holds k (hmore f List.mem_cons_self) hf) ?_
    exact ih hgs (fun f' hf' => hmore f' (List.mem_cons_of_mem _ hf')) hrest
      fun p hp => htakes p ((List.dropWhile_sublist _).subset hp)

/-- What can be read off property by property can be read off the parts, in the same order. -/
theorem properties_flatMap {β : Type} (r : Value → List β)
    (hshape : fs.map (·.shape) = forms.map Form.shape)
    (hr : ∀ f ∈ forms, ∀ vs, f.Takes vs → r (property f.shape k vs) = vs.flatMap r)
    (hfill : fills slot forms (ps.map fun p => (p.target, p.form)) = true)
    (htakes : ∀ p ∈ ps, p.form.Takes p.parts) :
    (properties (ps.map (·.target)) (ps.map (·.parts)) k slot fs).flatMap r
      = (ps.flatMap (·.parts)).flatMap r := by
  induction forms generalizing fs slot ps with
  | nil =>
    obtain rfl : fs = [] := List.map_eq_nil_iff.1 hshape
    obtain rfl : ps = [] := by simpa [fills] using hfill
    rfl
  | cons f forms ih =>
    obtain ⟨g, gs, rfl, hg, hgs⟩ := List.map_eq_cons_iff.1 hshape
    obtain ⟨hf, hlater, hrest⟩ := fills_cons hfill htakes
    obtain ⟨hhere, hthere⟩ := pieces_split hlater
    have hback := ih hgs (fun f' hf' => hr f' (List.mem_cons_of_mem _ hf')) hrest
      fun p hp => htakes p ((List.dropWhile_sublist _).subset hp)
    rw [properties, hhere, properties_congr _ _ hthere, hg, List.flatMap_cons,
      hr f List.mem_cons_self _ hf, hback, ← List.flatMap_append, ← List.flatMap_append,
      List.takeWhile_append_dropWhile]

end Filled

/-! ### What symbols build -/

/-- A node as the grammar builds it: each property holds what its form says, and a kind goes
with the token of the node. -/
structure Grows (c : NodeClass) (vs : List Value) : Prop where
  slots : List.Forall₂ Form.Holds (slots c) vs
  kind : c.kindTable ≠ [] →
    ∃ t : Token, .token t ∈ vs ∧ (Value.kindOf c vs, t.kind) ∈ c.kindTable

theorem slots_ne_more (c : NodeClass) : ∀ f ∈ slots c, ∀ t, f ≠ .more t := by
  have hcheck : ((slots c).all fun f => f.shape != .any) = true := by
    cases c <;> decide
  intro f hf t heq
  have hf' := List.all_eq_true.1 hcheck f hf
  rw [heq] at hf'
  cases hf'

/-- A property has no nodes but those of the parts that go to it. -/
theorem property_all {Q : NodeClass → List Value → Prop} {a : Shape} {k : Kind} {vs : List Value}
    (h : ∀ v ∈ vs, v.All Q) : (property a k vs).All Q := by
  have hlist : ∀ ws : List Value, (∀ w ∈ ws, w ∈ vs) → Value.AllList Q ws := fun ws hws =>
    Value.allList_iff.2 fun w hw => h w (hws w hw)
  have hhead : ∀ d : Value, d.All Q → (vs.headD d).All Q := by
    intro d hd
    cases vs with
    | nil => exact hd
    | cons v vs => exact h v List.mem_cons_self
  unfold property
  split
  · trivial
  · exact hlist _ fun w hw => (List.mem_filter.1 hw).1
  · exact hlist _ fun w hw => hw
  · exact hlist _ fun w hw => hw
  · exact hhead _ trivial
  · exact hhead _ trivial

theorem properties_all {Q : NodeClass → List Value → Prop} {targets : List Nat}
    {parts : List (List Value)} {k : Kind} (slot : Nat) (fs : List Field)
    (h : ∀ v ∈ parts.flatten, v.All Q) :
    ∀ v ∈ properties targets parts k slot fs, v.All Q := by
  induction fs generalizing slot with
  | nil => exact fun v hv => absurd hv List.not_mem_nil
  | cons f fs ih =>
    intro v hv
    rcases List.mem_cons.1 hv with rfl | hv
    · refine property_all fun w hw => h w ?_
      obtain ⟨⟨target, vs⟩, hmem, hw⟩ := List.mem_flatMap.1 hw
      simp only at hw
      split at hw
      · exact List.mem_flatten.2 ⟨vs, (List.of_mem_zip hmem).2, hw⟩
      · exact absurd hw List.not_mem_nil
    · exact ih (slot + 1) v hv

/-- Among parts of the forms, each token is of a kind that the forms name. -/
theorem token_kind_mem {ks : List Kind} {fs : List Form} {parts : List (List Value)}
    (hfs : ∀ f ∈ fs, (∃ js, f = .token js ∧ ∀ j ∈ js, j ∈ ks) ∨ ∃ t, f = .node t)
    (hparts : List.Forall₂ Form.Takes fs parts) {v : Value} {t : Token}
    (hv : v ∈ parts.flatten) (ht : token? v = some t) : t.kind ∈ ks := by
  induction hparts with
  | nil => exact absurd hv List.not_mem_nil
  | @cons f vs fs parts hf hrest ih =>
    rcases List.mem_append.1 hv with hv | hv
    · rcases hfs f List.mem_cons_self with ⟨js, rfl, hjs⟩ | ⟨n, rfl⟩
      · obtain ⟨w, rfl, u, rfl, hu⟩ := hf
        obtain rfl := List.mem_singleton.1 hv
        cases ht
        exact hjs _ hu
      · obtain ⟨w, rfl, hw⟩ := hf
        obtain rfl := List.mem_singleton.1 hv
        cases v with
        | token u => exact absurd hw Bool.false_ne_true
        | _ => cases ht
    · exact ih (fun g hg => hfs g (List.mem_cons_of_mem _ hg)) hv

/-- A form that asks for a token finds one among the parts. -/
theorem exists_token {ks : List Kind} {fs : List Form} {parts : List (List Value)}
    (hfs : Form.token ks ∈ fs) (hparts : List.Forall₂ Form.Takes fs parts) :
    ∃ t : Token, .token t ∈ parts.flatten := by
  induction hparts with
  | nil => exact absurd hfs List.not_mem_nil
  | @cons f vs fs parts hf hrest ih =>
    rcases List.mem_cons.1 hfs with rfl | hfs
    · obtain ⟨w, rfl, t, rfl, -⟩ := hf
      exact ⟨t, List.mem_append_left _ (List.mem_singleton.2 rfl)⟩
    · obtain ⟨t, ht⟩ := ih hfs
      exact ⟨t, List.mem_append_right _ ht⟩

/-- The first token of the parts gives a class with several kinds one of them. -/
theorem kindFor_mem {c : NodeClass} {fs : List Form} {parts : List (List Value)}
    (hkind : givesKind c fs = true) (hc : c.kindTable ≠ [])
    (hparts : List.Forall₂ Form.Takes fs parts) :
    ∃ t : Token, .token t ∈ parts.flatten
      ∧ (kindFor c parts.flatten, t.kind) ∈ c.kindTable := by
  have hempty : c.kindTable.isEmpty = false := by simpa using hc
  simp only [givesKind, hempty, Bool.false_or, Bool.and_eq_true, List.any_eq_true,
    List.all_eq_true] at hkind
  obtain ⟨⟨-, f, hf, hftok⟩, hall⟩ := hkind
  obtain ⟨u, hu⟩ : ∃ u : Token, .token u ∈ parts.flatten := by
    cases f with
    | token ks => exact exists_token hf hparts
    | _ => cases hftok
  have hsome : (parts.flatten.findSome? token?).isSome = true := by
    rw [List.findSome?_isSome_iff]
    exact ⟨_, hu, rfl⟩
  obtain ⟨t, ht⟩ := Option.isSome_iff_exists.1 hsome
  obtain ⟨v, hv, hvt⟩ := List.exists_of_findSome?_eq_some ht
  have hmem : t.kind ∈ c.kindTable.map (·.2) := by
    refine token_kind_mem (fun g hg => ?_) hparts hv hvt
    have hg' := hall g hg
    cases g with
    | token ks =>
      refine Or.inl ⟨ks, rfl, fun j hj => ?_⟩
      exact List.contains_iff_mem.1 (List.all_eq_true.1 hg' j hj)
    | node n => exact Or.inr ⟨n, rfl⟩
    | _ => cases hg'
  have hfind : (c.kindTable.find? fun p => p.2 = t.kind).isSome = true := by
    rw [List.find?_isSome]
    obtain ⟨p, hp, hpt⟩ := List.mem_map.1 hmem
    exact ⟨p, hp, by simpa using hpt⟩
  obtain ⟨q, hq⟩ := Option.isSome_iff_exists.1 hfind
  have hqt : q.2 = t.kind := by simpa using List.find?_some hq
  have hfor : kindFor c parts.flatten = q.1 := by
    simp only [kindFor, ht, Option.bind_some, Kind.expressionOf?, hq, Option.map_some,
      Option.getD_some]
  have hvtok : v = .token t := by
    cases v with
    | token w => cases hvt; rfl
    | _ => cases hvt
  refine ⟨t, hvtok ▸ hv, ?_⟩
  rw [hfor, ← hqt]
  exact List.mem_of_find?_eq_some hq

/-- The kind of a node of a class with several kinds is what its parts give. -/
theorem kindOf_properties {c : NodeClass} {targets : List Nat} {parts : List (List Value)}
    {k : Kind} (hc : c.kindTable ≠ []) :
    Value.kindOf c (properties targets parts k 0 c.fields) = k := by
  cases c <;> first | exact absurd rfl hc | rfl

/-- Targets, forms and parts of the same number are pieces. -/
theorem exists_pieces {targets : List Nat} {fs : List Form} {parts : List (List Value)}
    (hlen : targets.length = fs.length) (htakes : List.Forall₂ Form.Takes fs parts) :
    ∃ ps : List Piece, ps.map (·.target) = targets ∧ ps.map (·.form) = fs
      ∧ ps.map (·.parts) = parts ∧ ∀ p ∈ ps, p.form.Takes p.parts := by
  induction htakes generalizing targets with
  | nil =>
    obtain rfl : targets = [] := List.length_eq_zero_iff.1 hlen
    exact ⟨[], rfl, rfl, rfl, fun p hp => absurd hp List.not_mem_nil⟩
  | @cons f vs fs parts hf hrest ih =>
    cases targets with
    | nil => cases hlen
    | cons target targets =>
      obtain ⟨ps, rfl, rfl, rfl, hps⟩ := ih (Nat.succ.inj hlen)
      refine ⟨⟨target, f, vs⟩ :: ps, rfl, rfl, rfl, fun p hp => ?_⟩
      rcases List.mem_cons.1 hp with rfl | hp
      · exact hf
      · exact hps p hp

/-- The parts of the pieces that a production has make a node of the grammar, with the leaves of
the parts. -/
theorem node_grown {c : NodeClass} {targets : List Nat} {fs : List Form}
    {parts : List (List Value)} (htakes : List.Forall₂ Form.Takes fs parts)
    (hall : ∀ v ∈ parts.flatten, v.All Grows) (hlen : targets.length = fs.length)
    (hshape : c.fields.map (·.shape) = (slots c).map Form.shape)
    (hfill : fills 0 (slots c) (targets.zip fs) = true) (hkind : givesKind c fs = true) :
    (Value.node c (properties targets parts (kindFor c parts.flatten) 0 c.fields)).All Grows
      ∧ Value.leavesList (properties targets parts (kindFor c parts.flatten) 0 c.fields)
        = Value.leavesList parts.flatten := by
  obtain ⟨ps, rfl, rfl, rfl, hps⟩ := exists_pieces hlen htakes
  rw [List.zip_map'] at hfill
  have hflat : (ps.map (·.parts)).flatten = ps.flatMap (·.parts) := List.flatMap_def.symm
  refine ⟨Value.all_node.2 ⟨⟨?_, fun hc => ?_⟩, properties_all 0 _ hall⟩, ?_⟩
  · exact properties_holds hshape (slots_ne_more c) hfill hps
  · -- The token that gives the kind is one of the properties, since each holds one value.
    obtain ⟨t, ht, hmem⟩ := kindFor_mem hkind hc htakes
    have hsingle : (slots c).all Form.isSingle = true := by
      have hempty : c.kindTable.isEmpty = false := by simpa using hc
      simp only [givesKind, hempty, Bool.false_or, Bool.and_eq_true] at hkind
      exact hkind.1.1
    have htokens := properties_flatMap (k := kindFor c (ps.map (·.parts)).flatten)
      (fun v => (token? v).toList) hshape
      (fun f hf vs hvs => property_token _ (List.all_eq_true.1 hsingle f hf) hvs) hfill hps
    have hin : t ∈ (ps.flatMap (·.parts)).flatMap fun v => (token? v).toList := by
      rw [hflat] at ht
      exact List.mem_flatMap.2 ⟨_, ht, List.mem_singleton.2 rfl⟩
    rw [← htokens] at hin
    obtain ⟨v, hv, hvt⟩ := List.mem_flatMap.1 hin
    refine ⟨t, ?_, by rwa [kindOf_properties hc]⟩
    cases v with
    | token u =>
      obtain rfl := List.mem_singleton.1 hvt
      exact hv
    | _ => exact absurd hvt List.not_mem_nil
  · rw [Value.leavesList_eq_flatMap, Value.leavesList_eq_flatMap, hflat]
    exact properties_flatMap _ hshape
      (fun f hf vs hvs => property_leaves _ (slots_ne_more c f hf) hvs) hfill hps

/-- A production that passes the check builds the form of its symbol. -/
theorem apply_grown {p : Production} {parts : List (List Value)} (hp : p ∈ productions)
    (htakes : List.Forall₂ Form.Takes (p.rhs.map Symbol.form) parts)
    (hall : ∀ v ∈ parts.flatten, v.All Grows) :
    p.lhs.form.Takes (p.builds.apply parts)
      ∧ (∀ v ∈ p.builds.apply parts, v.All Grows)
      ∧ Value.leavesList (p.builds.apply parts) = Value.leavesList parts.flatten := by
  have htyped := Array.all_eq_true_iff_forall_mem.1 productions_typed p hp
  simp only [Production.isTyped, Bool.and_eq_true] at htyped
  obtain ⟨-, hbuild⟩ := htyped
  split at hbuild
  · rename_i hb
    rw [hb]
    exact ⟨covers_takes hbuild htakes, hall, rfl⟩
  · rename_i c targets hb
    simp only [Bool.and_eq_true, decide_eq_true_eq] at hbuild
    obtain ⟨⟨⟨⟨hlhs, hlen⟩, hshape⟩, hfill⟩, hkind⟩ := hbuild
    obtain ⟨hgrown, hleaves⟩ := node_grown htakes hall hlen hshape hfill hkind
    rw [hb]
    refine ⟨?_, ?_, ?_⟩
    · have hcls : List.Forall₂ Form.Takes [.cls c] [Build.apply (.node c targets) parts] :=
        .cons ⟨_, rfl, by simp [Value.isNodeOf, NodeType.holds]⟩ .nil
      simpa using covers_takes hlhs hcls
    · intro v hv
      obtain rfl := List.mem_singleton.1 hv
      exact hgrown
    · rw [← hleaves]
      exact List.append_nil _

/-- No production asks for the absent token or for the end of the file. -/
theorem rhs_ne {p : Production} (hp : p ∈ productions) :
    ∀ x ∈ p.rhs, x ≠ .terminal .none ∧ x ≠ .terminal .endOfFileToken := by
  have htyped := Array.all_eq_true_iff_forall_mem.1 productions_typed p hp
  simp only [Production.isTyped, Bool.and_eq_true, List.all_eq_true, decide_eq_true_eq] at htyped
  exact htyped.1

/-- What symbols build has their forms, is grown by the grammar, and has the tokens as leaves. -/
theorem YieldsAll.grown {xs : List Symbol} {parts : List (List Value)} {ts : List Token}
    (h : YieldsAll xs parts ts) (hxs : ∀ x ∈ xs, x ≠ .terminal .none) :
    List.Forall₂ Form.Takes (xs.map Symbol.form) parts
      ∧ (∀ v ∈ parts.flatten, v.All Grows) ∧ Value.leavesList parts.flatten = ts := by
  induction h with
  | nil => exact ⟨.nil, fun v hv => absurd hv List.not_mem_nil, rfl⟩
  | token t _ ih =>
    obtain ⟨htakes, hgrown, hleaves⟩ := ih fun y hy => hxs y (List.mem_cons_of_mem _ hy)
    have ht : t.isAbsent = false := by
      simp only [Token.isAbsent, decide_eq_false_iff_not]
      exact fun hk => hxs _ List.mem_cons_self (by rw [hk])
    refine ⟨.cons ⟨_, rfl, t, rfl, List.mem_singleton.2 rfl⟩ htakes, fun v hv => ?_, ?_⟩
    · rcases List.mem_cons.1 hv with rfl | hv
      · trivial
      · exact hgrown v hv
    · simp [Value.leaves, ht, hleaves]
  | production hp _ _ ih ih' =>
    obtain ⟨htakes, hgrown, hleaves⟩ := ih fun y hy => (rhs_ne hp y hy).1
    obtain ⟨happly, hgrown₁, hleaves₁⟩ := apply_grown hp htakes hgrown
    obtain ⟨htakes', hgrown', hleaves'⟩ := ih' fun y hy => hxs y (List.mem_cons_of_mem _ hy)
    refine ⟨.cons happly htakes', fun v hv => ?_, ?_⟩
    · rcases List.mem_append.1 hv with hv | hv
      · exact hgrown₁ v hv
      · exact hgrown' v hv
    · rw [List.flatten_cons, Value.leavesList_append, hleaves₁, hleaves, hleaves']

/-- What a nonterminal builds has its form, is grown by the grammar, and has the tokens as
leaves. -/
theorem Yields.grown {n : Nonterminal} {vs : List Value} {ts : List Token}
    (h : Yields (.nonterminal n) vs ts) :
    n.form.Takes vs ∧ (∀ v ∈ vs, v.All Grows) ∧ Value.leavesList vs = ts := by
  obtain ⟨htakes, hgrown, hleaves⟩ := YieldsAll.grown h (by simp)
  rw [List.flatten_singleton] at hgrown hleaves
  cases htakes with
  | cons hn _ => exact ⟨hn, hgrown, hleaves⟩

/-- The end of the file is no token that a symbol derives. -/
theorem YieldsAll.kind_ne_end {xs : List Symbol} {parts : List (List Value)} {ts : List Token}
    (h : YieldsAll xs parts ts) (hxs : ∀ x ∈ xs, x ≠ .terminal .endOfFileToken) :
    ∀ t ∈ ts, t.kind ≠ .endOfFileToken := by
  induction h with
  | nil => exact fun t ht => absurd ht List.not_mem_nil
  | token t _ ih =>
    intro u hu
    rcases List.mem_cons.1 hu with rfl | hu
    · exact fun hk => hxs _ List.mem_cons_self (by rw [hk])
    · exact ih (fun y hy => hxs y (List.mem_cons_of_mem _ hy)) u hu
  | production hp _ _ ih ih' =>
    intro u hu
    rcases List.mem_append.1 hu with hu | hu
    · exact ih (fun y hy => (rhs_ne hp y hy).2) u hu
    · exact ih' (fun y hy => hxs y (List.mem_cons_of_mem _ hy)) u hu

/-! ### Symbols that derive something -/

/-- The symbols that may derive no token. -/
def isNullable : Symbol → Bool
  | .nonterminal .compilationUnit => true
  | .nonterminal .modifiers => true
  | _ => false

theorem productions_nullable :
    productions.all (fun p => !p.rhs.all isNullable || isNullable (.nonterminal p.lhs)) = true := by
  decide +kernel

/-- Only such symbols derive no token. -/
theorem YieldsAll.nullable {xs : List Symbol} {parts : List (List Value)} {ts : List Token}
    (h : YieldsAll xs parts ts) (hts : ts = []) : ∀ x ∈ xs, isNullable x = true := by
  induction h with
  | nil => exact fun x hx => absurd hx List.not_mem_nil
  | token t _ _ => cases hts
  | production hp _ _ ih ih' =>
    obtain ⟨hts₁, hts₂⟩ := List.append_eq_nil_iff.1 hts
    intro x hx
    rcases List.mem_cons.1 hx with rfl | hx
    · have hcheck := Array.all_eq_true_iff_forall_mem.1 productions_nullable _ hp
      have hrhs := List.all_eq_true.2 (ih hts₁)
      simpa [hrhs] using hcheck
    · exact ih' hts₂ x hx

end TreeQuote.Grammar
