/-
TreeQuote/Proofs/Parse/Builder.lean

The builder never fails.  Wherever it takes a child of a rule by position, the productions of
the rule put there what it takes, so every parse tree of the grammar gives a node, and it is
the node that the machine builds.

Main statements:
* `YieldsAll.built`: what the machine builds from tokens, the builder makes of a parse tree;
* `ParsesAll.built`: every parse tree of the grammar is built, as the machine does it.
-/
import TreeQuote.Parse.Builder
import TreeQuote.Proofs.Grammar.Form

namespace TreeQuote.Grammar

open ParseTree (build buildAll)

/-- The symbols derive the tokens one after the other, each with parse trees of its own. -/
inductive ParsesAll : List Symbol → List (List ParseTree) → List Token → Prop where
  | nil : ParsesAll [] [] []
  | token {xs : List Symbol} {trees : List (List ParseTree)} {ts : List Token} (t : Token)
      (hrest : ParsesAll xs trees ts) :
      ParsesAll (.terminal t.kind :: xs) ([.token t] :: trees) (t :: ts)
  | production {p : Production} {trees : List (List ParseTree)} {ts : List Token}
      {xs : List Symbol} {rest : List (List ParseTree)} {us : List Token}
      (hp : p ∈ productions) (h : ParsesAll p.rhs trees ts) (hrest : ParsesAll xs rest us) :
      ParsesAll (.nonterminal p.lhs :: xs) (p.trees trees :: rest) (ts ++ us)

/-- The symbol derives the tokens with one parse tree. -/
abbrev Parses (x : Symbol) (tree : ParseTree) (ts : List Token) : Prop := ParsesAll [x] [[tree]] ts

/-! ### Trees and values side by side -/

/-- A tree shows a token, or the node that is built from it. -/
inductive Shows : ParseTree → Value → Prop where
  | token (t : Token) : Shows (.token t) (.token t)
  | node {c : NodeClass} {children : List ParseTree} {vs : List Value}
    (h : build (.rule (.node c) children) = .ok (.node c vs)) :
    Shows (.rule (.node c) children) (.node c vs)

/-- The rule that a symbol shows as; most have none of their own. -/
def Symbol.rule? : Symbol → Option Rule
  | .terminal _ => none
  | .nonterminal m => m.rule?

/-- The trees of a symbol show its parts, in a rule of their own if it has one. -/
def Symbol.Shows (x : Symbol) (trees : List ParseTree) (vs : List Value) : Prop :=
  match x.rule? with
  | none => List.Forall₂ Grammar.Shows trees vs
  | some r => ∃ children, trees = [.rule r children] ∧ List.Forall₂ Grammar.Shows children vs

/-! ### Children -/

theorem buildAll_eq_map (trees : List ParseTree) :
    buildAll trees = trees.map fun tree => ⟨tree, build tree⟩ := by
  induction trees with
  | nil => rfl
  | cons tree trees ih => rw [buildAll, ih, List.map_cons]

theorem buildAll_append (trees rest : List ParseTree) :
    buildAll (trees ++ rest) = buildAll trees ++ buildAll rest := by
  simp only [buildAll_eq_map, List.map_append]

theorem build_rule (r : Rule) (trees : List ParseTree) :
    build (.rule r trees) = r.build (buildAll trees) := by
  rw [build]

@[simp] theorem ok_bind {α β : Type} (a : α) (f : α → Except BuildFault β) :
    (Except.ok a >>= f) = f a := rfl

@[simp] theorem ok_map {α β : Type} (a : α) (f : α → β) :
    (Except.ok a : Except BuildFault α).map f = .ok (f a) := rfl

@[simp] theorem sequence_nil : sequence [] = .ok [] := rfl

@[simp] theorem sequence_cons_ok (v : Value) (rest : List (Except BuildFault Value)) :
    sequence (.ok v :: rest) = (sequence rest).map (v :: ·) := by
  rw [sequence]
  cases sequence rest <;> rfl

section Lists

variable {trees : List ParseTree} {vs : List Value}

/-- Tokens and nodes are the members of a separated list. -/
theorem sequence_item (h : List.Forall₂ Shows trees vs) :
    sequence ((buildAll trees).map Child.item) = .ok vs := by
  induction h with
  | nil => rfl
  | cons hone _ ih =>
    cases hone with
    | token t => simp [buildAll, Child.item, ih]
    | node h => simp [buildAll, Child.item, h, ih]

/-- Nodes are built one by one. -/
theorem sequence_built (h : List.Forall₂ Shows trees vs) (hnode : ∀ v ∈ vs, v.isToken = false) :
    sequence ((buildAll trees).map Child.built) = .ok vs := by
  induction h with
  | nil => rfl
  | cons hone _ ih =>
    rw [List.forall_mem_cons] at hnode
    cases hone with
    | token t => exact absurd hnode.1.symm Bool.false_ne_true
    | node h => simp [buildAll, h, ih hnode.2]

/-- Tokens are taken one by one. -/
theorem sequence_token (h : List.Forall₂ Shows trees vs) (htoken : ∀ v ∈ vs, v.isToken = true) :
    sequence ((buildAll trees).map Child.token) = .ok vs := by
  induction h with
  | nil => rfl
  | cons hone _ ih =>
    rw [List.forall_mem_cons] at htoken
    cases hone with
    | token t => simp [buildAll, Child.token, ih htoken.2]
    | node h => exact absurd htoken.1 Bool.false_ne_true

end Lists

section Ends

variable (a b c : Child) (cs : List Child)

@[simp] theorem lastChild_singleton : lastChild [a] = .ok a := rfl

@[simp] theorem lastChild_cons_cons : lastChild (a :: b :: cs) = lastChild (b :: cs) := by
  rw [lastChild, lastChild, List.getLast?_cons_cons]

@[simp] theorem lastChild_cons_concat : lastChild (a :: (cs ++ [b])) = .ok b := by
  rw [lastChild, ← List.cons_append, List.getLast?_concat]

@[simp] theorem middle_cons_concat : middle (a :: (cs ++ [b])) = cs := by
  rw [middle, ← List.cons_append, List.dropLast_concat]
  rfl

@[simp] theorem middle_cons_cons_concat : middle (a :: c :: (cs ++ [b])) = c :: cs :=
  middle_cons_concat a b (c :: cs)

end Ends

/-! ### Symbols -/

/-- What a symbol gives, by its form: one token, one node, or several side by side. -/
def Symbol.View (x : Symbol) (trees : List ParseTree) (vs : List Value) : Prop :=
  match x with
  | .terminal k =>
    ∃ t : Token, trees = [.token { t with kind := k }] ∧ vs = [.token { t with kind := k }]
  | .nonterminal m =>
    match m.rule?, m.form with
    | none, .node (.cls d) => ∃ children ws, build (.rule (.node d) children) = .ok (.node d ws)
        ∧ trees = [.rule (.node d) children] ∧ vs = [.node d ws]
    | none, .node (.category _) => ∃ d children ws, d ≠ .importAlias
        ∧ build (.rule (.node d) children) = .ok (.node d ws)
        ∧ trees = [.rule (.node d) children] ∧ vs = [.node d ws]
    | none, .nodes t => List.Forall₂ Grammar.Shows trees vs ∧ (Form.nodes t).Takes vs
        ∧ sequence ((buildAll trees).map Child.built) = .ok vs
    | none, f => List.Forall₂ Grammar.Shows trees vs ∧ f.Takes vs
        ∧ sequence ((buildAll trees).map Child.item) = .ok vs
    | some .modifiers, _ => ∃ children, build (.rule .modifiers children) = .ok (.tokens vs)
        ∧ vs.filter Value.isToken = vs ∧ trees = [.rule .modifiers children]
    | some .bindingKeyword, _ =>
      ∃ t : Token, trees = [.rule .bindingKeyword [.token t]] ∧ vs = [.token t]
    | some _, _ => True

theorem form_category {m : Nonterminal} {k : Category} (h : m.form = .node (.category k)) :
    k ≠ .node := by
  rintro rfl
  cases m <;> cases h

theorem form_modifiers {m : Nonterminal} (h : m.rule? = some .modifiers) :
    m.form = .tokens .pubKeyword := by
  cases m <;> first | rfl | cases h

theorem form_bindingKeyword {m : Nonterminal} (h : m.rule? = some .bindingKeyword) :
    ∃ ks, m.form = .token ks := by
  cases m <;> first | exact ⟨_, rfl⟩ | cases h

theorem isToken_of_isNodeOf {t : NodeType} {v : Value} (h : v.isNodeOf t = true) :
    v.isToken = false := by
  cases v <;> first | rfl | exact absurd h Bool.false_ne_true

theorem isToken_of_isTokenOf {ks : List Kind} {v : Value} (h : IsTokenOf ks v) :
    v.isToken = true := by
  obtain ⟨t, rfl, -⟩ := h
  rfl

/-- A single token is shown by itself. -/
theorem shows_token {ks : List Kind} {trees : List ParseTree} {vs : List Value}
    (h : List.Forall₂ Shows trees vs) (hvs : (Form.token ks).Takes vs) :
    ∃ t : Token, t.kind ∈ ks ∧ trees = [.token t] ∧ vs = [.token t] := by
  obtain ⟨v, rfl, t, rfl, ht⟩ := hvs
  obtain ⟨tree, _, hone, hnil, rfl⟩ := List.forall₂_cons_right_iff.1 h
  cases hnil
  cases hone
  exact ⟨t, ht, rfl, rfl⟩

/-- A single node is shown by the rule of its class. -/
theorem shows_node {t : NodeType} {trees : List ParseTree} {vs : List Value}
    (h : List.Forall₂ Shows trees vs) (hvs : (Form.node t).Takes vs) :
    ∃ d children ws, t.holds d = true ∧ build (.rule (.node d) children) = .ok (.node d ws)
      ∧ trees = [.rule (.node d) children] ∧ vs = [.node d ws] := by
  obtain ⟨v, rfl, hv⟩ := hvs
  obtain ⟨tree, _, hone, hnil, rfl⟩ := List.forall₂_cons_right_iff.1 h
  cases hnil
  cases hone with
  | token t => exact absurd hv Bool.false_ne_true
  | node hbuild => exact ⟨_, _, _, hv, hbuild, rfl, rfl⟩

/-- A class of a category is no alias. -/
theorem ne_importAlias {k : Category} {d : NodeClass} (hk : k ≠ .node)
    (hd : (NodeType.category k).holds d = true) : d ≠ .importAlias := by
  rintro rfl
  have hchain : NodeClass.importAlias.category.chain = [.node] := rfl
  simp only [NodeType.holds, hchain, List.contains_iff_mem, List.mem_singleton] at hd
  exact hk hd

/-- Trees that show parts of the form of a symbol are what it gives. -/
theorem Symbol.Shows.view {x : Symbol} {trees : List ParseTree} {vs : List Value}
    (hshows : x.Shows trees vs) (htakes : x.form.Takes vs) : x.View trees vs := by
  cases x with
  | terminal k =>
    obtain ⟨t, ht, rfl, rfl⟩ := shows_token hshows htakes
    obtain rfl := List.mem_singleton.1 ht
    exact ⟨t, rfl, rfl⟩
  | nonterminal m =>
    simp only [Symbol.Shows, Symbol.rule?] at hshows
    rw [Symbol.form] at htakes
    unfold View
    simp only
    split
    · rename_i d hr hf
      rw [hr] at hshows
      rw [hf] at htakes
      obtain ⟨e, children, ws, he, hbuild, rfl, rfl⟩ := shows_node hshows htakes
      obtain rfl : e = d := by simpa [NodeType.holds] using he
      exact ⟨children, ws, hbuild, rfl, rfl⟩
    · rename_i k hr hf
      rw [hr] at hshows
      rw [hf] at htakes
      obtain ⟨d, children, ws, hd, hbuild, rfl, rfl⟩ := shows_node hshows htakes
      exact ⟨d, children, ws, ne_importAlias (form_category hf) hd, hbuild, rfl, rfl⟩
    · rename_i t hr hf
      rw [hr] at hshows
      rw [hf] at htakes
      exact ⟨hshows, htakes, sequence_built hshows fun v hv => isToken_of_isNodeOf (htakes v hv)⟩
    · rename_i hr _ _ _
      rw [hr] at hshows
      exact ⟨hshows, htakes, sequence_item hshows⟩
    · rename_i hr
      rw [hr] at hshows
      rw [form_modifiers hr] at htakes
      obtain ⟨children, rfl, hall⟩ := hshows
      have htokens : ∀ v ∈ vs, v.isToken = true := fun v hv => isToken_of_isTokenOf (htakes v hv)
      refine ⟨children, ?_, List.filter_eq_self.2 htokens, rfl⟩
      rw [build_rule, Rule.build, sequence_token hall htokens]
      rfl
    · rename_i hr
      rw [hr] at hshows
      obtain ⟨ks, hform⟩ := form_bindingKeyword hr
      rw [hform] at htakes
      obtain ⟨children, rfl, hall⟩ := hshows
      obtain ⟨t, -, rfl, rfl⟩ := shows_token hall htakes
      exact ⟨t, rfl, rfl⟩
    · trivial

/-- What symbols give one after the other. -/
def ViewAll : List Symbol → List (List ParseTree) → List (List Value) → Prop
  | [], trees, parts => trees = [] ∧ parts = []
  | x :: xs, trees, parts => ∃ cs vs rest others, x.View cs vs ∧ ViewAll xs rest others
      ∧ trees = cs :: rest ∧ parts = vs :: others

/-! ### Rules -/

/-- The parts of a unit: imports, then members. -/
theorem build_unit {imports members : List ParseTree} {vs ws : List Value}
    (himports : List.Forall₂ Shows imports vs)
    (hvs : (Form.nodes (.cls .importDirective)).Takes vs)
    (hmembers : List.Forall₂ Shows members ws)
    (hws : (Form.nodes (.category .member)).Takes ws) :
    (Rule.node .compilationUnit).build (buildAll imports ++ buildAll members)
      = .ok (.node .compilationUnit [.nodes vs, .nodes ws, .token .absent]) := by
  have hall : ∀ c ∈ buildAll imports, c.shows .importDirective = true := by
    clear hmembers hws
    induction himports with
    | nil => exact List.forall_mem_nil _
    | cons hone _ ih =>
      obtain ⟨hv, hvs⟩ := List.forall_mem_cons.1 hvs
      refine List.forall_mem_cons.2 ⟨?_, ih hvs⟩
      cases hone with
      | token t => exact absurd hv Bool.false_ne_true
      | @node d _ _ _ =>
        have hd : (NodeType.cls .importDirective).holds d = true := hv
        simpa [Child.shows, NodeType.holds, eq_comm] using hd
  have hnone : ∀ c ∈ buildAll members, c.shows .importDirective = false := by
    clear himports hvs hall
    induction hmembers with
    | nil => exact List.forall_mem_nil _
    | cons hone _ ih =>
      obtain ⟨hw, hws⟩ := List.forall_mem_cons.1 hws
      refine List.forall_mem_cons.2 ⟨?_, ih hws⟩
      cases hone with
      | token t => exact absurd hw Bool.false_ne_true
      | @node d _ _ _ =>
        have hd : (NodeType.category .member).holds d = true := hw
        simp only [Child.shows, decide_eq_false_iff_not]
        rintro rfl
        exact absurd hd (by decide)
  have hthose : (buildAll imports ++ buildAll members).filter (Child.shows .importDirective)
      = buildAll imports := by
    rw [List.filter_append, List.filter_eq_self.2 hall, List.filter_eq_nil_iff.2
      fun c hc => by simp [hnone c hc], List.append_nil]
  have hothers : (buildAll imports ++ buildAll members).filter (!Child.shows .importDirective ·)
      = buildAll members := by
    rw [List.filter_append, List.filter_eq_nil_iff.2 fun c hc => by simp [hall c hc],
      List.filter_eq_self.2 fun c hc => by simp [hnone c hc], List.nil_append]
  have hbuilt := sequence_built himports fun v hv => isToken_of_isNodeOf (hvs v hv)
  have hbuilt' := sequence_built hmembers fun v hv => isToken_of_isNodeOf (hws v hv)
  simp [Rule.build, picks?, Pick.take, hthose, hothers, hbuilt, hbuilt']

/-- A separated list has no closing braces. -/
theorem not_closeBrace {t : NodeType} {trees : List ParseTree} {vs : List Value}
    (h : List.Forall₂ Shows trees vs) (hvs : (Form.separated t).Takes vs) :
    ∀ c ∈ buildAll trees, c.isCloseBrace = false := by
  have hitem : ∀ v ∈ vs, v.isNodeOf t = true ∨ IsTokenOf [.commaToken] v := by
    obtain rfl | ⟨v, ws, rfl, hv, hmore⟩ := hvs
    · exact List.forall_mem_nil _
    · refine List.forall_mem_cons.2 ⟨.inl hv, ?_⟩
      clear h
      induction hmore with
      | nil => exact List.forall_mem_nil _
      | cons hc hw _ ih =>
        exact List.forall_mem_cons.2 ⟨.inr hc, List.forall_mem_cons.2 ⟨.inl hw, ih⟩⟩
  clear hvs
  induction h with
  | nil => exact List.forall_mem_nil _
  | cons hone _ ih =>
    obtain ⟨hv, hvs⟩ := List.forall_mem_cons.1 hitem
    refine List.forall_mem_cons.2 ⟨?_, ih hvs⟩
    cases hone with
    | node _ => rfl
    | token u =>
      obtain hv | ⟨w, hw, hk⟩ := hv
      · exact absurd hv Bool.false_ne_true
      · cases hw
        simp [Child.isCloseBrace, List.mem_singleton.1 hk]

section Struct

variable {m a b o close : Child} {mid rest : List Child}
  (hmid : ∀ c ∈ mid, c.isCloseBrace = false) (hclose : close.isCloseBrace = true)

include hmid hclose

/-- The closing brace is the first one behind the opening brace. -/
theorem closeBraceAt_struct :
    closeBraceAt (m :: a :: b :: o :: (mid ++ close :: rest)) = .ok (mid.length + 4) := by
  have hfirst : (mid ++ close :: rest).findIdx? Child.isCloseBrace = some mid.length := by
    rw [List.findIdx?_append, List.findIdx?_eq_none_iff.2 hmid, List.findIdx?_cons, hclose]
    simp
  simp only [closeBraceAt, List.drop_succ_cons, List.drop_zero, hfirst]

theorem take_fields {c : NodeClass} {vs : List Value}
    (hvs : sequence (mid.map Child.item) = .ok vs) :
    Pick.take (m :: a :: b :: o :: (mid ++ close :: rest)) c .fields = .ok (.separated vs) := by
  have htake : ((m :: a :: b :: o :: (mid ++ close :: rest)).take (mid.length + 4)).drop 4 = mid := by
    simp
  rw [Pick.take, closeBraceAt_struct hmid hclose, ok_bind, htake, hvs]
  rfl

theorem take_closeBrace {c : NodeClass} :
    Pick.take (m :: a :: b :: o :: (mid ++ close :: rest)) c .closeBrace = close.token := by
  have hat : (m :: a :: b :: o :: (mid ++ close :: rest))[mid.length + 4]? = some close := by
    simp
  rw [Pick.take, closeBraceAt_struct hmid hclose, ok_bind, childAt, hat]
  rfl

theorem take_semicolon {c : NodeClass} {semicolon : Option Token}
    (hrest : rest = (semicolon.map fun t => ⟨.token t, build (.token t)⟩).toList) :
    Pick.take (m :: a :: b :: o :: (mid ++ close :: rest)) c .semicolon
      = .ok (.token (semicolon.getD .absent)) := by
  rw [Pick.take, closeBraceAt_struct hmid hclose, ok_bind]
  cases semicolon with
  | none =>
    subst hrest
    simp
  | some t =>
    have hat : (m :: a :: b :: o :: (mid ++ close :: rest))[mid.length + 4 + 1]?
        = some ⟨.token t, build (.token t)⟩ := by
      subst hrest
      simp
    have hlen : mid.length + 4 + 1 < (m :: a :: b :: o :: (mid ++ close :: rest)).length := by
      subst hrest
      simp
    rw [if_pos hlen, childAt, hat]
    rfl

end Struct

/-- The parts of a struct. -/
theorem build_struct {head fields rest : List ParseTree} {ms vs : List Value} {a b o close : Token}
    {t : NodeType} (hms : build (.rule .modifiers head) = .ok (.tokens ms))
    (hfields : List.Forall₂ Shows fields vs) (hvs : (Form.separated t).Takes vs)
    (hclose : close.kind = .closeBraceToken) (semicolon : Option Token)
    (hrest : rest = (semicolon.map ParseTree.token).toList) :
    (Rule.node .structDeclaration).build (buildAll (.rule .modifiers head :: .token a :: .token b
        :: .token o :: (fields ++ .token close :: rest)))
      = .ok (.node .structDeclaration [.tokens ms, .token a, .token b, .token o, .separated vs,
          .token close, .token (semicolon.getD .absent)]) := by
  have hnone := not_closeBrace hfields hvs
  have hbrace : Child.isCloseBrace ⟨.token close, build (.token close)⟩ = true := by
    simp [Child.isCloseBrace, hclose]
  have hlast : buildAll rest = (semicolon.map fun t => ⟨.token t, build (.token t)⟩).toList := by
    cases semicolon <;> subst hrest <;> rfl
  simp only [buildAll, buildAll_append, Rule.build, picks?, List.map_cons, List.map_nil,
    take_fields hnone hbrace (sequence_item hfields), take_closeBrace hnone hbrace,
    take_semicolon hnone hbrace hlast, hms]
  rfl

/-! ### Productions -/

/-- The production builds the node that the builder makes of its trees. -/
def Production.IsBuilt (p : Production) : Prop :=
  ∀ c targets trees parts, p.builds = .node c targets → ViewAll p.rhs trees parts →
    build (.rule (.node c) trees.flatten)
      = .ok (.node c (properties targets parts (kindFor c parts.flatten) 0 c.fields))

theorem forall_productions {P : Production → Prop} (h : ∀ p ∈ productions.toList, P p) :
    ∀ p ∈ productions, P p :=
  fun p hp => h p (Array.mem_toList_iff.2 hp)

/-- Most productions put each part at a fixed distance from one of the two ends, where the builder
finds it; in a unit the imports are told from the members, and in a struct the closing brace is
found. -/
theorem productions_built : ∀ p ∈ productions, p.IsBuilt := by
  refine forall_productions ?_
  unfold productions
  repeat' first | refine List.forall_mem_cons.2 ⟨?_, ?_⟩ | exact List.forall_mem_nil _
  all_goals
    intro c targets trees parts hb h
    cases hb
  all_goals
    repeat
      obtain ⟨_, _, _, _, hx, h, rfl, rfl⟩ := h
      first
      | obtain ⟨t, rfl, rfl⟩ := hx
      | obtain ⟨mods, hmods, hvs, rfl⟩ := hx
      | obtain ⟨children, ws, hbuild, rfl, rfl⟩ := hx
      | obtain ⟨d, children, ws, hd, hbuild, rfl, rfl⟩ := hx
      | obtain ⟨hshows, htakes, hvs⟩ := hx
    obtain ⟨rfl, rfl⟩ := h
    rw [build_rule]
  -- Units and structs are left for the end.
  all_goals first
    | with_reducible change (Rule.node .compilationUnit).build _ = _
    | with_reducible change (Rule.node .structDeclaration).build _ = _
    | simp only [List.flatten_cons, List.flatten_nil, List.append_nil, List.cons_append,
        List.nil_append, buildAll, *]
      rfl
    | simp [buildAll, buildAll_append, Rule.build, picks?, Pick.take, childAt, Child.token,
        Child.shows, Child.item, properties, property, partsAt, NodeClass.fields, kindFor, *]
  -- Units: nothing, imports alone, members alone, both.
  · have hunit := build_unit .nil (takes_nil rfl) .nil (takes_nil rfl)
    simpa [buildAll, properties, property, partsAt, NodeClass.fields] using hunit
  · have hunit := build_unit hshows htakes .nil (takes_nil rfl)
    simpa [buildAll, properties, property, partsAt, NodeClass.fields] using hunit
  · have hunit := build_unit .nil (takes_nil rfl) hshows htakes
    simpa [buildAll, properties, property, partsAt, NodeClass.fields] using hunit
  · rename_i himports hvs' _ _ _
    have hunit := build_unit himports hvs' hshows htakes
    simpa [buildAll_append, properties, property, partsAt, NodeClass.fields] using hunit
  -- Structs without a semicolon, and with one: no field, one, more than one.
  · refine (build_struct hmods .nil (takes_nil rfl) rfl none rfl
      (t := .cls .fieldDeclaration)).trans ?_
    simp [properties, property, partsAt, NodeClass.fields, *]
  · refine (build_struct hmods (.cons (.node hbuild) .nil) (.inr ⟨_, _, rfl, rfl, .nil⟩) rfl
      none rfl (t := .cls .fieldDeclaration)).trans ?_
    simp [properties, property, partsAt, NodeClass.fields, *]
  · refine (build_struct hmods (.cons (.node hbuild) hshows) (.inr ⟨_, _, rfl, rfl, htakes⟩) rfl
      none rfl).trans ?_
    simp [properties, property, partsAt, NodeClass.fields, *]
  · refine (build_struct hmods .nil (takes_nil rfl) rfl (some _) rfl
      (t := .cls .fieldDeclaration)).trans ?_
    simp [properties, property, partsAt, NodeClass.fields, *]
  · refine (build_struct hmods (.cons (.node hbuild) .nil) (.inr ⟨_, _, rfl, rfl, .nil⟩) rfl
      (some _) rfl (t := .cls .fieldDeclaration)).trans ?_
    simp [properties, property, partsAt, NodeClass.fields, *]
  · refine (build_struct hmods (.cons (.node hbuild) hshows) (.inr ⟨_, _, rfl, rfl, htakes⟩) rfl
      (some _) rfl).trans ?_
    simp [properties, property, partsAt, NodeClass.fields, *]

/-! ### Derivations -/

/-- What has a rule of its own is no part of another rule, and is no node. -/
def Production.isPlain (p : Production) : Bool :=
  match p.builds with
  | .parts => p.rhs.all fun x => x.rule? = none
  | .node .. => p.lhs.rule? = none

theorem productions_plain : productions.all Production.isPlain = true := by
  decide +kernel

/-- What symbols give side by side: their trees show their parts. -/
def GivesAll : List Symbol → List (List ParseTree) → List (List Value) → Prop
  | [], trees, parts => trees = [] ∧ parts = []
  | x :: xs, trees, parts => ∃ cs vs rest others, x.Shows cs vs ∧ x.form.Takes vs
      ∧ GivesAll xs rest others ∧ trees = cs :: rest ∧ parts = vs :: others

theorem GivesAll.viewAll {xs : List Symbol} {trees : List (List ParseTree)}
    {parts : List (List Value)} (h : GivesAll xs trees parts) : ViewAll xs trees parts := by
  induction xs generalizing trees parts with
  | nil => exact h
  | cons x xs ih =>
    obtain ⟨cs, vs, rest, others, hshows, htakes, hrest, rfl, rfl⟩ := h
    exact ⟨cs, vs, rest, others, hshows.view htakes, ih hrest, rfl, rfl⟩

theorem GivesAll.flatten {xs : List Symbol} {trees : List (List ParseTree)}
    {parts : List (List Value)} (h : GivesAll xs trees parts)
    (hxs : ∀ x ∈ xs, x.rule? = none) :
    List.Forall₂ Shows trees.flatten parts.flatten := by
  induction xs generalizing trees parts with
  | nil =>
    obtain ⟨rfl, rfl⟩ := h
    exact .nil
  | cons x xs ih =>
    obtain ⟨cs, vs, rest, others, hshows, -, hrest, rfl, rfl⟩ := h
    obtain ⟨hx, hxs⟩ := List.forall_mem_cons.1 hxs
    simp only [Symbol.Shows, hx] at hshows
    exact List.rel_append hshows (ih hrest hxs)

/-- The trees of a production show what it builds. -/
theorem shows_production {p : Production} (hp : p ∈ productions) {trees : List (List ParseTree)}
    {parts : List (List Value)} (h : GivesAll p.rhs trees parts) :
    (Symbol.nonterminal p.lhs).Shows (p.trees trees) (p.builds.apply parts) := by
  have hplain := Array.all_eq_true_iff_forall_mem.1 productions_plain p hp
  unfold Production.isPlain at hplain
  unfold Symbol.Shows Production.trees
  split at hplain
  · rename_i hb
    have hflat := h.flatten fun x hx => of_decide_eq_true (List.all_eq_true.1 hplain x hx)
    rw [hb, Symbol.rule?]
    cases p.lhs.rule? with
    | none => exact hflat
    | some r => exact ⟨_, rfl, hflat⟩
  · rename_i c targets hb
    rw [hb, Symbol.rule?, of_decide_eq_true hplain]
    exact .cons (.node (productions_built p hp c targets trees parts hb h.viewAll)) .nil

/-- What the machine builds from tokens, the builder makes of parse trees. -/
theorem YieldsAll.built {xs : List Symbol} {parts : List (List Value)} {ts : List Token}
    (h : YieldsAll xs parts ts) (hxs : ∀ x ∈ xs, x ≠ .terminal .none) :
    ∃ trees, ParsesAll xs trees ts ∧ GivesAll xs trees parts := by
  induction h with
  | nil => exact ⟨[], .nil, rfl, rfl⟩
  | token t _ ih =>
    obtain ⟨trees, hparses, hgives⟩ := ih fun x hx => hxs x (List.mem_cons_of_mem _ hx)
    exact ⟨_, .token t hparses, _, _, _, _, .cons (.token t) .nil,
      ⟨_, rfl, t, rfl, List.mem_singleton.2 rfl⟩, hgives, rfl, rfl⟩
  | @production p parts ts xs rest us hp hrhs hrest ih ih' =>
    obtain ⟨trees, hparses, hgives⟩ := ih fun x hx => (rhs_ne hp x hx).1
    obtain ⟨trees', hparses', hgives'⟩ := ih' fun x hx => hxs x (List.mem_cons_of_mem _ hx)
    have htakes := (Yields.grown (.production hp hrhs)).1
    exact ⟨_, .production hp hparses hparses', _, _, _, _, shows_production hp hgives, htakes,
      hgives', rfl, rfl⟩

/-- Every parse tree of the grammar is built, as the machine does it. -/
theorem ParsesAll.built {xs : List Symbol} {trees : List (List ParseTree)} {ts : List Token}
    (h : ParsesAll xs trees ts) (hxs : ∀ x ∈ xs, x ≠ .terminal .none) :
    ∃ parts, YieldsAll xs parts ts ∧ GivesAll xs trees parts := by
  induction h with
  | nil => exact ⟨[], .nil, rfl, rfl⟩
  | token t _ ih =>
    obtain ⟨parts, hyields, hgives⟩ := ih fun x hx => hxs x (List.mem_cons_of_mem _ hx)
    exact ⟨_, .token t hyields, _, _, _, _, .cons (.token t) .nil,
      ⟨_, rfl, t, rfl, List.mem_singleton.2 rfl⟩, hgives, rfl, rfl⟩
  | @production p trees ts xs rest us hp hrhs hrest ih ih' =>
    obtain ⟨parts, hyields, hgives⟩ := ih fun x hx => (rhs_ne hp x hx).1
    obtain ⟨parts', hyields', hgives'⟩ := ih' fun x hx => hxs x (List.mem_cons_of_mem _ hx)
    have htakes := (Yields.grown (.production hp hyields)).1
    exact ⟨_, .production hp hyields hyields', _, _, _, _, shows_production hp hgives, htakes,
      hgives', rfl, rfl⟩

end TreeQuote.Grammar
