/-
TreeQuote/Proofs/Factory/Plan.lean

How a node of a class is written.  All overloads that produce a class belong to one factory,
its home.  One of them is used for quoting: it depends only on whether the name of the node is
written as a plain string (`named`) and whether its kind needs a token (`needy`).

A plan is that overload with the ones in front of it and behind it.  It is sound if

* each parameter has the name of a property, in the order of the properties, and the recipe puts
  the argument where the property is (`Routes`);
* a property that no parameter takes gets a fixed value, and one that may be absent gets the
  absent value of its shape;
* none of the overloads behind it is preferred, and those in front of it do not take its
  arguments.

The catalogue is finite, so the homes and the soundness of all plans are computed.

Main statements: `Home.exists_home` and `Plan.exists_sound`.
-/
import TreeQuote.Proofs.Evaluate.Call
import TreeQuote.Quote.Binding

namespace TreeQuote

/-! ### Properties that may be absent -/

/-- The property may hold nothing, the absent token or an empty list, which is not written. -/
def Field.mayLack (c : NodeClass) (f : Field) : Bool :=
  (match f.shape with
    | .optional _ => true
    | .tokens => true
    | .nodes _ => true
    | .separated _ => true
    | _ => false)
  || (c = .structDeclaration && f.name = Text.of "semicolon_token")

/-- The value is the one that stands for absence in the property. -/
def Field.isBlank (f : Field) : Value → Bool
  | .scalar .none => match f.shape with
    | .optional _ => true
    | _ => false
  | .tokens [] => f.shape = .tokens
  | .nodes [] => match f.shape with
    | .nodes _ => true
    | _ => false
  | .separated [] => match f.shape with
    | .separated _ => true
    | _ => false
  | .token t => t = .absent && f.shape = .token
  | _ => false

/-! ### Recipes -/

/-- Where the properties come from.  A literal that its kind says everything about has the kind
as its argument and the token that belongs to it. -/
def Recipe.parts : Recipe → List Part
  | .node _ parts => parts
  | .keywordLiteral => [.argument 0, .operator 0]
  | _ => []

/-- The part puts the argument at position `j`, for the parameter `p`, into the property `f`. -/
inductive Part.Carries (c : NodeClass) (p : Parameter) (f : Field) (j : Nat) : Part → Prop where
  | argument (hvariadic : p.isVariadic = false) (hshape : p.shape = f.shape)
      (hoptional : p.isOptional = f.mayLack c)
      (habsent : p.isOptional = true → ∃ a, f.shape = .optional a) : Carries c p f j (.argument j)
  | argumentOr {t : Option NodeType} (hvariadic : p.isVariadic = false)
      (hoptional : p.isOptional = true) (hshape : p.shape = .optional (.separated t))
      (hfield : f.shape = .separated t) : Carries c p f j (.argumentOr j (.separated []))
  | identifier (hvariadic : p.isVariadic = false) (hoptional : p.isOptional = f.mayLack c)
      (hrequired : f.mayLack c = false) (hshape : p.shape = .text) (hfield : f.shape = .token) :
      Carries c p f j (.identifier j)
  | identifierName (hvariadic : p.isVariadic = false) (hoptional : p.isOptional = f.mayLack c)
      (hrequired : f.mayLack c = false) (hshape : p.shape = .text)
      (hfield : f.shape = .node (.cls .identifierName)) : Carries c p f j (.identifierName j)
  | members {t : NodeType} (hvariadic : p.isVariadic = true) (hfirst : j = 0)
      (hshape : p.shape = .node t) (hfield : f.shape = .nodes (some t)) :
      Carries c p f j (.members j)

/-- The computed form of `Carries`. -/
def Part.carries (c : NodeClass) (p : Parameter) (f : Field) (j : Nat) : Part → Bool
  | .argument i =>
    i = j && !p.isVariadic && p.shape = f.shape && p.isOptional = f.mayLack c
      && (match f.shape with
        | .optional _ => true
        | _ => !p.isOptional)
  | .argumentOr i (.separated []) =>
    i = j && !p.isVariadic && p.isOptional && (match p.shape, f.shape with
      | .optional (.separated s), .separated t => s = t
      | _, _ => false)
  | .identifier i =>
    i = j && !p.isVariadic && p.isOptional = f.mayLack c && !f.mayLack c && p.shape = .text
      && f.shape = .token
  | .identifierName i =>
    i = j && !p.isVariadic && p.isOptional = f.mayLack c && !f.mayLack c && p.shape = .text
      && f.shape = .node (.cls .identifierName)
  | .members i =>
    i = j && p.isVariadic && j = 0 && (match p.shape, f.shape with
      | .node t, .nodes (some s) => s = t
      | _, _ => false)
  | _ => false

namespace Part.Carries

variable {c : NodeClass} {p : Parameter} {f : Field} {j : Nat} {part : Part}

theorem of_carries (h : part.carries c p f j = true) : Carries c p f j part := by
  unfold carries at h
  split at h
  · simp only [Bool.and_eq_true, decide_eq_true_eq, Bool.not_eq_true'] at h
    obtain ⟨⟨⟨⟨rfl, hvariadic⟩, hshape⟩, hoptional⟩, habsent⟩ := h
    refine .argument hvariadic hshape hoptional ?_
    intro ho
    split at habsent
    · next a ha => exact ⟨a, ha⟩
    · rw [ho] at habsent
      cases habsent
  · simp only [Bool.and_eq_true, decide_eq_true_eq, Bool.not_eq_true'] at h
    obtain ⟨⟨⟨rfl, hvariadic⟩, hoptional⟩, hshape⟩ := h
    split at hshape
    · next s t hs ht =>
      obtain rfl : s = t := by simpa using hshape
      exact .argumentOr hvariadic hoptional hs ht
    · cases hshape
  · simp only [Bool.and_eq_true, decide_eq_true_eq, Bool.not_eq_true'] at h
    obtain ⟨⟨⟨⟨⟨rfl, hvariadic⟩, hoptional⟩, hrequired⟩, hshape⟩, hfield⟩ := h
    exact .identifier hvariadic hoptional hrequired hshape hfield
  · simp only [Bool.and_eq_true, decide_eq_true_eq, Bool.not_eq_true'] at h
    obtain ⟨⟨⟨⟨⟨rfl, hvariadic⟩, hoptional⟩, hrequired⟩, hshape⟩, hfield⟩ := h
    exact .identifierName hvariadic hoptional hrequired hshape hfield
  · simp only [Bool.and_eq_true, decide_eq_true_eq] at h
    obtain ⟨⟨⟨rfl, hvariadic⟩, hfirst⟩, hshape⟩ := h
    split at hshape
    · next t s ht hs =>
      obtain rfl : s = t := by simpa using hshape
      exact .members hvariadic hfirst ht hs
    · cases hshape
  · cases h

/-- A property that may be absent has a parameter that may be left out. -/
theorem optional_of_mayLack (h : Carries c p f j part) (hf : f.mayLack c = true) :
    p.isOptional = true ∨ p.isVariadic = true := by
  cases h with
  | argument _ _ hoptional _ => exact .inl (hoptional.trans hf)
  | argumentOr _ hoptional _ _ => exact .inl hoptional
  | identifier _ _ hrequired _ _ => rw [hf] at hrequired; cases hrequired
  | identifierName _ _ hrequired _ _ => rw [hf] at hrequired; cases hrequired
  | members hvariadic _ _ _ => exact .inr hvariadic

end Part.Carries

/-- What a recipe puts into a property that no parameter takes; `k` is the kind of the node. -/
def Part.default? (c : NodeClass) (k : Kind) : Part → Option Value
  | .fixed v => some v
  | .operator _ => some (Recipe.fixedToken ((Kind.tokenOf? c.kindTable k).getD .none))
  | _ => none

/-- The property is left to a modifier, and its value by default stands for absence if it may be
absent. -/
def Part.leaves (c : NodeClass) (f : Field) : Part → Bool
  | .fixed v => !f.mayLack c || f.isBlank v
  | .operator i => i = 0 && !f.mayLack c && c.kind?.isNone
  | _ => false

/-- The parts put the arguments of the parameters, the first of which has position `j`, into the
properties. -/
inductive Routes (c : NodeClass) : Nat → List Parameter → List Field → List Part → Prop where
  | nil {j : Nat} : Routes c j [] [] []
  | leave {j : Nat} {ps : List Parameter} {f : Field} {fs : List Field} {part : Part}
      {parts : List Part} (hleaves : part.leaves c f = true) (hkind : f.name ≠ Text.of "kind")
      (h : Routes c j ps fs parts) : Routes c j ps (f :: fs) (part :: parts)
  | carry {j : Nat} {p : Parameter} {ps : List Parameter} {f : Field} {fs : List Field}
      {part : Part} {parts : List Part} (hleaves : part.leaves c f = false) (hname : p.name = f.name)
      (hcarries : Part.Carries c p f j part)
      (hlast : p.isOptional = true ∨ p.isVariadic = true → ps = [])
      (h : Routes c (j + 1) ps fs parts) : Routes c j (p :: ps) (f :: fs) (part :: parts)

/-- The computed form of `Routes`. -/
def routes (c : NodeClass) : Nat → List Parameter → List Field → List Part → Bool
  | j, ps, f :: fs, part :: parts =>
    if part.leaves c f then f.name ≠ Text.of "kind" && routes c j ps fs parts
    else match ps with
      | p :: ps =>
        p.name = f.name && part.carries c p f j && (!(p.isOptional || p.isVariadic) || ps.isEmpty)
          && routes c (j + 1) ps fs parts
      | [] => false
  | _, ps, fs, parts => ps.isEmpty && fs.isEmpty && parts.isEmpty

namespace Routes

theorem of_routes {c : NodeClass} {j : Nat} {ps : List Parameter} {fs : List Field}
    {parts : List Part} (h : routes c j ps fs parts = true) : Routes c j ps fs parts := by
  induction fs generalizing j ps parts with
  | nil =>
    cases ps <;> cases parts <;> simp [routes] at h
    exact .nil
  | cons f fs ih =>
    cases parts with
    | nil => simp [routes] at h
    | cons part parts =>
      cases hl : part.leaves c f with
      | true =>
        have hrest : f.name ≠ Text.of "kind" ∧ routes c j ps fs parts = true := by
          cases ps <;> simpa [routes, hl] using h
        exact .leave hl hrest.1 (ih hrest.2)
      | false =>
        cases ps with
        | nil => simp [routes, hl] at h
        | cons p ps =>
          simp only [routes, hl, Bool.false_eq_true, if_false, Bool.and_eq_true,
            decide_eq_true_eq] at h
          obtain ⟨⟨⟨hname, hcarries⟩, hlast⟩, h⟩ := h
          refine .carry hl hname (.of_carries hcarries) ?_ (ih h)
          rintro (hp | hp) <;> simpa [hp] using hlast

/-- Each parameter has the name of a property. -/
theorem names {c : NodeClass} {j : Nat} {ps : List Parameter} {fs : List Field}
    {parts : List Part} (h : Routes c j ps fs parts) : ∀ p ∈ ps, ∃ f ∈ fs, p.name = f.name := by
  induction h with
  | nil => simp
  | leave _ _ _ ih =>
    intro p hp
    obtain ⟨f, hf, hname⟩ := ih p hp
    exact ⟨f, List.mem_cons_of_mem _ hf, hname⟩
  | carry _ hname _ _ _ ih =>
    intro p hp
    rcases List.mem_cons.mp hp with rfl | hp
    · exact ⟨_, List.mem_cons_self, hname⟩
    · obtain ⟨f, hf, hname⟩ := ih p hp
      exact ⟨f, List.mem_cons_of_mem _ hf, hname⟩

end Routes

/-! ### Properties of the classes -/

namespace NodeClass

/-- No two properties of a class have the same name, letters in either case being equal; the kind
is the first property of the classes with several kinds and no property of the others; the
elements of lists are of types of the language, and only nodes are optional. -/
def isTidy (c : NodeClass) : Bool :=
  (c.fields.map fun f => Text.lower f.name).Nodup
    && (match c.fields with
      | f :: fs => (f.name = Text.of "kind") == c.kind?.isNone
        && (f.shape = .kind) == c.kind?.isNone && fs.all fun g => g.name ≠ Text.of "kind"
      | [] => false)
    && c.fields.all fun f => match f.shape with
      | .nodes (some t) => NodeType.all.contains t
      | .separated (some t) => NodeType.all.contains t
      | .optional (.node _) => true
      | .optional _ => false
      | _ => true

theorem isTidy_all : all.all isTidy = true := by
  delta isTidy
  simp only [fields_eq]
  decide +kernel

/-- Only the first property is the kind, and only of a class with several kinds. -/
theorem fields_kind {c : NodeClass} (hc : c ∈ all) :
    ∃ f fs, c.fields = f :: fs ∧ (f.name = Text.of "kind" ↔ c.kind? = none)
      ∧ (f.shape = .kind ↔ c.kind? = none) ∧ ∀ g ∈ fs, g.name ≠ Text.of "kind" := by
  have h := List.all_eq_true.mp isTidy_all c hc
  simp only [isTidy, Bool.and_eq_true] at h
  have hfields := h.1.2
  split at hfields
  · next f fs hfs =>
    simp only [Bool.and_eq_true, beq_iff_eq, List.all_eq_true, decide_eq_true_eq] at hfields
    refine ⟨f, fs, hfs, ?_, ?_, hfields.2⟩
    · rw [← Option.isNone_iff_eq_none, ← hfields.1.1, decide_eq_true_eq]
    · rw [← Option.isNone_iff_eq_none, ← hfields.1.2, decide_eq_true_eq]
  · cases hfields

end NodeClass

/-! ### Homes -/

/-- The property that may be written as a plain string. -/
def NodeClass.label : NodeClass → Text
  | .importAlias => Text.of "name"
  | .documentationComment => Text.of "content"
  | _ => Text.of "identifier"

/-- Only classes that prefer it, and documentation, have such a property. -/
theorem NodeClass.label_all : (all.all fun c => Quote.prefersString c || c = .documentationComment
    || c.fields.all fun f => Text.lower f.name ≠ Text.lower c.label) = true := by
  simp only [fields_eq]
  decide +kernel

/-- The factory produces the class, and no other does. -/
structure Home (c : NodeClass) (f : Factory) : Prop where
  mem : f ∈ Registry.language
  producing : Registry.standard.producing (.cls c) = f.overloads.map (⟨f, ·⟩)
  takesKind : (f.overloads.any fun o => (o.parameter? (Text.of "kind")).isSome) = c.kind?.isNone
  label : ∀ o ∈ f.overloads, ∀ p ∈ o.parameters, p.shape = .text → p.name = c.label

namespace Home

/-- The factory that produces a class. -/
def of? (c : NodeClass) : Option Factory :=
  Registry.language.find? fun f => f.overloads.any fun o => o.produces = .node (.cls c)

/-- What has to be computed about a home. -/
def check (c : NodeClass) (f : Factory) : Bool :=
  (f.overloads.all fun o => o.produces = .node (.cls c))
    && (Registry.language.countP fun f => f.overloads.any fun o => o.produces = .node (.cls c)) = 1
    && (f.overloads.any fun o => (o.parameter? (Text.of "kind")).isSome) = c.kind?.isNone
    && f.overloads.all fun o => o.parameters.all fun p => p.shape ≠ .text || p.name = c.label

theorem check_all : (NodeClass.all.all fun c => (of? c).any (check c)) = true := by decide +kernel

/-- If only one member of a list has overloads that satisfy `Q`, and all of them do, then these
are all that satisfy it. -/
theorem filter_entries {Q : Overload → Bool} {f : Factory} {before after : List Factory}
    (hbefore : ∀ g ∈ before, g.overloads.any Q = false)
    (hafter : ∀ g ∈ after, g.overloads.any Q = false) (hf : f.overloads.all Q = true) :
    ((before ++ f :: after).flatMap fun g => g.overloads.map fun o =>
      (⟨g, o⟩ : Registry.Entry)).filter (fun e => Q e.overload) = f.overloads.map (⟨f, ·⟩) := by
  have hnone : ∀ gs : List Factory, (∀ g ∈ gs, g.overloads.any Q = false)
      → (gs.flatMap fun g => g.overloads.map fun o =>
        (⟨g, o⟩ : Registry.Entry)).filter (fun e => Q e.overload) = [] := by
    intro gs hgs
    rw [List.filter_eq_nil_iff]
    intro e he
    obtain ⟨g, hg, he⟩ := List.mem_flatMap.mp he
    obtain ⟨o, ho, rfl⟩ := List.mem_map.mp he
    exact List.any_eq_false.mp (hgs g hg) o ho
  have hall : (f.overloads.map fun o => (⟨f, o⟩ : Registry.Entry)).filter (fun e => Q e.overload)
      = f.overloads.map (⟨f, ·⟩) := by
    rw [List.filter_eq_self]
    intro e he
    obtain ⟨o, ho, rfl⟩ := List.mem_map.mp he
    exact List.all_eq_true.mp hf o ho
  rw [List.flatMap_append, List.flatMap_cons, List.filter_append, List.filter_append,
    hnone before hbefore, hnone after hafter, hall, List.nil_append, List.append_nil]

/-- Every class of the language has a home. -/
theorem exists_home {c : NodeClass} (hc : c ∈ NodeClass.all) : ∃ f, of? c = some f ∧ Home c f := by
  have hcheck := List.all_eq_true.mp check_all c hc
  rw [Option.any_eq_true] at hcheck
  obtain ⟨f, hf, hcheck⟩ := hcheck
  simp only [check, Bool.and_eq_true, decide_eq_true_eq] at hcheck
  obtain ⟨⟨⟨hall, hcount⟩, hkind⟩, hlabel⟩ := hcheck
  obtain ⟨hany, before, after, hsplit, hbefore⟩ := List.find?_eq_some_iff_append.mp hf
  refine ⟨f, hf, List.mem_of_find?_eq_some hf, ?_, hkind, ?_⟩
  · rw [Registry.producing, Registry.makers_standard, hsplit]
    refine filter_entries (fun g hg => by simpa using hbefore g hg) ?_ hall
    rw [hsplit, List.countP_append, List.countP_cons] at hcount
    simp only [hany, if_true] at hcount
    intro g hg
    have hzero : after.countP (fun f => f.overloads.any fun o => o.produces = .node (.cls c)) = 0 := by
      omega
    exact Bool.eq_false_iff.mpr (List.countP_eq_zero.mp hzero g hg)
  · intro o ho p hp htext
    have := List.all_eq_true.mp (List.all_eq_true.mp hlabel o ho) p hp
    simpa [htext] using this

end Home

/-! ### Plans -/

/-- An overload of a factory with those in front of it and behind it. -/
structure Plan where
  factory : Factory
  before : List Overload
  overload : Overload
  after : List Overload

namespace Plan

/-- Plain strings stand only where they may. -/
def fits (named : Bool) (o : Overload) : Bool := o.parameters.all fun p => p.shape ≠ .text || named

/-- The first parameter is a string. -/
def startsWithText (o : Overload) : Bool :=
  match o.parameters with
  | p :: _ => p.shape = .text
  | [] => false

/-- The first parameter is a token, a kind or a node. -/
def startsWithTree (o : Overload) : Bool :=
  match o.parameters with
  | p :: _ => match p.shape with
    | .token | .kind | .node _ => true
    | _ => false
  | [] => false

/-- The overload can be used. -/
def admits (c : NodeClass) (named needy : Bool) (o : Overload) : Bool :=
  fits named o && (!(Quote.prefersString c && named) || startsWithText o)
    && (!needy || o.parameters.length = 2)

/-- The first overload of a factory that can be used for a class. -/
def of? (c : NodeClass) (f : Factory) (named needy : Bool) : Option Plan :=
  let n := f.overloads.findIdx (admits c named needy)
  f.overloads[n]?.map fun o => ⟨f, f.overloads.take n, o, f.overloads.drop (n + 1)⟩

/-- The overload takes exactly one argument for each parameter. -/
def isPlain (o : Overload) : Bool := o.parameters.all fun p => !p.isOptional && !p.isVariadic

/-- The overload `d` does not take what `o` does: it has too few parameters, or its first is a
string and that of `o` is part of a tree. -/
def refuses (o d : Overload) : Bool :=
  isPlain o && isPlain d
    && ((startsWithText d && startsWithTree o) || d.parameters.length < o.parameters.length)

/-- The plan writes nodes of the class, and evaluation understands it. -/
structure Sound (c : NodeClass) (p : Plan) : Prop where
  mem : p.factory ∈ Registry.language
  overloads : p.factory.overloads = p.before ++ p.overload :: p.after
  routes : Routes c 0 p.overload.parameters c.fields p.overload.recipe.parts
  recipe : (∃ parts, p.overload.recipe = .node c parts)
    ∨ (c = .literalExpression ∧ p.overload.recipe = .keywordLiteral)
  before : ∀ d ∈ p.before, refuses p.overload d = true

/-- The plan is the one that selection finds. -/
structure Chosen (c : NodeClass) (named needy : Bool) (p : Plan) : Prop where
  before : ∀ d ∈ p.before, admits c named needy d = false
  overload : admits c named needy p.overload = true
  after : ∀ d ∈ p.after,
    Quote.precedes (Quote.rank ⟨p.factory, d⟩) (Quote.rank ⟨p.factory, p.overload⟩) = false
  /-- Without a token only a keyword is a literal. -/
  needy : p.overload.recipe = .keywordLiteral → needy = false

/-- The combinations of a name written as a string and a kind that needs a token. -/
def cases (c : NodeClass) : List (Bool × Bool) :=
  if c = .literalExpression then [(false, false), (false, true)]
  else if c = .documentationComment then [(true, false)]
  else if Quote.prefersString c then [(false, false), (true, false)]
  else [(false, false)]

/-- The recipe makes nodes of the class. -/
def makes (c : NodeClass) (needy : Bool) : Recipe → Bool
  | .node d _ => d = c
  | .keywordLiteral => c = .literalExpression && !needy
  | _ => false

/-- What has to be computed about a plan. -/
def check (c : NodeClass) (needy : Bool) (p : Plan) : Bool :=
  routes c 0 p.overload.parameters c.fields p.overload.recipe.parts
    && makes c needy p.overload.recipe
    && (p.after.all fun d =>
      !Quote.precedes (Quote.rank ⟨p.factory, d⟩) (Quote.rank ⟨p.factory, p.overload⟩))
    && p.before.all (refuses p.overload)

theorem check_all : (NodeClass.all.all fun c => (Home.of? c).any fun f => (cases c).all fun s =>
    (of? c f s.1 s.2).any (check c s.2)) = true := by decide +kernel

/-- The plan for a case splits the overloads of the factory. -/
theorem of?_eq_some {c : NodeClass} {f : Factory} {named needy : Bool} {p : Plan}
    (h : of? c f named needy = some p) : p.factory = f
      ∧ f.overloads = p.before ++ p.overload :: p.after
      ∧ (∀ d ∈ p.before, admits c named needy d = false)
      ∧ admits c named needy p.overload = true := by
  obtain ⟨o, ho, rfl⟩ := Option.map_eq_some_iff.mp h
  obtain ⟨hlt, rfl⟩ := List.getElem?_eq_some_iff.mp ho
  refine ⟨rfl, ?_, ?_, List.findIdx_getElem⟩
  · rw [List.cons_getElem_drop_succ, List.take_append_drop]
  · intro d hd
    obtain ⟨i, hi, rfl⟩ := List.mem_take_iff_getElem.mp hd
    exact List.not_of_lt_findIdx (Nat.lt_of_lt_of_le hi (Nat.min_le_left _ _))

theorem makes_cases {c : NodeClass} {needy : Bool} {r : Recipe} (h : makes c needy r = true) :
    (∃ parts, r = .node c parts) ∨ (c = .literalExpression ∧ r = .keywordLiteral ∧ needy = false) := by
  cases r with
  | node d parts =>
    simp only [makes, decide_eq_true_eq] at h
    exact .inl ⟨parts, by rw [h]⟩
  | keywordLiteral =>
    simp only [makes, Bool.and_eq_true, decide_eq_true_eq, Bool.not_eq_true'] at h
    exact .inr ⟨h.1, rfl, h.2⟩
  | _ => cases h

/-- Every class has a sound plan for each case. -/
theorem exists_sound {c : NodeClass} (hc : c ∈ NodeClass.all) {f : Factory}
    (hf : Home.of? c = some f) {named needy : Bool} (hs : (named, needy) ∈ cases c) :
    ∃ p : Plan, p.factory = f ∧ Sound c p ∧ Chosen c named needy p := by
  have hcheck := List.all_eq_true.mp check_all c hc
  rw [hf, Option.any_some] at hcheck
  have hplan := List.all_eq_true.mp hcheck _ hs
  rw [Option.any_eq_true] at hplan
  obtain ⟨p, hp, hcheck⟩ := hplan
  simp only [check, Bool.and_eq_true] at hcheck
  obtain ⟨⟨⟨hroutes, hmakes⟩, hafter⟩, hbefore⟩ := hcheck
  obtain ⟨rfl, hsplit, hskipped, hadmits⟩ := of?_eq_some hp
  have hrecipe := makes_cases hmakes
  refine ⟨p, rfl, ⟨List.mem_of_find?_eq_some hf, hsplit, .of_routes hroutes, ?_, List.all_eq_true.mp hbefore⟩,
    ⟨hskipped, hadmits, ?_, ?_⟩⟩
  · exact hrecipe.imp_right fun h => ⟨h.1, h.2.1⟩
  · intro d hd
    simpa using List.all_eq_true.mp hafter d hd
  · intro hr
    rcases hrecipe with ⟨parts, hparts⟩ | ⟨-, -, hneedy⟩
    · rw [hparts] at hr
      cases hr
    · exact hneedy

end Plan

end TreeQuote
