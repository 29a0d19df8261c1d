/-
TreeQuote/Proofs/Evaluate/Call.lean

Calls in the standard registry.  A factory is found by its name, because no two have the same;
what it builds is up to its overloads alone.  A list factory may have the type of its elements
in its name, and then every member has to be of the type.

Main statements: `Evaluate.call_language`, `Evaluate.call_generic`, `Evaluate.eval_ofText`,
`Evaluate.eval_ofKind`.
-/
import Mathlib.Data.List.TakeWhile
import TreeQuote.Evaluate.Basic
import TreeQuote.Call.Literal
import TreeQuote.Proofs.Evaluate.Numeral
import TreeQuote.Proofs.Tree.Spelling
import TreeQuote.Source.Lexeme

namespace TreeQuote

/-- What is listed under a name of its own is found by the name. -/
theorem find?_of_nodup {α β : Type} [DecidableEq β] {f : α → β} {l : List α} {a : α}
    (h : (l.map f).Nodup) (ha : a ∈ l) : l.find? (fun b => f b = f a) = some a := by
  induction l with
  | nil => simp at ha
  | cons b l ih =>
    rw [List.map_cons, List.nodup_cons] at h
    rcases List.mem_cons.mp ha with rfl | ha
    · simp
    · have hne : f b ≠ f a := by
        intro he
        exact h.1 (he ▸ List.mem_map_of_mem ha)
      rw [List.find?_cons_of_neg (by simpa using hne)]
      exact ih h.2 ha

/-! ### Names -/

namespace Kind

theorem ofName?_name (k : Kind) : ofName? k.name = some k := find?_of_nodup names_nodup k.mem_all

end Kind

namespace Registry

/-- The factories of the standard registry: all but those that only delegate. -/
def language : List Factory :=
  Catalogue.triviaFactories ++ Catalogue.tokenFactories ++ Catalogue.listFactories
    ++ Catalogue.declarationFactories ++ Catalogue.statementFactories ++ Catalogue.nameFactories
    ++ Catalogue.expressionFactories

/-- The names of factories by their characters. -/
structure Spelled (fs : List Factory) where
  names : List (List Char)
  spells : fs.map (·.name) = names.map (·.map CodePoint.ofChar)

namespace Spelled

variable {f : Factory} {fs gs : List Factory}

def nil : Spelled [] := ⟨[], rfl⟩

def cons {cs : List Char} (hfs : Spelled fs) (hf : f.name = cs.map CodePoint.ofChar) :
    Spelled (f :: fs) :=
  ⟨cs :: hfs.names, by rw [List.map_cons, List.map_cons, hf, hfs.spells]⟩

def node {cs : List Char} {os : List Overload} (hfs : Spelled fs) :
    Spelled (Catalogue.node (String.ofList cs) os :: fs) :=
  hfs.cons (Text.of_ofList cs)

def append (hfs : Spelled fs) (hgs : Spelled gs) : Spelled (fs ++ gs) :=
  ⟨hfs.names ++ hgs.names, by rw [List.map_append, List.map_append, hfs.spells, hgs.spells]⟩

/-- What holds of all these names. -/
theorem all (h : Spelled fs) {p : Text → Bool}
    (hp : (h.names.all fun cs => p (cs.map CodePoint.ofChar)) = true) :
    (fs.all fun f => p f.name) = true := by
  have hmap : (fs.map (·.name)).all p = true := by
    rw [h.spells, List.all_map]
    exact hp
  rwa [List.all_map] at hmap

theorem nodup (h : Spelled fs) (hn : (h.names.map Text.number).Nodup) : (fs.map (·.name)).Nodup := by
  rw [h.spells]
  refine Text.nodup_of_letters (g := id) (fun _ => rfl) ?_
  rwa [List.map_id]

end Spelled

/-- The names of the language by their characters, so that what is decided about them decodes no
string. -/
def language_spelled : Spelled language := by
  refine .append (.append (.append (.append (.append (.append ?_ ?_) ?_) ?_) ?_) ?_) ?_
  all_goals repeat' first | exact .nil | refine .node ?_ | refine .cons ?_ (Text.of_ofList _)

/-- No two factories have the same name.  The name is a word and none of a value constructor, and no
factory that only delegates has it. -/
theorem language_names : (language.map (·.name)).Nodup
    ∧ (language.all fun f => Conversion.ofName? f.name = none
        && !f.name.contains (CodePoint.ofChar '[')) = true
    ∧ (language.all fun f => Lexeme.startsWord (f.name.headD 0)
      && f.name.tail.all Lexeme.continuesWord) = true
    ∧ (language.all fun f => !delegating.contains f.name && !f.overloads.isEmpty) = true := by
  have hkept := language_spelled.all (p := fun t => !delegating.contains t) (by decide +kernel)
  have hfull : (language.all fun f => !f.overloads.isEmpty) = true := by decide +kernel
  refine ⟨language_spelled.nodup (by decide +kernel),
    language_spelled.all (p := fun t =>
      Conversion.ofName? t = none && !t.contains (CodePoint.ofChar '[')) (by decide +kernel),
    language_spelled.all (p := fun t =>
      Lexeme.startsWord (t.headD 0) && t.tail.all Lexeme.continuesWord) (by decide +kernel),
    List.all_eq_true.mpr fun f hf => ?_⟩
  rw [List.all_eq_true.mp hkept f hf, List.all_eq_true.mp hfull f hf]
  rfl

theorem standard_factories : standard.factories = language := by
  have hlanguage := List.all_eq_true.mp language_names.2.2.2
  have hkept : (language.filter fun f => !delegating.contains f.name) = language :=
    List.filter_eq_self.mpr fun f hf => (Bool.and_eq_true _ _ ▸ hlanguage f hf).1
  have hdenied : (Catalogue.delegatingFactories.filter fun f => !delegating.contains f.name) = [] := by
    refine List.filter_eq_nil_iff.mpr fun f hf => ?_
    have : delegating.contains f.name = true := List.contains_iff_mem.mpr (List.mem_map_of_mem hf)
    rw [this]
    exact Bool.false_ne_true
  have hmap : language.map (Change.relist {}) = language := List.map_id _
  show (((language ++ Catalogue.delegatingFactories).filter fun f =>
    !delegating.contains f.name).map (Change.relist {})).filter (fun f => !f.overloads.isEmpty) = _
  rw [List.filter_append, hkept, hdenied, List.append_nil, hmap]
  exact List.filter_eq_self.mpr fun f hf => (Bool.and_eq_true _ _ ▸ hlanguage f hf).2

theorem leaf_mem {f : Factory} (i : Nat)
    (hf : (Catalogue.triviaFactories ++ Catalogue.tokenFactories)[i]? = some f) : f ∈ language := by
  have hleaf := List.mem_of_getElem? hf
  unfold language
  exact List.mem_append_left _ (List.mem_append_left _ (List.mem_append_left _
    (List.mem_append_left _ (List.mem_append_left _ hleaf))))

theorem list_mem {f : Factory} (i : Nat) (hf : Catalogue.listFactories[i]? = some f) :
    f ∈ language := by
  have hlist := List.mem_of_getElem? hf
  unfold language
  exact List.mem_append_left _ (List.mem_append_left _ (List.mem_append_left _
    (List.mem_append_left _ (List.mem_append_right _ hlist))))

theorem name_mem {f : Factory} (i : Nat) (hf : Catalogue.nameFactories[i]? = some f) :
    f ∈ language := by
  have hname := List.mem_of_getElem? hf
  unfold language
  exact List.mem_append_left _ (List.mem_append_right _ hname)

theorem standard_types : standard.types = NodeType.all := by rfl

theorem standard_constants : standard.constants = Catalogue.constants := by rfl

/-- The overloads of the standard registry that produce a shape. -/
theorem makers_standard (s : Shape) : standard.makers s
    = (language.flatMap fun f => f.overloads.map fun o => (⟨f, o⟩ : Entry)).filter
        fun e => e.overload.produces = s := by
  rw [makers, entries, standard_factories]

/-- The name of a type is a word and does not end with a bracket. -/
theorem type_names {t : NodeType} (h : t ∈ NodeType.all) :
    (Lexeme.startsWord (t.name.headD 0) && t.name.tail.all Lexeme.continuesWord) = true
      ∧ t.name.reverse.head?.any (· ≠ CodePoint.ofChar ']') = true := by
  have hletters : ∀ t ∈ NodeType.all,
      (Lexeme.startsWord ((t.letters.val.map CodePoint.ofChar).headD 0)
        && (t.letters.val.map CodePoint.ofChar).tail.all Lexeme.continuesWord) = true
      ∧ (t.letters.val.map CodePoint.ofChar).reverse.head?.any (· ≠ CodePoint.ofChar ']') = true := by
    decide +kernel
  rw [t.letters.property]
  exact hletters t h

theorem factory?_language {f : Factory} (h : f ∈ language) : standard.factory? f.name = some f := by
  rw [factory?, standard_factories]
  exact find?_of_nodup language_names.1 h

theorem type?_all {t : NodeType} (h : t ∈ NodeType.all) : standard.type? t.name = some t := by
  rw [type?, standard_types]
  exact find?_of_nodup NodeType.names_nodup h

theorem ofName?_language {f : Factory} (h : f ∈ language) : Conversion.ofName? f.name = none := by
  have hf := List.all_eq_true.mp language_names.2.1 f h
  rw [Bool.and_eq_true] at hf
  exact of_decide_eq_true hf.1

theorem no_bracket {f : Factory} (h : f ∈ language) :
    ∀ c ∈ f.name, c ≠ CodePoint.ofChar '[' := by
  have hf := List.all_eq_true.mp language_names.2.1 f h
  rw [Bool.and_eq_true, Bool.not_eq_true', ← Bool.not_eq_true, List.contains_iff_mem] at hf
  rintro c hc rfl
  exact hf.2 hc

end Registry

namespace Call

section Names

variable {n t : Text} (hn : ∀ c ∈ n, c ≠ CodePoint.ofChar '[')

include hn

theorem takeWhile_name (rest : Text) :
    (n ++ CodePoint.ofChar '[' :: rest).takeWhile (· ≠ CodePoint.ofChar '[') = n := by
  rw [List.takeWhile_append_of_pos (by simpa using hn), List.takeWhile_cons_of_neg (by simp),
    List.append_nil]

theorem dropWhile_name (rest : Text) :
    (n ++ CodePoint.ofChar '[' :: rest).dropWhile (· ≠ CodePoint.ofChar '[')
      = CodePoint.ofChar '[' :: rest := by
  rw [List.dropWhile_append_of_pos (by simpa using hn), List.dropWhile_cons_of_neg (by simp)]

theorem baseName_plain : baseName n = n := by
  rw [baseName, List.takeWhile_eq_self_iff]
  simpa using hn

theorem typeArgument?_plain : typeArgument? n = none := by
  have hdrop : n.dropWhile (· ≠ CodePoint.ofChar '[') = [] := by
    rw [List.dropWhile_eq_nil_iff]
    simpa using hn
  rw [typeArgument?, Text.cut?, hdrop]
  rfl

theorem baseName_typed : baseName (n ++ Text.of "[" ++ t ++ Text.of "]") = n := by
  rw [baseName, List.append_assoc, List.append_assoc]
  exact takeWhile_name hn _

theorem typeArgument?_typed (ht : t.reverse.head?.any (· ≠ CodePoint.ofChar ']') = true) :
    typeArgument? (n ++ Text.of "[" ++ t ++ Text.of "]") = some t := by
  have hcut : Text.cut? (CodePoint.ofChar '[') (n ++ CodePoint.ofChar '[' :: (t ++ Text.of "]"))
      = some (n, t ++ Text.of "]") := by
    rw [Text.cut?, dropWhile_name hn, takeWhile_name hn]
  have htrim : Text.trimRight (· = CodePoint.ofChar ']') (t ++ Text.of "]") = t := by
    have hreverse : (t ++ Text.of "]").reverse = CodePoint.ofChar ']' :: t.reverse := by
      rw [List.reverse_append]
      rfl
    rw [Text.trimRight, hreverse, List.dropWhile_cons_of_pos (by simp)]
    rcases h : t.reverse with _ | ⟨c, cs⟩
    · rw [h] at ht
      cases ht
    · rw [h] at ht
      rw [List.dropWhile_cons_of_neg (by simpa using ht), ← h, List.reverse_reverse]
  rw [typeArgument?, List.append_assoc, List.append_assoc]
  show (Text.cut? _ (n ++ CodePoint.ofChar '[' :: (t ++ Text.of "]"))).map _ = _
  rw [hcut, Option.map_some, htrim]

end Names

end Call

/-! ### Overloads -/

namespace Factory

variable {args : List Value} {ks : List (Text × Value)} {o : Overload} {os : List Overload}

theorem build?_reject (h : o.bind? args ks = .ok none) :
    build? args ks (o :: os) = build? args ks os := by
  rw [build?, h]
  rfl

theorem build?_accept {bs : List Value} (h : o.bind? args ks = .ok (some bs)) :
    build? args ks (o :: os) = .ok (some (o.recipe.run bs)) := by
  rw [build?, h]
  rfl

end Factory

namespace Overload

/-- An argument of a parameter that takes one value. -/
theorem takeArgument_some {p : Parameter} (hp : p.isVariadic = false) (v : Value) :
    takeArgument p (some v) = p.shape.accept v := by
  cases v with
  | array vs => rw [takeArgument, hp]; rfl
  | _ => rfl

/-- An overload with one parameter, given one argument. -/
theorem bind?_one {p : Parameter} {s : Shape} {r : Recipe} {v w : Value}
    (hp : p.isVariadic = false) (h : p.shape.accept v = .ok (some w)) :
    bind? ⟨[p], s, r⟩ [v] [] = .ok (some [w]) := by
  have harrange : arrange? [p] [v] [] = some [some v] := by
    simp [arrange?, hp]
  simp only [bind?, harrange, takeArguments, takeArgument_some hp, h]
  rfl

end Overload

namespace Shape

theorem acceptEach_of_forall {f : Value → Except OutOfRange (Option Value)} {vs : List Value}
    (h : ∀ v ∈ vs, f v = .ok (some v)) : acceptEach f vs = .ok (some vs) := by
  induction vs with
  | nil => rfl
  | cons v vs ih =>
    rw [acceptEach, h v List.mem_cons_self]
    show (do return (← acceptEach f vs).map (v :: ·)) = _
    rw [ih fun w hw => h w (List.mem_cons_of_mem v hw)]
    rfl

/-- An array is taken if all its members are. -/
theorem accept_sequence {a : Shape} {vs : List Value} (h : ∀ v ∈ vs, a.accept v = .ok (some v)) :
    (Shape.sequence a).accept (.array vs) = .ok (some (.array vs)) := by
  rw [accept, acceptEach_of_forall h]
  rfl

end Shape

namespace Evaluate

/-! ### Factories -/

/-- A call of a factory is resolved by its overloads. -/
theorem call_eq {f : Factory} (args : List Value) (hf : f ∈ Registry.language) :
    call .standard f.name args [] = match Factory.build? args [] f.overloads with
      | .error _ => .error .outOfRange
      | .ok none => .error (.unresolved f.name (.noOverload (Factory.shownTypes args [])))
      | .ok (some (.error e)) => .error (.unresolved f.name (.build e))
      | .ok (some (.ok v)) => .ok v := by
  have hn := Registry.no_bracket hf
  have htype : elementType .standard f.name f = .ok none := by
    rw [elementType, Call.typeArgument?_plain hn]
  simp only [call, distinct, List.foldl_nil, Registry.ofName?_language hf, factoryCall,
    Call.baseName_plain hn, Registry.factory?_language hf, htype]
  rfl

/-- A call of a factory builds what its overloads build. -/
theorem call_language {f : Factory} {args : List Value} {v : Value} (hf : f ∈ Registry.language)
    (hbuild : Factory.build? args [] f.overloads = .ok (some (.ok v))) :
    call .standard f.name args [] = .ok v := by
  rw [call_eq args hf, hbuild]

/-- A call of a factory has no value if no overload takes the arguments. -/
theorem call_ne_ok {f : Factory} {args : List Value} (hf : f ∈ Registry.language)
    (hbuild : Factory.build? args [] f.overloads = .ok none) (v : Value) :
    call .standard f.name args [] ≠ .ok v := by
  rw [call_eq args hf, hbuild]
  nofun

/-- A call of a list factory with the type of its elements. -/
theorem call_generic {f : Factory} {t : NodeType} {args : List Value} {v : Value}
    (hf : f ∈ Registry.language) (hg : f.isGeneric = true) (ht : t ∈ NodeType.all)
    (hbuild : Factory.build? args [] f.overloads = .ok (some (.ok v)))
    (hmembers : ∀ m ∈ v.members?.getD [], m.isNodeOf t = true) :
    call .standard (f.name ++ Text.of "[" ++ t.name ++ Text.of "]") args [] = .ok v := by
  have hn := Registry.no_bracket hf
  have hlast := (Registry.type_names ht).2
  have htype : elementType .standard (f.name ++ Text.of "[" ++ t.name ++ Text.of "]") f
      = .ok (some t) := by
    rw [elementType, Call.typeArgument?_typed hn hlast]
    simp only [Registry.type?_all ht, hg, if_true]
  have hstray : Factory.strayMember? t v = none := by
    rw [Factory.strayMember?, List.find?_eq_none]
    intro m hm
    simp [hmembers m hm]
  have hcall : factoryCall .standard (f.name ++ Text.of "[" ++ t.name ++ Text.of "]") args []
      = .ok v := by
    rw [factoryCall, Call.baseName_typed hn, Registry.factory?_language hf]
    simp only [htype, hbuild]
    show checkElements _ f (some t) v = _
    rw [checkElements, hstray]
  have hconversion : Conversion.ofName? (f.name ++ Text.of "[" ++ t.name ++ Text.of "]") = none := by
    -- The name of a value constructor has no bracket.
    rw [Conversion.ofName?, List.find?_eq_none]
    intro c _ he
    have hmem : CodePoint.ofChar '[' ∈ c.name := by
      rw [of_decide_eq_true he]
      simp [Text.of]
    revert hmem
    cases c <;> decide
  simp only [call, distinct, List.foldl_nil, hconversion, hcall]

/-- A computation has a result if each of its steps has one. -/
theorem bind_eq_ok {ε α β : Type} {x : Except ε α} {f : α → Except ε β} {b : β} :
    (x >>= f) = .ok b ↔ ∃ a, x = .ok a ∧ f a = .ok b := by
  cases x with
  | error e => simp [Bind.bind, Except.bind]
  | ok a => simp [Bind.bind, Except.bind]

theorem mapError_eq_ok {ε ε' α : Type} {f : ε → ε'} {x : Except ε α} {a : α}
    (h : x.mapError f = .ok a) : x = .ok a := by
  cases x with
  | error e => cases h
  | ok b =>
    cases h
    rfl

/-- A call of a factory is its arguments, then the factory, then the modifiers. -/
theorem eval_factory_iff {r : Registry} {name : Text} {args : List Call} {kws : List Keyword}
    {mods : List Modifier} {w : Value} : eval r (.factory name args kws mods) = .ok w
      ↔ ∃ as ks v, evalList r args = .ok as ∧ evalKeywords r kws = .ok ks
        ∧ call r name as ks = .ok v ∧ applyAll r name v mods = .ok w := by
  rw [eval]
  simp only [bind_eq_ok, exists_and_left]

/-- A modifier finds its method, then its arguments, then it is applied. -/
theorem applyAll_cons_iff {r : Registry} {owner n : Text} {v w : Value} {args : List Call}
    {ms : List Modifier} : applyAll r owner v (.mk n args :: ms) = .ok w
      ↔ ∃ m as u, methodOf owner n v = .ok m ∧ evalList r args = .ok as
        ∧ modify owner n m v as = .ok u ∧ applyAll r owner u ms = .ok w := by
  rw [applyAll]
  simp only [bind_eq_ok, exists_and_left]

/-- Modifiers are applied one after the other. -/
theorem applyAll_append {r : Registry} {owner : Text} {u w : Value} {ms ns : List Modifier} :
    applyAll r owner u (ms ++ ns) = .ok w
      ↔ ∃ v, applyAll r owner u ms = .ok v ∧ applyAll r owner v ns = .ok w := by
  induction ms generalizing u with
  | nil => simp [applyAll]
  | cons m ms ih =>
    obtain ⟨n, args⟩ := m
    rw [List.cons_append, applyAll_cons_iff]
    simp only [applyAll_cons_iff, ih]
    constructor
    · rintro ⟨m, as, x, hm, has, hx, v, hv, hw⟩
      exact ⟨v, ⟨m, as, x, hm, has, hx, hv⟩, hw⟩
    · rintro ⟨v, ⟨m, as, x, hm, has, hx, hv⟩, hw⟩
      exact ⟨m, as, x, hm, has, hx, v, hv, hw⟩

/-- The value of a call without arguments by name and without modifiers. -/
theorem eval_factory {r : Registry} {name : Text} {args : List Call} {vs : List Value} {v : Value}
    (hargs : evalList r args = .ok vs) (hcall : call r name vs [] = .ok v) :
    eval r (.factory name args [] []) = .ok v := by
  rw [eval, hargs]
  show (do
    let ks ← evalKeywords r []
    let v ← call r name vs ks
    applyAll r name v []) = _
  rw [evalKeywords]
  show (do
    let v ← call r name vs []
    applyAll r name v []) = _
  rw [hcall]
  rfl

theorem eval_factory_eq_ok {r : Registry} {name : Text} {args : List Call} {v : Value}
    (h : eval r (.factory name args [] []) = .ok v) :
    ∃ vs, evalList r args = .ok vs ∧ call r name vs [] = .ok v := by
  rw [eval] at h
  cases hargs : evalList r args with
  | error e => rw [hargs] at h; cases h
  | ok vs =>
    refine ⟨vs, rfl, ?_⟩
    rw [hargs, evalKeywords] at h
    cases hcall : call r name vs [] with
    | error e => simp [hcall, bind, Except.bind] at h
    | ok w => simpa [hcall, bind, Except.bind, applyAll] using h

theorem evalList_cons {r : Registry} {c : Call} {cs : List Call} {v : Value} {vs : List Value}
    (hc : eval r c = .ok v) (hcs : evalList r cs = .ok vs) : evalList r (c :: cs) = .ok (v :: vs) := by
  rw [evalList, hc]
  show (do return v :: (← evalList r cs)) = _
  rw [hcs]
  rfl

theorem evalList_cons_eq_ok {r : Registry} {c : Call} {cs : List Call} {us : List Value}
    (h : evalList r (c :: cs) = .ok us) :
    ∃ v vs, eval r c = .ok v ∧ evalList r cs = .ok vs ∧ v :: vs = us := by
  rw [evalList] at h
  cases hv : eval r c with
  | error e => rw [hv] at h; cases h
  | ok v =>
    cases hvs : evalList r cs with
    | error e => rw [hv, hvs] at h; cases h
    | ok vs =>
      rw [hv, hvs] at h
      cases h
      exact ⟨v, vs, rfl, rfl, rfl⟩

theorem evalList_append {r : Registry} {cs ds : List Call} {vs ws : List Value}
    (hc : evalList r cs = .ok vs) (hd : evalList r ds = .ok ws) :
    evalList r (cs ++ ds) = .ok (vs ++ ws) := by
  induction cs generalizing vs with
  | nil =>
    rw [evalList, Except.ok.injEq] at hc
    rw [← hc]
    exact hd
  | cons c cs ih =>
    obtain ⟨v, us, hv, hus, rfl⟩ := evalList_cons_eq_ok hc
    exact evalList_cons hv (ih hus)

/-! ### Leaves -/

theorem eval_ofText {r : Registry} {t : Text} (h : t.Unmixed) :
    eval r (Call.ofText t) = .ok (.str t) := by
  rw [Call.ofText, eval, literal, Constant.read_literalText h]
  rfl

theorem eval_ofKind (r : Registry) (k : Kind) : eval r (Call.ofKind k) = .ok (.kind k) := by
  have hprefix : kindQualifier.isPrefixOf (Text.of "SyntaxKind." ++ k.name) = true := by
    rw [List.isPrefixOf_iff_prefix]
    exact List.prefix_append kindQualifier k.name
  have hdrop : (Text.of "SyntaxKind." ++ k.name).drop kindQualifier.length = k.name :=
    List.drop_left
  rw [Call.ofKind, eval, reference, if_pos hprefix, hdrop, Kind.ofName?_name]

/-- An infinite double is written as a conversion from its name. -/
theorem eval_infinite (negative : Bool) :
    eval .standard (Call.plain "float" [Call.ofText (Double.infinite negative).text])
      = .ok (.scalar (.float (.infinite negative))) := by
  have hname : Conversion.ofName? (Text.of "float") = some .float := by decide +kernel
  have hunmixed : (Double.infinite negative).text.Unmixed := by cases negative <;> decide +kernel
  have hread : Decimal.readDouble? (Double.infinite negative).text = some (.infinite negative) := by
    cases negative <;> decide +kernel
  refine eval_factory (evalList_cons (eval_ofText hunmixed) rfl) ?_
  simp only [call, distinct, List.foldl_nil, hname, List.isEmpty_nil, if_true]
  have happly : Conversion.apply .float [.str (Double.infinite negative).text]
      = .ok (.float (.infinite negative)) := by
    show (Conversion.toDouble (.scalar (.str (Double.infinite negative).text))).map Scalar.float = _
    rw [Conversion.toDouble, hread]
    rfl
  rw [convert, happly]

/-- The call of a number or a text gives it back. -/
theorem eval_ofScalar {s : Scalar} (h : s.Writable) (hs : (Token.literalKind? s).isSome = true) :
    ∃ c, Call.ofScalar s = .ok c ∧ eval .standard c = .ok (.scalar s) := by
  cases s with
  | none => cases hs
  | bool b => cases hs
  | int n =>
    have htext : Integer.text? n = some (Text.decimalInt n) := by
      rw [Scalar.Writable] at h
      rw [Integer.text?, if_pos h]
    refine ⟨.literal (Text.decimalInt n), ?_, ?_⟩
    · unfold Call.ofScalar Call.scalarText
      dsimp only
      rw [htext]
      rfl
    · rw [eval, literal, Constant.read_integer htext]
  | float x =>
    cases x with
    | nan p => exact h.elim
    | infinite negative => exact ⟨_, rfl, eval_infinite negative⟩
    | finite negative m e =>
      refine ⟨.literal (Double.finite negative m e).text, rfl, ?_⟩
      rw [eval, literal, Constant.read_double h]
  | str t => exact ⟨Call.ofText t, rfl, eval_ofText h⟩

end Evaluate

end TreeQuote
