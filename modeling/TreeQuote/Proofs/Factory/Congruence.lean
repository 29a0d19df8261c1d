/-
TreeQuote/Proofs/Factory/Congruence.lean

What factories make of values with one trace.  Shapes, parameters and recipes look at nothing but
the traces of the values they are given, so what they make of values with one trace has one trace
too, and they fail alike.

Main statements: `Shape.accept_congr`, `Overload.bind?_congr`, `Recipe.run_congr` and
`Factory.build?_congr`.
-/
import Mathlib.Data.List.Forall2
import TreeQuote.Factory.Overload
import TreeQuote.Proofs.Tree.Trace

namespace TreeQuote

open Value

/-! ### Computations with one image -/

section Image

variable {ε α β σ τ : Type} {p : α → σ} {q : β → τ}

/-- Two computations with one image go on to one image. -/
theorem map_bind_congr {x y : Except ε α} {k l : α → Except ε β} (hxy : x.map p = y.map p)
    (hkl : ∀ a b, p a = p b → (k a).map q = (l b).map q) :
    (x >>= k).map q = (y >>= l).map q := by
  cases x with
  | error e =>
    cases y with
    | error e' =>
      cases hxy
      rfl
    | ok b => cases hxy
  | ok a =>
    cases y with
    | error e => cases hxy
    | ok b => exact hkl a b (Except.ok.inj hxy)

/-- The same where there may be no result. -/
theorem map_bind_option_congr {x y : Except ε (Option α)} {k l : Option α → Except ε β}
    (hxy : x.map (Option.map p) = y.map (Option.map p)) (hnone : (k none).map q = (l none).map q)
    (hsome : ∀ a b, p a = p b → (k (some a)).map q = (l (some b)).map q) :
    (x >>= k).map q = (y >>= l).map q := by
  refine map_bind_congr hxy ?_
  intro a b hab
  cases a with
  | none =>
    cases b with
    | none => exact hnone
    | some b => cases hab
  | some a =>
    cases b with
    | none => cases hab
    | some b => exact hsome a b (Option.some.inj hab)

/-- Lists with one image have one image member by member. -/
theorem forall₂_of_map_eq {as bs : List α} (h : as.map p = bs.map p) :
    List.Forall₂ (fun a b => p a = p b) as bs := by
  rw [← List.forall₂_eq_eq_eq, List.forall₂_map_left_iff, List.forall₂_map_right_iff] at h
  exact h

end Image

variable {f : Text → Text}

/-! ### Shapes -/

namespace Shape

theorem when_congr {b c : Bool} {v w : Value} (hbc : b = c) (h : v.trace f = w.trace f) :
    (when b v).map (Option.map (trace f)) = (when c w).map (Option.map (trace f)) := by
  subst hbc
  cases b
  · rfl
  · exact congrArg (fun t => Except.ok (some t)) h

theorem acceptEach_congr {g : Value → Except OutOfRange (Option Value)}
    (hg : ∀ {v w : Value}, v.trace f = w.trace f →
      (g v).map (Option.map (trace f)) = (g w).map (Option.map (trace f)))
    {vs ws : List Value} (h : vs.map (trace f) = ws.map (trace f)) :
    (acceptEach g vs).map (Option.map (List.map (trace f)))
      = (acceptEach g ws).map (Option.map (List.map (trace f))) := by
  induction forall₂_of_map_eq h with
  | nil => rfl
  | cons hv hvs ih =>
    refine map_bind_option_congr (hg hv) rfl ?_
    intro a b hab
    refine map_bind_option_congr (ih (List.cons.inj h).2) rfl ?_
    intro as bs habs
    exact congrArg (fun ts => Except.ok (some ts)) (congrArg₂ List.cons hab habs)

/-- The members of a list that is taken make a list again. -/
theorem map_array_congr {x y : Except OutOfRange (Option (List Value))}
    (h : x.map (Option.map (List.map (trace f))) = y.map (Option.map (List.map (trace f)))) :
    (do return (← x).map .array : Except OutOfRange (Option Value)).map (Option.map (trace f))
      = (do return (← y).map .array : Except OutOfRange (Option Value)).map
        (Option.map (trace f)) := by
  refine map_bind_option_congr h rfl ?_
  intro vs ws hvs
  exact congrArg (fun t => Except.ok (some t)) (Coincide.array hvs).trace_eq

/-- A shape takes values with one trace alike. -/
theorem accept_congr (s : Shape) {v w : Value} (h : v.trace f = w.trace f) :
    (s.accept v).map (Option.map (trace f)) = (s.accept w).map (Option.map (trace f)) := by
  induction s generalizing v w with
  | any => exact congrArg (fun t => Except.ok (some t)) h
  | decimal => cases coincide_of_trace h <;> rfl
  | «variable» t =>
    cases t with
    | none => exact congrArg (fun t => Except.ok (some t)) h
    | some t => exact when_congr (by cases coincide_of_trace h <;> rfl) h
  | optional a ih =>
    refine map_bind_option_congr (ih h) ?_ ?_
    · exact when_congr (by cases coincide_of_trace h <;> rfl) h
    · intro a b hab
      exact congrArg (fun t => Except.ok (some t)) hab
  | union a b iha ihb =>
    refine map_bind_option_congr (iha h) (ihb h) ?_
    intro a b hab
    exact congrArg (fun t => Except.ok (some t)) hab
  | sequence a ih =>
    cases coincide_of_trace h with
    | array hvs => exact map_array_congr (acceptEach_congr ih hvs)
    | _ => rfl
  | foreign n => rfl
  | unresolved => rfl
  | _ => exact when_congr (by cases coincide_of_trace h <;> rfl) h

end Shape

/-! ### Arguments -/

namespace Overload

/-- The traces of arguments by name. -/
def traced (f : Text → Text) (k : Text × Value) : Text × Trace := (k.1, k.2.trace f)

theorem takeKeyword_congr (name : Text) {ks ls : List (Text × Value)}
    (h : ks.map (traced f) = ls.map (traced f)) :
    (takeKeyword name ks).map (Prod.map (trace f) (List.map (traced f)))
      = (takeKeyword name ls).map (Prod.map (trace f) (List.map (traced f))) := by
  induction forall₂_of_map_eq h with
  | nil => rfl
  | @cons k l ks ls hk hks ih =>
    obtain ⟨n, v⟩ := k
    obtain ⟨m, w⟩ := l
    obtain ⟨rfl, hv⟩ := Prod.mk.inj hk
    have hrest := (List.cons.inj h).2
    rw [takeKeyword, takeKeyword]
    split
    · exact congrArg some (Prod.ext hv hrest)
    · have hmap := ih hrest
      cases hx : takeKeyword name ks with
      | none =>
        rw [hx] at hmap
        rw [Option.map_eq_none_iff.mp hmap.symm]
        rfl
      | some a =>
        rw [hx] at hmap
        obtain ⟨b, hy, hab⟩ := Option.map_eq_some_iff.mp hmap.symm
        rw [hy]
        obtain ⟨hw, hrest⟩ := Prod.mk.inj hab
        exact congrArg some (Prod.ext hw.symm (congrArg₂ List.cons hk hrest.symm))

theorem any_name_congr (name : Text) {ks ls : List (Text × Value)}
    (h : ks.map (traced f) = ls.map (traced f)) :
    (ks.any fun k => k.1 = name) = ls.any fun k => k.1 = name := by
  have hnames : ks.map Prod.fst = ls.map Prod.fst := by
    simpa [traced, Function.comp_def] using congrArg (List.map Prod.fst) h
  simpa [List.any_map, Function.comp_def] using congrArg (List.any · fun n => n = name) hnames

/-- Arguments are given to parameters by their place and their name alone. -/
theorem arrange?_congr (ps : List Parameter) {as bs : List Value} {ks ls : List (Text × Value)}
    (h : as.map (trace f) = bs.map (trace f)) (hks : ks.map (traced f) = ls.map (traced f)) :
    (arrange? ps as ks).map (List.map (Option.map (trace f)))
      = (arrange? ps bs ls).map (List.map (Option.map (trace f))) := by
  have hcons : ∀ {x y : Option (List (Option Value))} {v w : Option Value},
      x.map (List.map (Option.map (trace f))) = y.map (List.map (Option.map (trace f)))
      → v.map (trace f) = w.map (trace f)
      → (x.map (v :: ·)).map (List.map (Option.map (trace f)))
        = (y.map (w :: ·)).map (List.map (Option.map (trace f))) := by
    intro x y v w hxy hvw
    have hmove : ∀ (z : Option (List (Option Value))) (u : Option Value),
        (z.map (u :: ·)).map (List.map (Option.map (trace f)))
          = (z.map (List.map (Option.map (trace f)))).map (u.map (trace f) :: ·) := by
      intro z u
      rw [Option.map_map, Option.map_map]
      rfl
    rw [hmove, hmove, hxy, hvw]
  induction ps generalizing as bs ks ls with
  | nil =>
    cases forall₂_of_map_eq h with
    | nil =>
      cases forall₂_of_map_eq hks with
      | nil => rfl
      | cons _ _ => rfl
    | cons _ _ => rfl
  | cons p ps ih =>
    rw [arrange?.eq_def, arrange?.eq_def]
    simp only
    split
    · exact hcons (ih rfl hks) (congrArg some (Coincide.array h).trace_eq)
    · cases forall₂_of_map_eq h with
      | cons ha has =>
        simp only [any_name_congr p.name hks]
        split
        · rfl
        · exact hcons (ih (List.cons.inj h).2 hks) (congrArg some ha)
      | nil =>
        have hkey := takeKeyword_congr p.name hks
        cases hx : takeKeyword p.name ks with
        | none =>
          rw [hx] at hkey
          simp only [Option.map_eq_none_iff.mp hkey.symm]
          split
          · exact hcons (ih rfl hks) rfl
          · rfl
        | some a =>
          rw [hx] at hkey
          obtain ⟨b, hy, hab⟩ := Option.map_eq_some_iff.mp hkey.symm
          simp only [hy]
          obtain ⟨hw, hrest⟩ := Prod.mk.inj hab
          exact hcons (ih rfl hrest.symm) (congrArg some hw.symm)

/-- Each parameter takes arguments with one trace alike. -/
theorem takeArgument_congr (p : Parameter) {v w : Option Value}
    (h : v.map (trace f) = w.map (trace f)) :
    (takeArgument p v).map (Option.map (trace f)) = (takeArgument p w).map (Option.map (trace f)) := by
  cases v with
  | none =>
    rw [Option.map_eq_none_iff.mp h.symm]
  | some v =>
    obtain ⟨w, rfl, hvw⟩ := Option.map_eq_some_iff.mp h.symm
    have haccept := p.shape.accept_congr hvw.symm
    cases coincide_of_trace hvw with
    | array hvs =>
      simp only [takeArgument]
      split
      · exact Shape.map_array_congr (Shape.acceptEach_congr p.shape.accept_congr hvs.symm)
      · exact haccept
    | _ => exact haccept

theorem takeArguments_congr (ps : List Parameter) {vs ws : List (Option Value)}
    (h : vs.map (Option.map (trace f)) = ws.map (Option.map (trace f))) :
    (takeArguments ps vs).map (Option.map (List.map (trace f)))
      = (takeArguments ps ws).map (Option.map (List.map (trace f))) := by
  induction ps generalizing vs ws with
  | nil => rfl
  | cons p ps ih =>
    cases forall₂_of_map_eq h with
    | nil => rfl
    | cons hv hvs =>
      refine map_bind_option_congr (takeArgument_congr p hv) rfl ?_
      intro a b hab
      refine map_bind_option_congr (ih (List.cons.inj h).2) rfl ?_
      intro as bs habs
      exact congrArg (fun ts => Except.ok (some ts)) (congrArg₂ List.cons hab habs)

/-- An overload takes arguments with one trace alike. -/
theorem bind?_congr (o : Overload) {as bs : List Value} {ks ls : List (Text × Value)}
    (h : as.map (trace f) = bs.map (trace f)) (hks : ks.map (traced f) = ls.map (traced f)) :
    (o.bind? as ks).map (Option.map (List.map (trace f)))
      = (o.bind? bs ls).map (Option.map (List.map (trace f))) := by
  have harrange := arrange?_congr o.parameters h hks
  rw [bind?, bind?]
  cases hx : arrange? o.parameters as ks with
  | none =>
    rw [hx] at harrange
    rw [Option.map_eq_none_iff.mp harrange.symm]
  | some vs =>
    rw [hx] at harrange
    obtain ⟨ws, hy, hvs⟩ := Option.map_eq_some_iff.mp harrange.symm
    rw [hy]
    exact takeArguments_congr o.parameters hvs.symm

end Overload

/-! ### Recipes -/

namespace Recipe

variable {as bs : List Value}

theorem argument_congr (h : as.map (trace f) = bs.map (trace f)) (i : Nat) :
    (argument as i).trace f = (argument bs i).trace f := by
  rw [argument, argument, List.getD_eq_getElem?_getD, List.getD_eq_getElem?_getD,
    ← Option.getD_map (trace f), ← Option.getD_map (trace f), ← List.getElem?_map, h,
    List.getElem?_map]

theorem textOf_congr {v w : Value} (h : v.trace f = w.trace f) : textOf v = textOf w := by
  cases coincide_of_trace h <;> rfl

theorem kindIn_congr {v w : Value} (h : v.trace f = w.trace f) : kindIn v = kindIn w := by
  cases coincide_of_trace h <;> rfl

theorem triviaIn_congr {v w : Value} (h : v.trace f = w.trace f) : triviaIn v = triviaIn w := by
  cases coincide_of_trace h <;> rfl

theorem spread_congr (h : as.map (trace f) = bs.map (trace f)) :
    (spread as).map (trace f) = (spread bs).map (trace f) := by
  induction forall₂_of_map_eq h with
  | nil => rfl
  | @cons v w as bs hv _ ih =>
    have hrest := ih (List.cons.inj h).2
    simp only [spread, List.flatMap_cons, List.map_append] at hrest ⊢
    refine congrArg₂ List.append ?_ hrest
    cases coincide_of_trace hv with
    | array hvs => exact hvs
    | _ => exact congrArg (fun t => [t]) hv

theorem filterMap_congr {α : Type} {g : Value → Option α}
    (hg : ∀ {v w : Value}, v.trace f = w.trace f → g v = g w)
    (h : as.map (trace f) = bs.map (trace f)) : as.filterMap g = bs.filterMap g := by
  induction forall₂_of_map_eq h with
  | nil => rfl
  | cons hv _ ih =>
    rw [List.filterMap_cons, List.filterMap_cons, hg hv, ih (List.cons.inj h).2]

theorem withCommas_congr (h : as.map (trace f) = bs.map (trace f)) :
    (withCommas as).map (trace f) = (withCommas bs).map (trace f) := by
  induction forall₂_of_map_eq h with
  | nil => rfl
  | cons hv hvs ih =>
    have hrest := ih (List.cons.inj h).2
    cases hvs with
    | nil => exact h
    | cons _ _ => exact congrArg₂ List.cons hv (congrArg (List.cons _) hrest)

theorem isToken_congr {v w : Value} (h : v.trace f = w.trace f) : v.isToken = w.isToken := by
  cases coincide_of_trace h <;> rfl

theorem alternates_congr (h : as.map (trace f) = bs.map (trace f)) :
    alternates as = alternates bs := by
  induction as using alternates.induct generalizing bs with
  | case1 =>
    cases forall₂_of_map_eq h
    rfl
  | case2 a =>
    cases forall₂_of_map_eq h with
    | cons hv hvs =>
      cases hvs
      rw [alternates, alternates, isToken_congr hv]
  | case3 a b rest ih =>
    cases forall₂_of_map_eq h with
    | cons hv hvs =>
      cases hvs with
      | cons hw hws =>
        rw [alternates, alternates, isToken_congr hv, isToken_congr hw,
          ih (List.cons.inj (List.cons.inj h).2).2]

theorem separatedOf_congr (h : as.map (trace f) = bs.map (trace f)) :
    (separatedOf as).map (trace f) = (separatedOf bs).map (trace f) := by
  rw [separatedOf, separatedOf, alternates_congr h]
  split
  · exact congrArg Except.ok (Coincide.separated h).trace_eq
  · rfl

theorem literalOf_congr (h : as.map (trace f) = bs.map (trace f)) : literalOf as = literalOf bs := by
  cases forall₂_of_map_eq h with
  | nil => rfl
  | cons hv hvs =>
    cases hvs with
    | nil => cases coincide_of_trace hv <;> rfl
    | cons hw hws =>
      cases coincide_of_trace hv <;> cases coincide_of_trace hw <;> cases hws <;> rfl

theorem surrounded_congr (h : as.map (trace f) = bs.map (trace f)) :
    (surrounded as).1 = (surrounded bs).1
      ∧ (surrounded as).2.1.map (trace f) = (surrounded bs).2.1.map (trace f)
      ∧ (surrounded as).2.2 = (surrounded bs).2.2 := by
  cases forall₂_of_map_eq h with
  | nil => exact ⟨rfl, rfl, rfl⟩
  | @cons v w as bs hv hvs =>
    have hrest := (List.cons.inj h).2
    cases coincide_of_trace hv with
    | triviaList ts =>
      refine ⟨rfl, ?_, triviaIn_congr (f := f) ?_⟩
      · show as.dropLast.map (trace f) = bs.dropLast.map (trace f)
        rw [List.map_dropLast, List.map_dropLast, hrest]
      · show (as.getLastD .none).trace f = (bs.getLastD .none).trace f
        rw [List.getLastD_eq_getLast?, List.getLastD_eq_getLast?, ← Option.getD_map (trace f),
          ← Option.getD_map (trace f), ← List.getLast?_map, hrest, List.getLast?_map]
    | _ => exact ⟨rfl, h, rfl⟩

/-- A value of which one text is seen as the content of a documentation comment. -/
theorem eq_documentation_of_trace {w : Value} {content : Text}
    (h : trace f (.documentation content) = w.trace f) : w = .documentation content := by
  cases coincide_of_trace h with
  | node _ hc =>
    cases forall₂_of_map_eq (hc rfl) with
    | cons hv hvs =>
      cases hvs
      cases coincide_of_trace hv
      rfl

/-- Of another value only its text matters, and of that only whether there is one. -/
theorem documentationOf_other {v : Value} (h : ∀ content, v ≠ .documentation content) :
    documentationOf v = (do let _ ← v.fullText?.mapError .fault; return .none) := by
  unfold documentationOf
  split
  · next content => exact absurd rfl (h content)
  · cases v.fullText? <;> rfl

theorem part_congr (c : NodeClass) (h : as.map (trace f) = bs.map (trace f)) (p : Part) :
    (part c as p).trace f = (part c bs p).trace f := by
  cases p with
  | argument i => exact argument_congr h i
  | argumentOr i d =>
    have harg := argument_congr h i
    simp only [part]
    generalize argument as i = v at harg
    generalize argument bs i = w at harg
    cases coincide_of_trace harg with
    | scalar s => rfl
    | _ => exact harg
  | identifier i => rw [part, part, textOf_congr (argument_congr h i)]
  | identifierName i => rw [part, part, textOf_congr (argument_congr h i)]
  | members i =>
    refine (Coincide.nodes (spread_congr ?_)).trace_eq
    exact congrArg (fun t => [t]) (argument_congr h i)
  | operator i => rw [part, part, kindIn_congr (argument_congr h i)]
  | fixed v => rfl

section Text

variable (hf : ∀ a b, f (a ++ b) = f a ++ f b)

include hf

/-- A node is made of what its properties are made of. -/
theorem trace_node_congr (c : NodeClass) (h : as.map (trace f) = bs.map (trace f)) :
    trace f (.node c as) = trace f (.node c bs) := by
  refine Coincide.trace_eq (.node ?_ fun _ => h)
  have htexts := congrArg (List.map (Trace.tokenText? f)) h
  rw [List.map_map, List.map_map] at htexts
  simpa only [Function.comp_def, tokenText?_trace hf] using htexts

theorem fullText?_congr {v w : Value} (h : v.trace f = w.trace f) :
    v.fullText?.map f = w.fullText?.map f := by
  rw [← fullText?_trace hf, h, fullText?_trace hf]

theorem documentationOf_congr {v w : Value} (h : v.trace f = w.trace f) :
    (documentationOf v).map (trace f) = (documentationOf w).map (trace f) := by
  by_cases hv : ∃ content, v = .documentation content
  · obtain ⟨content, rfl⟩ := hv
    rw [eq_documentation_of_trace h]
  · have hw : ∀ content, w ≠ .documentation content := by
      rintro content rfl
      exact hv ⟨content, eq_documentation_of_trace h.symm⟩
    rw [documentationOf_other fun content hc => hv ⟨content, hc⟩, documentationOf_other hw]
    have hfull := fullText?_congr hf h
    generalize v.fullText? = x at hfull ⊢
    generalize w.fullText? = y at hfull ⊢
    cases x with
    | error e =>
      cases y with
      | error e' =>
        cases hfull
        rfl
      | ok b => cases hfull
    | ok a =>
      cases y with
      | error e => cases hfull
      | ok b => rfl

/-- A recipe makes the same of arguments with one trace. -/
theorem run_congr (r : Recipe) (h : as.map (trace f) = bs.map (trace f)) :
    (r.run as).map (trace f) = (r.run bs).map (trace f) := by
  have htext := textOf_congr (argument_congr h 0)
  have hkind := kindIn_congr (argument_congr h 0)
  obtain ⟨hlead, hinner, htrail⟩ := surrounded_congr h
  have hfirst := argument_congr hinner 0
  cases r with
  | node c parts =>
    simp only [run, checkKind, kindIn_congr (argument_congr h 0)]
    split
    · refine congrArg Except.ok (trace_node_congr hf c ?_)
      rw [List.map_map, List.map_map]
      exact List.map_congr_left fun p _ => part_congr c h p
    · rfl
  | documentationTrivia => exact documentationOf_congr hf (argument_congr h 0)
  | triviaList =>
    refine congrArg (fun ts => Except.ok (Value.trace f (.triviaList ts))) ?_
    refine filterMap_congr ?_ (spread_congr h)
    intro v w hv
    cases coincide_of_trace hv <;> rfl
  | token =>
    simp only [run]
    rw [hlead, htrail, kindIn_congr hfirst]
  | missing =>
    simp only [run]
    rw [hlead, htrail, kindIn_congr hfirst]
  | identifier =>
    simp only [run]
    rw [hlead, htrail, textOf_congr hfirst]
  | literal =>
    simp only [run]
    rw [hlead, htrail, literalOf_congr hinner]
  | tokens => exact congrArg Except.ok (Coincide.tokens (spread_congr h)).trace_eq
  | nodes => exact congrArg Except.ok (Coincide.nodes (spread_congr h)).trace_eq
  | separatedByCommas => exact separatedOf_congr (withCommas_congr (spread_congr h))
  | separated => exact separatedOf_congr (spread_congr h)
  | stringLiteral => rw [run, run, literalExpression, literalExpression, literalOf_congr h]
  | numericLiteral => rw [run, run, literalExpression, literalExpression, literalOf_congr h]
  | keywordLiteral => rw [run, run, hkind]
  | whitespace => rw [run, run, htext]
  | endOfLine => rw [run, run, htext]
  | comment => rw [run, run, htext]
  | skipped => rw [run, run, htext]
  | dottedName => rw [run, run, htext]

end Text

end Recipe

/-! ### Overloads -/

namespace Factory

open Overload

variable {as bs : List Value} {ks ls : List (Text × Value)}

/-- A message shows the types of arguments with one trace alike. -/
theorem shownTypes_congr (h : as.map (trace f) = bs.map (trace f))
    (hks : ks.map (traced f) = ls.map (traced f)) : shownTypes as ks = shownTypes bs ls := by
  have hargs := congrArg (List.map Trace.typeName) h
  have hkeys := congrArg (List.map fun k : Text × Trace => k.1 ++ Text.of "=" ++ k.2.typeName) hks
  simp only [List.map_map, Function.comp_def, trace_typeName, traced] at hargs hkeys
  rw [shownTypes, shownTypes, hargs]
  exact congrArg _ (congrArg _ hkeys)

/-- The first overload that takes the arguments is the same, and makes the same of them. -/
theorem build?_congr (hf : ∀ a b, f (a ++ b) = f a ++ f b) (os : List Overload)
    (h : as.map (trace f) = bs.map (trace f)) (hks : ks.map (traced f) = ls.map (traced f)) :
    (build? as ks os).map (Option.map (Except.map (trace f)))
      = (build? bs ls os).map (Option.map (Except.map (trace f))) := by
  induction os with
  | nil => rfl
  | cons o os ih =>
    refine map_bind_option_congr (o.bind?_congr h hks) ih ?_
    intro vs ws hvs
    exact congrArg (fun x => Except.ok (some x)) (o.recipe.run_congr hf hvs)

end Factory

end TreeQuote
