/-
TreeQuote/Proofs/Quote/Assembly.lean

What the call of a plan builds.  Evaluation finds the overload of the plan again, and its recipe
puts each argument back into its property; the properties without a parameter get their values by
default (`baseline`), and the modifiers replace them.

All of this is stated for any calls that build the values of a node, so that it serves whether
they have been trimmed or not.

Main statements: `Quote.call_plan` and `Quote.eval_planCall`.
-/
import TreeQuote.Proofs.Quote.Selection

namespace TreeQuote

/-! ### Overloads -/

namespace Overload

variable {p : Parameter} {ps : List Parameter} {s : Shape} {r : Recipe} {v w : Value}
  {vs ws : List Value}

/-- The parameters of an overload are all that its binding depends on. -/
theorem bind?_cons (hp : p.isVariadic = false) (hv : p.shape.accept v = .ok (some w))
    (hvs : bind? ⟨ps, s, r⟩ vs [] = .ok (some ws)) :
    bind? ⟨p :: ps, s, r⟩ (v :: vs) [] = .ok (some (w :: ws)) := by
  simp only [bind?] at hvs ⊢
  have harrange : arrange? (p :: ps) (v :: vs) [] = (arrange? ps vs []).map (some v :: ·) := by
    simp [arrange?, hp]
  rw [harrange]
  cases h : arrange? ps vs [] with
  | none => rw [h] at hvs; cases hvs
  | some us =>
    rw [h] at hvs
    simp only at hvs
    simp only [Option.map_some, takeArguments, takeArgument_some hp, hv, hvs]
    rfl

/-- The last parameter may be left out. -/
theorem bind?_absent (hv : p.isVariadic = false) (ho : p.isOptional = true) :
    bind? ⟨[p], s, r⟩ [] [] = .ok (some [.none]) := by
  have harrange : arrange? [p] [] [] = some [none] := by
    simp [arrange?, hv, ho, takeKeyword]
  rw [bind?, harrange]
  rfl

/-- A variadic parameter takes all arguments. -/
theorem bind?_variadic (hp : p.isVariadic = true)
    (hvs : ∀ v ∈ vs, p.shape.accept v = .ok (some v)) :
    bind? ⟨[p], s, r⟩ vs [] = .ok (some [.array vs]) := by
  have harrange : arrange? [p] vs [] = some [some (.array vs)] := by
    simp [arrange?, hp]
  rw [bind?, harrange]
  simp only [takeArguments, takeArgument, hp, if_true, Shape.acceptEach_of_forall hvs]
  rfl

/-- An argument that its parameter does not take. -/
theorem bind?_refuse (hp : p.isVariadic = false) (hv : p.shape.accept v = .ok none) :
    bind? ⟨p :: ps, s, r⟩ (v :: vs) [] = .ok none := by
  have harrange : arrange? (p :: ps) (v :: vs) [] = (arrange? ps vs []).map (some v :: ·) := by
    simp [arrange?, hp]
  rw [bind?, harrange]
  cases arrange? ps vs [] with
  | none => rfl
  | some us =>
    simp only [Option.map_some, takeArguments, takeArgument_some hp, hv]
    rfl

/-- Parameters that have to be given are as many as the arguments. -/
theorem arrange?_length {us : List (Option Value)}
    (hps : ∀ p ∈ ps, p.isOptional = false ∧ p.isVariadic = false)
    (h : arrange? ps vs [] = some us) : vs.length = ps.length := by
  induction ps generalizing vs us with
  | nil =>
    cases vs with
    | nil => rfl
    | cons v vs => simp [arrange?] at h
  | cons p ps ih =>
    obtain ⟨ho, hv⟩ := hps p List.mem_cons_self
    cases vs with
    | nil => simp [arrange?, hv, ho, takeKeyword] at h
    | cons v vs =>
      simp only [arrange?, hv, Bool.false_eq_true, if_false, List.any_nil, Option.map_eq_some_iff] at h
      obtain ⟨us, hus, -⟩ := h
      rw [List.length_cons, List.length_cons, ih (fun q hq => hps q (List.mem_cons_of_mem p hq)) hus]

end Overload

namespace Plan

theorem required_of_isPlain {o : Overload} (h : isPlain o = true) :
    ∀ p ∈ o.parameters, p.isOptional = false ∧ p.isVariadic = false := by
  intro p hp
  simpa using List.all_eq_true.mp h p hp

theorem length_of_bind? {o : Overload} (h : isPlain o = true) {ws bs : List Value}
    (hbind : o.bind? ws [] = .ok (some bs)) : ws.length = o.parameters.length := by
  rw [Overload.bind?] at hbind
  cases harrange : Overload.arrange? o.parameters ws [] with
  | none => rw [harrange] at hbind; cases hbind
  | some us => exact Overload.arrange?_length (required_of_isPlain h) harrange

/-- Binding ends with the arguments or without them where no number is converted. -/
theorem bind?_of_length {o : Overload} (h : isPlain o = true) {ws : List Value}
    (hlength : ws.length ≠ o.parameters.length) : o.bind? ws [] = .ok none := by
  rw [Overload.bind?]
  cases harrange : Overload.arrange? o.parameters ws [] with
  | none => rfl
  | some us =>
    exact absurd (Overload.arrange?_length (required_of_isPlain h) harrange) hlength

/-- A string is no part of a tree. -/
theorem bind?_str {o : Overload} (ho : isPlain o = true) (h : startsWithTree o = true) (t : Text)
    (ws : List Value) : o.bind? (.str t :: ws) [] = .ok none := by
  obtain ⟨ps, s, r⟩ := o
  cases ps with
  | nil => cases h
  | cons p ps =>
    refine Overload.bind?_refuse (required_of_isPlain ho p List.mem_cons_self).2 ?_
    simp only [startsWithTree] at h
    split at h <;> first | (next hs => rw [hs]; rfl) | cases h

/-- What is no string is not taken as one. -/
theorem bind?_not_str {o : Overload} (ho : isPlain o = true) (h : startsWithText o = true)
    {w : Value} (hw : ∀ t, w ≠ .str t) (ws : List Value) : o.bind? (w :: ws) [] = .ok none := by
  obtain ⟨ps, s, r⟩ := o
  cases ps with
  | nil => cases h
  | cons p ps =>
    have hs : p.shape = .text := by simpa [startsWithText] using h
    refine Overload.bind?_refuse (required_of_isPlain ho p List.mem_cons_self).2 ?_
    rw [hs]
    cases w with
    | scalar s =>
      cases s with
      | str t => exact absurd rfl (hw t)
      | _ => rfl
    | _ => rfl

/-- An overload does not take what a later one is called with. -/
theorem refuses_bind? {o d : Overload} (h : refuses o d = true) {ws bs : List Value}
    (hbind : o.bind? ws [] = .ok (some bs)) : d.bind? ws [] = .ok none := by
  simp only [refuses, Bool.and_eq_true, Bool.or_eq_true, decide_eq_true_eq] at h
  obtain ⟨⟨ho, hd⟩, h⟩ := h
  have hlength := length_of_bind? ho hbind
  rcases h with ⟨htext, htree⟩ | hlt
  · cases ws with
    | nil =>
      rw [startsWithTree] at htree
      split at htree
      · next hps => simp [hps] at hlength
      · cases htree
    | cons w ws =>
      refine bind?_not_str hd htext ?_ ws
      rintro t rfl
      rw [bind?_str ho htree] at hbind
      cases hbind
  · exact bind?_of_length hd (by omega)

end Plan

namespace Quote

open Evaluate

variable {c : NodeClass} {j : Nat} {ps : List Parameter} {fs : List Field} {parts : List Part}
  {vs : List Value} {qs : List (Option Call)}

/-- The call builds the value, and the nodes of a list one by one. -/
structure Builds (v : Value) (q : Call) : Prop where
  eval : Evaluate.eval .standard q = .ok v
  items : ∀ vs, v = .nodes vs → ∀ items, listItems? q = some items
    → evalList .standard items = .ok vs

/-! ### Plain strings -/

theorem literal_eq_ok {t : Text} {v : Value} (h : literal t = .ok v) : ∃ s, v = .scalar s := by
  unfold literal at h
  split at h <;> cases h
  exact ⟨_, rfl⟩

/-- A string that is written for a name is the text of the name. -/
theorem eval_stringArgument {q a : Call} {v : Value} (ha : stringArgument? q = some a)
    (hq : eval .standard q = .ok v) : (a = q ∧ ∃ s, v = .scalar s)
      ∨ ∃ t, eval .standard a = .ok (.str t)
        ∧ (v = .token (.identifier t) ∨ v = Recipe.nameOf t) := by
  unfold stringArgument? at ha
  split at ha
  · left
    split at ha <;> simp at ha
    exact ⟨ha.2.symm, literal_eq_ok (by rwa [eval] at hq)⟩
  · next n t =>
    right
    simp only [Option.ite_none_right_eq_some, Bool.or_eq_true, decide_eq_true_eq,
      Option.some.injEq] at ha
    obtain ⟨hn, rfl⟩ := ha
    obtain ⟨ws, hws, hcall⟩ := eval_factory_eq_ok hq
    obtain ⟨w, us, hw, hus, rfl⟩ := evalList_cons_eq_ok hws
    rw [evalList, Except.ok.injEq] at hus
    subst hus
    obtain ⟨s, rfl⟩ := literal_eq_ok (by rwa [eval] at hw)
    -- Only a string is taken by the two factories.
    rcases hn with rfl | rfl
    · cases s with
      | str u =>
        have hv := (call_identifier u [] []).symm.trans hcall
        exact ⟨u, hw, .inl (Except.ok.inj hv).symm⟩
      | _ => exact absurd hcall (call_ne_ok (Registry.leaf_mem 9 rfl) rfl v)
    · cases s with
      | str u =>
        have hv := (call_language (Registry.name_mem 0 rfl) rfl).symm.trans hcall
        exact ⟨u, hw, .inr (Except.ok.inj hv).symm⟩
      | _ => exact absurd hcall (call_ne_ok (Registry.name_mem 0 rfl) rfl v)
  · cases ha

/-! ### Arguments -/

/-- The properties as the recipe leaves them: those with a parameter have their value, the others
their value by default. -/
def baseline (c : NodeClass) (k : Kind) : List Field → List Part → List Value → List Value
  | f :: fs, part :: parts, v :: vs =>
    (if part.leaves c f then (part.default? c k).getD .none else v) :: baseline c k fs parts vs
  | _, _, _ => []

theorem argument_append {pre post : List Value} {b : Value} (h : pre.length = j) :
    Recipe.argument (pre ++ b :: post) j = b := by
  subst h
  simp [Recipe.argument]

/-- A property that no parameter takes gets its value by default. -/
theorem part_leave {f : Field} {part : Part} (h : part.leaves c f = true) (args : List Value) :
    Recipe.part c args part
      = (part.default? c (Recipe.kindIn (Recipe.argument args 0))).getD .none := by
  cases part with
  | fixed v => rfl
  | operator i =>
    simp only [Part.leaves, Bool.and_eq_true, decide_eq_true_eq] at h
    rw [h.1.1]
    rfl
  | _ => cases h

/-- The call of one property builds an argument that its parameter takes and from which the recipe
makes the property. -/
def Delivers (c : NodeClass) (p : Parameter) (ps : List Parameter) (j : Nat) (part : Part)
    (q : Option Call) (v : Value) : Prop :=
  ∃ ws b, evalList .standard (written p q) = .ok ws
    ∧ (∀ s r us bs, Overload.bind? ⟨ps, s, r⟩ us [] = .ok (some bs) → (ps = [] → us = [] ∧ bs = [])
      → Overload.bind? ⟨p :: ps, s, r⟩ (ws ++ us) [] = .ok (some (b :: bs)))
    ∧ ∀ pre post : List Value, pre.length = j → Recipe.part c (pre ++ b :: post) part = v

section Delivers

variable {p : Parameter} {f : Field} {part : Part} {v b : Value}

/-- A single argument. -/
theorem delivers_one {a : Call} {w : Value} {q : Option Call} (hp : p.isVariadic = false)
    (hwritten : written p q = [a]) (ha : eval .standard a = .ok w)
    (haccept : p.shape.accept w = .ok (some b))
    (hpart : ∀ pre post : List Value, pre.length = j → Recipe.part c (pre ++ b :: post) part = v) :
    Delivers c p ps j part q v := by
  refine ⟨[w], b, ?_, ?_, hpart⟩
  · rw [hwritten]
    exact evalList_cons ha rfl
  · intro s r us bs hus _
    exact Overload.bind?_cons hp haccept hus

/-- An argument that is left out. -/
theorem delivers_absent (hp : p.isVariadic = false) (ho : p.isOptional = true) (hps : ps = [])
    (hpart : ∀ pre post : List Value, pre.length = j
      → Recipe.part c (pre ++ .none :: post) part = v) :
    Delivers c p ps j part none v := by
  refine ⟨[], .none, rfl, ?_, hpart⟩
  intro s r us bs _ hnil
  obtain ⟨rfl, rfl⟩ := hnil hps
  subst hps
  exact Overload.bind?_absent hp ho

/-- The arguments of a variadic parameter. -/
theorem delivers_members {t : NodeType} {q : Option Call} {ws : List Value}
    (hp : p.isVariadic = true) (hshape : p.shape = .node t) (hps : ps = [])
    (heval : evalList .standard (written p q) = .ok ws) (hws : ∀ w ∈ ws, w.isNodeOf t = true) :
    Delivers c p ps j (.members j) q (.nodes ws) := by
  refine ⟨ws, .array ws, heval, ?_, ?_⟩
  · intro s r us bs _ hnil
    obtain ⟨rfl, rfl⟩ := hnil hps
    subst hps
    rw [List.append_nil]
    refine Overload.bind?_variadic hp fun w hw => ?_
    rw [hshape]
    exact Shape.accept_of_fits (s := .node t) (hws w hw)
  · intro pre post hpre
    rw [Recipe.part, argument_append hpre]
    simp [Recipe.spread]

theorem written_plain {q : Call} (hp : p.isVariadic = false) (hs : p.shape ≠ .text) :
    written p (some q) = [q] := by
  simp [written, hp, hs]

theorem written_text {q a : Call} (hp : p.isVariadic = false) (hs : p.shape = .text)
    (ha : stringArgument? q = some a) : written p (some q) = [a] := by
  simp [written, hp, hs, ha]

/-- An argument that is the value of its property. -/
theorem delivers_argument (hp : p.isVariadic = false) (hshape : p.shape = f.shape) {q : Call}
    (hmem : f ∈ c.fields) (hfits : Field.Fits c f v) (hw : Writes Builds f v q) :
    Delivers c p ps j (.argument j) (some q) v := by
  have haccept : p.shape.accept v = .ok (some v) := hshape ▸ Field.accept_of_fits hmem hfits
  have hpart : ∀ pre post : List Value, pre.length = j
      → Recipe.part c (pre ++ v :: post) (.argument j) = v :=
    fun pre post hpre => argument_append hpre
  by_cases hs : p.shape = .text
  · have htext := hw.text (hshape ▸ hs)
    obtain ⟨a, ha⟩ := Option.isSome_iff_exists.mp htext
    rcases eval_stringArgument ha hw.sense.eval with ⟨rfl, -⟩ | ⟨t, -, hv⟩
    · exact delivers_one hp (written_text hp hs ha) hw.sense.eval haccept hpart
    · rw [hs] at haccept
      rcases hv with rfl | rfl <;> cases haccept
  · exact delivers_one hp (written_plain hp hs) hw.sense.eval haccept hpart

end Delivers

/-- What carries a property delivers it. -/
theorem delivers {p : Parameter} {f : Field} {part : Part} {v : Value} {q : Option Call}
    (hcarries : Part.Carries c p f j part)
    (hlast : p.isOptional = true ∨ p.isVariadic = true → ps = []) (hmem : f ∈ c.fields)
    (hfits : Field.Fits c f v) (hq : Conveys Builds f v q)
    (htext : p.shape = .text → (q.bind stringArgument?).isSome = true) :
    Delivers c p ps j part q v := by
  cases hcarries with
  | argument hvariadic hshape hoptional habsent =>
    cases hq with
    | written hw => exact delivers_argument hvariadic hshape hmem hfits hw
    | blank hblank =>
      have ho : p.isOptional = true := hoptional.trans (Field.mayLack_of_isBlank hfits hblank)
      obtain ⟨a, ha⟩ := habsent ho
      have hv : v = .none := by
        refine Field.isBlank_unique hblank ?_
        simp [Field.isBlank, Value.none, ha]
      exact delivers_absent hvariadic ho (hlast (.inl ho)) fun pre post hpre =>
        (argument_append hpre).trans hv.symm
  | @argumentOr t hvariadic hoptional hshape hfield =>
    have hv := hfits.shape hmem (by rw [hfield]; nofun)
    cases hq with
    | written hw =>
      have haccept : p.shape.accept v = .ok (some v) := by
        rw [hshape]
        exact Shape.accept_of_fits (s := .optional (.separated t)) (.inr (hfield ▸ hv))
      refine delivers_one hvariadic (written_plain hvariadic (by rw [hshape]; nofun)) hw.sense.eval haccept ?_
      intro pre post hpre
      rw [Recipe.part, argument_append hpre]
      rw [hfield] at hv
      cases t with
      | none => exact hv.elim
      | some t =>
        obtain ⟨vs, rfl, -⟩ := hv
        rfl
    | blank hblank =>
      have hv : v = .separated [] := by
        refine Field.isBlank_unique hblank ?_
        simp [Field.isBlank, hfield]
      refine delivers_absent hvariadic hoptional (hlast (.inl hoptional)) ?_
      intro pre post hpre
      rw [Recipe.part, argument_append hpre, hv]
      rfl
  | identifier hvariadic _ hrequired hshape hfield =>
    obtain ⟨t, rfl⟩ := hfits.token hfield
    cases hq with
    | blank hblank =>
      rw [Field.mayLack_of_isBlank hfits hblank] at hrequired
      cases hrequired
    | written hw =>
      obtain ⟨a, ha⟩ := Option.isSome_iff_exists.mp (htext hshape)
      rcases eval_stringArgument ha hw.sense.eval with ⟨-, s, hs⟩ | ⟨u, hu, hv⟩
      · cases hs
      · obtain ⟨rfl⟩ : t = .identifier u := by simpa [Recipe.nameOf] using hv
        refine delivers_one hvariadic (written_text hvariadic hshape ha) hu (by rw [hshape]; rfl) ?_
        intro pre post hpre
        rw [Recipe.part, argument_append hpre]
        rfl
  | identifierName hvariadic _ hrequired hshape hfield =>
    have hv := hfits.shape hmem (by rw [hfield]; nofun)
    rw [hfield] at hv
    cases hq with
    | blank hblank =>
      rw [Field.mayLack_of_isBlank hfits hblank] at hrequired
      cases hrequired
    | written hw =>
      obtain ⟨a, ha⟩ := Option.isSome_iff_exists.mp (htext hshape)
      rcases eval_stringArgument ha hw.sense.eval with ⟨-, s, rfl⟩ | ⟨u, hu, rfl | rfl⟩
      · cases hv
      · cases hv
      · refine delivers_one hvariadic (written_text hvariadic hshape ha) hu (by rw [hshape]; rfl) ?_
        intro pre post hpre
        rw [Recipe.part, argument_append hpre]
        rfl
  | members hvariadic _ hshape hfield =>
    have hv := hfits.shape hmem (by rw [hfield]; nofun)
    rw [hfield] at hv
    obtain ⟨ws, rfl, hws⟩ := hv
    refine delivers_members hvariadic hshape (hlast (.inr hvariadic)) ?_ hws
    cases hq with
    | blank hblank =>
      obtain rfl : ws = [] := by
        cases ws with
        | nil => rfl
        | cons w ws => cases hblank
      rfl
    | written hw =>
      obtain ⟨items, hitems⟩ := Option.isSome_iff_exists.mp (hw.items ⟨ws, rfl⟩)
      rw [written, if_pos hvariadic, hitems]
      exact hw.sense.items ws rfl items hitems

/-- Without parameters there are no arguments. -/
theorem arguments_nil (h : Routes c j ps fs parts) (hps : ps = []) (qs : List (Option Call)) :
    arguments c ps fs parts qs = [] := by
  induction h generalizing qs with
  | nil => rfl
  | leave hleaves _ _ ih =>
    cases qs with
    | nil => rfl
    | cons q qs => rw [arguments_leave hleaves, ih hps]
  | carry => cases hps

/-- The arguments of a call are taken by its overload, and the recipe puts them back. -/
theorem evalList_arguments (hroutes : Routes c j ps fs parts) (hrows : Rows Builds c fs vs qs)
    (hf : Apart fs) {pool : List Quoted} (hpool : Clear pool fs)
    (htext : ∀ p ∈ ps, p.shape = .text
      → ((lookup p.name (pool ++ present fs qs)).bind stringArgument?).isSome = true)
    {pre : List Value} (hpre : pre.length = j) :
    ∃ ws bs, evalList .standard (arguments c ps fs parts qs) = .ok ws
      ∧ (∀ s r, Overload.bind? ⟨ps, s, r⟩ ws [] = .ok (some bs))
      ∧ parts.map (Recipe.part c (pre ++ bs))
        = baseline c (Recipe.kindIn (Recipe.argument (pre ++ bs) 0)) fs parts vs := by
  induction hroutes generalizing vs qs pool pre with
  | nil =>
    cases hrows
    exact ⟨[], [], rfl, fun _ _ => rfl, rfl⟩
  | @leave j ps f fs part parts hleaves _ _ ih =>
    cases hrows with
    | @cons _ v q _ vs qs _ _ _ hrows =>
      rw [present_cons, ← List.append_assoc] at htext
      obtain ⟨ws, bs, hws, hbind, hparts⟩ := ih hrows hf.tail (hpool.leave hf q) htext hpre
      refine ⟨ws, bs, ?_, hbind, ?_⟩
      · rw [arguments_leave hleaves, hws]
      · rw [List.map_cons, baseline, if_pos hleaves, hparts, part_leave hleaves]
  | @carry j p ps f fs part parts hleaves hname hcarries hlast hroutes ih =>
    cases hrows with
    | @cons _ v q _ vs qs hmem hfits hq hrows =>
      have hlookup : lookup p.name (pool ++ present (f :: fs) (q :: qs)) = q := by
        rw [hname, lookup_present hpool hf]
      have hrest : ∀ p ∈ ps, p.shape = .text
          → ((lookup p.name (pool ++ present fs qs)).bind stringArgument?).isSome = true := by
        intro p' hp' hs
        obtain ⟨g, hg, hgname⟩ := hroutes.names p' hp'
        have := htext p' (List.mem_cons_of_mem p hp') hs
        rwa [hgname, lookup_present_tail hg hf, ← hgname] at this
      have hdelivers : Delivers c p ps j part q v := delivers hcarries hlast hmem hfits hq
        fun hs => hlookup ▸ htext p List.mem_cons_self hs
      obtain ⟨ws, b, hws, hbind, hpart⟩ := hdelivers
      have hlength : (pre ++ [b]).length = j + 1 := by rw [List.length_append, hpre]; rfl
      obtain ⟨us, bs, hus, hbinds, hparts⟩ := ih hrows hf.tail hpool.tail hrest hlength
      rw [List.append_assoc, List.singleton_append] at hparts
      refine ⟨ws ++ us, b :: bs, ?_, ?_, ?_⟩
      · rw [arguments_carry hleaves]
        exact evalList_append hws hus
      · intro s r
        refine hbind s r us bs (hbinds s r) ?_
        rintro rfl
        rw [arguments_nil hroutes rfl, evalList, Except.ok.injEq] at hus
        subst hus
        have hnil := hbinds s r
        exact ⟨rfl, by simpa [Overload.bind?, Overload.arrange?, Overload.takeArguments] using hnil.symm⟩
      · rw [List.map_cons, baseline, hleaves, if_neg Bool.false_ne_true, hparts, hpart pre bs hpre]

/-! ### Factories -/

theorem default?_congr {f : Field} {part : Part} {k l : Kind} (hleaves : part.leaves c f = true)
    (h : c.kind? = none → k = l) : part.default? c k = part.default? c l := by
  cases part with
  | operator i =>
    simp only [Part.leaves, Bool.and_eq_true, Option.isNone_iff_eq_none] at hleaves
    rw [h hleaves.2]
  | _ => rfl

theorem baseline_congr {k l : Kind} (hroutes : Routes c j ps fs parts)
    (h : c.kind? = none → k = l) : baseline c k fs parts vs = baseline c l fs parts vs := by
  induction hroutes generalizing vs with
  | nil => rfl
  | leave hleaves _ _ ih =>
    cases vs with
    | nil => rfl
    | cons v vs =>
      rw [baseline, baseline, if_pos hleaves, if_pos hleaves, default?_congr hleaves h, ih]
  | carry hleaves _ _ _ _ ih =>
    cases vs with
    | nil => rfl
    | cons v vs =>
      rw [baseline, baseline, hleaves, if_neg Bool.false_ne_true, if_neg Bool.false_ne_true, ih]

/-- The kind is the first argument. -/
theorem kind_argument (hc : c ∈ NodeClass.all) (hkind : c.kind? = none)
    (hroutes : Routes c 0 ps c.fields parts) (hrows : Rows Builds c c.fields vs qs) {k : Kind}
    {bs : List Value} (h : parts.map (Recipe.part c bs) = baseline c k c.fields parts vs) :
    Recipe.argument bs 0 = .kind (Value.kindOf c vs) := by
  obtain ⟨f, fs, hfields, hname, hshape, -⟩ := NodeClass.fields_kind hc
  have hname := hname.mpr hkind
  have hshape := hshape.mpr hkind
  rw [hfields] at hroutes hrows h
  cases hrows with
  | @cons _ v _ _ vs _ hmem hfits _ _ =>
    have hv := hfits.shape hmem (by rw [hshape]; nofun)
    rw [hshape] at hv
    obtain ⟨k, rfl⟩ := hv
    have hk : Value.kindOf c (.kind k :: vs) = k := by simp [Value.kindOf, hkind]
    rw [hk]
    cases hroutes with
    | leave _ hne _ => exact absurd hname hne
    | carry hleaves _ hcarries _ _ =>
      rw [List.map_cons, baseline, hleaves, if_neg Bool.false_ne_true] at h
      have hfirst := (List.cons.inj h).1
      cases hcarries with
      | argument => exact hfirst
      | argumentOr _ _ _ hfield => rw [hshape] at hfield; cases hfield
      | identifier _ _ _ _ hfield => rw [hshape] at hfield; cases hfield
      | identifierName _ _ _ _ hfield => rw [hshape] at hfield; cases hfield
      | members _ _ _ hfield => rw [hshape] at hfield; cases hfield

theorem run_keywordLiteral {k : Kind} {bs : List Value}
    (hk : k = .trueLiteralExpression ∨ k = .falseLiteralExpression)
    (hfirst : Recipe.argument bs 0 = .kind k) : Recipe.keywordLiteral.run bs
      = .ok (.node .literalExpression
        (Recipe.keywordLiteral.parts.map (Recipe.part .literalExpression bs))) := by
  simp only [Recipe.run, Recipe.parts, List.map_cons, List.map_nil, Recipe.part, hfirst,
    Recipe.kindIn]
  rcases hk with rfl | rfl <;> rfl

/-- The recipe of a plan makes a node of its parts. -/
theorem run_plan {p : Plan} {k : Kind} (hc : c ∈ NodeClass.all) (hsuits : Suits c k qs p)
    {bs : List Value} (hfirst : c.kind? = none → Recipe.argument bs 0 = .kind k)
    (hkind : c.kind? = none → Kind.isIn c.kindTable k = true) :
    p.overload.recipe.run bs
      = .ok (.node c (p.overload.recipe.parts.map (Recipe.part c bs))) := by
  rcases hsuits.sound.recipe with ⟨parts, hrecipe⟩ | ⟨rfl, hrecipe⟩
  · have hcheck : Recipe.checkKind c bs = .ok () := by
      rw [Recipe.checkKind]
      refine if_pos ?_
      cases hk : c.kind? with
      | some k => rfl
      | none => simp [hfirst hk, Recipe.kindIn, hkind hk]
    rw [hrecipe, Recipe.run, hcheck]
    rfl
  · rw [hrecipe]
    exact run_keywordLiteral (hsuits.keyword hrecipe) (hfirst rfl)

theorem build?_plan {p : Plan} (hsound : p.Sound c) {ws bs : List Value}
    (hbind : p.overload.bind? ws [] = .ok (some bs)) :
    Factory.build? ws [] p.factory.overloads = .ok (some (p.overload.recipe.run bs)) := by
  rw [hsound.overloads]
  have hbefore := hsound.before
  generalize p.before = before at hbefore
  induction before with
  | nil => exact Factory.build?_accept hbind
  | cons d ds ih =>
    rw [List.cons_append,
      Factory.build?_reject (Plan.refuses_bind? (hbefore d List.mem_cons_self) hbind)]
    exact ih fun d hd => hbefore d (List.mem_cons_of_mem _ hd)

/-- The call of a plan without its modifiers builds the node with values by default. -/
theorem call_plan {p : Plan} (hc : c ∈ NodeClass.all) (hrows : Rows Builds c c.fields vs qs)
    (hsuits : Suits c (Value.kindOf c vs) qs p)
    (hkind : c.kind? = none → Kind.isIn c.kindTable (Value.kindOf c vs) = true) :
    ∃ ws, evalList .standard
        (arguments c p.overload.parameters c.fields p.overload.recipe.parts qs) = .ok ws
      ∧ call .standard p.factory.name ws []
        = .ok (.node c (baseline c (Value.kindOf c vs) c.fields p.overload.recipe.parts vs)) := by
  have hroutes := hsuits.sound.routes
  have hclear : Clear [] c.fields := nofun
  have hstart : ([] : List Value).length = 0 := rfl
  obtain ⟨ws, bs, hws, hbind, hparts⟩ := evalList_arguments hroutes hrows (apart_fields hc) hclear
    hsuits.text hstart
  rw [List.nil_append] at hparts
  have hfirst := fun hk => kind_argument hc hk hroutes hrows hparts
  refine ⟨ws, hws, call_language hsuits.sound.mem ?_⟩
  rw [build?_plan hsuits.sound (hbind _ _), run_plan hc hsuits hfirst hkind, hparts]
  congr 4
  refine baseline_congr hroutes fun hk => ?_
  rw [hfirst hk]
  rfl

/-! ### Modifiers -/

theorem property?_with (name : Text) : Method.property? (Text.of "with_" ++ name) = some name := by
  have hprefix : (Text.of "with_").isPrefixOf (Text.of "with_" ++ name) = true := by
    rw [List.isPrefixOf_iff_prefix]
    exact List.prefix_append _ _
  rw [Method.property?, if_pos hprefix]
  rfl

theorem names_nodup (hc : c ∈ NodeClass.all) : (c.fields.map (·.name)).Nodup := by
  have h : ((c.fields.map (·.name)).map Text.lower).Nodup := by
    rw [List.map_map]
    exact apart_fields hc
  exact List.Nodup.of_map _ h

/-- A property is found at its position. -/
theorem fieldIndex?_append (hc : c ∈ NodeClass.all) {before after : List Field} {f : Field}
    (h : c.fields = before ++ f :: after) : c.fieldIndex? f.name = some before.length := by
  have hnodup := names_nodup hc
  rw [h, List.map_append, List.map_cons, List.nodup_append] at hnodup
  rw [NodeClass.fieldIndex?, h, List.findIdx?_append]
  have hnone : before.findIdx? (fun g => g.name = f.name) = none := by
    rw [List.findIdx?_eq_none_iff]
    intro g hg
    have := hnodup.2.2 g.name (List.mem_map_of_mem hg) f.name List.mem_cons_self
    simpa using this
  rw [hnone, List.findIdx?_cons]
  simp

/-- A modifier replaces its property. -/
theorem applyAll_with (hc : c ∈ NodeClass.all) {before after : List Field} {f : Field}
    (hfields : c.fields = before ++ f :: after) (hkind : f.name ≠ Text.of "kind") {q : Call}
    {v : Value} (hq : eval .standard q = .ok v) (hfits : Field.Fits c f v) (owner : Text)
    (ws : List Value) (ms : List Modifier) :
    applyAll .standard owner (.node c ws) (Quoted.modifier ⟨f.name, q⟩ :: ms)
      = applyAll .standard owner (.node c (ws.set before.length v)) ms := by
  have hmem : f ∈ c.fields := by simp [hfields]
  have hmodifier : isModifier (Text.of "with_" ++ f.name) = true := by
    rw [isModifier, Bool.or_eq_true, List.isPrefixOf_iff_prefix]
    exact .inl (List.prefix_append _ _)
  have hmethod : methodOf owner (Text.of "with_" ++ f.name) (.node c ws) = .ok (.replace f.name) := by
    rw [methodOf, hmodifier]
    simp only [Method.of?, property?_with, isModifiable_field hc hmem hkind, if_true]
    rfl
  have hfind : c.fields.find? (fun g => g.name = f.name) = some f :=
    find?_of_nodup (names_nodup hc) hmem
  have hcheck : checkArguments (label owner (Text.of "with_" ++ f.name)) (.node c ws)
      (.replace f.name) [v] = .ok [v] := by
    simp only [checkArguments, hfind, Field.accept_of_fits hmem hfits]
  have hcall : Method.call (.replace f.name) (.node c ws) [v]
      = .ok (.node c (ws.set before.length v)) := by
    simp only [Method.call, Method.withOne, Method.replaceIn, fieldIndex?_append hc hfields]
  have hmodify : Evaluate.modify owner (Text.of "with_" ++ f.name) (.replace f.name) (.node c ws) [v]
      = .ok (.node c (ws.set before.length v)) := by
    simp [Evaluate.modify, hcheck, hcall, Bind.bind, Except.bind, pure, Except.pure]
  rw [Quoted.modifier, applyAll, hmethod, evalList_cons hq rfl]
  show (do
    let w ← Evaluate.modify owner _ (.replace f.name) (.node c ws) [v]
    applyAll .standard owner w ms) = _
  rw [hmodify]
  rfl

/-- A property that is absent has the value by default. -/
theorem default_of_isBlank {f : Field} {part : Part} {v : Value} (hleaves : part.leaves c f = true)
    (hfits : Field.Fits c f v) (hv : f.isBlank v = true) (k : Kind) :
    (part.default? c k).getD .none = v := by
  have hlack := Field.mayLack_of_isBlank hfits hv
  cases part with
  | fixed w =>
    simp only [Part.leaves, hlack, Bool.not_true, Bool.false_or] at hleaves
    exact Field.isBlank_unique hleaves hv
  | operator i => simp [Part.leaves, hlack] at hleaves
  | _ => cases hleaves

/-- The modifiers replace all values by default. -/
theorem applyAll_modifiers (hc : c ∈ NodeClass.all) (hroutes : Routes c j ps fs parts)
    (hrows : Rows Builds c fs vs qs) {before : List Field} (hfields : c.fields = before ++ fs)
    {done : List Value} (hdone : done.length = before.length) (owner : Text) (k : Kind) :
    applyAll .standard owner (.node c (done ++ baseline c k fs parts vs))
      ((leftOver c fs parts qs).map Quoted.modifier) = .ok (.node c (done ++ vs)) := by
  induction hroutes generalizing vs qs before done with
  | nil =>
    cases hrows
    rfl
  | @leave _ _ f fs part parts hleaves hkind _ ih =>
    cases hrows with
    | @cons _ v _ _ vs qs _ hfits hq hrows =>
      rw [baseline, if_pos hleaves, leftOver, if_pos hleaves]
      have hnext : c.fields = (before ++ [f]) ++ fs := by simp [hfields]
      have hlength : (done ++ [v]).length = (before ++ [f]).length := by simp [hdone]
      have hstep := ih hrows hnext hlength
      simp only [List.append_assoc, List.singleton_append] at hstep
      cases hq with
      | blank hblank =>
        rw [default_of_isBlank hleaves hfits hblank]
        exact hstep
      | @written q hw =>
        have hset : (done ++ (part.default? c k).getD .none :: baseline c k fs parts vs).set
            before.length v = done ++ v :: baseline c k fs parts vs := by
          rw [← hdone, List.set_append_right _ _ (Nat.le_refl _), Nat.sub_self, List.set_cons_zero]
        show applyAll _ _ _ (Quoted.modifier ⟨f.name, q⟩ :: _) = _
        rw [applyAll_with hc hfields hkind hw.sense.eval hfits, hset]
        exact hstep
  | @carry _ _ _ f fs part parts hleaves _ _ _ _ ih =>
    cases hrows with
    | @cons _ v _ _ vs qs _ _ _ hrows =>
      rw [baseline, hleaves, if_neg Bool.false_ne_true, leftOver, hleaves,
        if_neg Bool.false_ne_true, List.nil_append]
      have hnext : c.fields = (before ++ [f]) ++ fs := by simp [hfields]
      have hlength : (done ++ [v]).length = (before ++ [f]).length := by simp [hdone]
      have hstep := ih hrows hnext hlength
      simpa only [List.append_assoc, List.singleton_append] using hstep

/-! ### Nodes -/

/-- The call of a plan builds the node. -/
theorem eval_planCall {p : Plan} (hc : c ∈ NodeClass.all) (hrows : Rows Builds c c.fields vs qs)
    (hsuits : Suits c (Value.kindOf c vs) qs p)
    (hkind : c.kind? = none → Kind.isIn c.kindTable (Value.kindOf c vs) = true) :
    eval .standard (planCall c p qs) = .ok (.node c vs) := by
  obtain ⟨ws, hws, hcall⟩ := call_plan hc hrows hsuits hkind
  rw [planCall, eval, hws]
  show (do
    let v ← call .standard p.factory.name ws []
    applyAll .standard p.factory.name v _) = _
  rw [hcall]
  have hfields : c.fields = [] ++ c.fields := rfl
  have hdone : ([] : List Value).length = ([] : List Field).length := rfl
  exact applyAll_modifiers hc hsuits.sound.routes hrows hfields hdone _ _

end Quote

end TreeQuote
