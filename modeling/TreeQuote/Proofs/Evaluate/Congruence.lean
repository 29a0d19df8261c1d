/-
TreeQuote/Proofs/Evaluate/Congruence.lean

Evaluation from values with one trace.  Calls and the modifiers that replace something make of such
values what has one trace again, and they fail alike.  Layout is left out, because it looks at the
tokens below a node one by one.

Main statements: `Evaluate.call_congr`, `Evaluate.modify_congr` and `Evaluate.applyAll_congr`.
-/
import TreeQuote.Evaluate.Basic
import TreeQuote.Proofs.Factory.Congruence

namespace TreeQuote

open Value Overload

variable {f : Text → Text}

/-! ### Members -/

theorem Value.evens_congr {vs ws : List Value} (h : vs.map (trace f) = ws.map (trace f)) :
    (evens vs).map (trace f) = (evens ws).map (trace f) := by
  induction vs using evens.induct generalizing ws with
  | case1 =>
    cases forall₂_of_map_eq h
    rfl
  | case2 a =>
    cases forall₂_of_map_eq h with
    | cons hv hvs =>
      cases hvs
      exact congrArg (fun t => [t]) hv
  | case3 a b rest ih =>
    cases forall₂_of_map_eq h with
    | cons hv hvs =>
      cases hvs with
      | cons hw hws => exact congrArg₂ List.cons hv (ih (List.cons.inj (List.cons.inj h).2).2)

/-- The members of lists with one trace. -/
theorem Value.members?_congr {v w : Value} (h : v.trace f = w.trace f) :
    (v.members?.getD []).map (trace f) = (w.members?.getD []).map (trace f) := by
  cases coincide_of_trace h with
  | tokens hvs => exact hvs
  | nodes hvs => exact hvs
  | array hvs => exact hvs
  | separated hvs => exact evens_congr hvs
  | _ => rfl

theorem find?_congr {p : Value → Bool}
    (hp : ∀ {v w : Value}, v.trace f = w.trace f → p v = p w) {vs ws : List Value}
    (h : vs.map (trace f) = ws.map (trace f)) :
    (vs.find? p).map (trace f) = (ws.find? p).map (trace f) := by
  induction forall₂_of_map_eq h with
  | nil => rfl
  | cons hv _ ih =>
    rw [List.find?_cons, List.find?_cons, hp hv]
    split
    · exact congrArg some hv
    · exact ih (List.cons.inj h).2

namespace Evaluate

/-! ### Factory calls -/

theorem insertKeyword_congr (name : Text) {v w : Value} (hvw : v.trace f = w.trace f)
    {ks ls : List (Text × Value)} (hks : ks.map (traced f) = ls.map (traced f)) :
    (insertKeyword name v ks).map (traced f) = (insertKeyword name w ls).map (traced f) := by
  have hpair : traced f (name, v) = traced f (name, w) := Prod.ext rfl hvw
  induction forall₂_of_map_eq hks with
  | nil => exact congrArg (fun t => [t]) hpair
  | @cons k l ks ls hk _ ih =>
    obtain ⟨n, a⟩ := k
    obtain ⟨m, b⟩ := l
    obtain ⟨rfl, -⟩ := Prod.mk.inj hk
    have hrest := (List.cons.inj hks).2
    rw [insertKeyword, insertKeyword]
    split
    · next hn =>
      subst hn
      exact congrArg₂ List.cons hpair hrest
    · exact congrArg₂ List.cons hk (ih hrest)

theorem distinct_congr {ks ls : List (Text × Value)} (hks : ks.map (traced f) = ls.map (traced f)) :
    (distinct ks).map (traced f) = (distinct ls).map (traced f) := by
  have hfold : ∀ {ms ns : List (Text × Value)}, ms.map (traced f) = ns.map (traced f) →
      (ks.foldl (fun ms k => insertKeyword k.1 k.2 ms) ms).map (traced f)
        = (ls.foldl (fun ns k => insertKeyword k.1 k.2 ns) ns).map (traced f) := by
    induction forall₂_of_map_eq hks with
    | nil => exact fun h => h
    | @cons k l ks ls hk _ ih =>
      intro ms ns h
      obtain ⟨hname, hvalue⟩ := Prod.mk.inj hk
      refine ih (List.cons.inj hks).2 ?_
      simp only [hname]
      exact insertKeyword_congr l.1 hvalue h
  exact hfold rfl

theorem checkElements_congr (name : Text) (c : Factory) (type : Option NodeType) {v w : Value}
    (h : v.trace f = w.trace f) :
    (checkElements name c type v).map (trace f) = (checkElements name c type w).map (trace f) := by
  cases type with
  | none => exact congrArg Except.ok h
  | some t =>
    have hstray : (Factory.strayMember? t v).map (trace f)
        = (Factory.strayMember? t w).map (trace f) := by
      refine find?_congr ?_ (members?_congr h)
      intro a b hab
      cases coincide_of_trace hab <;> rfl
    simp only [checkElements]
    cases hx : Factory.strayMember? t v with
    | none =>
      rw [hx] at hstray
      rw [Option.map_eq_none_iff.mp hstray.symm]
      exact congrArg Except.ok h
    | some a =>
      rw [hx] at hstray
      obtain ⟨b, hy, hab⟩ := Option.map_eq_some_iff.mp hstray.symm
      have htype := congrArg Trace.typeName hab
      rw [trace_typeName, trace_typeName] at htype
      simp only [hy, htype]

variable (hf : ∀ a b, f (a ++ b) = f a ++ f b) (r : Registry)

include hf

theorem factoryCall_congr (name : Text) {as bs : List Value} {ks ls : List (Text × Value)}
    (h : as.map (trace f) = bs.map (trace f)) (hks : ks.map (traced f) = ls.map (traced f)) :
    (factoryCall r name as ks).map (trace f) = (factoryCall r name bs ls).map (trace f) := by
  unfold factoryCall
  cases r.factory? (Call.baseName name) with
  | none => rfl
  | some c =>
    have hbuild := Factory.build?_congr hf c.overloads h hks
    refine map_bind_congr (p := id) rfl ?_
    rintro type _ rfl
    simp only [Factory.shownTypes_congr h hks]
    generalize Factory.build? as ks c.overloads = x at hbuild ⊢
    generalize Factory.build? bs ls c.overloads = y at hbuild ⊢
    rcases x with _ | _ | _ | v <;> rcases y with _ | _ | _ | w <;>
      simp only [Except.map, Option.map, reduceCtorEq, Except.ok.injEq, Option.some.injEq,
        Except.error.injEq] at hbuild ⊢
    · rw [hbuild]
    · exact checkElements_congr name c type hbuild

/-- A call makes of values with one trace what has one trace again.  A value constructor may look
at a value as a whole, so it has to be given the same values. -/
theorem call_congr (name : Text) {as bs : List Value} {ks ls : List (Text × Value)}
    (h : as.map (trace f) = bs.map (trace f)) (hks : ks.map (traced f) = ls.map (traced f))
    (hconversion : Conversion.ofName? name ≠ Option.none → as = bs) :
    (call r name as ks).map (trace f) = (call r name bs ls).map (trace f) := by
  have hdistinct := distinct_congr hks
  have hfactory := factoryCall_congr hf r name h hdistinct
  have hempty : (distinct ks).isEmpty = (distinct ls).isEmpty := by
    have := congrArg List.isEmpty hdistinct
    rwa [List.isEmpty_map, List.isEmpty_map] at this
  unfold call
  cases hname : Conversion.ofName? name with
  | none => exact hfactory
  | some c =>
    simp only [hempty]
    split
    · rw [hconversion (by simp [hname])]
    · exact hfactory

end Evaluate

/-! ### Methods -/

namespace Method

/-- A method that replaces a property of a node or a side of a token. -/
def Replaces (m : Method) : Prop := (∃ p, m = .replace p) ∨ m = .leading ∨ m = .trailing

variable {v w : Value}

theorem of?_congr (h : v.trace f = w.trace f) (name : Text) : of? v name = of? w name := by
  cases coincide_of_trace h <;> rfl

theorem label_congr (h : v.trace f = w.trace f) (m : Method) : m.label v = m.label w := by
  have howner : m.owner v = m.owner w := by cases coincide_of_trace h <;> rfl
  cases m <;> simp only [label, howner]

/-- The sides of a token are replaced whatever they are. -/
theorem trace_between (t : Token) (l r : Value) :
    (between t l r).trace f = .token t.bare (l.fullText?.map f) (r.fullText?.map f) := by
  unfold between
  split <;> rfl

theorem leading_congr (h : v.trace f = w.trace f) :
    v.leading.fullText?.map f = w.leading.fullText?.map f := by
  cases coincide_of_trace h with
  | token h => exact (Trace.token.inj h).2.1
  | tokenFramed h => exact (Trace.token.inj h).2.1
  | framedToken h => exact (Trace.token.inj h).2.1
  | framed h => exact (Trace.token.inj h).2.1
  | _ => rfl

theorem trailing_congr (h : v.trace f = w.trace f) :
    v.trailing.fullText?.map f = w.trailing.fullText?.map f := by
  cases coincide_of_trace h with
  | token h => exact (Trace.token.inj h).2.2
  | tokenFramed h => exact (Trace.token.inj h).2.2
  | framedToken h => exact (Trace.token.inj h).2.2
  | framed h => exact (Trace.token.inj h).2.2
  | _ => rfl

theorem reframe_congr (h : v.trace f = w.trace f) {a b c d : Value}
    (hab : a.fullText?.map f = b.fullText?.map f) (hcd : c.fullText?.map f = d.fullText?.map f) :
    (reframe v a c).trace f = (reframe w b d).trace f := by
  have htoken : ∀ {t u : Token}, t.bare = u.bare →
      (between t a c).trace f = (between u b d).trace f := by
    intro t u htu
    rw [trace_between, trace_between, htu, hab, hcd]
  cases coincide_of_trace h with
  | token h => exact htoken (Trace.token.inj h).1
  | tokenFramed h => exact htoken (Trace.token.inj h).1
  | framedToken h => exact htoken (Trace.token.inj h).1
  | framed h => exact htoken (Trace.token.inj h).1
  | _ => exact h

theorem replaceIn_congr (hf : ∀ a b, f (a ++ b) = f a ++ f b) (h : v.trace f = w.trace f)
    (p : Text) {a b : Value} (hab : a.trace f = b.trace f) :
    (replaceIn v p a).trace f = (replaceIn w p b).trace f := by
  cases coincide_of_trace h with
  | @node c vs ws htexts hcontent =>
    simp only [replaceIn]
    split
    · next i _ =>
      refine Coincide.trace_eq (.node ?_ ?_)
      · have htext : a.tokenText?.map f = b.tokenText?.map f := by
          rw [← tokenText?_trace hf, hab, tokenText?_trace hf]
        rw [List.map_set, List.map_set, htexts, htext]
      · intro hc
        rw [List.map_set, List.map_set, hcontent hc, hab]
    · exact h
  | _ => exact h

theorem withOne_congr {m : Method} {g k : Value → Value} (h : v.trace f = w.trace f)
    (parameter : String) (hgk : ∀ {a b : Value}, a.trace f = b.trace f →
      (g a).trace f = (k b).trace f) {as bs : List Value} (has : as.map (trace f) = bs.map (trace f)) :
    (withOne m v parameter g as).map (trace f) = (withOne m w parameter k bs).map (trace f) := by
  cases forall₂_of_map_eq has with
  | nil => rw [withOne, withOne, label_congr h]
  | cons ha hrest =>
    cases hrest with
    | nil => exact congrArg Except.ok (hgk ha)
    | cons _ hrest =>
      simp only [withOne, label_congr h, List.length_cons, hrest.length_eq]

/-- A method that replaces something makes of values with one trace what has one trace again. -/
theorem call_congr (hf : ∀ a b, f (a ++ b) = f a ++ f b) {m : Method} (hm : m.Replaces)
    (h : v.trace f = w.trace f) {as bs : List Value} (has : as.map (trace f) = bs.map (trace f)) :
    (m.call v as).map (trace f) = (m.call w bs).map (trace f) := by
  obtain ⟨p, rfl⟩ | rfl | rfl := hm
  · exact withOne_congr h _ (replaceIn_congr hf h p) has
  · exact withOne_congr h _
      (fun hab => reframe_congr h (Recipe.fullText?_congr hf hab) (trailing_congr h)) has
  · exact withOne_congr h _
      (fun hab => reframe_congr h (leading_congr h) (Recipe.fullText?_congr hf hab)) has

end Method

namespace Evaluate

/-! ### Modifiers -/

variable {owner name : Text} {v w : Value}

theorem methodOf_congr (h : v.trace f = w.trace f) :
    methodOf owner name v = methodOf owner name w := by
  have htype : v.typeName = w.typeName := by rw [← trace_typeName f, h, trace_typeName]
  rw [methodOf, methodOf, Method.of?_congr h, htype]

/-- Apart from layout, a modifier replaces a property of a node or a side of a token. -/
theorem methodOf_cases {m : Method} (h : methodOf owner name v = .ok m)
    (hname : name ≠ Modifier.normalize.name) :
    (∃ c vs p, v = .node c vs ∧ m = .replace p)
      ∨ v.isToken = true ∧ (m = .leading ∨ m = .trailing) := by
  unfold methodOf at h
  split at h
  · cases h
  · next hmodifier =>
    have hprefix : (Text.of "with_").isPrefixOf name = true := by
      simpa [isModifier, hname] using hmodifier
    have htoken : ∀ k, Method.ofToken.lookup name = some k → k = .leading ∨ k = .trailing := by
      intro k hk
      obtain ⟨before, after, heq, -⟩ := List.lookup_eq_some_iff.mp hk
      have hmem : (name, k) ∈ Method.ofToken := by simp [heq]
      simp only [Method.ofToken, List.mem_cons, Prod.mk.injEq, List.not_mem_nil, or_false] at hmem
      obtain ⟨-, rfl⟩ | ⟨-, rfl⟩ | ⟨rfl, -⟩ | ⟨rfl, -⟩ | ⟨rfl, -⟩ | ⟨rfl, -⟩ := hmem
      · exact .inl rfl
      · exact .inr rfl
      all_goals exact absurd hprefix (by decide)
    split at h
    · cases h
    · next k hk =>
      cases h
      cases v with
      | node c vs =>
        simp only [Method.of?, Method.property?, hprefix, if_true] at hk
        split at hk
        · cases hk
          exact .inl ⟨c, vs, _, rfl, rfl⟩
        · cases hk
      | token t => exact .inr ⟨rfl, htoken m hk⟩
      | framed t l r => exact .inr ⟨rfl, htoken m hk⟩
      | scalar s => cases hk
      | kind k => cases hk
      | array vs => cases hk
      | _ =>
        have hne : name ≠ Text.of "to_full_string" := by
          rintro rfl
          exact absurd hprefix (by decide)
        simp [Method.of?, hne] at hk

theorem replaces_of_methodOf {m : Method} (h : methodOf owner name v = .ok m)
    (hname : name ≠ Modifier.normalize.name) : m.Replaces := by
  obtain ⟨c, vs, p, -, rfl⟩ | ⟨-, rfl | rfl⟩ := methodOf_cases h hname
  · exact .inl ⟨p, rfl⟩
  · exact .inr (.inl rfl)
  · exact .inr (.inr rfl)

theorem checkArguments_congr (l : Text) (m : Method) (h : v.trace f = w.trace f)
    {as bs : List Value} (has : as.map (trace f) = bs.map (trace f)) :
    (checkArguments l v m as).map (List.map (trace f))
      = (checkArguments l w m bs).map (List.map (trace f)) := by
  cases coincide_of_trace h with
  | @node c vs ws _ _ =>
    cases m with
    | replace p =>
      cases forall₂_of_map_eq has with
      | nil => rfl
      | @cons a b as bs ha hrest =>
        cases hrest with
        | nil =>
          have htype : a.typeName = b.typeName := by rw [← trace_typeName f, ha, trace_typeName]
          simp only [checkArguments]
          cases c.fields.find? fun f => f.name = p with
          | none => exact congrArg Except.ok has
          | some d =>
            have haccept := d.shape.accept_congr ha
            rcases hx : d.shape.accept a with _ | _ | u <;>
              rcases hy : d.shape.accept b with _ | _ | u' <;>
              simp only [hx, hy, Except.map, Option.map, reduceCtorEq, Except.ok.injEq,
                Option.some.injEq, Except.error.injEq] at haccept ⊢
            · rw [htype]
            · exact congrArg (fun t => [t]) haccept
        | cons _ hrest =>
          simp only [checkArguments, List.length_cons, hrest.length_eq]
    | _ => exact congrArg Except.ok has
  | _ => exact congrArg Except.ok has

/-- A modifier that replaces something makes of values with one trace what has one trace again. -/
theorem modify_congr (hf : ∀ a b, f (a ++ b) = f a ++ f b) {m : Method} (hm : m.Replaces)
    (h : v.trace f = w.trace f) {as bs : List Value} (has : as.map (trace f) = bs.map (trace f)) :
    (modify owner name m v as).map (trace f) = (modify owner name m w bs).map (trace f) := by
  refine map_bind_congr (checkArguments_congr _ m h has) ?_
  intro us us' hus
  have hcall := Method.call_congr hf hm h hus
  generalize m.call v us = x at hcall ⊢
  generalize m.call w us' = y at hcall ⊢
  cases x with
  | error e =>
    cases y with
    | error e' =>
      cases hcall
      cases e <;> rfl
    | ok b => cases hcall
  | ok a =>
    cases y with
    | error e => cases hcall
    | ok b => exact congrArg Except.ok (Except.ok.inj hcall)

/-- Modifiers that replace something make of values with one trace what has one trace again. -/
theorem applyAll_congr (owner : Text) (hf : ∀ a b, f (a ++ b) = f a ++ f b) (r : Registry) {ms : List Modifier}
    (hms : ∀ m ∈ ms, m.name ≠ Modifier.normalize.name) (h : v.trace f = w.trace f) :
    (applyAll r owner v ms).map (trace f) = (applyAll r owner w ms).map (trace f) := by
  induction ms generalizing v w with
  | nil => exact congrArg Except.ok h
  | cons m ms ih =>
    obtain ⟨n, args⟩ := m
    rw [applyAll, applyAll, methodOf_congr h]
    cases hm : methodOf owner n w with
    | error e => rfl
    | ok m =>
      have hreplaces := replaces_of_methodOf hm (hms _ List.mem_cons_self)
      show (evalList r args >>= _).map _ = (evalList r args >>= _).map _
      refine map_bind_congr (p := id) rfl ?_
      intro as bs has
      cases has
      refine map_bind_congr (modify_congr hf hreplaces h rfl) ?_
      intro a b hab
      exact ih (fun k hk => hms k (List.mem_cons_of_mem _ hk)) hab

end Evaluate

end TreeQuote
