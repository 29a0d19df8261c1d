/-
TreeQuote/Proofs/Quote/Binding.lean

Binding neither loses nor duplicates a property.  Each parameter of the chosen overload has a slot
(`Slot`): it is given nothing, a placeholder, or one property.  The slots say what the arguments
are, by position up to the first optional parameter that is left out and by name behind it; and the
properties in the slots, together with those that become modifiers, are all properties, each once.

    properties of the node ~ properties in slots ++ properties left over
    arguments              = what the slots are written as, in the order of the parameters
    modifiers              = one for each property left over, in the order of the properties

One parameter takes one property out of the pool and leaves the other properties where they are
(`BoundBy.cons`); all parameters follow by induction.

Main statement: `quoteNode_binds`.
-/
import TreeQuote.Proofs.Quote.Selection
import TreeQuote.Proofs.Quote.Support

namespace TreeQuote

namespace Quote

/-! ### Slots -/

/-- What a parameter is given: nothing, what stands for a property that is absent, or a property. -/
inductive Slot where
  | nothing
  | placeholder
  | property (q : Quoted)

namespace Slot

/-- The property that the slot uses up. -/
def taken? : Slot → Option Quoted
  | .property q => some q
  | _ => none

/-- The arguments for a parameter: a property as it is, or as a plain string, or for a variadic
parameter the members of the list that it is. -/
def written (p : Parameter) : Slot → List Call
  | .nothing => []
  | .placeholder => [Quote.placeholder p]
  | .property q =>
    if p.isVariadic then (listItems? q.call).getD []
    else [if p.shape = .text then (stringArgument? q.call).getD q.call else q.call]

/-- An optional parameter is left out, so that arguments behind it go by name. -/
def skips (p : Parameter) : Slot → Bool
  | .nothing => !p.isVariadic
  | _ => false

/-- What a parameter is given among some properties.  It is given the property of its name, letters
in either case being equal.  Without one it is left out if it is optional, and has a placeholder
otherwise.  A variadic parameter is given its property only if it is the only parameter and the
property is a list that can be taken apart. -/
inductive Fits (sole : Bool) (values : List Quoted) (p : Parameter) : Slot → Prop where
  | omitted (hv : p.isVariadic = false) (ho : p.isOptional = true)
    (h : ∀ q ∈ values, p.isNamed q.name = false) : Fits sole values p .nothing
  | untaken (hv : p.isVariadic = true)
    (h : ∀ q ∈ values, p.isNamed q.name = true → sole = true → listItems? q.call = none) :
    Fits sole values p .nothing
  | required (hv : p.isVariadic = false) (ho : p.isOptional = false)
    (h : ∀ q ∈ values, p.isNamed q.name = false) : Fits sole values p .placeholder
  | argument (hv : p.isVariadic = false) {q : Quoted} (hq : q ∈ values)
    (hname : p.isNamed q.name = true) : Fits sole values p (.property q)
  | members (hv : p.isVariadic = true) (hsole : sole = true) {q : Quoted} (hq : q ∈ values)
    (hname : p.isNamed q.name = true) (hitems : (listItems? q.call).isSome = true) :
    Fits sole values p (.property q)

end Slot

/-- Parameters with their slots, up to the first that is skipped; none if arguments go by name. -/
def front (byKeyword : Bool) (xs : List (Parameter × Slot)) : List (Parameter × Slot) :=
  if byKeyword then [] else xs.takeWhile fun x => !x.2.skips x.1

/-- Parameters with their slots, from the first that is skipped; all if arguments go by name. -/
def behind (byKeyword : Bool) (xs : List (Parameter × Slot)) : List (Parameter × Slot) :=
  if byKeyword then xs else xs.dropWhile fun x => !x.2.skips x.1

/-- The arguments of slots, by position. -/
def positional (xs : List (Parameter × Slot)) : List Call := xs.flatMap fun x => x.2.written x.1

/-- The arguments of slots, by name. -/
def named (xs : List (Parameter × Slot)) : List Keyword :=
  xs.flatMap fun x => (x.2.written x.1).map (.mk x.1.name)

/-- The parameters are bound by the slots. -/
structure BoundBy (sole byKeyword : Bool) (ps : List Parameter) (pool : List Quoted) (b : Bound)
    (slots : List Slot) : Prop where
  fits : List.Forall₂ (Slot.Fits sole pool) ps slots
  once : (slots.filterMap Slot.taken? ++ b.left).Perm pool
  order : b.left.Sublist pool
  arguments : b.arguments = positional (front byKeyword (ps.zip slots))
  keywords : b.keywords = named (behind byKeyword (ps.zip slots))

/-- The names of properties are apart, letters in either case being equal. -/
def NamesApart (pool : List Quoted) : Prop := (pool.map fun q => Text.lower q.name).Nodup

/-- The names of parameters are apart, letters in either case being equal. -/
def ParametersApart (ps : List Parameter) : Prop := (ps.map fun p => Text.lower p.name).Nodup

/-! ### One parameter -/

section Step

variable {sole byKeyword : Bool} {p p' : Parameter} {ps : List Parameter} {pool : List Quoted}
  {b : Bound} {s : Slot} {slots : List Slot} {name : Text}

/-- A property that is found is taken out of the pool, and the others stay. -/
theorem lookup_perm {call : Call} (hpool : NamesApart pool) (h : lookup name pool = some call) :
    ∃ q ∈ pool, q.call = call ∧ Text.lower q.name = Text.lower name
      ∧ (q :: erase name pool).Perm pool := by
  obtain ⟨q, hfind, hcall⟩ := Option.map_eq_some_iff.mp h
  have hq := List.mem_of_find?_eq_some hfind
  have hname : Text.lower q.name = Text.lower name := by simpa using List.find?_some hfind
  refine ⟨q, hq, hcall, hname, ?_⟩
  obtain ⟨before, after, rfl⟩ := List.append_of_mem hq
  rw [NamesApart, List.map_append, List.map_cons, List.nodup_middle, List.nodup_cons,
    ← List.map_append] at hpool
  have hne : ∀ x ∈ before ++ after, Text.lower x.name ≠ Text.lower name := by
    intro x hx he
    exact hpool.1 (List.mem_map.mpr ⟨x, hx, he.trans hname.symm⟩)
  have hself : erase name [q] = [] := by simp [erase, hname]
  rw [List.append_cons, erase_append, erase_append, hself, List.append_nil, ← erase_append,
    erase_eq_self hne, List.append_assoc]
  exact List.perm_middle.symm

theorem isNamed_iff {q : Quoted} :
    p.isNamed q.name = true ↔ Text.lower p.name = Text.lower q.name := by
  rw [Parameter.isNamed, decide_eq_true_eq]

/-- Another parameter finds the same without the property that was taken out. -/
theorem Slot.Fits.of_erase (hne : Text.lower p'.name ≠ Text.lower p.name)
    (h : Slot.Fits sole (erase p.name pool) p' s) : Slot.Fits sole pool p' s := by
  have hmem : ∀ q ∈ pool, p'.isNamed q.name = true → q ∈ erase p.name pool := by
    intro q hq hname
    refine List.mem_filter.mpr ⟨hq, ?_⟩
    rw [isNamed_iff] at hname
    simpa [← hname] using hne
  have habsent : (∀ q ∈ erase p.name pool, p'.isNamed q.name = false) →
      ∀ q ∈ pool, p'.isNamed q.name = false := by
    intro hnone q hq
    by_contra hname
    rw [Bool.not_eq_false] at hname
    have := hnone q (hmem q hq hname)
    rw [hname] at this
    cases this
  cases h with
  | omitted hv ho h => exact .omitted hv ho (habsent h)
  | untaken hv h => exact .untaken hv fun q hq hname => h q (hmem q hq hname) hname
  | required hv ho h => exact .required hv ho (habsent h)
  | argument hv hq hname => exact .argument hv (List.mem_filter.mp hq).1 hname
  | members hv hsole hq hname hitems => exact .members hv hsole (List.mem_filter.mp hq).1 hname hitems

/-- Arguments in front, by position or by name. -/
def Bound.give (byKeyword : Bool) (p : Parameter) (cs : List Call) (b : Bound) : Bound :=
  if byKeyword then { b with keywords := cs.map (.mk p.name) ++ b.keywords }
  else { b with arguments := cs ++ b.arguments }

theorem Bound.give_nil : b.give byKeyword p [] = b := by cases byKeyword <;> rfl

theorem Bound.give_singleton (c : Call) : b.give byKeyword p [c] = b.add byKeyword p c := by
  cases byKeyword <;> rfl

theorem Bound.left_give (cs : List Call) : (b.give byKeyword p cs).left = b.left := by
  cases byKeyword <;> rfl

/-- One more parameter that is not skipped: its arguments come first. -/
theorem BoundBy.cons {pool' : List Quoted} (h : BoundBy sole byKeyword ps pool' b slots)
    (hs : s.Fits sole pool p) (hskips : s.skips p = false)
    (hfits : List.Forall₂ (Slot.Fits sole pool) ps slots)
    (honce : (s.taken?.toList ++ pool').Perm pool) (horder : pool'.Sublist pool) :
    BoundBy sole byKeyword (p :: ps) pool (b.give byKeyword p (s.written p)) (s :: slots) := by
  have htaken : (s :: slots).filterMap Slot.taken?
      = s.taken?.toList ++ slots.filterMap Slot.taken? := by
    cases ht : s.taken? <;> simp [ht]
  refine ⟨.cons hs hfits, ?_, ?_, ?_, ?_⟩
  · rw [htaken, Bound.left_give, List.append_assoc]
    exact (h.once.append_left _).trans honce
  · rw [Bound.left_give]
    exact h.order.trans horder
  · cases byKeyword with
    | true => exact h.arguments
    | false =>
      have hfront : front false ((p, s) :: ps.zip slots) = (p, s) :: front false (ps.zip slots) := by
        simp [front, hskips]
      rw [List.zip_cons_cons, hfront, positional, List.flatMap_cons]
      exact congrArg (s.written p ++ ·) h.arguments
  · cases byKeyword with
    | true => exact congrArg ((s.written p).map (.mk p.name) ++ ·) h.keywords
    | false =>
      have hbehind : behind false ((p, s) :: ps.zip slots) = behind false (ps.zip slots) := by
        simp [behind, hskips]
      rw [List.zip_cons_cons, hbehind]
      exact h.keywords

/-- One more parameter that is skipped: the arguments behind it go by name. -/
theorem BoundBy.skip (h : BoundBy sole true ps pool b slots) (hs : Slot.nothing.Fits sole pool p)
    (hv : p.isVariadic = false) :
    BoundBy sole byKeyword (p :: ps) pool b (.nothing :: slots) := by
  have hskips : (!Slot.nothing.skips p) = false := by simp [Slot.skips, hv]
  have hfront : front byKeyword ((p, Slot.nothing) :: ps.zip slots) = [] := by
    cases byKeyword <;> simp [front, hskips]
  have hbehind : behind byKeyword ((p, Slot.nothing) :: ps.zip slots)
      = (p, .nothing) :: ps.zip slots := by
    cases byKeyword <;> simp [behind, hskips]
  refine ⟨.cons hs h.fits, h.once, h.order, ?_, ?_⟩
  · rw [List.zip_cons_cons, hfront]
    exact h.arguments
  · rw [List.zip_cons_cons, hbehind]
    exact h.keywords

/-- One more variadic parameter that is given nothing. -/
theorem BoundBy.pass (h : BoundBy sole byKeyword ps pool b slots)
    (hs : Slot.nothing.Fits sole pool p) (hv : p.isVariadic = true) :
    BoundBy sole byKeyword (p :: ps) pool b (.nothing :: slots) := by
  have hcons : BoundBy sole byKeyword (p :: ps) pool (b.give byKeyword p []) (.nothing :: slots) :=
    h.cons hs (by simp [Slot.skips, hv]) h.fits (.refl _) (.refl _)
  rwa [Bound.give_nil] at hcons

/-- One more parameter that has a placeholder. -/
theorem BoundBy.place (h : BoundBy sole byKeyword ps pool b slots)
    (hs : Slot.placeholder.Fits sole pool p) :
    BoundBy sole byKeyword (p :: ps) pool (b.add byKeyword p (Quote.placeholder p))
      (.placeholder :: slots) := by
  have hcons : BoundBy sole byKeyword (p :: ps) pool
      (b.give byKeyword p [Quote.placeholder p]) (.placeholder :: slots) :=
    h.cons hs rfl h.fits (.refl _) (.refl _)
  rwa [Bound.give_singleton] at hcons

/-- One more parameter that is given a property: the parameters behind it are bound without the
property, and find the same as with it. -/
theorem BoundBy.take {q : Quoted} (h : BoundBy sole byKeyword ps (erase p.name pool) b slots)
    (hne : ∀ p' ∈ ps, Text.lower p'.name ≠ Text.lower p.name)
    (hs : (Slot.property q).Fits sole pool p) (hperm : (q :: erase p.name pool).Perm pool) :
    BoundBy sole byKeyword (p :: ps) pool (b.give byKeyword p ((Slot.property q).written p))
      (.property q :: slots) := by
  have hfits : List.Forall₂ (fun p' s => p' ∈ ps ∧ Slot.Fits sole (erase p.name pool) p' s) ps
      slots := by
    rw [List.forall₂_and_left]
    exact ⟨fun _ hp' => hp', h.fits⟩
  exact h.cons hs rfl (hfits.imp fun p' s h => h.2.of_erase (hne p' h.1)) hperm List.filter_sublist

/-- The slot of a parameter whose name no property has. -/
theorem untaken_of_absent (hv : p.isVariadic = true)
    (habsent : ∀ q ∈ pool, p.isNamed q.name = false) : Slot.nothing.Fits sole pool p := by
  refine .untaken hv fun q hq hname => ?_
  rw [habsent q hq] at hname
  cases hname

end Step

/-! ### All parameters -/

/-- Binding gives each parameter its slot. -/
theorem bind_boundBy {sole byKeyword : Bool} {ps : List Parameter} {pool : List Quoted}
    (hps : ParametersApart ps) (hpool : NamesApart pool)
    (hsole : sole = true → ps.length ≤ 1 ∧ (byKeyword = true → ps = [])) :
    ∃ slots, BoundBy sole byKeyword ps pool (bind sole byKeyword ps pool) slots := by
  induction ps generalizing byKeyword pool with
  | nil => exact ⟨[], .nil, .refl _, .refl _, by cases byKeyword <;> rfl, by cases byKeyword <;> rfl⟩
  | cons p ps ih =>
    obtain ⟨hp, hps⟩ := List.nodup_cons.mp hps
    have hne : ∀ p' ∈ ps, Text.lower p'.name ≠ Text.lower p.name := fun p' hp' he =>
      hp (List.mem_map.mpr ⟨p', hp', he⟩)
    -- A sole parameter has none behind it.
    have hrest : ∀ b : Bool, sole = true → ps.length ≤ 1 ∧ (b = true → ps = []) := by
      intro b hs
      have hlen := (hsole hs).1
      rw [List.length_cons] at hlen
      have hnil : ps = [] := List.length_eq_zero_iff.mp (by omega)
      exact ⟨by simp [hnil], fun _ => hnil⟩
    rw [bind]
    split
    · next hnone =>
      have habsent : ∀ q ∈ pool, p.isNamed q.name = false := fun q hq => by
        have := mem_of_lookup_none hnone q hq
        simpa [Parameter.isNamed] using this.symm
      split
      · next hv =>
        obtain ⟨slots, h⟩ := ih hps hpool (hrest byKeyword)
        exact ⟨_, h.pass (untaken_of_absent hv habsent) hv⟩
      split
      · next hv ho =>
        rw [Bool.not_eq_true] at hv
        obtain ⟨slots, h⟩ := ih hps hpool (hrest true)
        exact ⟨_, h.skip (.omitted hv ho habsent) hv⟩
      · next hv ho =>
        rw [Bool.not_eq_true] at hv ho
        obtain ⟨slots, h⟩ := ih hps hpool (hrest byKeyword)
        exact ⟨_, h.place (.required hv ho habsent)⟩
    · next call hsome =>
      obtain ⟨q, hq, rfl, hname, hperm⟩ := lookup_perm hpool hsome
      have hnamed : p.isNamed q.name = true := isNamed_iff.mpr hname.symm
      have hpool' : NamesApart (erase p.name pool) := hpool.sublist (List.filter_sublist.map _)
      split
      · next hv =>
        -- No other property has the name.
        have hunique : ∀ x ∈ pool, p.isNamed x.name = true → x = q := by
          intro x hx hxname
          refine List.inj_on_of_nodup_map hpool hx hq ?_
          exact (isNamed_iff.mp hxname).symm.trans hname.symm
        split
        · next items hitems =>
          split
          · next hsole' =>
            obtain ⟨slots, h⟩ := ih hps hpool' (hrest byKeyword)
            have hfalse : byKeyword = false := by
              cases byKeyword with
              | false => rfl
              | true => cases (hsole hsole').2 rfl
            subst hfalse
            have htake := h.take hne (.members hv hsole' hq hnamed (by rw [hitems]; rfl)) hperm
            rw [Slot.written, if_pos hv, hitems] at htake
            exact ⟨_, htake⟩
          · next hsole' =>
            obtain ⟨slots, h⟩ := ih hps hpool (hrest byKeyword)
            exact ⟨_, h.pass (.untaken hv fun _ _ _ hs => absurd hs hsole') hv⟩
        · next hitems =>
          obtain ⟨slots, h⟩ := ih hps hpool (hrest byKeyword)
          have hslot : Slot.nothing.Fits sole pool p :=
            .untaken hv fun x hx hxname _ => by rw [hunique x hx hxname, hitems]
          exact ⟨_, h.pass hslot hv⟩
      · next hv =>
        rw [Bool.not_eq_true] at hv
        obtain ⟨slots, h⟩ := ih hps hpool' (hrest byKeyword)
        have htake := h.take hne (.argument hv hq hnamed) hperm
        rw [Slot.written, if_neg (by rw [hv]; exact Bool.false_ne_true),
          Bound.give_singleton] at htake
        exact ⟨_, htake⟩

/-! ### Overloads -/

instance (ps : List Parameter) : Decidable (ParametersApart ps) :=
  inferInstanceAs (Decidable (List.Nodup _))

theorem language_parametersApart : (Registry.language.all fun f => f.overloads.all fun o =>
    decide (ParametersApart o.parameters)) = true := by decide +kernel

/-- No overload has two parameters of one name. -/
theorem parametersApart {r : Registry} (hr : r.Within) {c : NodeClass} {e : Registry.Entry}
    (he : e ∈ r.producing (.cls c)) : ParametersApart e.overload.parameters := by
  obtain ⟨f, hf, ho⟩ := hr.entries e (List.mem_filter.mp he).1
  exact of_decide_eq_true (List.all_eq_true.mp (List.all_eq_true.mp language_parametersApart f hf) _ ho)

/-! ### Modifiers -/

/-- Modifiers are those of the properties, in order. -/
theorem modifiers_eq_map {c : NodeClass} {qs : List Quoted} {ms : List Modifier}
    (h : modifiers c qs = .ok ms) : ms = qs.map Quoted.modifier := by
  induction qs generalizing ms with
  | nil =>
    cases h
    rfl
  | cons q qs ih =>
    rw [modifiers] at h
    split at h
    · cases h
    · obtain ⟨rest, hrest, h⟩ := Evaluate.bind_eq_ok.mp h
      cases h
      rw [ih hrest]
      rfl

/-! ### Properties -/

section Properties

variable (r : Registry) (o : Options)

/-- The property with the call for its value, unless it is absent; the kind is none. -/
def property? (f : Field) (v : Value) : Option Quoted :=
  if f.name = Text.of "kind" then none
  else (quoteValue r o f.shape.elementName v).toOption.join.map (.mk f.name)

/-- The properties of a node that are present, and its kind where some factory takes it. -/
def properties (c : NodeClass) (vs : List Value) : List Quoted :=
  kindValue r c (Value.kindOf c vs) ++ (c.fields.zip vs).filterMap fun x => property? r o x.1 x.2

/-- Every property can be quoted. -/
def Quotes (fs : List Field) (vs : List Value) : Prop :=
  ∀ x ∈ fs.zip vs, x.1.name ≠ Text.of "kind" → ∃ q, quoteValue r o x.1.shape.elementName x.2 = .ok q

variable {r o}

theorem quoteFields_eq {fs : List Field} {vs : List Value} {qs : List Quoted}
    (h : quoteFields r o fs vs = .ok qs) :
    Quotes r o fs vs ∧ (fs.zip vs).filterMap (fun x => property? r o x.1 x.2) = qs := by
  induction fs generalizing vs qs with
  | nil =>
    rw [quoteFields] at h
    · cases h
      exact ⟨List.forall_mem_nil _, rfl⟩
    · intro _ _ _ _ h
      cases h
  | cons f fs ih =>
    cases vs with
    | nil =>
      rw [quoteFields] at h
      · cases h
        exact ⟨List.forall_mem_nil _, rfl⟩
      · intro _ _ _ _ _ h
        cases h
    | cons v vs =>
      rw [quoteFields] at h
      rw [Quotes, List.zip_cons_cons, List.forall_mem_cons, List.filterMap_cons]
      split at h
      · next hname =>
        obtain ⟨hquotes, hqs⟩ := ih h
        exact ⟨⟨absurd hname, hquotes⟩, by rw [property?, if_pos hname, hqs]⟩
      · next hname =>
        obtain ⟨call, hcall, h⟩ := Evaluate.bind_eq_ok.mp h
        rw [property?, if_neg hname, hcall]
        cases call with
        | none =>
          obtain ⟨hquotes, hqs⟩ := ih h
          exact ⟨⟨fun _ => ⟨none, rfl⟩, hquotes⟩, hqs⟩
        | some call =>
          obtain ⟨rest, hrest, h⟩ := Evaluate.bind_eq_ok.mp h
          cases h
          obtain ⟨hquotes, hqs⟩ := ih hrest
          exact ⟨⟨fun _ => ⟨some call, rfl⟩, hquotes⟩, by rw [← hqs]; rfl⟩

/-- No other property is called like the kind. -/
theorem kind_apart : ((.pair :: NodeClass.all).all fun c => c.fields.all fun f =>
    decide (f.name = Text.of "kind") || decide (Text.lower f.name ≠ Text.lower (Text.of "kind")))
      = true := by
  simp only [NodeClass.fields_eq]
  decide +kernel

theorem name_of_property? {f : Field} {v : Value} {q : Quoted} (h : property? r o f v = some q) :
    q.name = f.name ∧ f.name ≠ Text.of "kind" := by
  rw [property?] at h
  split at h
  · cases h
  · next hname =>
    obtain ⟨call, -, rfl⟩ := Option.map_eq_some_iff.mp h
    exact ⟨rfl, hname⟩

/-- The properties are called like their fields, in order. -/
theorem names_sublist (fs : List Field) (vs : List Value) :
    (((fs.zip vs).filterMap fun x => property? r o x.1 x.2).map fun q => Text.lower q.name).Sublist
      (fs.map fun f => Text.lower f.name) := by
  induction fs generalizing vs with
  | nil => exact .slnil
  | cons f fs ih =>
    cases vs with
    | nil => exact List.nil_sublist _
    | cons v vs =>
      rw [List.zip_cons_cons, List.filterMap_cons]
      cases h : property? r o f v with
      | none => exact (ih vs).cons _
      | some q =>
        simp only [List.map_cons, (name_of_property? h).1]
        exact (ih vs).cons_cons _

theorem namesApart_properties (c : NodeClass) (vs : List Value) :
    NamesApart (properties r o c vs) := by
  have hc := c.mem_pair_all
  have hfields : Apart c.fields := by
    rcases List.mem_cons.mp hc with rfl | hc
    · unfold Apart
      decide
    · exact apart_fields hc
  have hnodup := hfields.sublist (names_sublist (r := r) (o := o) c.fields vs)
  rw [properties, kindValue]
  split
  · refine List.nodup_cons.mpr ⟨?_, hnodup⟩
    intro hmem
    obtain ⟨q, hq, hlower⟩ := List.mem_map.mp hmem
    obtain ⟨x, hx, hproperty⟩ := List.mem_filterMap.mp hq
    obtain ⟨hname, hkind⟩ := name_of_property? hproperty
    have hapart := List.all_eq_true.mp (List.all_eq_true.mp kind_apart c hc) _ (List.of_mem_zip hx).1
    rw [Bool.or_eq_true, decide_eq_true_eq, decide_eq_true_eq] at hapart
    exact hapart.elim hkind fun h => h (hname ▸ hlower)
  · exact hnodup

end Properties

/-! ### Nodes -/

/-- The call binds the properties: the parameters of the selected overload have slots among them,
and those that are left over become modifiers. -/
structure Binds (r : Registry) (c : NodeClass) (k : Kind) (values : List Quoted) (q : Call)
    (e : Registry.Entry) (b : Bound) (slots : List Slot) : Prop where
  selected : ∃ d ds, r.producing (.cls c) = d :: ds ∧ select c k values d ds = e
  parameters : ParametersApart e.overload.parameters
  apart : NamesApart values
  bound : BoundBy (e.overload.parameters.length = 1) false e.overload.parameters values b slots
  call : q = .factory e.factory.name b.arguments b.keywords (b.left.map Quoted.modifier)

theorem quoteClass_binds {r : Registry} (hr : r.Within) {c : NodeClass} {k : Kind}
    {values : List Quoted} (hvalues : NamesApart values) {q : Call}
    (h : quoteClass r c k (.ok values) = .ok q) : ∃ e b slots, Binds r c k values q e b slots := by
  unfold quoteClass at h
  split at h
  · cases h
  · next d ds hproducing =>
    obtain ⟨_, hok, h⟩ := Evaluate.bind_eq_ok.mp h
    cases hok
    obtain ⟨ms, hms, h⟩ := Evaluate.bind_eq_ok.mp h
    cases h
    have hmem : select c k values d ds ∈ r.producing (.cls c) :=
      hproducing ▸ select_mem c k values d ds
    have hapart := parametersApart hr hmem
    obtain ⟨slots, hbound⟩ := bind_boundBy hapart hvalues fun hsole =>
      ⟨Nat.le_of_eq (of_decide_eq_true hsole), fun h => absurd h Bool.false_ne_true⟩
    exact ⟨_, _, slots, ⟨d, ds, hproducing, rfl⟩, hapart, hvalues, hbound,
      by rw [modifiers_eq_map hms]⟩

/-- Quoting a node neither loses nor duplicates a property.  With names taken out of the registry or
overloads listed anew, each property that is present is used once by the call for the node: a
parameter of the selected overload is given it, or it becomes a modifier. -/
theorem quoteNode_binds {change : Registry.Change} (hdeny : change.deny = Registry.delegating)
    (o : Options) {c : NodeClass} {vs : List Value} {q : Call}
    (h : quoteNode (.ofChange change) o (.node c vs) = .ok q) :
    Quotes (.ofChange change) o c.fields vs ∧
      ∃ e b slots, Binds (.ofChange change) c (Value.kindOf c vs)
        (properties (.ofChange change) o c vs) q e b slots := by
  rw [quoteNode, nodeCall] at h
  cases hfields : quoteFields (.ofChange change) o c.fields vs with
  | error e =>
    rw [hfields, quoteClass] at h
    split at h
    · cases h
    · obtain ⟨qs, hqs, -⟩ := Evaluate.bind_eq_ok.mp h
      cases hqs
  | ok qs =>
    obtain ⟨hquotes, hqs⟩ := quoteFields_eq hfields
    rw [hfields, ← hqs] at h
    exact ⟨hquotes, quoteClass_binds (Registry.within_ofChange hdeny)
      (namesApart_properties c vs) h⟩

/-- A registry without documentation, whose calls take their arguments as they are. -/
def relisted : Registry.Change where
  without := [Text.of "documentation_comment"]
  overloads := [(Text.of "invocation_expression", [1])]

/-- A call whose parenthesis is not closed. -/
theorem quoteNode_binds_relisted : relisted.deny = Registry.delegating
    ∧ ∃ p c vs q, parse? (Text.of "f(a") .expression none = some p ∧ p.root = .node c vs
      ∧ quoteNode (.ofChange relisted) {} (.node c vs) = .ok q
      ∧ Quotes (.ofChange relisted) {} c.fields vs
      ∧ ∃ e b slots, Binds (.ofChange relisted) c (Value.kindOf c vs)
        (properties (.ofChange relisted) {} c vs) q e b slots := by
  have hread : ((parse? (Text.of "f(a") .expression none).map fun p =>
      (p.root.isNodeOf (.cls .invocationExpression),
        (quoteNode (.ofChange relisted) {} p.root).toOption.isSome)) = some (true, true) := by
    decide +kernel
  obtain ⟨p, hp, hshape⟩ := Option.map_eq_some_iff.1 hread
  obtain ⟨hnode, hquoted⟩ := Prod.mk.inj hshape
  cases hroot : p.root with
  | node c vs =>
    rw [hroot] at hquoted
    cases hq : quoteNode (.ofChange relisted) {} (.node c vs) with
    | error e =>
      rw [hq] at hquoted
      cases hquoted
    | ok q => exact ⟨rfl, p, c, vs, q, hp, hroot, hq, quoteNode_binds rfl {} hq⟩
  | _ =>
    rw [hroot] at hnode
    cases hnode

end Quote

end TreeQuote
