/-
TreeQuote/Proofs/Quote/Selection.lean

Which overload a node is written with.  The properties of a node, their values and the calls
for them stand in rows (`Rows`): each value has its call, and only a value that stands for
absence has no call.  What a call has to do with its value is left open (`K`).

Selection sees the calls only through their names, through the question whether the name of the
node is a plain string, and through absence; so it finds the plan of the class.

Its parameters take the calls of the properties they carry, and the rest become modifiers.

Main statements: `Quote.select_plan`, `Quote.bind_routes` and `Quote.quoteClass_eq`.
-/
import TreeQuote.Proofs.Factory.Plan
import TreeQuote.Proofs.Quote.Token
import TreeQuote.Proofs.Tree.WellFormed

namespace TreeQuote

/-! ### Absence -/

/-- The value that stands for absence in a property of the shape. -/
def Shape.blank? : Shape → Option Value
  | .optional _ => some (.scalar .none)
  | .tokens => some (.tokens [])
  | .nodes _ => some (.nodes [])
  | .separated _ => some (.separated [])
  | .token => some (.token .absent)
  | _ => none

namespace Field

variable {c : NodeClass} {f : Field} {v w : Value}

theorem blank?_of_isBlank (hv : f.isBlank v = true) : f.shape.blank? = some v := by
  unfold isBlank at hv
  split at hv
  · split at hv
    · next hshape => rw [hshape]; rfl
    · cases hv
  · rw [of_decide_eq_true hv]
    rfl
  · split at hv
    · next hshape => rw [hshape]; rfl
    · cases hv
  · split at hv
    · next hshape => rw [hshape]; rfl
    · cases hv
  · rw [Bool.and_eq_true, decide_eq_true_eq, decide_eq_true_eq] at hv
    rw [hv.1, hv.2]
    rfl
  · cases hv

/-- A property has one value that stands for absence. -/
theorem isBlank_unique (hv : f.isBlank v = true) (hw : f.isBlank w = true) : v = w :=
  Option.some.inj ((blank?_of_isBlank hv).symm.trans (blank?_of_isBlank hw))

/-- Only a property that may be absent has a value that stands for absence. -/
theorem mayLack_of_isBlank (h : Fits c f v) (hv : f.isBlank v = true) : f.mayLack c = true := by
  rw [mayLack]
  unfold isBlank at hv
  split at hv
  · split at hv
    · next hs => simp [hs]
    · cases hv
  · simp only [decide_eq_true_eq] at hv
    simp [hv]
  · split at hv
    · next hs => simp [hs]
    · cases hv
  · split at hv
    · next hs => simp [hs]
    · cases hv
  · next t =>
    -- The absent token is no token of a well-formed tree.
    simp only [Bool.and_eq_true, decide_eq_true_eq] at hv
    obtain ⟨rfl, hs⟩ := hv
    rcases h with h | ⟨rfl, hname, -⟩
    · rw [hs] at h
      obtain ⟨t, ht, hwf⟩ := h
      cases ht
      exact (hwf.present rfl).elim
    · simp [hname]
  · cases hv

end Field

namespace Shape

theorem accept_optional (a : Shape) (v : Value) : (Shape.optional a).accept v = (do
    match ← a.accept v with
    | some w => return some w
    | none => when (match v with | .scalar .none => true | _ => false) v) := rfl

theorem accept_union (a b : Shape) (v : Value) : (Shape.union a b).accept v = (do
    match ← a.accept v with
    | some w => return some w
    | none => b.accept v) := rfl

/-- A shape takes the absent value as it is, or not at all. -/
theorem accept_none (s : Shape) :
    s.accept .none = .ok none ∨ s.accept .none = .ok (some .none) := by
  induction s with
  | any => exact .inr rfl
  | nothing => exact .inr rfl
  | «variable» t =>
    cases t with
    | none => exact .inr rfl
    | some t => exact .inl rfl
  | optional a ih =>
    right
    rcases ih with h | h <;> rw [accept_optional, h] <;> rfl
  | union a b iha ihb =>
    rcases iha with h | h
    · rw [accept_union, h]
      exact ihb
    · right
      rw [accept_union, h]
      rfl
  | _ => exact .inl rfl

/-- A shape takes what fits it. -/
theorem accept_of_fits {s : Shape} {v : Value} (h : s.Fits v) : s.accept v = .ok (some v) := by
  induction s with
  | text => obtain ⟨t, rfl, -⟩ := h; rfl
  | kind => obtain ⟨k, rfl⟩ := h; rfl
  | token => obtain ⟨t, rfl, -⟩ := h; rfl
  | tokens => obtain ⟨vs, rfl, -⟩ := h; rfl
  | node t =>
    have hv : v.isNodeOf t = true := h
    rw [accept, hv]
    rfl
  | nodes t =>
    cases t with
    | none => exact h.elim
    | some t => obtain ⟨vs, rfl, -⟩ := h; rfl
  | separated t =>
    cases t with
    | none => exact h.elim
    | some t => obtain ⟨vs, rfl, -⟩ := h; rfl
  | optional a ih =>
    rcases h with rfl | h
    · rcases accept_none a with ha | ha <;> rw [accept_optional, ha] <;> rfl
    · rw [accept_optional, ih h]
      rfl
  | _ => exact h.elim

end Shape

namespace Field

variable {c : NodeClass} {f : Field} {v : Value}

/-- Only a property for a token holds what does not fit its shape. -/
theorem Fits.shape (h : Fits c f v) (hf : f ∈ c.fields) (hs : f.shape ≠ .token) : f.shape.Fits v := by
  rcases h with h | ⟨rfl, hname, -⟩
  · exact h
  · have hshape : ∀ f ∈ NodeClass.structDeclaration.fields,
        f.name = Text.of "semicolon_token" → f.shape = .token := by decide
    exact (hs (hshape f hf hname)).elim

/-- A property for a token holds one. -/
theorem Fits.token (h : Fits c f v) (hs : f.shape = .token) : ∃ t, v = .token t := by
  rcases h with h | ⟨-, -, rfl⟩
  · rw [hs] at h
    obtain ⟨t, rfl, -⟩ := h
    exact ⟨t, rfl⟩
  · exact ⟨_, rfl⟩

/-- A property takes what fits it. -/
theorem accept_of_fits (hf : f ∈ c.fields) (h : Fits c f v) : f.shape.accept v = .ok (some v) := by
  by_cases hs : f.shape = .token
  · obtain ⟨t, rfl⟩ := h.token hs
    rw [hs]
    rfl
  · exact Shape.accept_of_fits (h.shape hf hs)

end Field

namespace Quote

open Evaluate

/-! ### Rows -/

/-- The call is one for the value of a property, in the sense of `K`.  A text is written as a plain
string, and the nodes of a list can be taken out of its call. -/
structure Writes (K : Value → Call → Prop) (f : Field) (v : Value) (q : Call) : Prop where
  sense : K v q
  text : f.shape = .text → (stringArgument? q).isSome = true
  items : (∃ vs, v = .nodes vs) → (listItems? q).isSome = true

/-- A property has its call, and only absence is left out. -/
inductive Conveys (K : Value → Call → Prop) (f : Field) (v : Value) : Option Call → Prop where
  | blank (h : f.isBlank v = true) : Conveys K f v none
  | written {q : Call} (h : Writes K f v q) : Conveys K f v (some q)

/-- Properties of a class with their values and the calls for them. -/
inductive Rows (K : Value → Call → Prop) (c : NodeClass) :
    List Field → List Value → List (Option Call) → Prop where
  | nil : Rows K c [] [] []
  | cons {f : Field} {v : Value} {q : Option Call} {fs : List Field} {vs : List Value}
      {qs : List (Option Call)} (hmem : f ∈ c.fields) (hfits : Field.Fits c f v)
      (hq : Conveys K f v q) (h : Rows K c fs vs qs) : Rows K c (f :: fs) (v :: vs) (q :: qs)

/-- The properties that are not left out. -/
def present : List Field → List (Option Call) → List Quoted
  | f :: fs, q :: qs => (q.map fun c => ⟨f.name, c⟩).toList ++ present fs qs
  | _, _ => []

/-- No two properties have the same name, letters in either case being equal. -/
def Apart (fs : List Field) : Prop := (fs.map fun f => Text.lower f.name).Nodup

/-- The properties `pool` have other names than `fs`. -/
def Clear (pool : List Quoted) (fs : List Field) : Prop :=
  ∀ q ∈ pool, ∀ f ∈ fs, Text.lower q.name ≠ Text.lower f.name

section Names

variable {f : Field} {fs : List Field} {q : Option Call} {qs : List (Option Call)}
  {pool : List Quoted} {name : Text}

theorem Apart.tail (h : Apart (f :: fs)) : Apart fs := (List.nodup_cons.mp h).2

theorem Apart.head (h : Apart (f :: fs)) : ∀ g ∈ fs, Text.lower g.name ≠ Text.lower f.name := by
  intro g hg he
  exact (List.nodup_cons.mp h).1 (List.mem_map.mpr ⟨g, hg, he⟩)

theorem Clear.tail (h : Clear pool (f :: fs)) : Clear pool fs :=
  fun q hq g hg => h q hq g (List.mem_cons_of_mem f hg)

theorem name_of_mem_present {d : Quoted} (h : d ∈ present fs qs) : ∃ f ∈ fs, d.name = f.name := by
  induction fs generalizing qs with
  | nil => cases h
  | cons f fs ih =>
    cases qs with
    | nil => cases h
    | cons q qs =>
      rcases List.mem_append.mp h with h | h
      · cases q with
        | none => cases h
        | some c =>
          rw [Option.map_some, Option.toList_some, List.mem_singleton] at h
          exact ⟨f, List.mem_cons_self, by rw [h]⟩
      · obtain ⟨g, hg, hname⟩ := ih h
        exact ⟨g, List.mem_cons_of_mem f hg, hname⟩

/-- Leaving a property behind keeps the names apart. -/
theorem Clear.leave (h : Clear pool (f :: fs)) (hf : Apart (f :: fs)) (q : Option Call) :
    Clear (pool ++ present [f] [q]) fs := by
  intro d hd g hg
  rcases List.mem_append.mp hd with hd | hd
  · exact h d hd g (List.mem_cons_of_mem f hg)
  · obtain ⟨e, he, hname⟩ := name_of_mem_present hd
    rw [List.mem_singleton] at he
    rw [hname, he]
    exact (hf.head g hg).symm

theorem present_cons : present (f :: fs) (q :: qs) = present [f] [q] ++ present fs qs := by
  simp [present]

theorem lookup_append {more : List Quoted} (h : ∀ q ∈ pool, Text.lower q.name ≠ Text.lower name) :
    lookup name (pool ++ more) = lookup name more := by
  have hnone : pool.find? (fun q => Text.lower q.name = Text.lower name) = none := by
    rw [List.find?_eq_none]
    simpa using h
  rw [lookup, lookup, List.find?_append, hnone, Option.none_or]

theorem lookup_eq_none (h : ∀ q ∈ pool, Text.lower q.name ≠ Text.lower name) :
    lookup name pool = none := by
  rw [← List.append_nil pool, lookup_append h]
  rfl

theorem erase_append (more : List Quoted) :
    erase name (pool ++ more) = erase name pool ++ erase name more := List.filter_append ..

theorem erase_eq_self (h : ∀ q ∈ pool, Text.lower q.name ≠ Text.lower name) :
    erase name pool = pool := by
  rw [erase, List.filter_eq_self]
  simpa using h

/-- The names of the properties behind the first are not its name. -/
theorem present_ne (hf : Apart (f :: fs)) :
    ∀ d ∈ present fs qs, Text.lower d.name ≠ Text.lower f.name := by
  intro d hd
  obtain ⟨g, hg, hname⟩ := name_of_mem_present hd
  rw [hname]
  exact hf.head g hg

/-- The first property is found by its name. -/
theorem lookup_present (hpool : Clear pool (f :: fs)) (hf : Apart (f :: fs)) :
    lookup f.name (pool ++ present (f :: fs) (q :: qs)) = q := by
  rw [lookup_append fun d hd => hpool d hd f List.mem_cons_self, present_cons]
  cases q with
  | none => exact lookup_eq_none (present_ne hf)
  | some c => simp [present, lookup]

/-- A property behind the first is found without it. -/
theorem lookup_present_tail {g : Field} (hg : g ∈ fs) (hf : Apart (f :: fs)) :
    lookup g.name (pool ++ present (f :: fs) (q :: qs)) = lookup g.name (pool ++ present fs qs) := by
  have hne : ∀ d ∈ present [f] [q], Text.lower d.name ≠ Text.lower g.name := by
    intro d hd
    obtain ⟨e, he, hname⟩ := name_of_mem_present hd
    rw [List.mem_singleton] at he
    rw [hname, he]
    exact (hf.head g hg).symm
  have hnone : (present [f] [q]).find? (fun d => Text.lower d.name = Text.lower g.name) = none := by
    rw [List.find?_eq_none]
    simpa using hne
  rw [lookup, lookup, present_cons, List.find?_append, List.find?_append, List.find?_append, hnone,
    Option.none_or]

/-- The first property is taken out by its name. -/
theorem erase_present (hpool : Clear pool (f :: fs)) (hf : Apart (f :: fs)) :
    erase f.name (pool ++ present (f :: fs) (q :: qs)) = pool ++ present fs qs := by
  have hfirst : erase f.name (present [f] [q]) = [] := by
    cases q <;> simp [present, erase]
  rw [erase_append, erase_eq_self fun d hd => hpool d hd f List.mem_cons_self, present_cons,
    erase_append, hfirst, List.nil_append, erase_eq_self (present_ne hf)]

end Names

/-! ### Absence in rows -/

variable {K : Value → Call → Prop}

theorem Conveys.writes {f : Field} {v : Value} {q : Call} (h : Conveys K f v (some q)) :
    Writes K f v q := by
  cases h with
  | written h => exact h

/-- A property without a call has a parameter that may be left out. -/
theorem Conveys.left_out {c : NodeClass} {f : Field} {v : Value} {p : Parameter} {part : Part}
    {j : Nat} (h : Conveys K f v none) (hfits : Field.Fits c f v)
    (hcarries : Part.Carries c p f j part) : p.isOptional = true ∨ p.isVariadic = true := by
  cases h with
  | blank hblank => exact hcarries.optional_of_mayLack (Field.mayLack_of_isBlank hfits hblank)

/-- The properties that an overload requires are not left out. -/
theorem lookup_isSome {c : NodeClass} {j : Nat} {ps : List Parameter} {fs : List Field}
    {parts : List Part} (hroutes : Routes c j ps fs parts) {vs : List Value}
    {qs : List (Option Call)} (hrows : Rows K c fs vs qs) (hf : Apart fs) {pool : List Quoted}
    (hpool : Clear pool fs) : ∀ p ∈ ps, p.isOptional = false → p.isVariadic = false
      → (lookup p.name (pool ++ present fs qs)).isSome = true := by
  induction hroutes generalizing vs qs pool with
  | nil => simp
  | leave _ _ _ ih =>
    cases hrows with
    | @cons _ _ q _ _ _ _ _ _ hrows =>
      intro p hp ho hv
      have := ih hrows hf.tail (hpool.leave hf q) p hp ho hv
      rwa [List.append_assoc, ← present_cons] at this
  | @carry j p ps f fs part parts _ hname hcarries _ hroutes ih =>
    cases hrows with
    | @cons _ v q _ _ qs _ hfits hq hrows =>
      intro p' hp' ho hv
      rcases List.mem_cons.mp hp' with rfl | hp'
      · rw [hname, lookup_present hpool hf]
        cases q with
        | some c => rfl
        | none => rcases hq.left_out hfits hcarries with h | h <;> simp_all
      · obtain ⟨g, hg, hgname⟩ := hroutes.names p' hp'
        have := ih hrows hf.tail hpool.tail p' hp' ho hv
        rwa [hgname, ← lookup_present_tail hg hf, ← hgname] at this

/-! ### Selection -/

section Select

variable {Q : Registry.Entry → Bool} {e : Registry.Entry} {es : List Registry.Entry}

theorem preferring_eq_filter (he : e ∈ es) (hQ : Q e = true) : preferring Q es = es.filter Q := by
  rw [preferring]
  cases h : es.filter Q with
  | nil => exact absurd hQ (List.filter_eq_nil_iff.mp h e he)
  | cons d ds => rfl

theorem preferring_eq_self (h : ∀ e ∈ es, Q e = false) : preferring Q es = es := by
  rw [preferring, List.filter_eq_nil_iff.mpr fun e he => by simp [h e he]]

theorem best_eq_self (h : ∀ d ∈ es, precedes (rank d) (rank e) = false) : best e es = e := by
  induction es with
  | nil => rfl
  | cons d ds ih =>
    rw [best, h d List.mem_cons_self]
    exact ih fun d hd => h d (List.mem_cons_of_mem _ hd)

variable {c : NodeClass} {k : Kind} {values : List Quoted} {p : Plan} {named needy : Bool}

theorem stringsFit_eq (hhome : Home c p.factory)
    (hnamed : ((lookup c.label values).bind stringArgument?).isSome = named) {d : Overload}
    (hd : d ∈ p.factory.overloads) : stringsFit values ⟨p.factory, d⟩ = Plan.fits named d := by
  rw [stringsFit, Plan.fits, Bool.eq_iff_iff, List.all_eq_true, List.all_eq_true]
  refine forall₂_congr fun q hq => ?_
  by_cases htext : q.shape = .text
  · rw [hhome.label d hd q hq htext, hnamed]
  · simp [htext]

/-- Without plain strings no overload starts with one. -/
theorem startsWithText_of_fits {d : Overload} (h : Plan.fits false d = true) :
    Plan.startsWithText d = false := by
  rw [Plan.startsWithText]
  split
  · next q qs heq =>
    have := List.all_eq_true.mp h q (heq ▸ List.mem_cons_self)
    simpa using this
  · rfl

/-- The overloads that pass the three tests of selection are those that can be used. -/
theorem sized_eq (hhome : Home c p.factory) (hsound : p.Sound c) (hchosen : p.Chosen c named needy)
    (hnamed : ((lookup c.label values).bind stringArgument?).isSome = named)
    (hneedy : needsToken c k = needy) (hes : e :: es = p.factory.overloads.map (⟨p.factory, ·⟩)) :
    (let fitting := preferring (stringsFit values) (e :: es)
     let named := if prefersString c then preferring startsWithString fitting else fitting
     if needsToken c k then preferring (fun d => d.overload.parameters.length = 2) named else named)
      = (e :: es).filter fun d => Plan.admits c named needy d.overload := by
  have hmem : (⟨p.factory, p.overload⟩ : Registry.Entry) ∈ e :: es := by
    rw [hes]
    refine List.mem_map_of_mem ?_
    rw [hsound.overloads]
    simp
  have hadmits := hchosen.overload
  simp only [Plan.admits, Bool.and_eq_true] at hadmits
  obtain ⟨⟨hfits, hstart⟩, hsize⟩ := hadmits
  have hfit : ∀ d ∈ e :: es, stringsFit values d = Plan.fits named d.overload := by
    intro d hd
    rw [hes] at hd
    obtain ⟨d, hmem, rfl⟩ := List.mem_map.mp hd
    exact stringsFit_eq hhome hnamed hmem
  have hfitting : preferring (stringsFit values) (e :: es)
      = (e :: es).filter fun d => Plan.fits named d.overload := by
    rw [preferring_eq_filter hmem ((hfit _ hmem).trans hfits)]
    exact List.filter_congr hfit
  have hstarting : (if prefersString c then preferring startsWithString
        ((e :: es).filter fun d => Plan.fits named d.overload)
      else (e :: es).filter fun d => Plan.fits named d.overload)
      = (e :: es).filter fun d => Plan.fits named d.overload
        && (!(prefersString c && named) || Plan.startsWithText d.overload) := by
    cases hprefers : prefersString c with
    | false => simp
    | true =>
      cases named with
      | false =>
        rw [if_pos rfl, preferring_eq_self]
        · simp
        · intro d hd
          exact startsWithText_of_fits (List.mem_filter.mp hd).2
      | true =>
        rw [hprefers] at hstart
        rw [if_pos rfl, preferring_eq_filter (List.mem_filter.mpr ⟨hmem, hfits⟩)
          (show Plan.startsWithText p.overload = true by simpa using hstart), List.filter_filter]
        refine List.filter_congr fun d _ => ?_
        simp only [Bool.and_self, Bool.not_true, Bool.false_or]
        rw [Bool.and_comm]
        rfl
  simp only [hfitting, hstarting, hneedy]
  cases needy with
  | false => simp [Plan.admits]
  | true =>
    rw [if_pos rfl, preferring_eq_filter (List.mem_filter.mpr ⟨hmem, by rw [hfits, hstart]; rfl⟩)
      (by simpa using hsize), List.filter_filter]
    refine List.filter_congr fun d _ => ?_
    rw [Plan.admits, Bool.and_comm]
    simp

/-- Selection finds the plan of the class. -/
theorem select_plan (hhome : Home c p.factory) (hsound : p.Sound c)
    (hchosen : p.Chosen c named needy)
    (hnamed : ((lookup c.label values).bind stringArgument?).isSome = named)
    (hneedy : needsToken c k = needy)
    (hlacks : lacksNode values ⟨p.factory, p.overload⟩ = false)
    (hes : e :: es = p.factory.overloads.map (⟨p.factory, ·⟩)) :
    select c k values e es = ⟨p.factory, p.overload⟩ := by
  have hsized := sized_eq hhome hsound hchosen hnamed hneedy hes
  have hsplit := hes
  rw [hsound.overloads, List.map_append, List.map_cons] at hsplit
  have hbefore : (p.before.map fun d => (⟨p.factory, d⟩ : Registry.Entry)).filter
      (fun d => Plan.admits c named needy d.overload) = [] := by
    rw [List.filter_eq_nil_iff]
    intro d hd
    obtain ⟨d, hmem, rfl⟩ := List.mem_map.mp hd
    simp [hchosen.before d hmem]
  rw [hsplit, List.filter_append, hbefore, List.nil_append,
    List.filter_cons_of_pos (by exact hchosen.overload)] at hsized
  cases es with
  | nil =>
    rw [select, List.isEmpty_nil, if_pos rfl]
    have hbefore : p.before = [] := by
      have hlength := congrArg List.length hsplit
      simp only [List.length_cons, List.length_nil, List.length_append, List.length_map] at hlength
      exact List.length_eq_zero_iff.mp (by omega)
    rw [hbefore, List.map_nil, List.nil_append] at hsplit
    exact (List.cons.inj hsplit).1
  | cons d ds =>
    rw [select, if_neg (by simp)]
    simp only [hsplit] at hsized ⊢
    rw [hsized]
    rw [preferring_eq_filter List.mem_cons_self (by simp [hlacks]),
      List.filter_cons_of_pos (by simp [hlacks])]
    refine best_eq_self fun d hd => ?_
    obtain ⟨d, hmem, rfl⟩ := List.mem_map.mp (List.mem_of_mem_filter (List.mem_of_mem_filter hd))
    exact hchosen.after d hmem

end Select

section Assemble

variable {c : NodeClass} {j : Nat} {ps : List Parameter} {fs : List Field} {parts : List Part}
  {vs : List Value} {qs : List (Option Call)}

/-! ### Binding -/

/-- What is written for a parameter. -/
def written (p : Parameter) : Option Call → List Call
  | none => []
  | some q =>
    if p.isVariadic then (listItems? q).getD []
    else [if p.shape = .text then (stringArgument? q).getD q else q]

/-- The arguments of a call. -/
def arguments (c : NodeClass) :
    List Parameter → List Field → List Part → List (Option Call) → List Call
  | ps, f :: fs, part :: parts, q :: qs =>
    if part.leaves c f then arguments c ps fs parts qs
    else match ps with
      | p :: ps => written p q ++ arguments c ps fs parts qs
      | [] => []
  | _, _, _, _ => []

/-- The properties that no parameter takes. -/
def leftOver (c : NodeClass) : List Field → List Part → List (Option Call) → List Quoted
  | f :: fs, part :: parts, q :: qs =>
    (if part.leaves c f then present [f] [q] else []) ++ leftOver c fs parts qs
  | _, _, _ => []

theorem arguments_leave {f : Field} {part : Part} {q : Option Call}
    (h : part.leaves c f = true) :
    arguments c ps (f :: fs) (part :: parts) (q :: qs) = arguments c ps fs parts qs := by
  cases ps <;> simp [arguments, h]

theorem arguments_carry {p : Parameter} {f : Field} {part : Part} {q : Option Call}
    (h : part.leaves c f = false) :
    arguments c (p :: ps) (f :: fs) (part :: parts) (q :: qs)
      = written p q ++ arguments c ps fs parts qs := by
  simp [arguments, h]

section Step

variable {p : Parameter} {pool : List Quoted} {q : Call} {sole byKeyword : Bool}

/-- The last parameter is left out with its property. -/
theorem bind_absent (hq : lookup p.name pool = none)
    (hp : p.isOptional = true ∨ p.isVariadic = true) :
    bind sole byKeyword [p] pool = ⟨[], [], pool⟩ := by
  rw [bind, hq]
  cases hv : p.isVariadic with
  | true => rfl
  | false =>
    rw [hv] at hp
    simp only [Bool.false_eq_true, or_false] at hp
    simp [hp, bind]

/-- The only parameter takes the nodes of a list. -/
theorem bind_variadic (hq : lookup p.name pool = some q) (hp : p.isVariadic = true)
    {items : List Call} (hitems : listItems? q = some items) :
    bind true byKeyword [p] pool = ⟨items, [], erase p.name pool⟩ := by
  simp [bind, hq, hp, hitems]

/-- A parameter takes its property. -/
theorem bind_plain (hq : lookup p.name pool = some q) (hp : p.isVariadic = false) {b : Bound}
    (hb : bind sole false ps (erase p.name pool) = b) : bind sole false (p :: ps) pool
      = { b with arguments := written p (some q) ++ b.arguments } := by
  simp only [bind, hq, hp, hb, written, Bool.false_eq_true, if_false]
  rfl

end Step

/-- The parameters take the calls of the properties that they carry. -/
theorem bind_routes (hroutes : Routes c j ps fs parts) (hrows : Rows K c fs vs qs) (hf : Apart fs)
    {pool : List Quoted} (hpool : Clear pool fs) {sole : Bool}
    (hsole : j = 0 → sole = decide (ps.length = 1)) :
    bind sole false ps (pool ++ present fs qs)
      = ⟨arguments c ps fs parts qs, [], pool ++ leftOver c fs parts qs⟩ := by
  induction hroutes generalizing vs qs pool with
  | nil =>
    cases hrows
    rfl
  | @leave j ps f fs part parts hleaves _ _ ih =>
    cases hrows with
    | @cons _ _ q _ _ qs _ _ _ hrows =>
      have := ih hrows hf.tail (hpool.leave hf q) hsole
      rw [List.append_assoc, ← present_cons] at this
      rw [this, arguments_leave hleaves, leftOver, if_pos hleaves, List.append_assoc]
  | @carry j p ps f fs part parts hleaves hname hcarries hlast _ ih =>
    cases hrows with
    | @cons _ v q _ _ qs hmem hfits hq hrows =>
      have hrest := ih hrows hf.tail hpool.tail nofun
      have hlookup : lookup p.name (pool ++ present (f :: fs) (q :: qs)) = q := by
        rw [hname, lookup_present hpool hf]
      have herase : erase p.name (pool ++ present (f :: fs) (q :: qs)) = pool ++ present fs qs := by
        rw [hname, erase_present hpool hf]
      rw [arguments_carry hleaves, leftOver, hleaves, if_neg Bool.false_ne_true, List.nil_append]
      cases q with
      | none =>
        -- Only the last parameter can be left out.
        have hp := hq.left_out hfits hcarries
        obtain rfl := hlast hp
        rw [bind_absent hlookup hp, written, List.nil_append]
        exact hrest
      | some q =>
        cases hv : p.isVariadic with
        | false => rw [bind_plain hlookup hv (herase ▸ hrest)]
        | true =>
          obtain rfl := hlast (.inr hv)
          cases hcarries with
          | members _ hfirst _ hfield =>
            have hnodes := hfits.shape hmem (by rw [hfield]; nofun)
            rw [hfield] at hnodes
            obtain ⟨ws, rfl, -⟩ := hnodes
            obtain ⟨items, hitems⟩ := Option.isSome_iff_exists.mp (hq.writes.items ⟨ws, rfl⟩)
            rw [hsole hfirst]
            show bind true false [p] _ = _
            rw [bind_variadic hlookup hv hitems, herase, Quote.written, if_pos hv, hitems,
              Option.getD_some]
            rw [bind] at hrest
            obtain ⟨hargs, -, hleft⟩ := Bound.mk.inj hrest
            rw [← hargs, ← hleft, List.append_nil]
          | argument h => rw [hv] at h; cases h
          | argumentOr h => rw [hv] at h; cases h
          | identifier h => rw [hv] at h; cases h
          | identifierName h => rw [hv] at h; cases h

/-! ### Modifiers -/

theorem apart_fields (hc : c ∈ NodeClass.all) : Apart c.fields := by
  have h := List.all_eq_true.mp NodeClass.isTidy_all c hc
  simp only [NodeClass.isTidy, Bool.and_eq_true, decide_eq_true_eq] at h
  exact h.1.1

/-- The modifier that replaces a property. -/
def Quoted.modifier (q : Quoted) : Modifier := .mk (Text.of "with_" ++ q.name) [q.call]

theorem isModifiable_field (hc : c ∈ NodeClass.all) {f : Field} (hf : f ∈ c.fields)
    (hkind : f.name ≠ Text.of "kind") : c.isModifiable f.name = true := by
  have hpair : c ≠ .pair := by
    rintro rfl
    revert hc
    decide
  simp only [NodeClass.isModifiable, NodeClass.hasModifiers, Bool.and_eq_true, decide_eq_true_eq,
    List.any_eq_true]
  exact ⟨⟨hpair, hkind⟩, f, hf, rfl⟩

theorem modifiers_eq (hc : c ∈ NodeClass.all) (hroutes : Routes c j ps fs parts)
    (hfields : ∀ f ∈ fs, f ∈ c.fields) (qs : List (Option Call)) :
    modifiers c (leftOver c fs parts qs)
      = .ok ((leftOver c fs parts qs).map Quoted.modifier) := by
  induction hroutes generalizing qs with
  | nil => rfl
  | @leave _ _ f fs part parts hleaves hkind _ ih =>
    have hrest := ih fun g hg => hfields g (List.mem_cons_of_mem f hg)
    have hmodifiable := isModifiable_field hc (hfields f List.mem_cons_self) hkind
    match qs with
    | [] => rfl
    | none :: qs =>
      rw [leftOver, if_pos hleaves]
      exact hrest qs
    | some q :: qs =>
      rw [leftOver, if_pos hleaves]
      show modifiers c (⟨f.name, q⟩ :: leftOver c fs parts qs) = _
      rw [modifiers, hmodifiable]
      simp only [Bool.not_true, Bool.false_eq_true, if_false, hrest qs]
      rfl
  | @carry _ _ _ f _ _ _ hleaves _ _ _ _ ih =>
    cases qs with
    | nil => rfl
    | cons q qs =>
      rw [leftOver, hleaves, if_neg Bool.false_ne_true, List.nil_append]
      exact ih (fun g hg => hfields g (List.mem_cons_of_mem f hg)) qs

/-! ### Calls -/

/-- The call of a plan. -/
def planCall (c : NodeClass) (p : Plan) (qs : List (Option Call)) : Call :=
  .factory p.factory.name (arguments c p.overload.parameters c.fields p.overload.recipe.parts qs) []
    ((leftOver c c.fields p.overload.recipe.parts qs).map Quoted.modifier)

/-- The plan can be used for a node of the given kind, with the given calls. -/
structure Suits (c : NodeClass) (k : Kind) (qs : List (Option Call)) (p : Plan) : Prop where
  sound : p.Sound c
  /-- What is written as a plain string can be. -/
  text : ∀ q ∈ p.overload.parameters, q.shape = .text
    → ((lookup q.name (present c.fields qs)).bind stringArgument?).isSome = true
  /-- Only a keyword is written without its token. -/
  keyword : p.overload.recipe = .keywordLiteral
    → k = .trueLiteralExpression ∨ k = .falseLiteralExpression

/-- The two questions that selection asks have one of the answers that there are plans for. -/
theorem mem_cases (hc : c ∈ NodeClass.all) (hrows : Rows K c c.fields vs qs) (k : Kind) :
    (((lookup c.label (present c.fields qs)).bind stringArgument?).isSome, needsToken c k)
      ∈ Plan.cases c := by
  have hneedy : c ≠ .literalExpression → needsToken c k = false := by
    intro hne
    simp [needsToken, hne]
  have hlabel := List.all_eq_true.mp NodeClass.label_all c hc
  simp only [Bool.or_eq_true, decide_eq_true_eq, List.all_eq_true] at hlabel
  have hunnamed : (∀ f ∈ c.fields, Text.lower f.name ≠ Text.lower c.label)
      → ((lookup c.label (present c.fields qs)).bind stringArgument?).isSome = false := by
    intro hne
    rw [lookup_eq_none]
    · rfl
    · intro d hd
      obtain ⟨f, hf, hname⟩ := name_of_mem_present hd
      rw [hname]
      exact hne f hf
  by_cases hliteral : c = .literalExpression
  · subst hliteral
    rw [hunnamed (by decide)]
    cases needsToken .literalExpression k <;> decide
  · rw [hneedy hliteral]
    by_cases hdoc : c = .documentationComment
    · subst hdoc
      have hnamed : ((lookup NodeClass.documentationComment.label
          (present NodeClass.documentationComment.fields qs)).bind stringArgument?).isSome = true := by
        cases hrows with
        | cons hmem hfits hq hrows =>
          cases hq with
          | blank hblank => exact absurd (Field.mayLack_of_isBlank hfits hblank) (by decide)
          | written hw => exact hw.text rfl
      rw [hnamed]
      decide
    · rw [Plan.cases, if_neg hliteral, if_neg hdoc]
      rcases hlabel with (hprefers | h) | hne
      · rw [if_pos hprefers]
        cases ((lookup c.label (present c.fields qs)).bind stringArgument?).isSome <;> simp
      · exact absurd h hdoc
      · rw [hunnamed hne]
        split <;> simp

/-- A node is written with a plan that can be used. -/
theorem quoteClass_eq (hc : c ∈ NodeClass.all) (hrows : Rows K c c.fields vs qs)
    (hkind : c.kind? = none → Kind.isIn c.kindTable (Value.kindOf c vs) = true) :
    ∃ p, Suits c (Value.kindOf c vs) qs p
      ∧ quoteClass .standard c (Value.kindOf c vs) (.ok (present c.fields qs))
        = .ok (planCall c p qs) := by
  obtain ⟨f, hf, hhome⟩ := Home.exists_home hc
  obtain ⟨p, rfl, hsound, hchosen⟩ := Plan.exists_sound hc hf
    (mem_cases hc hrows (Value.kindOf c vs))
  have hclear : Clear [] c.fields := nofun
  have hadmits := hchosen.overload
  simp only [Plan.admits, Bool.and_eq_true] at hadmits
  refine ⟨p, ⟨hsound, ?_, ?_⟩, ?_⟩
  · intro q hq htext
    have hmem : p.overload ∈ p.factory.overloads := by simp [hsound.overloads]
    have hfits := List.all_eq_true.mp hadmits.1.1 q hq
    rw [hhome.label _ hmem q hq htext]
    simpa [htext] using hfits
  · intro hrecipe
    have hneedy := hchosen.needy hrecipe
    rcases hsound.recipe with ⟨parts, hparts⟩ | ⟨rfl, -⟩
    · rw [hrecipe] at hparts
      cases hparts
    · simpa [needsToken, or_iff_not_imp_left] using hneedy
  · have hlacks : lacksNode (present c.fields qs) ⟨p.factory, p.overload⟩ = false := by
      rw [lacksNode, List.any_eq_false]
      intro q hq
      have hsome := lookup_isSome hsound.routes hrows (apart_fields hc) hclear q hq
      rw [List.nil_append] at hsome
      cases ho : q.isOptional <;> cases hv : q.isVariadic <;> simp
      simp [Option.isSome_iff_ne_none.mp (hsome ho hv)]
    rw [quoteClass, hhome.producing]
    cases hes : p.factory.overloads.map fun o => (⟨p.factory, o⟩ : Registry.Entry) with
    | nil => simp [hsound.overloads] at hes
    | cons e es =>
      have hselect := select_plan hhome hsound hchosen rfl rfl hlacks hes.symm
      have hbind := bind_routes hsound.routes hrows (apart_fields hc) hclear fun _ => rfl
      rw [List.nil_append, List.nil_append] at hbind
      show assemble c (Value.kindOf c vs) (present c.fields qs) e es = _
      rw [assemble, hselect]
      simp only [hbind, modifiers_eq hc hsound.routes (fun f hf => hf) qs]
      rfl

end Assemble

end Quote

end TreeQuote
