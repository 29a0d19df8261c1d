/-
TreeQuote/Proofs/Quote/Support.lean

Which trees a registry supports.  A registry may lack names and overloads of the catalogue; quoting
then fails at the first node, or documentation comment, whose class no overload is left for, and it
fails nowhere else.

Quoting asks for an overload before it looks at the properties, and at the properties in order.  So
the classes are listed in pre-order (`Value.classes`), and a computation is described by the classes
that it asks for (`Reports`): it fails with the first one that is lacking.

    Reports x cs → (∀ a, x = ok a → Reports (f a) ds) → Reports (x >>= f) (cs ++ ds)

What an overload leaves over becomes a modifier.  Every property has one but the kind; the overloads
of a class take the kind if it has several kinds, and only then.

Main statement: `Quote.quoteRoot_supported`.
-/
import TreeQuote.Proofs.Evaluate.Call
import TreeQuote.Proofs.Parse.Reading
import TreeQuote.Quote.Quoter

namespace TreeQuote

open Grammar

/-! ### The classes of a tree -/

/-- A documentation comment has a class of its own. -/
def Trivia.classes (t : Trivia) : List NodeClass :=
  if t.content.isSome then [.documentationComment] else []

/-- The classes of the documentation comments beside a token, leading ones first. -/
def Token.classes (t : Token) : List NodeClass :=
  if t.isAbsent then [] else (t.leading ++ t.trailing).flatMap Trivia.classes

namespace Value

mutual

/-- The classes of the nodes in a value and of the documentation comments beside its tokens, in
pre-order. -/
def classes : Value → List NodeClass
  | .node c vs => c :: classesList vs
  | .token t => t.classes
  | .framed t l r => (t.withTrivia l.asTriviaList r.asTriviaList).classes
  | .tokens vs => classesList vs
  | .nodes vs => classesList vs
  | .separated vs => classesList vs
  | _ => []

/-- The same for values one after the other. -/
def classesList : List Value → List NodeClass
  | [] => []
  | v :: vs => classes v ++ classesList vs

end

end Value

/-! ### Changed registries -/

namespace Registry

/-- A registry with overloads and constants of the standard one. -/
structure Within (r : Registry) : Prop where
  entries : ∀ e ∈ r.entries, ∃ f ∈ language, e.overload ∈ f.overloads
  constants : ∀ p ∈ r.constants, p ∈ Catalogue.constants

theorem Change.overloads_relist (c : Change) (f : Factory) :
    ∀ o ∈ (c.relist f).overloads, o ∈ f.overloads := by
  intro o ho
  unfold relist at ho
  split at ho
  · obtain ⟨i, -, hi⟩ := List.mem_filterMap.mp ho
    exact List.mem_of_getElem? hi
  · exact ho

/-- Taking names out and listing overloads anew adds nothing. -/
theorem within_ofChange {c : Change} (hdeny : c.deny = delegating) : (ofChange c).Within where
  entries e he := by
    obtain ⟨f, hf, he⟩ := List.mem_flatMap.mp he
    obtain ⟨o, ho, rfl⟩ := List.mem_map.mp he
    obtain ⟨g, hg, rfl⟩ := List.mem_map.mp (List.mem_filter.mp hf).1
    obtain ⟨hmem, hkeeps⟩ := List.mem_filter.mp hg
    refine ⟨g, ?_, c.overloads_relist g o ho⟩
    rcases List.mem_append.mp (show g ∈ language ++ Catalogue.delegatingFactories from hmem)
      with hg | hg
    · exact hg
    · rw [hdeny, Bool.and_eq_true, Bool.not_eq_true', ← Bool.not_eq_true,
        List.contains_iff_mem] at hkeeps
      exact absurd (List.mem_map_of_mem hg) hkeeps.2
  constants p hp := (List.mem_filter.mp hp).1

/-- The overload takes a kind that is one argument. -/
def Entry.takesOneKind (e : Entry) : Bool :=
  e.overload.parameters.any fun p => p.isNamed (Text.of "kind") && !p.isVariadic

/-- The overloads of a class with several kinds take the kind, and those of any other class do
not. -/
def Entry.kindFits (e : Entry) : Bool :=
  match e.overload.produces with
  | .node (.cls c) => if c.kindTable.isEmpty then !e.takesKind else e.takesOneKind
  | _ => true

theorem language_kinds :
    (language.all fun f => f.overloads.all fun o => Entry.kindFits ⟨f, o⟩) = true := by decide +kernel

variable {r : Registry} {c : NodeClass}

theorem Within.kindFits (hr : r.Within) {e : Entry} (he : e ∈ r.producing (.cls c)) :
    (if c.kindTable.isEmpty then !e.takesKind else e.takesOneKind) = true := by
  obtain ⟨hmem, hproduces⟩ := List.mem_filter.mp he
  obtain ⟨f, hf, ho⟩ := hr.entries e hmem
  have hfits := List.all_eq_true.mp (List.all_eq_true.mp language_kinds f hf) _ ho
  rwa [Entry.kindFits, of_decide_eq_true hproduces] at hfits

/-- If some overload of a class takes the kind, each of them does. -/
theorem Within.takesOneKind (hr : r.Within) (hkind : r.hasKindParameter (.cls c) = true) {e : Entry}
    (he : e ∈ r.producing (.cls c)) : e.takesOneKind = true := by
  obtain ⟨d, hd, hdkind⟩ := List.any_eq_true.mp hkind
  have hfitd := hr.kindFits hd
  have hfite := hr.kindFits he
  split at hfitd
  · rw [hdkind] at hfitd
    cases hfitd
  · next htable => rwa [if_neg htable] at hfite

end Registry

namespace Quote

/-! ### Overloads take what has no modifier -/

theorem mem_of_lookup_none {name : Text} {pool : List Quoted} (h : lookup name pool = none) :
    ∀ q ∈ pool, Text.lower q.name ≠ Text.lower name := by
  rw [lookup, Option.map_eq_none_iff, List.find?_eq_none] at h
  exact fun q hq => by simpa using h q hq

/-- What is left over was given, and no parameter for one argument has its name. -/
theorem left_bind {sole byKeyword : Bool} {ps : List Parameter} {pool : List Quoted} :
    ∀ q ∈ (bind sole byKeyword ps pool).left, q ∈ pool
      ∧ ∀ p ∈ ps, p.isVariadic = false → Text.lower q.name ≠ Text.lower p.name := by
  induction ps generalizing byKeyword pool with
  | nil => exact fun q hq => ⟨hq, List.forall_mem_nil _⟩
  | cons p ps ih =>
    have hadd : ∀ (b : Bool) (a : Call) (x : Bound), (x.add b p a).left = x.left := by
      intro b a x
      unfold Bound.add
      split <;> rfl
    intro q hq
    rw [bind] at hq
    split at hq
    · next hnone =>
      have hname := mem_of_lookup_none hnone
      have hrest : ∃ b, q ∈ (bind sole b ps pool).left := by
        split at hq
        · exact ⟨_, hq⟩
        split at hq
        · exact ⟨_, hq⟩
        · rw [hadd] at hq
          exact ⟨_, hq⟩
      obtain ⟨b, hq⟩ := hrest
      obtain ⟨hmem, hps⟩ := ih q hq
      exact ⟨hmem, List.forall_mem_cons.mpr ⟨fun _ => hname q hmem, hps⟩⟩
    · split at hq
      · next hvariadic =>
        have hrest : ∃ more, more ⊆ pool ∧ q ∈ (bind sole byKeyword ps more).left := by
          split at hq
          · split at hq
            · exact ⟨_, List.filter_subset_self _, hq⟩
            · exact ⟨_, List.Subset.refl _, hq⟩
          · exact ⟨_, List.Subset.refl _, hq⟩
        obtain ⟨more, hmore, hq⟩ := hrest
        obtain ⟨hmem, hps⟩ := ih q hq
        exact ⟨hmore hmem, List.forall_mem_cons.mpr
          ⟨fun h => absurd hvariadic (by rw [h]; exact Bool.false_ne_true), hps⟩⟩
      · rw [hadd] at hq
        obtain ⟨hmem, hps⟩ := ih q hq
        obtain ⟨hmem, hname⟩ := List.mem_filter.mp hmem
        exact ⟨hmem, List.forall_mem_cons.mpr ⟨fun _ => by simpa using hname, hps⟩⟩

theorem preferring_subset (Q : Registry.Entry → Bool) (es : List Registry.Entry) :
    preferring Q es ⊆ es := by
  unfold preferring
  split
  · exact List.Subset.refl _
  · exact List.filter_subset_self _

theorem best_mem (e : Registry.Entry) (es : List Registry.Entry) : best e es ∈ e :: es := by
  induction es generalizing e with
  | nil => exact List.mem_cons_self
  | cons d ds ih =>
    rw [best]
    rcases List.mem_cons.mp (ih (if precedes (rank d) (rank e) then d else e)) with h | h
    · rw [h]
      split
      · exact List.mem_cons_of_mem _ List.mem_cons_self
      · exact List.mem_cons_self
    · exact List.mem_cons_of_mem _ (List.mem_cons_of_mem _ h)

/-- One of the overloads is selected. -/
theorem select_mem (c : NodeClass) (k : Kind) (values : List Quoted) (e : Registry.Entry)
    (es : List Registry.Entry) : select c k values e es ∈ e :: es := by
  unfold select
  split
  · exact List.mem_cons_self
  · simp only
    have hsubset : ∀ {ds : List Registry.Entry} (b : Bool) (Q : Registry.Entry → Bool),
        ds ⊆ e :: es → (if b = true then preferring Q ds else ds) ⊆ e :: es := by
      intro ds b Q hds
      split
      · exact List.Subset.trans (preferring_subset Q ds) hds
      · exact hds
    split
    · exact List.mem_cons_self
    · next d ds heq =>
      have hmem := best_mem d ds
      rw [← heq] at hmem
      exact hsubset _ _ (hsubset _ _ (preferring_subset _ _)) (preferring_subset _ _ hmem)

theorem modifiers_eq_ok {c : NodeClass} {qs : List Quoted}
    (h : ∀ q ∈ qs, c.isModifiable q.name = true) : ∃ ms, modifiers c qs = .ok ms := by
  induction qs with
  | nil => exact ⟨[], rfl⟩
  | cons q qs ih =>
    obtain ⟨hq, hqs⟩ := List.forall_mem_cons.mp h
    obtain ⟨ms, hms⟩ := ih hqs
    refine ⟨.mk (Text.of "with_" ++ q.name) [q.call] :: ms, ?_⟩
    rw [modifiers, hq, hms]
    rfl

/-! ### Asking for classes -/

variable {r : Registry} {o : Options} {α β : Type}

/-- The registry has no overload for a class. -/
def lacks (r : Registry) (c : NodeClass) : Bool := (r.producing (.cls c)).isEmpty

/-- The computation asks for the classes in order: it fails with the first that is lacking, and
only with that. -/
def Reports (r : Registry) (x : Except Error α) (cs : List NodeClass) : Prop :=
  match cs.find? (lacks r) with
  | some c => x = .error (.unsupportedNode c.name)
  | none => ∃ a, x = .ok a

namespace Reports

theorem ok (a : α) : Reports r (.ok a) [] := ⟨a, rfl⟩

/-- One computation after the other asks for the classes of both. -/
theorem bind {x : Except Error α} {f : α → Except Error β} {cs ds : List NodeClass}
    (hx : Reports r x cs) (hf : ∀ a, x = .ok a → Reports r (f a) ds) :
    Reports r (x >>= f) (cs ++ ds) := by
  unfold Reports at hx ⊢
  rw [List.find?_append]
  cases hfind : cs.find? (lacks r) with
  | some c =>
    rw [hfind] at hx
    rw [hx]
    rfl
  | none =>
    rw [hfind] at hx
    obtain ⟨a, rfl⟩ := hx
    exact hf a rfl

theorem returning {x : Except Error α} {cs : List NodeClass} (f : α → β) (hx : Reports r x cs) :
    Reports r (do return f (← x)) cs := by
  have := hx.bind (f := fun a => pure (f a)) fun a _ => ok (f a)
  rwa [List.append_nil] at this

theorem map {x : Except Error α} {cs : List NodeClass} (f : α → β) (hx : Reports r x cs) :
    Reports r (x.map f) cs := by
  have hsame : x.map f = (do return f (← x)) := by cases x <;> rfl
  rw [hsame]
  exact hx.returning f

end Reports

/-- A class is asked for before its properties. -/
theorem quoteClass_reports {c : NodeClass} {k : Kind} {values : Except Error (List Quoted)}
    {cs : List NodeClass} (hr : r.Within) (hvalues : Reports r values cs)
    (hnames : ∀ qs, values = .ok qs → ∀ q ∈ qs, c.isModifiable q.name = true
      ∨ q.name = Text.of "kind" ∧ r.hasKindParameter (.cls c) = true) :
    Reports r (quoteClass r c k values) (c :: cs) := by
  unfold quoteClass
  cases hproducing : r.producing (.cls c) with
  | nil =>
    have hlacks : lacks r c = true := by rw [lacks, hproducing]; rfl
    rw [Reports, List.find?_cons_of_pos hlacks]
  | cons e es =>
    have hlacks : ¬lacks r c = true := by simp [lacks, hproducing]
    rw [Reports, List.find?_cons_of_neg hlacks]
    rw [← List.append_nil cs]
    refine hvalues.bind fun qs hqs => ?_
    obtain ⟨ms, hms⟩ : ∃ ms, modifiers c
        (Quote.bind ((select c k qs e es).overload.parameters.length = 1) false
          (select c k qs e es).overload.parameters qs).left = .ok ms := by
      refine modifiers_eq_ok fun q hq => ?_
      obtain ⟨hmem, hleft⟩ := left_bind q hq
      rcases hnames qs hqs q hmem with hmodifiable | ⟨hname, hkind⟩
      · exact hmodifiable
      · -- The kind cannot be left over: the overload takes it.
        have htakes := hr.takesOneKind hkind (e := select c k qs e es)
          (by rw [hproducing]; exact select_mem c k qs e es)
        obtain ⟨p, hp, hone⟩ := List.any_eq_true.mp htakes
        rw [Bool.and_eq_true, Bool.not_eq_true', Parameter.isNamed, decide_eq_true_eq] at hone
        exact absurd (by rw [hname, hone.1]) (hleft p hp hone.2)
    show ∃ q, assemble c k qs e es = .ok q
    rw [assemble]
    simp only [hms]
    exact ⟨_, rfl⟩

/-! ### Trivia and tokens -/

theorem quoteDocumentation_reports (hr : r.Within) (content : Text) :
    Reports r (quoteDocumentation r content) [.documentationComment] := by
  refine quoteClass_reports hr (.ok _) fun qs hqs => ?_
  cases hqs
  exact List.forall_mem_singleton.mpr (.inl rfl)

/-- The constants are no documentation comments. -/
theorem constants_plain : (Catalogue.constants.all fun p => p.2.content.isNone) = true := by
  decide +kernel

theorem quoteTrivia_reports (hr : r.Within) {t : Trivia} (ht : t.Built) :
    Reports r (quoteTrivia r o t) t.classes := by
  unfold quoteTrivia
  rw [if_neg (by rw [ht.flaw]; decide)]
  cases hcontent : t.content with
  | none =>
    have hclasses : t.classes = [] := by rw [Trivia.classes, hcontent]; rfl
    rw [hclasses]
    split
    · exact .ok _
    split
    · exact .ok _
    · cases ht with
      | documentation content => cases hcontent
      | _ => exact .ok _
  | some content =>
    have hclasses : t.classes = [.documentationComment] := by rw [Trivia.classes, hcontent]; rfl
    have hblank : t.isWhitespace = false := by
      cases ht <;> first | rfl | cases hcontent
    have hconstant : r.constantName? t = none := by
      rw [Registry.constantName?, Option.map_eq_none_iff, List.find?_eq_none]
      intro p hp heq
      have hplain := List.all_eq_true.mp constants_plain p (hr.constants p hp)
      rw [of_decide_eq_true heq, hcontent] at hplain
      cases hplain
    rw [if_neg (by simp [hblank]), hconstant, hclasses]
    exact (quoteDocumentation_reports hr content).returning _

theorem quoteEach_reports {f : α → Except Error (Option Call)} {g : α → List NodeClass}
    {as : List α} (h : ∀ a ∈ as, Reports r (f a) (g a)) : Reports r (quoteEach f as) (as.flatMap g) := by
  induction as with
  | nil => exact .ok _
  | cons a as ih =>
    obtain ⟨ha, has⟩ := List.forall_mem_cons.mp h
    rw [quoteEach, List.flatMap_cons]
    refine ha.bind fun c _ => ?_
    cases c with
    | none => exact ih has
    | some c => exact (ih has).returning _

theorem quoteTriviaList_reports (hr : r.Within) {ts : List Trivia} (hts : ∀ t ∈ ts, t.Built) :
    Reports r (quoteTriviaList r o ts) (ts.flatMap Trivia.classes) :=
  (quoteEach_reports fun t ht => quoteTrivia_reports hr (hts t ht)).returning _

/-- A token that the builders make, with an integer that has a decimal text if it has one. -/
structure Shown (t : Token) : Prop where
  built : t.Built
  leading : ∀ c ∈ t.leading, c.Built
  trailing : ∀ c ∈ t.trailing, c.Built
  value : ∀ n, t.value = .int n → n.natAbs < Integer.decimalBound

theorem ofScalar_eq_ok {s : Scalar} (h : ∀ n, s = .int n → n.natAbs < Integer.decimalBound) :
    ∃ q, Call.ofScalar s = .ok q := by
  cases s with
  | int n =>
    refine ⟨.literal (Text.decimalInt n), ?_⟩
    show (Call.scalarText (.int n)).map Call.literal = _
    rw [Call.scalarText, Integer.text?, if_pos (h n rfl)]
    rfl
  | float x =>
    rw [Call.ofScalar]
    split
    · exact ⟨_, rfl⟩
    · exact ⟨_, rfl⟩
  | _ => exact ⟨_, rfl⟩

theorem literalArguments_eq_ok {t : Token} (ht : Shown t) (hasTrivia : Bool) :
    ∃ args, literalArguments t hasTrivia = .ok args := by
  obtain ⟨q, hq⟩ := ofScalar_eq_ok ht.value
  have hrender : ∃ text, Literal.render? t.value = some text := by
    cases hvalue : t.value with
    | int n =>
      refine ⟨Text.decimalInt n, ?_⟩
      rw [Literal.render?, Integer.text?, if_pos (ht.value n hvalue)]
    | _ => exact ⟨_, rfl⟩
  obtain ⟨text, htext⟩ := hrender
  rw [literalArguments, quoteScalar, hq]
  simp only [Except.mapError, htext]
  cases hasTrivia
  · exact ⟨_, rfl⟩
  · exact ⟨_, rfl⟩

/-- A token asks for what its trivia ask for. -/
theorem quoteToken_reports (hr : r.Within) {t : Token} (ht : Shown t) :
    Reports r (quoteToken r o t) t.classes := by
  rw [quoteToken, tokenCall, Token.classes]
  split
  · exact .ok _
  · rw [List.flatMap_append]
    refine (quoteTriviaList_reports hr ht.leading).bind fun leading _ => ?_
    rw [← List.append_nil (List.flatMap _ _)]
    refine (quoteTriviaList_reports hr ht.trailing).bind fun trailing _ => ?_
    simp only
    split
    · exact .ok _
    split
    · exact .ok _
    · obtain ⟨args, hargs⟩ := literalArguments_eq_ok ht (leading.isSome || trailing.isSome)
      rw [hargs]
      exact .ok _
    · obtain ⟨args, hargs⟩ := literalArguments_eq_ok ht (leading.isSome || trailing.isSome)
      rw [hargs]
      exact .ok _
    · exact .ok _

/-! ### Nodes -/

/-- A node that the grammar makes. -/
structure Regular (c : NodeClass) (vs : List Value) : Prop where
  grows : Grows c vs
  ne_documentation : c ≠ .documentationComment
  ne_pair : c ≠ .pair

theorem Regular.mem_all {c : NodeClass} {vs : List Value} (h : Regular c vs) : c ∈ NodeClass.all :=
  (List.mem_cons.mp c.mem_pair_all).resolve_left h.ne_pair

theorem classesList_eq_flatMap (vs : List Value) : Value.classesList vs = vs.flatMap Value.classes := by
  induction vs with
  | nil => rfl
  | cons v vs ih => rw [Value.classesList, ih, List.flatMap_cons]

/-- A property that is a kind is called so. -/
theorem kind_shape : (NodeClass.all.all fun c => c.fields.all fun f =>
    f.name ≠ Text.of "kind" || f.shape = .kind) = true := by
  simp only [NodeClass.fields_eq]
  decide +kernel

theorem isModifiable_of_field {c : NodeClass} {f : Field} (hc : c ≠ .pair) (hf : f ∈ c.fields)
    (hname : f.name ≠ Text.of "kind") : c.isModifiable f.name = true := by
  rw [NodeClass.isModifiable, NodeClass.hasModifiers, Bool.and_eq_true, Bool.and_eq_true,
    decide_eq_true_eq, decide_eq_true_eq]
  exact ⟨⟨hc, hname⟩, List.any_eq_true.mpr ⟨f, hf, decide_eq_true rfl⟩⟩

/-- A kind has no classes in it. -/
theorem classes_kind {c : NodeClass} {f : Field} {g : Form} {v : Value}
    (hfit : fitsSlot c f g = true) (hshape : f.shape = .kind) (hv : g.Holds v) : v.classes = [] := by
  simp only [fitsSlot, Bool.and_eq_true, decide_eq_true_eq] at hfit
  rw [hshape] at hfit
  cases g with
  | nothing =>
    obtain ⟨k, rfl⟩ := hv
    rfl
  | _ => exact absurd hfit.1 Shape.noConfusion

/-- What is quoted are properties, and the kind is none of them. -/
theorem quoteFields_names {fs : List Field} {vs : List Value} {qs : List Quoted}
    (h : quoteFields r o fs vs = .ok qs) :
    ∀ q ∈ qs, ∃ f ∈ fs, f.name = q.name ∧ f.name ≠ Text.of "kind" := by
  induction fs generalizing vs qs with
  | nil =>
    rw [quoteFields] at h
    · cases h
      exact List.forall_mem_nil _
    · rintro _ _ _ _ ⟨⟩
  | cons f fs ih =>
    have hrest : ∀ {vs qs}, quoteFields r o fs vs = .ok qs →
        ∀ q ∈ qs, ∃ g ∈ f :: fs, g.name = q.name ∧ g.name ≠ Text.of "kind" := by
      intro vs qs h q hq
      obtain ⟨g, hg, hname⟩ := ih h q hq
      exact ⟨g, List.mem_cons_of_mem f hg, hname⟩
    cases vs with
    | nil =>
      rw [quoteFields] at h
      · cases h
        exact List.forall_mem_nil _
      · rintro _ _ _ _ - ⟨⟩
    | cons v vs =>
      rw [quoteFields] at h
      split at h
      · exact hrest h
      · next hname =>
        obtain ⟨c, -, h⟩ := Evaluate.bind_eq_ok.mp h
        cases c with
        | none => exact hrest h
        | some c =>
          obtain ⟨qs, hqs, h⟩ := Evaluate.bind_eq_ok.mp h
          cases h
          exact List.forall_mem_cons.mpr ⟨⟨f, List.mem_cons_self, rfl, hname⟩, hrest hqs⟩

/-- What a property holds asks for its classes; a kind asks for none. -/
def FieldReports (r : Registry) (o : Options) (f : Field) (v : Value) : Prop :=
  (∀ element, Reports r (quoteValue r o element v) v.classes)
    ∧ (f.shape = .kind → v.classes = [])

theorem quoteFields_reports {fs : List Field} {vs : List Value}
    (hkind : ∀ f ∈ fs, f.name = Text.of "kind" → f.shape = .kind)
    (h : List.Forall₂ (FieldReports r o) fs vs) :
    Reports r (quoteFields r o fs vs) (Value.classesList vs) := by
  induction h with
  | nil => exact .ok _
  | @cons f v fs vs hv _ ih =>
    obtain ⟨hf, hfs⟩ := List.forall_mem_cons.mp hkind
    rw [quoteFields, Value.classesList]
    split
    · next hname =>
      rw [hv.2 (hf hname)]
      exact ih hfs
    · refine (hv.1 _).bind fun c _ => ?_
      cases c with
      | none => exact ih hfs
      | some c => exact (ih hfs).returning _

theorem nodeCall_reports (hr : r.Within) {c : NodeClass} {vs : List Value} (hregular : Regular c vs)
    (h : List.Forall₂ (FieldReports r o) c.fields vs) :
    Reports r (nodeCall r c vs (quoteFields r o c.fields vs)) (c :: Value.classesList vs) := by
  have hkind : ∀ f ∈ c.fields, f.name = Text.of "kind" → f.shape = .kind := by
    intro f hf hname
    have := List.all_eq_true.mp (List.all_eq_true.mp kind_shape c hregular.mem_all) f hf
    simpa [hname] using this
  refine quoteClass_reports hr ((quoteFields_reports hkind h).map _) fun qs hqs q hq => ?_
  cases hfields : quoteFields r o c.fields vs with
  | error e =>
    rw [hfields] at hqs
    cases hqs
  | ok ps =>
    rw [hfields] at hqs
    cases hqs
    rcases List.mem_append.mp hq with hq | hq
    · rw [kindValue] at hq
      split at hq
      · next hkind => exact .inr ⟨by rw [List.mem_singleton.mp hq], hkind⟩
      · cases hq
    · obtain ⟨f, hf, hname, hkind⟩ := quoteFields_names hfields q hq
      exact .inl (hname ▸ isModifiable_of_field hregular.ne_pair hf hkind)

theorem quoteToken_reports_leaf (hr : r.Within) {t : Token}
    (ht : ∀ u ∈ (Value.token t).leaves, Shown u) : Reports r (quoteToken r o t) t.classes := by
  cases habsent : t.isAbsent with
  | true =>
    rw [quoteToken, tokenCall, Token.classes, habsent]
    exact .ok _
  | false => exact quoteToken_reports hr (ht t (by simp [Value.leaves, habsent]))

/-- The node asks for its classes. -/
def NodeReports (r : Registry) (o : Options) (v : Value) : Prop :=
  ∀ c vs, v = .node c vs → Reports r (nodeCall r c vs (quoteFields r o c.fields vs)) v.classes

theorem quoteNodes_reports {t : NodeType} {vs : List Value} (hnodes : ∀ v ∈ vs, v.isNodeOf t = true)
    (h : ∀ v ∈ vs, NodeReports r o v) : Reports r (quoteNodes r o vs) (Value.classesList vs) := by
  induction vs with
  | nil => exact .ok _
  | cons v vs ih =>
    obtain ⟨hnode, hrest⟩ := List.forall_mem_cons.mp hnodes
    obtain ⟨hv, hvs⟩ := List.forall_mem_cons.mp h
    cases v with
    | node c us =>
      rw [quoteNodes, Value.classesList]
      exact (hv c us rfl).bind fun q _ => (ih hrest hvs).returning _
    | _ => cases hnode

theorem quoteItems_reports {vs : List Value}
    (hitems : ∀ v ∈ vs, (∃ t, v = .token t ∧ Reports r (quoteToken r o t) t.classes)
      ∨ (∃ c us, v = .node c us) ∧ NodeReports r o v) :
    Reports r (quoteItems r o vs) (Value.classesList vs) := by
  induction vs with
  | nil => exact .ok _
  | cons v vs ih =>
    obtain ⟨hv, hvs⟩ := List.forall_mem_cons.mp hitems
    obtain ⟨t, rfl, ht⟩ | ⟨⟨c, us, rfl⟩, hv⟩ := hv
    · rw [quoteItems, Value.classesList]
      exact ht.bind fun q _ => (ih hvs).returning _
    · rw [quoteItems, Value.classesList]
      exact (hv c us rfl).bind fun q _ => (ih hvs).returning _

/-- A property of any form asks for the classes in it, if the nodes in it do. -/
theorem quoteValue_reports (hr : r.Within) {f : Form} {v : Value} (hf : f.Holds v)
    (hleaves : ∀ t ∈ v.leaves, Shown t) (hnode : NodeReports r o v)
    (hchildren : ∀ w ∈ v.children, NodeReports r o w) (element : Text) :
    Reports r (quoteValue r o element v) v.classes := by
  have htoken : ∀ {ks : List Kind}, IsTokenOf ks v → Reports r (quoteValue r o element v) v.classes := by
    rintro ks ⟨t, rfl, -⟩
    exact quoteToken_reports_leaf hr hleaves
  have hone : ∀ {t : NodeType}, v.isNodeOf t = true →
      Reports r (quoteValue r o element v) v.classes := by
    intro t ht
    cases v with
    | node c vs =>
      rw [quoteValue]
      exact (hnode c vs rfl).returning _
    | _ => cases ht
  have hmember : ∀ {vs : List Value} {t : Token}, (∀ u ∈ Value.leavesList vs, Shown u) →
      .token t ∈ vs → Reports r (quoteToken r o t) t.classes := by
    intro vs t hvs ht
    refine quoteToken_reports_leaf hr fun u hu => hvs u ?_
    rw [Value.leavesList_eq_flatMap]
    exact List.mem_flatMap.mpr ⟨_, ht, hu⟩
  cases f with
  | nothing =>
    obtain ⟨k, rfl⟩ := hf
    exact .ok _
  | token ks => exact htoken hf
  | perhaps k =>
    rcases hf with rfl | hf
    · exact quoteToken_reports_leaf hr hleaves
    · exact htoken hf
  | tokens k =>
    obtain ⟨vs, rfl, hvs⟩ := hf
    rw [quoteValue, Value.classes, classesList_eq_flatMap]
    refine (quoteEach_reports fun w hw => ?_).returning _
    obtain ⟨t, rfl, -⟩ := hvs w hw
    exact hmember hleaves hw
  | node t => exact hone hf
  | optional t =>
    rcases hf with rfl | hf
    · exact .ok _
    · exact hone hf
  | nodes t =>
    obtain ⟨vs, rfl, hvs⟩ := hf
    rw [quoteValue, Value.classes]
    exact (quoteNodes_reports hvs hchildren).returning _
  | separated t =>
    obtain ⟨vs, rfl, hvs⟩ := hf
    rw [quoteValue, Value.classes]
    refine (quoteItems_reports fun w hw => ?_).returning _
    have hitem : w.isNodeOf t = true ∨ IsTokenOf [.commaToken] w := by
      obtain rfl | ⟨u, us, rfl, hu, hmore⟩ := hvs
      · cases hw
      · rcases List.mem_cons.mp hw with rfl | hw
        · exact .inl hu
        · exact hmore.mem w hw
    rcases hitem with hw' | ⟨u, rfl, -⟩
    · cases w with
      | node c us => exact .inr ⟨⟨c, us, rfl⟩, hchildren _ hw⟩
      | _ => cases hw'
    · exact .inl ⟨u, rfl, hmember hleaves hw⟩
  | more t => exact hf.elim

/-- Nodes of the grammar ask for the classes in them. -/
theorem node_reports (hr : r.Within) (v : Value) (hv : v.Plain) (hgrown : v.All Grows)
    (hall : v.All Regular) (hleaves : ∀ t ∈ v.leaves, Shown t) :
    NodeReports r o v ∧ ∀ w ∈ v.children, NodeReports r o w := by
  induction v using Value.induction with
  | h v ih =>
    have hbelow := fun w hw => ih w hw (plain_children hv hgrown hw) (hgrown.children w hw)
      (hall.children w hw) fun t ht => hleaves t (leaves_children hv hw ht)
    refine ⟨?_, fun w hw => (hbelow w hw).1⟩
    rintro c vs rfl
    have hregular : Regular c vs := hall.1
    refine nodeCall_reports hr hregular (hregular.grows.forall_fields hregular.ne_documentation
      hregular.ne_pair fun {f g w} hfit hg hw hholds => ⟨?_, fun hshape => ?_⟩)
    · exact quoteValue_reports hr hholds (fun t ht => hleaves t (leaves_children hv hw ht))
        (hbelow w hw).1 (hbelow w hw).2
    · exact classes_kind hfit hshape hholds

/-- The tokens of a tree that is read can be shown, if the integers among them can. -/
theorem parse?_shown {source : Text} {c : Context} {file : Option Text} {p : Parsed}
    (h : parse? source c file = some p)
    (hints : ∀ t ∈ p.root.leaves, ∀ n, t.value = .int n → n.natAbs < Integer.decimalBound) :
    ∀ t ∈ p.root.leaves, Shown t := by
  obtain ⟨-, -, hdressed⟩ := parse?_tree h
  intro t ht
  exact ⟨(hdressed t ht).built, fun c hc => ((hdressed t ht).leading c hc).built,
    fun c hc => ((hdressed t ht).trailing c hc).built, hints t ht⟩

/-- **What a registry does not support is reported exactly.**  A registry is the catalogue without
some names and with overloads listed anew.  If some node of a tree that is read, or some
documentation comment in it, has a class that no overload is left for, then quoting fails and names
the first such class in pre-order; otherwise the tree is quoted. -/
theorem quoteRoot_supported {change : Registry.Change} (hdeny : change.deny = Registry.delegating)
    (o : Options) {source : Text} {c : Context} {file : Option Text} {p : Parsed}
    (h : parse? source c file = some p)
    (hints : ∀ t ∈ p.root.leaves, ∀ n, t.value = .int n → n.natAbs < Integer.decimalBound) :
    (∀ d, p.root.classes.find? (lacks (.ofChange change)) = some d →
        quoteRoot (.ofChange change) o p.root = .error (.unsupportedNode d.name))
      ∧ (p.root.classes.find? (lacks (.ofChange change)) = none →
        ∃ q, quoteRoot (.ofChange change) o p.root = .ok q) := by
  obtain ⟨-, hgrown, -⟩ := parse?_tree h
  obtain ⟨⟨d, vs, hroot⟩, hall⟩ := parse?_all (Q := Regular) (T := fun _ => True) h
    (fun _ _ => trivial) fun hg hdoc hpair _ _ => ⟨hg, hdoc, hpair⟩
  have hshown := parse?_shown h hints
  rw [hroot] at hgrown hall hshown
  rw [hroot]
  have hnode := (node_reports (o := o) (Registry.within_ofChange hdeny) (.node d vs) trivial hgrown
    hall hshown).1 d vs rfl
  have hreports : Reports (.ofChange change) (quoteRoot (.ofChange change) o (.node d vs))
      (Value.node d vs).classes := hnode.returning _
  constructor
  · intro e he
    rwa [Reports, he] at hreports
  · intro he
    rwa [Reports, he] at hreports

/-- A registry that cannot build documentation comments. -/
def undocumented : Registry.Change := { without := [Text.of "documentation_comment"] }

/-- A name with a documentation comment in front of it. -/
theorem quoteRoot_supported_undocumented : undocumented.deny = Registry.delegating
    ∧ ∃ p, parse? (Text.of "/// x\ny") .expression none = some p
      ∧ (∀ t ∈ p.root.leaves, ∀ n, t.value = .int n → n.natAbs < Integer.decimalBound)
      ∧ p.root.classes.find? (lacks (.ofChange undocumented)) = some .documentationComment
      ∧ quoteRoot (.ofChange undocumented) {} p.root
        = .error (.unsupportedNode (Text.of "DocumentationComment")) := by
  have hread : ((parse? (Text.of "/// x\ny") .expression none).map fun p =>
      (p.root.leaves.all fun t => t.value = .str (Text.of "y"),
        p.root.classes.find? (lacks (.ofChange undocumented))))
      = some (true, some .documentationComment) := by decide +kernel
  obtain ⟨p, hp, heq⟩ := Option.map_eq_some_iff.mp hread
  obtain ⟨hvalues, hfind⟩ := Prod.mk.inj heq
  have hints : ∀ t ∈ p.root.leaves, ∀ n, t.value = .int n → n.natAbs < Integer.decimalBound := by
    intro t ht n hn
    have := of_decide_eq_true (List.all_eq_true.mp hvalues t ht)
    rw [hn] at this
    cases this
  exact ⟨rfl, p, hp, hints, hfind, (quoteRoot_supported rfl {} hp hints).1 _ hfind⟩

end Quote

end TreeQuote
