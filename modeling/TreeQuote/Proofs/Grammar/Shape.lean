/-
TreeQuote/Proofs/Grammar/Shape.lean

Trees of the grammar are well formed at each node: the forms of the properties have the shapes
that the class asks for.  Only the end of a unit, which comes last, may be absent.

The classes of the nodes below the root are the inner ones.

Main statements: `Grows.admits`, a node of the grammar is well formed if its leaves are, and
`innerAll`, what holds of each inner node holds of all nodes in it.
-/
import TreeQuote.Proofs.Grammar.Exchange
import TreeQuote.Proofs.Tree.WellFormed

namespace TreeQuote.Grammar

/-! ### Inner nodes -/

/-- A class of the nodes below the root. -/
def isInner (c : NodeClass) : Bool :=
  c ≠ .compilationUnit && c ≠ .documentationComment && c ≠ .pair

/-- A type of inner nodes. -/
def holdsInner (t : NodeType) : Bool :=
  !t.holds .compilationUnit && !t.holds .documentationComment && !t.holds .pair

/-- The nodes of a form are inner ones, and its tokens are present. -/
def Form.isInner : Form → Bool
  | .node t => holdsInner t
  | .optional t => holdsInner t
  | .nodes t => holdsInner t
  | .more t => holdsInner t
  | .separated t => holdsInner t
  | .token ks => !ks.contains .none
  | .perhaps k => !([k].contains .none)
  | .tokens k => !([k].contains .none)
  | .nothing => true

theorem slots_isInner {c : NodeClass} {f : Form} (h : f ∈ slots c) : f.isInner = true := by
  have hall : (slots c).all Form.isInner = true := by cases c <;> decide
  exact List.all_eq_true.mp hall f h

theorem isInner_of_holds {t : NodeType} {c : NodeClass} (ht : holdsInner t = true)
    (hc : t.holds c = true) : isInner c = true := by
  simp only [holdsInner, Bool.and_eq_true, Bool.not_eq_true'] at ht
  simp only [isInner, Bool.and_eq_true, decide_eq_true_eq]
  refine ⟨⟨?_, ?_⟩, ?_⟩
  all_goals rintro rfl; simp_all

/-! ### Properties -/

/-- A token that the grammar asks for is one of a well-formed tree. -/
theorem IsTokenOf.isToken {ks : List Kind} {v : Value} (h : IsTokenOf ks v)
    (hks : ks.contains .none = false) (hleaves : ∀ t ∈ v.leaves, t.WellFormed) : v.IsToken := by
  obtain ⟨t, rfl, ht⟩ := h
  have hpresent : t.isAbsent = false := by
    simp only [Token.isAbsent, decide_eq_false_iff_not]
    rintro hk
    rw [hk] at ht
    simp_all
  exact ⟨t, rfl, hleaves t (by simp [Value.leaves, hpresent])⟩

theorem More.alternates {t : NodeType} {v : Value} {vs : List Value} (hv : v.isNodeOf t = true)
    (h : More t vs) : Value.alternates (v :: vs) = true := by
  have hnode : ∀ {w : Value}, w.isNodeOf t = true → w.isToken = false := by
    intro w hw
    cases w <;> first | rfl | exact absurd hw Bool.false_ne_true
  induction h generalizing v with
  | nil => simp [Value.alternates, hnode hv]
  | cons hc hw _ ih =>
    obtain ⟨s, rfl, -⟩ := hc
    rw [Value.alternates, ih hw, hnode hv]
    rfl

theorem More.mem {t : NodeType} {vs : List Value} (h : More t vs) :
    ∀ v ∈ vs, v.isNodeOf t = true ∨ IsTokenOf [.commaToken] v := by
  induction h with
  | nil => exact List.forall_mem_nil _
  | cons hc hv _ ih => exact List.forall_mem_cons.mpr ⟨.inr hc, List.forall_mem_cons.mpr ⟨.inl hv, ih⟩⟩

/-- The value of a property has its shape, unless it is an absent token. -/
theorem Form.Holds.fits {f : Form} {v : Value} (h : f.Holds v) (hf : f.isInner = true)
    (hleaves : ∀ t ∈ v.leaves, t.WellFormed) :
    f.shape.Fits v ∨ (∃ k, f = .perhaps k) ∧ v = .token .absent := by
  have hmember : ∀ {vs : List Value}, (∀ t ∈ Value.leavesList vs, t.WellFormed) →
      ∀ w ∈ vs, ∀ t ∈ w.leaves, t.WellFormed := by
    intro vs hvs w hw t ht
    rw [Value.leavesList_eq_flatMap] at hvs
    exact hvs t (List.mem_flatMap.mpr ⟨w, hw, ht⟩)
  cases f with
  | nothing => exact .inl h
  | token ks => exact .inl (IsTokenOf.isToken h (by simpa only [Form.isInner, Bool.not_eq_true'] using hf) hleaves)
  | perhaps k =>
    rcases h with h | h
    · exact .inr ⟨⟨k, rfl⟩, h⟩
    · exact .inl (IsTokenOf.isToken h (by simpa only [Form.isInner, Bool.not_eq_true'] using hf) hleaves)
  | tokens k =>
    obtain ⟨vs, rfl, hvs⟩ := h
    have hk : [k].contains Kind.none = false := by
      simpa only [Form.isInner, Bool.not_eq_true'] using hf
    exact .inl ⟨vs, rfl, fun w hw => IsTokenOf.isToken (hvs w hw) hk (hmember hleaves w hw)⟩
  | node t => exact .inl h
  | optional t => exact .inl h
  | nodes t => exact .inl h
  | separated t =>
    obtain ⟨vs, rfl, hvs⟩ := h
    refine .inl ?_
    obtain rfl | ⟨v, ws, rfl, hv, hmore⟩ := hvs
    · exact ⟨[], rfl, rfl, List.forall_mem_nil _⟩
    · refine ⟨_, rfl, hmore.alternates hv, List.forall_mem_cons.mpr ⟨.inl hv, fun w hw => ?_⟩⟩
      refine (hmore.mem w hw).imp_right fun hc => .inr (hc.isToken (by decide) ?_)
      exact hmember hleaves w (List.mem_cons_of_mem _ hw)
  | more t => exact h.elim

/-- A token or nothing stands at the end of a unit and behind a struct. -/
def fitsSlot (c : NodeClass) (f : Field) (g : Form) : Bool :=
  f.shape = g.shape && match g with
    | .perhaps _ => c = .compilationUnit
      || c = .structDeclaration && f.name = Text.of "semicolon_token"
    | _ => true

theorem fitsSlot_slots {c : NodeClass} (hdoc : c ≠ .documentationComment) (hpair : c ≠ .pair) :
    List.Forall₂ (fun f g => fitsSlot c f g = true) c.fields (slots c) := by
  have hall : c.fields.length = (slots c).length
      ∧ ((c.fields.zip (slots c)).all fun p => fitsSlot c p.1 p.2) = true := by
    cases c <;> first | decide | exact absurd rfl hdoc | exact absurd rfl hpair
  rw [List.forall₂_iff_zip]
  exact ⟨hall.1, fun hmem => List.all_eq_true.mp hall.2 _ hmem⟩

/-- What holds of each property by its form holds of all. -/
theorem Grows.forall_fields {c : NodeClass} {vs : List Value} {P : Field → Value → Prop}
    (h : Grows c vs) (hdoc : c ≠ .documentationComment) (hpair : c ≠ .pair)
    (hP : ∀ {f g v}, fitsSlot c f g = true → g ∈ Grammar.slots c → v ∈ vs → Form.Holds g v
      → P f v) :
    List.Forall₂ P c.fields vs := by
  have hchain : ∀ {fs gs ws}, gs ⊆ Grammar.slots c → ws ⊆ vs
      → List.Forall₂ (fun f g => fitsSlot c f g = true) fs gs → List.Forall₂ Form.Holds gs ws
      → List.Forall₂ P fs ws := by
    intro fs gs ws hgs hws hfields hslots
    induction hslots generalizing fs with
    | nil =>
      cases hfields
      exact .nil
    | cons hv _ ih =>
      cases hfields with
      | cons hfg hfields =>
        rw [List.cons_subset] at hgs hws
        exact .cons (hP hfg hgs.1 hws.1 hv) (ih hgs.2 hws.2 hfields)
  exact hchain (List.Subset.refl _) (List.Subset.refl _) (fitsSlot_slots hdoc hpair) h.slots

/-- The properties of a node have their shapes, but the end of a unit may be absent. -/
theorem Grows.fits {c : NodeClass} {vs : List Value} (h : Grows c vs)
    (hdoc : c ≠ .documentationComment) (hpair : c ≠ .pair)
    (hleaves : ∀ v ∈ vs, ∀ t ∈ v.leaves, t.WellFormed)
    (hend : c = .compilationUnit → .token .absent ∉ vs) :
    List.Forall₂ (Field.Fits c) c.fields vs := by
  refine h.forall_fields hdoc hpair fun {f g v} hfg hg hv hholds => ?_
  simp only [fitsSlot, Bool.and_eq_true, decide_eq_true_eq] at hfg
  obtain ⟨hshape, hplace⟩ := hfg
  rcases hholds.fits (slots_isInner hg) (hleaves v hv) with hfits | ⟨⟨k, rfl⟩, rfl⟩
  · exact .inl (hshape ▸ hfits)
  · simp only [Bool.or_eq_true, Bool.and_eq_true, decide_eq_true_eq] at hplace
    rcases hplace with hc | ⟨hc, hname⟩
    · exact absurd hv (hend hc)
    · exact .inr ⟨hc, hname, rfl⟩

/-- A node of the grammar is well formed at its head. -/
theorem Grows.admits {c : NodeClass} {vs : List Value} (h : Grows c vs)
    (hdoc : c ≠ .documentationComment) (hpair : c ≠ .pair)
    (hleaves : ∀ v ∈ vs, ∀ t ∈ v.leaves, t.WellFormed)
    (hend : c = .compilationUnit → .token .absent ∉ vs) : c.Admits vs where
  class_mem := (List.mem_cons.mp c.mem_pair_all).resolve_left hpair
  fields := h.fits hdoc hpair hleaves hend
  kind hkind := by
    have hne : c.kindTable ≠ [] := by
      cases c <;> first | exact absurd hkind (by decide) | decide | exact absurd rfl hpair
    obtain ⟨t, -, hmem⟩ := h.kind hne
    exact List.any_eq_true.mpr ⟨_, hmem, by simp⟩

section Inner

variable {Q : NodeClass → List Value → Prop}

/-- If the value is an inner node, then all nodes in it satisfy `Q`. -/
def InnerAll (Q : NodeClass → List Value → Prop) (v : Value) : Prop :=
  ∀ c vs, v = .node c vs → Grammar.isInner c = true → v.All Q

/-- What holds of the inner nodes in a value holds of those in a property that holds it. -/
theorem Form.Holds.all {f : Form} {v : Value} (h : f.Holds v) (hf : f.isInner = true)
    (hnode : InnerAll Q v) (hchildren : ∀ w ∈ v.children, InnerAll Q w) :
    v.All Q := by
  have hof : ∀ {t : NodeType} {w : Value}, holdsInner t = true → InnerAll Q w
      → w.isNodeOf t = true → w.All Q := by
    intro t w ht hw hwt
    cases w with
    | node c vs => exact hw c vs rfl (isInner_of_holds ht hwt)
    | _ => exact absurd hwt Bool.false_ne_true
  have htoken : ∀ {ks : List Kind} {w : Value}, IsTokenOf ks w → w.All Q := by
    rintro ks w ⟨t, rfl, -⟩
    trivial
  cases f with
  | nothing =>
    obtain ⟨k, rfl⟩ := h
    trivial
  | token ks => exact htoken h
  | perhaps k =>
    rcases h with rfl | h
    · trivial
    · exact htoken h
  | tokens k =>
    obtain ⟨vs, rfl, hvs⟩ := h
    exact Value.allList_iff.mpr fun w hw => htoken (hvs w hw)
  | node t => exact hof hf hnode h
  | optional t =>
    rcases h with rfl | h
    · trivial
    · exact hof hf hnode h
  | nodes t =>
    obtain ⟨vs, rfl, hvs⟩ := h
    exact Value.allList_iff.mpr fun w hw => hof hf (hchildren w hw) (hvs w hw)
  | separated t =>
    obtain ⟨vs, rfl, hvs⟩ := h
    refine Value.allList_iff.mpr fun w hw => ?_
    obtain rfl | ⟨u, us, rfl, hu, hmore⟩ := hvs
    · exact absurd hw List.not_mem_nil
    · rcases List.mem_cons.1 hw with rfl | hw'
      · exact hof hf (hchildren _ hw) hu
      · rcases hmore.mem w hw' with ht | ht
        · exact hof hf (hchildren w hw) ht
        · exact htoken ht
  | more t => exact h.elim

/-- And of those in all properties of a node. -/
theorem Grows.all {c : NodeClass} {vs : List Value} (h : Grows c vs)
    (hbelow : ∀ v ∈ vs, InnerAll Q v ∧ ∀ w ∈ v.children, InnerAll Q w) :
    ∀ v ∈ vs, v.All Q := by
  have hall : ∀ {gs ws}, gs ⊆ Grammar.slots c → ws ⊆ vs → List.Forall₂ Form.Holds gs ws
      → ∀ w ∈ ws, w.All Q := by
    intro gs ws hgs hws hslots
    induction hslots with
    | nil => exact List.forall_mem_nil _
    | cons hv _ ih =>
      rw [List.cons_subset] at hgs hws
      obtain ⟨hnode, hchildren⟩ := hbelow _ hws.1
      exact List.forall_mem_cons.mpr
        ⟨hv.all (slots_isInner hgs.1) hnode hchildren, ih hgs.2 hws.2⟩
  exact hall (List.Subset.refl _) (List.Subset.refl _) h.slots

/-- The leaves of a value are a stretch of those of the value it is right below. -/
theorem leaves_part {v w : Value} (hv : v.Plain) (hw : w ∈ v.children) : w.leaves <:+: v.leaves := by
  have hlist : ∀ {vs : List Value}, w ∈ vs → w.leaves <:+: Value.leavesList vs := by
    intro vs hmem
    obtain ⟨us, ws, rfl⟩ := List.append_of_mem hmem
    rw [Value.leavesList_append, Value.leavesList_cons]
    exact ⟨Value.leavesList us, Value.leavesList ws, List.append_assoc _ _ _⟩
  cases v with
  | framed => exact hv.elim
  | array => exact hv.elim
  | tokens vs => exact hlist hw
  | node c vs => exact hlist hw
  | nodes vs => exact hlist hw
  | separated vs => exact hlist hw
  | _ => exact absurd hw List.not_mem_nil

/-- The leaves of values are among those of the value that they are right below. -/
theorem leaves_children {v w : Value} (hv : v.Plain) (hw : w ∈ v.children) : w.leaves ⊆ v.leaves :=
  (leaves_part hv hw).subset

/-- Below a value that is plain all values are. -/
theorem plain_children {v w : Value} (hv : v.Plain) (hgrown : v.All Grows) (hw : w ∈ v.children) :
    w.Plain := by
  cases v with
  | framed => exact hv.elim
  | array => exact hv.elim
  | tokens vs => exact (hv w hw).plain
  | node c vs => exact hgrown.1.plain w hw
  | nodes vs => exact (hv w hw).plain
  | separated vs => exact (hv w hw).plain
  | _ => exact absurd hw List.not_mem_nil

/-- What holds of inner nodes of the grammar if `T` holds of their leaves, holds of all nodes in
them. -/
theorem innerAll {T : Token → Prop}
    (hQ : ∀ {c vs}, Grows c vs → isInner c = true → (∀ w ∈ vs, ∀ t ∈ w.leaves, T t) → Q c vs)
    (v : Value) (hv : v.Plain) (hgrown : v.All Grows) (hleaves : ∀ t ∈ v.leaves, T t) :
    InnerAll Q v ∧ ∀ w ∈ v.children, InnerAll Q w := by
  induction v using Value.induction with
  | h v ih =>
    have hbelow := fun w hw => ih w hw (plain_children hv hgrown hw) (hgrown.children w hw)
      fun t ht => hleaves t (leaves_children hv hw ht)
    refine ⟨?_, fun w hw => (hbelow w hw).1⟩
    rintro c vs rfl hc
    refine Value.all_node.mpr ⟨hQ hgrown.1 hc fun w hw t ht => ?_, hgrown.1.all hbelow⟩
    exact hleaves t (leaves_children hv hw ht)

end Inner

end TreeQuote.Grammar
