/-
TreeQuote/Proofs/Quote/Sift.lean

What trimming leaves of a node.  A modifier is dropped if the node has the same text without it; so
each property is as it was, or it has its value by default (`Sifts`).  Below, the properties have
been sifted as well: what is left of a value has all its shapes (`Stands`), so the call of its plan
builds a node of it again.

A relation is `Lenient` if it holds between each value and what is left of it at every step.  It
then holds between a tree and what its trimmed call builds.

Main statements: `Quote.trims_planCall` and `Quote.Lenient.quote`.
-/
import TreeQuote.Proofs.Layout.Rendering
import TreeQuote.Proofs.Quote.Default
import TreeQuote.Proofs.Quote.List
import TreeQuote.Proofs.Quote.Trim
import TreeQuote.Quote.Basic

namespace TreeQuote.Quote

open Evaluate

variable {o : Options}

/-! ### Values that stand for others -/

/-- The value is of the same sort as the other one, and its members are. -/
structure Stands (v w : Value) : Prop where
  scalar (s : Scalar) : v = .scalar s → w = .scalar s
  kind (k : Kind) : w = .kind k ↔ v = .kind k
  token : v.IsToken → w.IsToken
  absent : v = .token .absent → w = .token .absent
  isToken : w.isToken = v.isToken
  isNodeOf (t : NodeType) : w.isNodeOf t = v.isNodeOf t
  tokens (vs : List Value) : v = .tokens vs → (∀ x ∈ vs, x.IsToken)
    → ∃ ws, w = .tokens ws ∧ ∀ x ∈ ws, x.IsToken
  nodes (vs : List Value) (t : NodeType) : v = .nodes vs → (∀ x ∈ vs, x.isNodeOf t = true)
    → ∃ ws, w = .nodes ws ∧ ∀ x ∈ ws, x.isNodeOf t = true
  separated (vs : List Value) (t : NodeType) : v = .separated vs → Value.alternates vs = true
    → (∀ x ∈ vs, x.isNodeOf t = true ∨ x.IsSeparator)
    → ∃ ws, w = .separated ws ∧ Value.alternates ws = true
      ∧ ∀ x ∈ ws, x.isNodeOf t = true ∨ x.IsSeparator
  isList : (∃ ws, w = .nodes ws) → ∃ vs, v = .nodes vs
  formed : w.Formed

namespace Stands

variable {v w : Value} {vs ws : List Value}

/-- It has the shapes of the other one. -/
theorem fits (h : Stands v w) {s : Shape} (hv : s.Fits v) : s.Fits w := by
  induction s with
  | text =>
    obtain ⟨t, rfl, ht⟩ := hv
    exact ⟨t, h.scalar _ rfl, ht⟩
  | kind =>
    obtain ⟨k, rfl⟩ := hv
    exact ⟨k, (h.kind k).mpr rfl⟩
  | token => exact h.token hv
  | tokens =>
    obtain ⟨vs, he, hvs⟩ := hv
    exact h.tokens vs he hvs
  | node t => exact (h.isNodeOf t).trans hv
  | nodes t =>
    cases t with
    | none => exact hv.elim
    | some t =>
      obtain ⟨vs, he, hvs⟩ := hv
      exact h.nodes vs t he hvs
  | separated t =>
    cases t with
    | none => exact hv.elim
    | some t =>
      obtain ⟨vs, he, halternates, hvs⟩ := hv
      exact h.separated vs t he halternates hvs
  | optional a ih => exact hv.imp (h.scalar _) ih
  | _ => exact hv.elim

theorem field {c : NodeClass} {f : Field} (h : Stands v w) (hv : Field.Fits c f v) :
    Field.Fits c f w :=
  hv.imp h.fits fun hv => ⟨hv.1, hv.2.1, h.absent hv.2.2⟩

theorem refl (h : v.Formed) : Stands v v where
  scalar _ := id
  kind _ := .rfl
  token := id
  absent := id
  isToken := rfl
  isNodeOf _ := rfl
  tokens vs he hvs := ⟨vs, he, hvs⟩
  nodes vs _ he hvs := ⟨vs, he, hvs⟩
  separated vs _ he halternates hvs := ⟨vs, he, halternates, hvs⟩
  isList := id
  formed := h

theorem ofToken {t : Token} (h : t.WellFormed) : Stands (.token t) (.token (t.reduced o)) where
  scalar _ he := by cases he
  kind _ := by constructor <;> intro he <;> cases he
  token _ := ⟨_, rfl, h.reduced⟩
  absent he := by
    cases he
    exact absurd rfl h.present
  isToken := rfl
  isNodeOf _ := rfl
  tokens _ he := by cases he
  nodes _ _ he := by cases he
  separated _ _ he := by cases he
  isList he := by obtain ⟨_, he⟩ := he; cases he
  formed := .token h.reduced

theorem ofNode {c : NodeClass} (h : (Value.node c ws).Formed) : Stands (.node c vs) (.node c ws) where
  scalar _ he := by cases he
  kind _ := by constructor <;> intro he <;> cases he
  token he := by obtain ⟨_, he, _⟩ := he; cases he
  absent he := by cases he
  isToken := rfl
  isNodeOf _ := rfl
  tokens _ he := by cases he
  nodes _ _ he := by cases he
  separated _ _ he := by cases he
  isList he := by obtain ⟨_, he⟩ := he; cases he
  formed := h

/-- What holds of the members of a list goes over. -/
theorem members {P Q : Value → Prop} (h : List.Forall₂ Stands vs ws)
    (hPQ : ∀ v w, Stands v w → P v → Q w) (hvs : ∀ v ∈ vs, P v) : ∀ w ∈ ws, Q w := by
  induction h with
  | nil => exact List.forall_mem_nil _
  | cons hv _ ih =>
    obtain ⟨hp, hps⟩ := List.forall_mem_cons.mp hvs
    exact List.forall_mem_cons.mpr ⟨hPQ _ _ hv hp, ih hps⟩

theorem areNodes (h : List.Forall₂ Stands vs ws) {t : NodeType}
    (hvs : ∀ v ∈ vs, v.isNodeOf t = true) : ∀ w ∈ ws, w.isNodeOf t = true :=
  members h (fun _ _ h hv => (h.isNodeOf t).trans hv) hvs

theorem areItems (h : List.Forall₂ Stands vs ws) {t : NodeType}
    (hvs : ∀ v ∈ vs, v.isNodeOf t = true ∨ v.IsSeparator) :
    ∀ w ∈ ws, w.isNodeOf t = true ∨ w.IsSeparator :=
  members h (fun _ _ h hv => hv.imp (h.isNodeOf t).trans fun hv => hv.imp h.absent h.token) hvs

theorem areFormed (h : List.Forall₂ Stands vs ws) : ∀ w ∈ ws, w.Formed :=
  members (P := fun _ => True) h (fun _ _ h _ => h.formed) fun _ _ => trivial

theorem alternates (h : List.Forall₂ Stands vs ws) : Value.alternates ws = Value.alternates vs := by
  induction vs using Value.alternates.induct generalizing ws with
  | case1 =>
    cases h
    rfl
  | case2 a =>
    cases h with
    | cons ha hs =>
      cases hs
      simp [Value.alternates, ha.isToken]
  | case3 a b rest ih =>
    cases h with
    | cons ha hs =>
      cases hs with
      | cons hb hs => simp [Value.alternates, ha.isToken, hb.isToken, ih hs]

theorem ofTokens (h : List.Forall₂ Stands vs ws) (hvs : ∀ v ∈ vs, v.IsToken) :
    Stands (.tokens vs) (.tokens ws) where
  scalar _ he := by cases he
  kind _ := by constructor <;> intro he <;> cases he
  token he := by obtain ⟨_, he, _⟩ := he; cases he
  absent he := by cases he
  isToken := rfl
  isNodeOf _ := rfl
  tokens _ _ _ := ⟨ws, rfl, members h (fun _ _ h => h.token) hvs⟩
  nodes _ _ he := by cases he
  separated _ _ he := by cases he
  isList he := by obtain ⟨_, he⟩ := he; cases he
  formed := .tokens (members h (fun _ _ h => h.token) hvs) (areFormed h)

theorem ofNodes (h : List.Forall₂ Stands vs ws) {t : NodeType}
    (hvs : ∀ v ∈ vs, v.isNodeOf t = true) : Stands (.nodes vs) (.nodes ws) where
  scalar _ he := by cases he
  kind _ := by constructor <;> intro he <;> cases he
  token he := by obtain ⟨_, he, _⟩ := he; cases he
  absent he := by cases he
  isToken := rfl
  isNodeOf _ := rfl
  tokens _ he := by cases he
  nodes _ _ he hus := by
    cases he
    exact ⟨ws, rfl, areNodes h hus⟩
  separated _ _ he := by cases he
  isList _ := ⟨vs, rfl⟩
  formed := .nodes (areNodes h hvs) (areFormed h)

theorem ofSeparated (h : List.Forall₂ Stands vs ws) {t : NodeType}
    (halternates : Value.alternates vs = true)
    (hvs : ∀ v ∈ vs, v.isNodeOf t = true ∨ v.IsSeparator) :
    Stands (.separated vs) (.separated ws) where
  scalar _ he := by cases he
  kind _ := by constructor <;> intro he <;> cases he
  token he := by obtain ⟨_, he, _⟩ := he; cases he
  absent he := by cases he
  isToken := rfl
  isNodeOf _ := rfl
  tokens _ he := by cases he
  nodes _ _ he := by cases he
  separated _ _ he hal hus := by
    cases he
    exact ⟨ws, rfl, (alternates h).trans hal, areItems h hus⟩
  isList he := by obtain ⟨_, he⟩ := he; cases he
  formed := .separated ((alternates h).trans halternates) (areItems h hvs) (areFormed h)

/-- The kind of a node stays. -/
theorem kindOf (h : List.Forall₂ Stands vs ws) (c : NodeClass) :
    Value.kindOf c ws = Value.kindOf c vs := by
  unfold Value.kindOf
  cases c.kind? with
  | some k => rfl
  | none =>
    cases h with
    | nil => rfl
    | @cons v w vs ws hv _ =>
      have hkind := hv.kind
      cases v with
      | kind k => rw [(hkind k).mpr rfl]
      | _ => cases w <;> first | rfl | cases (hkind _).mp rfl

end Stands

/-! ### Properties that are sifted -/

/-- What trimming leaves of the properties of a node, from left to right: each is as it was, or it
has its value by default.  In the second case that makes no difference to the text, where the
properties in front are those that are left and the ones behind have their values by default. -/
inductive Sifts (o : Options) (c : NodeClass) (k : Kind) :
    List Value → List Field → List Part → List Value → List Value → Prop where
  | nil {done : List Value} : Sifts o c k done [] [] [] []
  | keep {done : List Value} {f : Field} {fs : List Field} {part : Part} {parts : List Part}
      {w : Value} {ws us : List Value} (h : Sifts o c k (done ++ [w]) fs parts ws us) :
      Sifts o c k done (f :: fs) (part :: parts) (w :: ws) (w :: us)
  | drop {done : List Value} {f : Field} {fs : List Field} {part : Part} {parts : List Part}
      {d w : Value} {ws us : List Value} (hleaves : part.leaves c f = true)
      (hdefault : (part.default? c k).getD .none = d) (hstandard : Field.Standard c f d)
      (hfits : Field.Fits c f w)
      (hbefore : (Value.node c (done ++ d :: baseline c k fs parts ws)).WellFormed)
      (hafter : (Value.node c (done ++ w :: baseline c k fs parts ws)).WellFormed)
      (htext : (Value.node c (done ++ w :: baseline c k fs parts ws)).rendered o
        = (Value.node c (done ++ d :: baseline c k fs parts ws)).rendered o)
      (h : Sifts o c k (done ++ [d]) fs parts ws us) :
      Sifts o c k done (f :: fs) (part :: parts) (w :: ws) (d :: us)

section Keep

variable {c : NodeClass} {k : Kind} {j : Nat} {ps : List Parameter} {fs : List Field}
  {parts : List Part} {done ws : List Value} {qs : List (Option Call)}

/-- A node with properties in front that fit, and others behind. -/
structure Frame (c : NodeClass) (fs : List Field) (done ws : List Value) : Prop where
  fields : ∃ before, c.fields = before ++ fs ∧ List.Forall₂ (Field.Fits c) before done
  fits : List.Forall₂ (Field.Fits c) fs ws
  formed : ∀ w ∈ done ++ ws, w.Formed
  kind : c.kind? = none → Kind.isIn c.kindTable (Value.kindOf c (done ++ ws)) = true

theorem Frame.wellFormed (hc : c ∈ NodeClass.all) (h : Frame c fs done ws) :
    (Value.node c (done ++ ws)).WellFormed := by
  obtain ⟨before, hfields, hbefore⟩ := h.fields
  refine ⟨⟨c, _, rfl⟩, Value.Formed.all (.node ⟨hc, ?_, h.kind⟩ h.formed)⟩
  rw [hfields]
  exact List.rel_append hbefore h.fits

/-- The next property joins those in front. -/
theorem Frame.next {f : Field} {w : Value} (h : Frame c (f :: fs) done (w :: ws)) :
    Frame c fs (done ++ [w]) ws := by
  obtain ⟨before, hfields, hbefore⟩ := h.fields
  cases h.fits with
  | cons hw hfits =>
    refine ⟨⟨before ++ [f], by simp [hfields], List.rel_append hbefore (.cons hw .nil)⟩, hfits, ?_, ?_⟩
    · simpa using h.formed
    · simpa using h.kind

/-- Only the kind stands in front of the other properties. -/
theorem Frame.ne_nil {f : Field} (hc : c ∈ NodeClass.all) (h : Frame c (f :: fs) done ws)
    (hkind : f.name ≠ Text.of "kind") (hnone : c.kind? = none) : done ≠ [] := by
  obtain ⟨before, hfields, hbefore⟩ := h.fields
  rintro rfl
  cases hbefore
  obtain ⟨g, gs, hg, hname, -, -⟩ := NodeClass.fields_kind hc
  rw [hg, List.nil_append] at hfields
  cases hfields
  exact hkind (hname.mpr hnone)

/-- Another value for the next property. -/
theorem Frame.exchange {f : Field} {v w : Value} (hc : c ∈ NodeClass.all)
    (h : Frame c (f :: fs) done (v :: ws)) (hkind : f.name ≠ Text.of "kind")
    (hw : Field.Fits c f w) (hformed : w.Formed) : Frame c (f :: fs) done (w :: ws) := by
  refine ⟨h.fields, ?_, ?_, fun hnone => ?_⟩
  · cases h.fits with
    | cons _ hfits => exact .cons hw hfits
  · have := h.formed
    simp only [List.forall_mem_append, List.forall_mem_cons] at this ⊢
    exact ⟨this.1, hformed, this.2.2⟩
  · obtain ⟨x, xs, rfl⟩ := List.exists_cons_of_ne_nil (h.ne_nil hc hkind hnone)
    have := h.kind hnone
    simp only [List.cons_append, Value.kindOf, hnone] at this ⊢
    cases x <;> exact this

/-- A modifier that replaces a property is applied to a node. -/
theorem apply_modifier {f : Field} {q : Call} {v w : Value} (hc : c ∈ NodeClass.all)
    (h : Frame c (f :: fs) done (v :: ws)) (hkind : f.name ≠ Text.of "kind")
    (hq : eval .standard q = .ok w) (hw : Field.Fits c f w) (owner : Text) (ms : List Modifier) :
    applyAll .standard owner (.node c (done ++ v :: ws)) (Quoted.modifier ⟨f.name, q⟩ :: ms)
      = applyAll .standard owner (.node c (done ++ w :: ws)) ms := by
  obtain ⟨before, hfields, hbefore⟩ := h.fields
  rw [applyAll_with hc hfields hkind hq hw, hbefore.length_eq,
    List.set_append_right _ _ (Nat.le_refl _), Nat.sub_self, List.set_cons_zero]

theorem replaces_modifier (q : Quoted) : q.modifier.replaces = true := by
  rw [Quoted.modifier, Modifier.replaces, List.isPrefixOf_iff_prefix]
  exact List.prefix_append _ _

/-- One step of sifting: the modifier is dropped if the text stays, and kept if not. -/
theorem sift_step {owner : Text} {current candidate : Value} {text text' : Text} {m : Modifier}
    {ms : List Modifier} (happly : Evaluate.apply .standard owner current m = .ok candidate)
    (hrender : Trim.render o candidate = .ok text') (hreplaces : m.replaces = true) :
    (text' = text ∧ Trim.keep .standard o owner current text (m :: ms)
        = (Trim.keep .standard o owner current text ms).map fun r => (r.1, r.2 + 1))
      ∨ Trim.keep .standard o owner current text (m :: ms)
        = (Trim.keep .standard o owner candidate text' ms).map fun r => (m :: r.1, r.2) := by
  rw [Trim.keep, happly]
  simp only [Except.mapError, Bind.bind, Except.bind, hrender, hreplaces, Bool.and_true]
  by_cases htext : text' = text
  · refine .inl ⟨htext, ?_⟩
    rw [if_pos (by simpa using htext)]
    cases Trim.keep .standard o owner current text ms <;> rfl
  · refine .inr ?_
    rw [if_neg (by simpa using htext)]
    cases Trim.keep .standard o owner candidate text' ms <;> rfl

/-- The modifiers that are kept build the sifted properties. -/
theorem keep_modifiers (hc : c ∈ NodeClass.all) (hroutes : Routes c j ps fs parts)
    (hrows : Rows Builds c fs ws qs) (hws : ∀ w ∈ ws, w.Formed)
    (hframe : Frame c fs done (baseline c k fs parts ws))
    (hstandard : ∀ x ∈ fs.zip parts, x.2.leaves c x.1 = true
      → Field.Standard c x.1 ((x.2.default? c k).getD .none)) (owner : Text) :
    ∃ kept n us, Trim.keep .standard o owner (.node c (done ++ baseline c k fs parts ws))
        ((Value.node c (done ++ baseline c k fs parts ws)).rendered o)
        ((leftOver c fs parts qs).map Quoted.modifier) = .ok (kept, n)
      ∧ kept.Sublist ((leftOver c fs parts qs).map Quoted.modifier)
      ∧ applyAll .standard owner (.node c (done ++ baseline c k fs parts ws)) kept
        = .ok (.node c (done ++ us))
      ∧ Sifts o c k done fs parts ws us ∧ (Value.node c (done ++ us)).WellFormed := by
  have happend : ∀ (done : List Value) (x : Value) (xs : List Value),
      done ++ x :: xs = (done ++ [x]) ++ xs := fun done x xs => by simp
  induction hroutes generalizing ws qs done with
  | nil =>
    cases hrows
    exact ⟨[], 0, [], rfl, .slnil, rfl, .nil, hframe.wellFormed hc⟩
  | @leave j ps f fs part parts hleaves hkind _ ih =>
    cases hrows with
    | @cons _ w q _ ws qs hmem hfits hq hrows =>
      rw [List.zip_cons_cons, List.forall_mem_cons] at hstandard
      obtain ⟨hd, hrest⟩ := hstandard
      obtain ⟨hw, hformed⟩ := List.forall_mem_cons.mp hws
      have hdefault := hd hleaves
      rw [baseline, if_pos hleaves] at hframe ⊢
      cases hq with
      | blank hblank =>
        -- The property is absent by default.
        rw [default_of_isBlank hleaves hfits hblank k] at hframe ⊢
        obtain ⟨kept, n, us, hkeep, hsub, happly, hsifts, hus⟩ :=
          ih hrows hformed hframe.next hrest
        rw [happend done w, leftOver_blank]
        refine ⟨kept, n, w :: us, hkeep, hsub, ?_, .keep hsifts, ?_⟩
        · rw [happend done w us, happly]
        · rw [happend done w us]
          exact hus
      | @written q hwrites =>
        generalize hd : (part.default? c k).getD .none = d at hframe hdefault ⊢
        have hcandidate := hframe.exchange hc hkind hfits hw
        have hne := hdefault.ne_documentation hmem
        have hmodifier := apply_modifier hc hframe hkind hwrites.sense.eval hfits owner
        rw [leftOver_written q hleaves, List.map_cons]
        rcases sift_step (hmodifier []) ((hcandidate.wellFormed hc).render o hne)
          (replaces_modifier ⟨f.name, q⟩) with ⟨htext, hstep⟩ | hstep
        · obtain ⟨kept, n, us, hkeep, hsub, happly, hsifts, hus⟩ :=
            ih hrows hformed hframe.next hrest
          rw [← happend] at hkeep happly hus
          rw [← happend] at happly
          refine ⟨kept, n + 1, d :: us, ?_, hsub.cons _, happly, ?_, hus⟩
          · rw [hstep, hkeep]
            rfl
          · exact .drop hleaves hd hdefault hfits (hframe.wellFormed hc) (hcandidate.wellFormed hc)
              htext hsifts
        · obtain ⟨kept, n, us, hkeep, hsub, happly, hsifts, hus⟩ :=
            ih hrows hformed hcandidate.next hrest
          rw [← happend] at hkeep happly hus
          rw [← happend] at happly
          refine ⟨_ :: kept, n, w :: us, ?_, hsub.cons_cons _, ?_, .keep hsifts, hus⟩
          · rw [hstep, hkeep]
            rfl
          · rw [hmodifier kept, happly]
  | @carry j p ps f fs part parts hleaves hname hcarries _ hroutes ih =>
    cases hrows with
    | @cons _ w q _ ws qs hmem hfits hq hrows =>
      rw [List.zip_cons_cons, List.forall_mem_cons] at hstandard
      obtain ⟨hw, hformed⟩ := List.forall_mem_cons.mp hws
      rw [baseline, hleaves, if_neg Bool.false_ne_true] at hframe ⊢
      obtain ⟨kept, n, us, hkeep, hsub, happly, hsifts, hus⟩ :=
        ih hrows hformed hframe.next hstandard.2
      rw [happend done w, leftOver_carry hleaves]
      refine ⟨kept, n, w :: us, hkeep, hsub, ?_, .keep hsifts, ?_⟩
      · rw [happend done w us, happly]
      · rw [happend done w us]
        exact hus

end Keep

/-! ### Nodes -/

section Nodes

variable {c : NodeClass} {k : Kind} {j : Nat} {ps : List Parameter} {fs : List Field}
  {parts : List Part} {vs ws : List Value} {qs qs' : List (Option Call)} {p : Plan}
  {K : Value → Call → Prop}

theorem leftOver_nil (h : ∀ x ∈ fs.zip parts, x.2.leaves c x.1 = false) :
    leftOver c fs parts qs = [] := by
  induction fs generalizing parts qs with
  | nil => rfl
  | cons f fs ih =>
    cases parts with
    | nil => rfl
    | cons part parts =>
      cases qs with
      | nil => rfl
      | cons q qs =>
        rw [List.zip_cons_cons, List.forall_mem_cons] at h
        rw [leftOver_carry h.1, ih h.2]

/-- The kind of a node has a parameter. -/
theorem kindOf_baseline (hc : c ∈ NodeClass.all) (hroutes : Routes c 0 ps c.fields parts)
    (hlen : c.fields.length = ws.length) :
    Value.kindOf c (baseline c k c.fields parts ws) = Value.kindOf c ws := by
  cases hkind : c.kind? with
  | some k => simp [Value.kindOf, hkind]
  | none =>
    obtain ⟨f, fs, hfields, hname, -, -⟩ := NodeClass.fields_kind hc
    rw [hfields] at hroutes hlen ⊢
    cases ws with
    | nil => cases hlen
    | cons w ws =>
      cases hroutes with
      | leave _ hne _ => exact absurd (hname.mpr hkind) hne
      | carry hleaves _ _ _ _ =>
        rw [baseline, hleaves, if_neg Bool.false_ne_true]
        simp only [Value.kindOf, hkind]
        cases w <;> rfl

theorem Routes.length (h : Routes c j ps fs parts) : fs.length = parts.length := by
  induction h with
  | nil => rfl
  | leave _ _ _ ih => rw [List.length_cons, List.length_cons, ih]
  | carry _ _ _ _ _ ih => rw [List.length_cons, List.length_cons, ih]

/-- The node with values by default is well formed. -/
theorem frame_baseline (hadmits : c.Admits ws) (hws : ∀ w ∈ ws, w.Formed)
    (hsuits : Suits c (Value.kindOf c ws) qs p) :
    Frame c c.fields [] (baseline c (Value.kindOf c ws) c.fields p.overload.recipe.parts ws) := by
  have hroutes := hsuits.sound.routes
  obtain ⟨hfits, hformed⟩ := baseline_fits hadmits.fields (Routes.length hroutes) (fun _ => id) hws
    (hsuits.standard hadmits.kind)
  refine ⟨⟨[], rfl, .nil⟩, hfits, hformed, fun hnone => ?_⟩
  rw [List.nil_append, kindOf_baseline hadmits.class_mem hroutes hadmits.fields.length_eq]
  exact hadmits.kind hnone

/-- The call of a plan is trimmed to one that builds the sifted properties. -/
theorem trims_planCall (hadmits : c.Admits ws) (hws : ∀ w ∈ ws, w.Formed)
    (hK : Rows K c c.fields vs qs) (hqs : TrimsRow o qs qs') (hrows : Rows Builds c c.fields ws qs')
    (hsuits : Suits c (Value.kindOf c ws) qs p) :
    ∃ kept us,
      Trims o (planCall c p qs) (.factory p.factory.name
        (arguments c p.overload.parameters c.fields p.overload.recipe.parts qs') [] kept)
      ∧ kept.Sublist ((leftOver c c.fields p.overload.recipe.parts qs').map Quoted.modifier)
      ∧ eval .standard (.factory p.factory.name
          (arguments c p.overload.parameters c.fields p.overload.recipe.parts qs') [] kept)
        = .ok (.node c us)
      ∧ Sifts o c (Value.kindOf c ws) [] c.fields p.overload.recipe.parts ws us
      ∧ (Value.node c us).WellFormed := by
  have hc := hadmits.class_mem
  have hsuits' := hsuits.trimmed hqs
  have hstandard := hsuits.standard hadmits.kind
  have hframe := frame_baseline hadmits hws hsuits
  obtain ⟨as, has, hcall⟩ := call_plan hc hrows hsuits' hadmits.kind
  obtain ⟨kept, n, us, hkeep, hsub, happly, hsifts, hus⟩ :=
    keep_modifiers (o := o) hc hsuits.sound.routes hrows hws hframe hstandard p.factory.name
  have hclear : Clear [] c.fields := nofun
  obtain ⟨i, hargs⟩ := arguments_trims hsuits.sound.routes hK hqs (apart_fields hc) hclear hsuits.text
  obtain ⟨m, hmods⟩ : ∃ m, Trim.trimModifiers .standard o
      ((leftOver c c.fields p.overload.recipe.parts qs).map Quoted.modifier)
      = .ok ((leftOver c c.fields p.overload.recipe.parts qs').map Quoted.modifier, m) :=
    leftOver_trims hqs
  have hbase : eval .standard (.factory p.factory.name
      (arguments c p.overload.parameters c.fields p.overload.recipe.parts qs') [] [])
      = .ok (.node c ([] ++ baseline c (Value.kindOf c ws) c.fields p.overload.recipe.parts ws)) :=
    eval_factory has hcall
  have hchain : Trim.chain .standard o p.factory.name
      (arguments c p.overload.parameters c.fields p.overload.recipe.parts qs') []
      ((leftOver c c.fields p.overload.recipe.parts qs').map Quoted.modifier)
      = .ok (.factory p.factory.name
        (arguments c p.overload.parameters c.fields p.overload.recipe.parts qs') [] kept, n) := by
    rw [Trim.chain]
    cases hmodifiers : (leftOver c c.fields p.overload.recipe.parts qs').map Quoted.modifier with
    | nil =>
      rw [hmodifiers] at hkeep
      cases hkeep
      rfl
    | cons d ds =>
      have hne : c ≠ .documentationComment := by
        intro hdoc
        have hnil : leftOver c c.fields p.overload.recipe.parts qs' = [] := leftOver_nil fun x hx => by
          cases hleaves : x.2.leaves c x.1 with
          | false => rfl
          | true =>
            exact absurd hdoc ((hstandard x hx hleaves).ne_documentation (List.of_mem_zip hx).1)
        rw [hnil] at hmodifiers
        cases hmodifiers
      have hreplaces : d.replaces = true := by
        have hd : d ∈ (leftOver c c.fields p.overload.recipe.parts qs').map Quoted.modifier := by
          rw [hmodifiers]
          exact List.mem_cons_self
        obtain ⟨x, -, rfl⟩ := List.mem_map.mp hd
        exact replaces_modifier x
      rw [List.any_cons, hreplaces, Bool.true_or, if_pos rfl, hbase]
      rw [hmodifiers] at hkeep
      simp only [Except.mapError, Bind.bind, Except.bind, (hframe.wellFormed hc).render o hne, hkeep]
      rfl
  refine ⟨kept, us, ⟨i + 0 + m + n, ?_⟩, hsub, ?_, hsifts, hus⟩
  · rw [planCall, Trim.trim, hargs]
    simp only [Bind.bind, Except.bind, Trim.trimKeywords, hmods, hchain]
    rfl
  · rw [eval_factory_iff]
    exact ⟨as, [], _, has, rfl, hcall, happly⟩

end Nodes

/-! ### Lists -/

theorem TrimsList.length {cs cs' : List Call} (h : TrimsList o cs cs') : cs.length = cs'.length := by
  induction cs generalizing cs' with
  | nil => rw [h.of_nil]
  | cons q cs ih =>
    obtain ⟨q', ds, rfl, -, hds⟩ := h.of_cons
    rw [List.length_cons, List.length_cons, ih hds]

/-- The call of a list is trimmed to that of the trimmed members. -/
theorem Trims.listCall {name : Text} {cs cs' : List Call} {q : Call} (h : TrimsList o cs cs')
    (hq : listCall name cs = some q) : ∃ q', Quote.listCall name cs' = some q' ∧ Trims o q q' := by
  rcases cs with _ | ⟨a, _ | ⟨b, cs⟩⟩
  · cases hq
  · cases hq
    obtain ⟨a', ds, rfl, ha, hds⟩ := h.of_cons
    rw [hds.of_nil]
    exact ⟨_, rfl, .factory name (.cons ha .nil)⟩
  · cases hq
    obtain ⟨a', ds, rfl, ha, hds⟩ := h.of_cons
    obtain ⟨b', es, rfl, hb, hes⟩ := hds.of_cons
    exact ⟨_, rfl, .factory name (.cons (.array h) .nil)⟩

/-! ### What trimming leaves -/

/-- A relation that holds between each value and what trimming leaves of it, if it holds of the
parts. -/
structure Lenient (o : Options) (R : Value → Value → Prop) : Prop where
  none : R .none .none
  text (t : Text) : R (.str t) (.str t)
  kind (k : Kind) : R (.kind k) (.kind k)
  token {t : Token} : t.WellFormed → R (.token t) (.token (t.reduced o))
  absent : R (.token .absent) (.token .absent)
  tokens {vs ws : List Value} : List.Forall₂ R vs ws → R (.tokens vs) (.tokens ws)
  nodes {vs ws : List Value} : List.Forall₂ R vs ws → R (.nodes vs) (.nodes ws)
  separated {vs ws : List Value} : List.Forall₂ R vs ws → R (.separated vs) (.separated ws)
  node {c : NodeClass} {vs ws us : List Value} {p : Plan} : c.Admits vs → c.Admits ws
    → List.Forall₂ R vs ws → p.Sound c
    → Sifts o c (Value.kindOf c ws) [] c.fields p.overload.recipe.parts ws us
    → R (.node c vs) (.node c us)

/-- The call is trimmed to one that builds what is left of the value. -/
def Leaves (o : Options) (R : Value → Value → Prop) (v : Value) (q : Call) : Prop :=
  ∃ q' w, Trims o q q' ∧ Builds w q' ∧ Stands v w ∧ R v w

section Lenient

variable {R : Value → Value → Prop} {c : NodeClass} {fs : List Field} {vs : List Value}
  {cs : List Call} {qs : List (Option Call)}

/-- The calls of a list are trimmed to those of what is left of its members. -/
theorem leaves_list (h : List.Forall₂ (Leaves o R) vs cs) :
    ∃ cs' ws, TrimsList o cs cs' ∧ evalList .standard cs' = .ok ws ∧ List.Forall₂ Stands vs ws
      ∧ List.Forall₂ R vs ws := by
  induction h with
  | nil => exact ⟨[], [], .nil, rfl, .nil, .nil⟩
  | cons hv _ ih =>
    obtain ⟨q', w, htrims, hbuilds, hstands, hR⟩ := hv
    obtain ⟨cs', ws, hcs, heval, hall, hRs⟩ := ih
    exact ⟨q' :: cs', w :: ws, .cons htrims hcs, evalList_cons hbuilds.eval heval,
      .cons hstands hall, .cons hR hRs⟩

/-- The calls of the properties are trimmed to those of what is left of them. -/
theorem leaves_rows (hR : Lenient o R) (h : Rows (Leaves o R) c fs vs qs) :
    ∃ qs' ws, TrimsRow o qs qs' ∧ Rows Builds c fs ws qs' ∧ List.Forall₂ Stands vs ws
      ∧ List.Forall₂ R vs ws := by
  induction h with
  | nil => exact ⟨[], [], .nil, .nil, .nil, .nil⟩
  | @cons f v q fs vs qs hmem hfits hq _ ih =>
    obtain ⟨qs', ws, hqs, hrows, hstands, hRs⟩ := ih
    cases hq with
    | blank hblank =>
      have hformed := (Field.fits_of_isBlank hmem hfits (Field.mayLack_of_isBlank hfits hblank) hblank).2
      have hv : R v v := by
        unfold Field.isBlank at hblank
        split at hblank
        · exact hR.none
        · exact hR.tokens .nil
        · exact hR.nodes .nil
        · exact hR.separated .nil
        · simp only [Bool.and_eq_true, decide_eq_true_eq] at hblank
          rw [hblank.1]
          exact hR.absent
        · cases hblank
      exact ⟨none :: qs', v :: ws, .cons .none hqs, .cons hmem hfits (.blank hblank) hrows,
        .cons (.refl hformed) hstands, .cons hv hRs⟩
    | @written q hw =>
      obtain ⟨q', w, htrims, hbuilds, hstand, hv⟩ := hw.sense
      refine ⟨some q' :: qs', w :: ws, .cons (.some htrims) hqs,
        .cons hmem (hstand.field hfits) (.written ⟨hbuilds, fun ht => ?_, fun hlist => ?_⟩) hrows,
        .cons hstand hstands, .cons hv hRs⟩
      · rw [htrims.stringArgument_isSome (hw.text ht)]
        exact hw.text ht
      · obtain ⟨items, hitems⟩ := Option.isSome_iff_exists.mp (hw.items (hstand.isList hlist))
        obtain ⟨items', hitems', -⟩ := htrims.listItems hitems
        rw [hitems']
        rfl

/-- What is left of the properties of a node can stand in it. -/
theorem admits_stands {ws : List Value} (h : c.Admits vs) (hws : List.Forall₂ Stands vs ws) :
    c.Admits ws where
  class_mem := h.class_mem
  fields := by
    have hfields : ∀ {fs : List Field} {vs ws : List Value}, List.Forall₂ (Field.Fits c) fs vs
        → List.Forall₂ Stands vs ws → List.Forall₂ (Field.Fits c) fs ws := by
      intro fs vs ws hfits hws
      induction hfits generalizing ws with
      | nil =>
        cases hws
        exact .nil
      | cons hv _ ih =>
        cases hws with
        | cons hw hws => exact .cons (hw.field hv) (ih hws)
    exact hfields h.fields hws
  kind hk := by
    rw [Stands.kindOf hws]
    exact h.kind hk

/-- Each step of quoting gives a call that is trimmed to one for what is left. -/
theorem Lenient.sense (hR : Lenient o R) : Sense o (Leaves o R) where
  text {t} ht := ⟨_, _, .ofText t, ⟨eval_ofText ht, fun _ h => by cases h⟩, .refl (.text ht), hR.text t⟩
  kind k := ⟨_, _, .ref _, ⟨eval_ofKind _ k, fun _ h => by cases h⟩, .refl (.kind k), hR.kind k⟩
  token {t q} ht hq := ⟨q, _, quoteToken_steady ht hq, (sense_reduced o).token ht hq, .ofToken ht,
    hR.token ht⟩
  absent := ⟨_, _, .factory _ (.cons (.ref _) .nil), builds_absent, .refl .absent, hR.absent⟩
  tokens hvs hcs hq := by
    obtain ⟨cs', ws, htrims, heval, hstands, hRs⟩ := leaves_list hcs
    obtain ⟨q', hq', htrim⟩ := Trims.listCall htrims hq
    have hws := Stands.members hstands (fun _ _ h => h.token) hvs
    exact ⟨q', _, htrim, builds_tokens hws heval hq', .ofTokens hstands hvs, hR.tokens hRs⟩
  nodes ht hvs hcs hq := by
    obtain ⟨cs', ws, htrims, heval, hstands, hRs⟩ := leaves_list hcs
    obtain ⟨q', hq', htrim⟩ := Trims.listCall htrims hq
    rw [listName, htrims.length] at hq'
    exact ⟨q', _, htrim, builds_nodes ht (Stands.areNodes hstands hvs) heval hq',
      .ofNodes hstands hvs, hR.nodes hRs⟩
  separated ht halternates hvs hcs hq := by
    obtain ⟨cs', ws, htrims, heval, hstands, hRs⟩ := leaves_list hcs
    obtain ⟨q', hq', htrim⟩ := Trims.listCall htrims hq
    rw [listName, htrims.length] at hq'
    exact ⟨q', _, htrim, builds_separated ht ((Stands.alternates hstands).trans halternates)
      (Stands.areItems hstands hvs) heval hq', .ofSeparated hstands halternates hvs,
      hR.separated hRs⟩
  node {c vs qs p} hadmits hrows hsuits := by
    obtain ⟨qs', ws, hqs, hrows', hstands, hRs⟩ := leaves_rows hR hrows
    have hadmits' := admits_stands hadmits hstands
    rw [← Stands.kindOf hstands c] at hsuits
    obtain ⟨kept, us, htrims, -, heval, hsifts, hus⟩ :=
      trims_planCall hadmits' (Stands.areFormed hstands) hrows hqs hrows' hsuits
    exact ⟨_, _, htrims, ⟨heval, fun _ h => by cases h⟩, .ofNode hus.formed,
      hR.node hadmits hadmits' hRs hsuits.sound hsifts⟩

/-- The call for a tree is trimmed to one for what is left of the tree. -/
theorem Lenient.quoteNode (hR : Lenient o R) (h : (Value.node c vs).WellFormed) :
    ∃ q q' us, Quote.quoteNode .standard o (.node c vs) = .ok q ∧ Trims o q q'
      ∧ eval .standard q' = .ok (.node c us) ∧ (Value.node c us).WellFormed
      ∧ R (.node c vs) (.node c us) := by
  obtain ⟨q, hq, q', w, htrims, hbuilds, hstands, hv⟩ := hR.sense.quoteNode h
  have hnode : w.isNodeOf (.cls c) = true :=
    (hstands.isNodeOf _).trans (by simp [Value.isNodeOf, NodeType.holds])
  cases w with
  | node d us =>
    obtain rfl : d = c := by simpa [Value.isNodeOf, NodeType.holds] using hnode
    exact ⟨q, q', us, hq, htrims, hbuilds.eval, ⟨⟨_, _, rfl⟩, hstands.formed.all⟩, hv⟩
  | _ => cases hnode

end Lenient

/-! ### Roots -/

section Root

/-- A modifier at the end that replaces nothing is kept. -/
theorem keep_concat {owner : Text} {current v w : Value} {text text' : Text} {m : Modifier}
    {ms kept : List Modifier} {n : Nat} (hm : m.replaces = false)
    (hkeep : Trim.keep .standard o owner current text ms = .ok (kept, n))
    (hkept : applyAll .standard owner current kept = .ok v)
    (happly : Evaluate.apply .standard owner v m = .ok w) (hrender : Trim.render o w = .ok text') :
    Trim.keep .standard o owner current text (ms ++ [m]) = .ok (kept ++ [m], n) := by
  induction ms generalizing current text kept n with
  | nil =>
    cases hkeep
    cases hkept
    rw [List.nil_append, Trim.keep, happly]
    simp only [Except.mapError, Bind.bind, Except.bind, hrender, hm, Bool.and_false,
      Bool.false_eq_true, if_false]
    rfl
  | cons a ms ih =>
    rw [Trim.keep] at hkeep
    obtain ⟨candidate, hcandidate, hkeep⟩ := bind_eq_ok.mp hkeep
    obtain ⟨candidateText, htext, hkeep⟩ := bind_eq_ok.mp hkeep
    rw [List.cons_append, Trim.keep, hcandidate]
    simp only [Bind.bind, Except.bind, htext]
    split at hkeep
    · next hsame =>
      rw [if_pos hsame]
      obtain ⟨⟨kept', n'⟩, hrest, hkeep⟩ := bind_eq_ok.mp hkeep
      cases hkeep
      rw [ih hrest hkept]
      rfl
    · next hdiffers =>
      rw [if_neg hdiffers]
      obtain ⟨⟨kept', n'⟩, hrest, hkeep⟩ := bind_eq_ok.mp hkeep
      cases hkeep
      have hstep : applyAll .standard owner current ([a] ++ kept') = .ok v := hkept
      obtain ⟨u, hu, hrest'⟩ := applyAll_append.mp hstep
      have hcand : u = candidate := by
        have := mapError_eq_ok hcandidate
        rw [Evaluate.apply, hu] at this
        exact Except.ok.inj this
      subst hcand
      rw [ih hrest hrest']
      rfl

/-- A modifier without arguments at the end stays. -/
theorem trimModifiers_concat {ms ns : List Modifier} {n : Nat} (name : Text)
    (h : Trim.trimModifiers .standard o ms = .ok (ns, n)) :
    Trim.trimModifiers .standard o (ms ++ [.mk name []]) = .ok (ns ++ [.mk name []], n) := by
  induction ms generalizing ns n with
  | nil =>
    cases h
    rfl
  | cons m ms ih =>
    obtain ⟨name, args⟩ := m
    rw [Trim.trimModifiers] at h
    obtain ⟨⟨bs, i⟩, hbs, h⟩ := bind_eq_ok.mp h
    obtain ⟨⟨ds, j⟩, hds, h⟩ := bind_eq_ok.mp h
    cases h
    rw [List.cons_append, Trim.trimModifiers, hbs, ih hds]
    rfl

/-- Modifiers are applied to what the call without them builds. -/
theorem applyAll_of_eval {name : Text} {args : List Call} {kws : List Keyword}
    {mods : List Modifier} {base v : Value}
    (hbase : eval .standard (.factory name args kws []) = .ok base)
    (h : eval .standard (.factory name args kws mods) = .ok v) :
    applyAll .standard name base mods = .ok v := by
  obtain ⟨as, ks, x, has, hks, hx, hv⟩ := eval_factory_iff.mp h
  obtain ⟨as', ks', x', has', hks', hx', hbase'⟩ := eval_factory_iff.mp hbase
  cases has.symm.trans has'
  cases hks.symm.trans hks'
  cases hx.symm.trans hx'
  cases hbase'
  exact hv

/-- A call that ends with the layout is trimmed in front of it. -/
theorem Trims.normalize {q q' : Call} {c : NodeClass} {vs : List Value} (h : Trims o q q')
    (hq : ∃ n as ks ms, q = .factory n as ks ms) (hv : (Value.node c vs).WellFormed)
    (hc : c ≠ .documentationComment) (heval : eval .standard q' = .ok (.node c vs)) :
    Trims o (q.modifiedBy [.normalize]) (q'.modifiedBy [.normalize])
      ∧ eval .standard (q'.modifiedBy [.normalize]) = .ok ((Value.node c vs).normalized {}) := by
  obtain ⟨name, args, kws, mods, rfl⟩ := hq
  obtain ⟨n, hn⟩ := h
  rw [Trim.trim] at hn
  obtain ⟨⟨as, i⟩, has, hn⟩ := bind_eq_ok.mp hn
  obtain ⟨⟨ks, j⟩, hks, hn⟩ := bind_eq_ok.mp hn
  obtain ⟨⟨ms, k⟩, hms, hn⟩ := bind_eq_ok.mp hn
  obtain ⟨⟨d, m⟩, hchain, hn⟩ := bind_eq_ok.mp hn
  cases hn
  have hnormalized : ∀ owner, Evaluate.apply .standard owner (.node c vs) .normalize
      = .ok ((Value.node c vs).normalized {}) := fun owner =>
    applyAll_normalize owner (NodeClass.hasModifiers_of_mem hv.2.1.class_mem)
      (hv.normalized?_eq_ok Layout.isText_default)
  obtain ⟨us, hus⟩ : ∃ us, (Value.node c vs).normalized {} = .node c us := ⟨_, rfl⟩
  have hrender : ∃ t, Trim.render o ((Value.node c vs).normalized {}) = .ok t := by
    have hwf := hv.normalized
    rw [hus] at hwf ⊢
    exact ⟨_, hwf.render o hc⟩
  obtain ⟨text', hrender⟩ := hrender
  have hany : (ms ++ [Modifier.normalize]).any Modifier.replaces = ms.any Modifier.replaces := by
    rw [List.any_append]
    have : [Modifier.normalize].any Modifier.replaces = false := by decide
    rw [this, Bool.or_false]
  have hmods := trimModifiers_concat (Text.of "normalize_whitespace") hms
  rw [← Modifier.normalize] at hmods
  rw [Trim.chain] at hchain
  cases hreplaces : ms.any Modifier.replaces with
  | false =>
    rw [hreplaces] at hchain
    cases hchain
    refine ⟨⟨i + j + k + 0, ?_⟩, eval_modifiedBy heval ⟨_, _, _, _, rfl⟩ hnormalized⟩
    rw [Call.modifiedBy, Trim.trim, has, hks, hmods]
    simp only [Bind.bind, Except.bind, Trim.chain, hany, hreplaces]
    rfl
  | true =>
    rw [hreplaces, if_pos rfl] at hchain
    obtain ⟨base, hbase, hchain⟩ := bind_eq_ok.mp hchain
    obtain ⟨text, htext, hchain⟩ := bind_eq_ok.mp hchain
    obtain ⟨⟨kept, l⟩, hkeep, hchain⟩ := bind_eq_ok.mp hchain
    cases hchain
    refine ⟨⟨i + j + k + m, ?_⟩, eval_modifiedBy heval ⟨_, _, _, _, rfl⟩ hnormalized⟩
    have hkept := applyAll_of_eval (mapError_eq_ok hbase) heval
    have hconcat := keep_concat (m := .normalize) (by decide) hkeep hkept (hnormalized name) hrender
    rw [Call.modifiedBy, Trim.trim, has, hks, hmods]
    simp only [Bind.bind, Except.bind, Trim.chain, hany, hreplaces, if_true, hbase, htext, hconcat]
    rfl

/-- The trimmed call for a tree builds what is left of the tree or, under default formatting, its
layout. -/
theorem Lenient.quote {R : Value → Value → Prop} (hR : Lenient o R) {c : NodeClass}
    {vs : List Value} (h : (Value.node c vs).WellFormed) (hc : c ≠ .documentationComment)
    (hremove : o.removeRedundant = true) :
    ∃ q us, TreeQuote.quote .standard o (.node c vs) = .ok q ∧ (Value.node c us).WellFormed
      ∧ R (.node c vs) (.node c us)
      ∧ eval .standard q
        = .ok (if o.defaultFormatting then (Value.node c us).normalized {} else .node c us) := by
  obtain ⟨q, q', us, hq, htrims, heval, hus, hv⟩ := hR.quoteNode h
  have hquote : ∀ {d d' : Call}, quoteRoot .standard o (.node c vs) = .ok d → Trims o d d'
      → TreeQuote.quote .standard o (.node c vs) = .ok d' := by
    rintro d d' hd ⟨n, hn⟩
    rw [TreeQuote.quote, hd]
    simp only [Except.mapError, Bind.bind, Except.bind, hremove, if_true, hn]
    rfl
  cases ho : o.defaultFormatting with
  | false =>
    refine ⟨q', us, hquote ?_ htrims, hus, hv, heval⟩
    rw [quoteRoot, hq]
    simp only [Bind.bind, Except.bind, ho]
    rfl
  | true =>
    obtain ⟨hnormalize, heval'⟩ := htrims.normalize (quoteNode_factory hq) hus hc heval
    refine ⟨_, us, hquote ?_ hnormalize, hus, hv, heval'⟩
    rw [quoteRoot, hq]
    simp only [Bind.bind, Except.bind, ho]
    rfl

end Root

end TreeQuote.Quote
