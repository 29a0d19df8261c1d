/-
TreeQuote/Proofs/Layout/Rendering.lean

The text of a tree, as it is or in canonical layout.  A well-formed tree stays well formed when its
tokens are exchanged for well-formed ones of the same kind; so its layout is well formed, and its
text is the texts of the tokens one after the other.

Main statements: `Value.WellFormed.normalized` and `Value.WellFormed.render`.
-/
import TreeQuote.Proofs.Grammar.Exchange
import TreeQuote.Proofs.Layout.Spacing
import TreeQuote.Quote.Trim

namespace TreeQuote

namespace Value

/-! ### Exchanged tokens -/

theorem AlikeList.forall₂ {vs ws : List Value} (h : AlikeList vs ws) : List.Forall₂ Alike vs ws := by
  induction vs generalizing ws with
  | nil =>
    cases h
    exact .nil
  | cons v vs ih =>
    cases h with
    | cons hv hs => exact .cons hv (ih hs)

/-- A token stays a well-formed one. -/
theorem Alike.isToken {v w : Value} (h : Alike v w) (hv : v.IsToken)
    (hleaves : ∀ t ∈ w.leaves, t.WellFormed) : w.IsToken := by
  obtain ⟨t, rfl, ht⟩ := hv
  cases h with
  | same => exact ⟨t, rfl, ht⟩
  | @token _ u _ hpresent =>
    exact ⟨u, rfl, hleaves u (by simp [leaves, Token.isAbsent, hpresent])⟩

theorem Alike.absent {w : Value} (h : Alike (.token .absent) w) : w = .token .absent := by
  cases h with
  | same => rfl
  | token hk hpresent => exact absurd hk.symm hpresent

theorem Alike.isSeparator {v w : Value} (h : Alike v w) (hv : v.IsSeparator)
    (hleaves : ∀ t ∈ w.leaves, t.WellFormed) : w.IsSeparator := by
  rcases hv with rfl | hv
  · exact .inl h.absent
  · exact .inr (h.isToken hv hleaves)

theorem Alike.isToken_eq {v w : Value} (h : Alike v w) : w.isToken = v.isToken := by
  cases h <;> rfl

theorem alternates_alike {vs ws : List Value} (h : List.Forall₂ Alike vs ws) :
    alternates ws = alternates vs := by
  induction vs using alternates.induct generalizing ws with
  | case1 =>
    cases h
    rfl
  | case2 a =>
    cases h with
    | cons ha hs =>
      cases hs
      simp [alternates, ha.isToken_eq]
  | case3 a b rest ih =>
    cases h with
    | cons ha hs =>
      cases hs with
      | cons hb hs => simp [alternates, ha.isToken_eq, hb.isToken_eq, ih hs]

/-- What exchange keeps of each value of a list. -/
theorem forall_alike {P Q : Value → Prop} {vs ws : List Value} (h : AlikeList vs ws)
    (hleaves : ∀ t ∈ leavesList ws, t.WellFormed)
    (hPQ : ∀ v w, Alike v w → (∀ t ∈ w.leaves, t.WellFormed) → P v → Q w) (hvs : ∀ v ∈ vs, P v) :
    ∀ w ∈ ws, Q w := by
  induction vs generalizing ws with
  | nil =>
    cases h
    exact List.forall_mem_nil _
  | cons v vs ih =>
    cases h with
    | cons hv hs =>
      obtain ⟨hfirst, hrest⟩ := List.forall_mem_append.mp hleaves
      obtain ⟨hp, hps⟩ := List.forall_mem_cons.mp hvs
      exact List.forall_mem_cons.mpr ⟨hPQ v _ hv hfirst hp, ih hs hrest hps⟩

end Value

open Value

/-- A value stays one of its shape. -/
theorem Shape.Fits.alike {s : Shape} {v w : Value} (hv : s.Fits v) (h : Alike v w)
    (hleaves : ∀ t ∈ w.leaves, t.WellFormed) : s.Fits w := by
  have hnode : ∀ {t : NodeType} (v w : Value), Alike v w → (∀ t ∈ w.leaves, t.WellFormed)
      → v.isNodeOf t = true → w.isNodeOf t = true := fun _ _ h _ hv => Grammar.Alike.isNodeOf h hv
  induction s with
  | text =>
    obtain ⟨t, rfl, ht⟩ := hv
    cases h
    exact ⟨t, rfl, ht⟩
  | kind =>
    obtain ⟨k, rfl⟩ := hv
    cases h
    exact ⟨k, rfl⟩
  | token => exact h.isToken hv hleaves
  | tokens =>
    obtain ⟨vs, rfl, hvs⟩ := hv
    cases h with
    | same => exact ⟨vs, rfl, hvs⟩
    | tokens hs => exact ⟨_, rfl, forall_alike hs hleaves (fun _ _ h hl hv => h.isToken hv hl) hvs⟩
  | node t => exact hnode v w h hleaves hv
  | nodes t =>
    cases t with
    | none => exact hv.elim
    | some t =>
      obtain ⟨vs, rfl, hvs⟩ := hv
      cases h with
      | same => exact ⟨vs, rfl, hvs⟩
      | nodes hs => exact ⟨_, rfl, forall_alike hs hleaves hnode hvs⟩
  | separated t =>
    cases t with
    | none => exact hv.elim
    | some t =>
      obtain ⟨vs, rfl, halternates, hvs⟩ := hv
      cases h with
      | same => exact ⟨vs, rfl, halternates, hvs⟩
      | separated hs =>
        refine ⟨_, rfl, by rw [alternates_alike (AlikeList.forall₂ hs), halternates], ?_⟩
        exact forall_alike hs hleaves
          (fun v w h hl hv => hv.imp (hnode v w h hl) fun hv => h.isSeparator hv hl) hvs
  | optional a ih =>
    rcases hv with rfl | hv
    · cases h
      exact .inl rfl
    · exact .inr (ih hv)
  | _ => exact hv.elim

theorem Field.Fits.alike {c : NodeClass} {f : Field} {v w : Value} (hv : Field.Fits c f v)
    (h : Alike v w) (hleaves : ∀ t ∈ w.leaves, t.WellFormed) : Field.Fits c f w := by
  rcases hv with hv | ⟨hc, hname, rfl⟩
  · exact .inl (hv.alike h hleaves)
  · exact .inr ⟨hc, hname, h.absent⟩

theorem fits_alike {c : NodeClass} {fs : List Field} {vs ws : List Value}
    (hvs : List.Forall₂ (Field.Fits c) fs vs) (h : AlikeList vs ws)
    (hleaves : ∀ t ∈ leavesList ws, t.WellFormed) : List.Forall₂ (Field.Fits c) fs ws := by
  induction hvs generalizing ws with
  | nil =>
    cases h
    exact .nil
  | cons hv _ ih =>
    cases h with
    | cons hv' hs =>
      obtain ⟨hfirst, hrest⟩ := List.forall_mem_append.mp hleaves
      exact .cons (hv.alike hv' hfirst) (ih hs hrest)

theorem NodeClass.Admits.alike {c : NodeClass} {vs ws : List Value} (hvs : c.Admits vs)
    (h : AlikeList vs ws) (hleaves : ∀ t ∈ leavesList ws, t.WellFormed) : c.Admits ws where
  class_mem := hvs.class_mem
  fields := fits_alike hvs.fields h hleaves
  kind hk := by
    rw [Grammar.AlikeList.kindOf h]
    exact hvs.kind hk

namespace Value

/-- A value of a well-formed tree stays one when its tokens are exchanged for well-formed ones of
the same kind. -/
theorem Formed.alike {v : Value} (hv : v.Formed) : ∀ {w : Value}, Alike v w
    → (∀ t ∈ w.leaves, t.WellFormed) → w.Formed := by
  have hlist : ∀ {vs ws : List Value}, AlikeList vs ws → (∀ t ∈ leavesList ws, t.WellFormed)
      → (∀ v ∈ vs, ∀ {w : Value}, Alike v w → (∀ t ∈ w.leaves, t.WellFormed) → w.Formed)
      → ∀ w ∈ ws, w.Formed :=
    fun h hl hvs => forall_alike h hl (fun _ _ h hl hv => hv h hl) hvs
  induction hv with
  | none =>
    intro w h _
    cases h
    exact .none
  | text ht =>
    intro w h _
    cases h
    exact .text ht
  | kind k =>
    intro w h _
    cases h
    exact .kind k
  | token ht =>
    intro w h hl
    exact (h.isToken ⟨_, rfl, ht⟩ hl).formed
  | absent =>
    intro w h _
    rw [h.absent]
    exact .absent
  | tokens ht hvs ih =>
    intro w h hl
    cases h with
    | same => exact .tokens ht hvs
    | tokens hs => exact .tokens (forall_alike hs hl (fun _ _ h hl hv => h.isToken hv hl) ht) (hlist hs hl ih)
  | @nodes t vs ht hvs ih =>
    intro w h hl
    cases h with
    | same => exact .nodes ht hvs
    | nodes hs =>
      exact .nodes (t := t) (forall_alike hs hl (fun _ _ h _ hv => Grammar.Alike.isNodeOf h hv) ht)
        (hlist hs hl ih)
  | @separated t vs halternates ht hvs ih =>
    intro w h hl
    cases h with
    | same => exact .separated halternates ht hvs
    | separated hs =>
      refine .separated (t := t) (by rw [alternates_alike (AlikeList.forall₂ hs), halternates]) ?_
        (hlist hs hl ih)
      exact forall_alike hs hl (fun _ _ h hl hv => hv.imp (Grammar.Alike.isNodeOf h)
        fun hv => h.isSeparator hv hl) ht
  | node hadmits hvs ih =>
    intro w h hl
    cases h with
    | same => exact .node hadmits hvs
    | node hs => exact .node (hadmits.alike hs hl) (hlist hs hl ih)

/-! ### Layout -/

end Value

namespace Layout

theorem wellFormed_default : HoldsOfBlanks {} Trivia.WellFormed where
  space := ⟨.whitespace _, Text.unmixed_of_plain (by decide)⟩
  lineBreak depth := by
    have htabs : ∀ n, (Text.copies n (Text.of "\t")).any CodePoint.isSurrogate = false := by
      intro n
      induction n with
      | zero => rfl
      | succ n ih => rw [Text.copies, List.any_append, ih]; rfl
    rw [lineBreak, List.forall_mem_cons]
    refine ⟨⟨.endOfLine _, Text.unmixed_of_plain (by decide)⟩, ?_⟩
    rw [indent]
    split
    · exact List.forall_mem_nil _
    · exact List.forall_mem_singleton.mpr ⟨.whitespace _, Text.unmixed_of_plain (htabs depth)⟩

theorem layoutAfter_core {L : Layout} (p : Place) (depth : Nat) (before : Text) (ps : List Place) :
    (L.layoutAfter p depth before ps).2.map Token.core = ps.map fun q => q.token.core := by
  induction ps generalizing p depth before with
  | nil => rfl
  | cons q ps ih => rw [layoutAfter_cons, List.map_cons, List.map_cons, behind, ih]; rfl

/-- Layout changes the trivia only. -/
theorem tokens_core {L : Layout} (ps : List Place) :
    (L.tokens ps).map Token.core = ps.map fun p => p.token.core := by
  cases ps with
  | nil => rfl
  | cons p ps => rw [tokens_cons, List.map_cons, List.map_cons, behind, layoutAfter_core]; rfl

theorem core_of_mem_tokens {L : Layout} {ps : List Place} {t : Token} (ht : t ∈ L.tokens ps) :
    ∃ p ∈ ps, t.core = p.token.core := by
  have hcore : t.core ∈ ps.map fun p => p.token.core := by
    rw [← tokens_core (L := L)]
    exact List.mem_map_of_mem ht
  obtain ⟨p, hp, hcore⟩ := List.mem_map.mp hcore
  exact ⟨p, hp, hcore.symm⟩

end Layout

theorem Token.Built.congr {t u : Token} (h : t.Built) (hcore : u.core = t.core) : u.Built := by
  have hkind : u.kind = t.kind := congrArg (·.kind) hcore
  have htext : u.text = t.text := congrArg (·.text) hcore
  have hvalue : u.value = t.value := congrArg (·.value) hcore
  cases h with
  | fixed h => exact .fixed (by rw [hkind, hcore, h])
  | identifier h => exact .identifier (by rw [htext, hcore, h])
  | literal h => exact .literal (by rw [htext, hvalue, hcore, h])
  | missing h => exact .missing (by rw [hkind, hcore, h])

/-- A token with other trivia. -/
theorem Token.WellFormed.congr {t u : Token} (h : t.WellFormed) (hcore : u.core = t.core)
    (hlead : ∀ c ∈ u.leading, c.WellFormed) (htrail : ∀ c ∈ u.trailing, c.WellFormed) :
    u.WellFormed where
  built := h.built.congr hcore
  present := (congrArg (·.kind) hcore : u.kind = t.kind) ▸ h.present
  leading := hlead
  trailing := htrail
  text := (congrArg (·.text) hcore : u.text = t.text) ▸ h.text
  value := (congrArg (·.value) hcore : u.value = t.value) ▸ h.value

namespace Layout

/-- Laid-out tokens are well formed. -/
theorem tokens_wellFormed {ps : List Place} (hps : ∀ p ∈ ps, p.token.WellFormed) :
    ∀ t ∈ Layout.tokens {} ps, t.WellFormed := by
  intro t ht
  obtain ⟨p, hp, hcore⟩ := core_of_mem_tokens ht
  have htrivia := forall_tokens wellFormed_default
    (fun p hp => ⟨(hps p hp).leading, (hps p hp).trailing⟩) t ht
  exact (hps p hp).congr hcore htrivia.1 htrivia.2

end Layout

namespace Value

variable {v : Value}

theorem WellFormed.leaves_places (hv : v.WellFormed) : v.places.map (·.token) = v.leaves := by
  obtain ⟨⟨c, vs, rfl⟩, -⟩ := hv
  exact nodeTokens_node c vs

/-- The layout of a node takes the places of its tokens. -/
theorem normalized_refilled (L : Layout) (c : NodeClass) (vs : List Value) :
    Alike (.node c vs) ((Value.node c vs).normalized L)
      ∧ ((Value.node c vs).normalized L).leaves = L.tokens (Value.node c vs).places := by
  have hkinds : kinds (L.tokens (Value.node c vs).places) = kinds (Value.node c vs).leaves := by
    have hcore := congrArg (List.map fun t : Token => t.kind)
      (Layout.tokens_core (L := L) (Value.node c vs).places)
    rw [show (Value.node c vs).leaves = _ from (nodeTokens_node c vs).symm, nodeTokens]
    simpa [kinds, List.map_map, Function.comp_def, Token.core] using hcore
  exact refill_of_kinds hkinds

theorem WellFormed.refilled (hv : v.WellFormed) :
    Alike v (v.normalized {}) ∧ (v.normalized {}).leaves = Layout.tokens {} v.places := by
  obtain ⟨⟨c, vs, rfl⟩, -⟩ := hv
  exact normalized_refilled {} c vs

/-- The layout of a well-formed tree is well formed. -/
theorem WellFormed.normalized (hv : v.WellFormed) : (v.normalized {}).WellFormed := by
  obtain ⟨halike, hleaves⟩ := hv.refilled
  have hformed := hv.formed.alike halike (by
    rw [hleaves]
    exact Layout.tokens_wellFormed fun p hp => (hv.places_sound p hp).2)
  refine ⟨?_, hformed.all⟩
  obtain ⟨⟨c, vs, rfl⟩, -⟩ := hv
  exact ⟨c, _, rfl⟩

/-! ### Text -/

theorem IsToken.plain (h : v.IsToken) : v.Plain := by
  obtain ⟨t, rfl, -⟩ := h
  trivial

theorem isItem_of_isNodeOf {t : NodeType} (h : v.isNodeOf t = true) : v.IsItem :=
  Grammar.isItem_of_isNodeOf h

end Value

theorem Shape.Fits.plain {s : Shape} {v : Value} (h : s.Fits v) : v.Plain := by
  induction s with
  | text => obtain ⟨t, rfl, -⟩ := h; trivial
  | kind => obtain ⟨k, rfl⟩ := h; trivial
  | token => exact IsToken.plain h
  | tokens =>
    obtain ⟨vs, rfl, hvs⟩ := h
    intro w hw
    obtain ⟨t, rfl, -⟩ := hvs w hw
    exact .inl ⟨t, rfl⟩
  | node t => exact (isItem_of_isNodeOf h).plain
  | nodes t =>
    cases t with
    | none => exact h.elim
    | some t =>
      obtain ⟨vs, rfl, hvs⟩ := h
      exact fun w hw => isItem_of_isNodeOf (hvs w hw)
  | separated t =>
    cases t with
    | none => exact h.elim
    | some t =>
      obtain ⟨vs, rfl, -, hvs⟩ := h
      intro w hw
      rcases hvs w hw with hw | rfl | ⟨t, rfl, -⟩
      · exact isItem_of_isNodeOf hw
      · exact .inl ⟨_, rfl⟩
      · exact .inl ⟨t, rfl⟩
  | optional a ih =>
    rcases h with rfl | h
    · trivial
    · exact ih h
  | _ => exact h.elim

theorem NodeClass.Admits.plain {c : NodeClass} {vs : List Value} (h : c.Admits vs) :
    ∀ v ∈ vs, v.Plain := by
  intro v hv
  obtain ⟨f, hfits | ⟨-, -, rfl⟩⟩ := exists_fits h.fields v hv
  · exact hfits.plain
  · trivial

namespace Value

/-- The text of a well-formed tree is the texts of its tokens. -/
theorem WellFormed.fullText? {c : NodeClass} {vs : List Value}
    (hv : (Value.node c vs).WellFormed) (hc : c ≠ .documentationComment) :
    (Value.node c vs).fullText? = .ok (tokensText (Value.node c vs).leaves) := by
  have htext : (Value.node c vs).fullText? = tokenTextList? vs := by
    cases c <;> first | exact absurd rfl hc | rfl
  rw [htext]
  have hleaves : ∀ t ∈ (Value.node c vs).leaves, t.WellFormed := by
    rw [← hv.leaves_places]
    exact List.forall_mem_map.mpr fun p hp => (hv.places_sound p hp).2
  refine tokenTextList?_leaves (fun _ _ h => h.plain) vs hv.2.1.plain hv.2.2 fun t ht => ?_
  exact Token.fullText?_eq_ok (fun c hc => ((hleaves t ht).leading c hc).built.flaw)
    fun c hc => ((hleaves t ht).trailing c hc).built.flaw

/-- The text of a tree, in canonical layout under default formatting. -/
def rendered (o : Options) (v : Value) : Text :=
  tokensText (if o.defaultFormatting then Layout.tokens {} v.places else v.leaves)

/-- A well-formed tree has a text. -/
theorem WellFormed.render {c : NodeClass} {vs : List Value} (o : Options)
    (hv : (Value.node c vs).WellFormed) (hc : c ≠ .documentationComment) :
    Trim.render o (.node c vs) = .ok ((Value.node c vs).rendered o) := by
  rw [Trim.render, rendered]
  cases o.defaultFormatting with
  | false =>
    simp only [Bool.false_eq_true, if_false, hv.fullText? hc]
    rfl
  | true =>
    have hnormalized := hv.normalized
    obtain ⟨us, hus⟩ : ∃ us, (Value.node c vs).normalized {} = .node c us := ⟨_, rfl⟩
    have htext : ((Value.node c vs).normalized {}).fullText?
        = .ok (tokensText (Layout.tokens {} (Value.node c vs).places)) := by
      rw [← hv.refilled.2]
      rw [hus] at hnormalized ⊢
      exact hnormalized.fullText? hc
    simp only [if_true, hv.normalized?_eq_ok Layout.isText_default]
    show Except.mapError _ _ = _
    rw [htext]
    rfl

end Value

end TreeQuote
