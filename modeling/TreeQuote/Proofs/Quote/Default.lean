/-
TreeQuote/Proofs/Quote/Default.lean

What a property gets that no parameter of an overload takes: the value for absence if it may be
absent, and else the token with its fixed text or two brackets with nothing between them
(`Field.Standard`).  The catalogue is finite, so that this is so is computed.

A node stays well formed when properties get such values.

Main statements: `Quote.Suits.standard` and `Quote.admits_baseline`.
-/
import TreeQuote.Proofs.Quote.Assembly
import TreeQuote.Proofs.Quote.Traversal

namespace TreeQuote

/-! ### Values by default -/

/-- The brackets of a class, and what stands between them by default. -/
def NodeClass.brackets? : NodeClass → Option (Kind × Value × Kind)
  | .block => some (.openBraceToken, .nodes [], .closeBraceToken)
  | .parameterList => some (.openParenToken, .separated [], .closeParenToken)
  | .argumentList => some (.openParenToken, .separated [], .closeParenToken)
  | .typeArgumentList => some (.lessThanToken, .separated [], .greaterThanToken)
  | _ => none

/-- What a property gets by default. -/
inductive Field.Standard (c : NodeClass) (f : Field) : Value → Prop where
  | blank {v : Value} (hlack : f.mayLack c = true) (hv : f.isBlank v = true) : Standard c f v
  | token {k : Kind} {t : Text} (hlack : f.mayLack c = false) (hshape : f.shape = .token)
      (hk : k.fixedText? = some t) : Standard c f (Recipe.fixedToken k)
  | brackets {d : NodeClass} {k l : Kind} {v : Value} (hlack : f.mayLack c = false)
      (hshape : f.shape = .node (.cls d)) (hd : d.brackets? = some (k, v, l)) :
      Standard c f (.node d [Recipe.fixedToken k, v, Recipe.fixedToken l])

/-- Two empty lists of the same sort. -/
def Value.emptyAlike : Value → Value → Bool
  | .nodes [], .nodes [] => true
  | .separated [], .separated [] => true
  | _, _ => false

/-- The computed form of `Standard`. -/
def Field.isStandard (c : NodeClass) (f : Field) (v : Value) : Bool :=
  if f.mayLack c then f.isBlank v
  else match v with
    | .token t => f.shape = .token && t.kind.fixedText?.isSome && Token.fixed? t.kind = some t
    | .node d [.token a, m, .token b] => f.shape = .node (.cls d) && (match d.brackets? with
      | some (k, n, l) => Token.fixed? k = some a && Token.fixed? l = some b && n.emptyAlike m
      | none => false)
    | _ => false

namespace Field.Standard

variable {c : NodeClass} {f : Field} {v : Value}

theorem of_isStandard (h : f.isStandard c v = true) : Standard c f v := by
  unfold isStandard at h
  cases hlack : f.mayLack c with
  | true =>
    rw [hlack, if_pos rfl] at h
    exact .blank hlack h
  | false =>
    rw [hlack, if_neg Bool.false_ne_true] at h
    split at h
    · next t =>
      simp only [Bool.and_eq_true, decide_eq_true_eq] at h
      obtain ⟨⟨hshape, hk⟩, hfixed⟩ := h
      obtain ⟨s, hs⟩ := Option.isSome_iff_exists.mp hk
      have ht : Value.token t = Recipe.fixedToken t.kind := by rw [Recipe.fixedToken, hfixed]; rfl
      rw [ht]
      exact .token hlack hshape hs
    · next d a m b =>
      simp only [Bool.and_eq_true, decide_eq_true_eq] at h
      obtain ⟨hshape, h⟩ := h
      split at h
      · next k n l hd =>
        simp only [Bool.and_eq_true, decide_eq_true_eq] at h
        obtain ⟨⟨ha, hb⟩, hm⟩ := h
        have hn : n = m := by
          unfold Value.emptyAlike at hm
          split at hm <;> first | rfl | cases hm
        have hka : Value.token a = Recipe.fixedToken k := by rw [Recipe.fixedToken, ha]; rfl
        have hlb : Value.token b = Recipe.fixedToken l := by rw [Recipe.fixedToken, hb]; rfl
        rw [hka, hlb, ← hn]
        exact .brackets hlack hshape hd
      · cases h
    · cases h

end Field.Standard

/-! ### The catalogue -/

/-- The value that the part gives by default is a standard one. -/
def Part.isStandard (c : NodeClass) (f : Field) : Part → Bool
  | .fixed v => f.isStandard c v
  | .operator _ =>
    f.shape = .token && !f.mayLack c && c.kindTable.all fun p => p.2.fixedText?.isSome
  | _ => true

/-- All values by default of a recipe are standard. -/
def Recipe.isStandard (r : Recipe) : Bool :=
  match r with
  | .node c parts => (c.fields.zip parts).all fun p => p.2.isStandard c p.1
  | _ => true

theorem Registry.isStandard_language :
    (Registry.language.all fun f => f.overloads.all fun o => o.recipe.isStandard) = true := by
  decide +kernel

namespace Quote

variable {c : NodeClass} {k : Kind} {qs : List (Option Call)} {p : Plan}

/-- The token of a kind in a table. -/
theorem tokenOf?_of_isIn {table : List (Kind × Kind)} (h : Kind.isIn table k = true) :
    ∃ t, Kind.tokenOf? table k = some t ∧ (k, t) ∈ table := by
  induction table with
  | nil => cases h
  | cons a table ih =>
    obtain ⟨l, t⟩ := a
    by_cases hl : k = l
    · subst hl
      exact ⟨t, by simp [Kind.tokenOf?], List.mem_cons_self⟩
    · have hrest : Kind.isIn table k = true := by
        rw [Kind.isIn, List.any_cons, Bool.or_eq_true, decide_eq_true_eq] at h
        exact h.resolve_left fun he => hl he.symm
      obtain ⟨u, hu, hmem⟩ := ih hrest
      refine ⟨u, ?_, List.mem_cons_of_mem _ hmem⟩
      have hne : (k == l) = false := by simpa using hl
      rw [Kind.tokenOf?, List.lookup_cons, hne]
      exact hu

/-- The properties that a plan leaves out get standard values. -/
theorem Suits.standard (hsuits : Suits c k qs p)
    (hkind : c.kind? = none → Kind.isIn c.kindTable k = true) :
    ∀ x ∈ c.fields.zip p.overload.recipe.parts, x.2.leaves c x.1 = true
      → Field.Standard c x.1 ((x.2.default? c k).getD .none) := by
  have hmem : p.overload ∈ p.factory.overloads := by
    rw [hsuits.sound.overloads]
    exact List.mem_append_right _ List.mem_cons_self
  have hrecipe := List.all_eq_true.mp
    (List.all_eq_true.mp Registry.isStandard_language _ hsuits.sound.mem) _ hmem
  rcases hsuits.sound.recipe with ⟨parts, hparts⟩ | ⟨rfl, hparts⟩
  · rw [hparts] at hrecipe ⊢
    rintro ⟨f, part⟩ hx hleaves
    have hstandard : part.isStandard c f = true := List.all_eq_true.mp hrecipe _ hx
    cases part with
    | fixed v => exact .of_isStandard hstandard
    | operator i =>
      simp only [Part.isStandard, Bool.and_eq_true, decide_eq_true_eq, Bool.not_eq_true',
        List.all_eq_true] at hstandard
      obtain ⟨⟨hshape, hlack⟩, htable⟩ := hstandard
      simp only [Part.leaves, Bool.and_eq_true, Option.isNone_iff_eq_none] at hleaves
      obtain ⟨t, ht, hmem⟩ := tokenOf?_of_isIn (hkind hleaves.2)
      obtain ⟨s, hs⟩ := Option.isSome_iff_exists.mp (htable _ hmem)
      show Field.Standard c f (Recipe.fixedToken _)
      rw [ht]
      exact .token hlack hshape hs
    | _ => cases hleaves
  · rw [hparts]
    have htoken : ∀ t, (t = .trueKeyword ∨ t = .falseKeyword)
        → Field.Standard .literalExpression ⟨Text.of "token", .token⟩ (Recipe.fixedToken t) := by
      rintro t (rfl | rfl)
      · exact .token rfl rfl rfl
      · exact .token rfl rfl rfl
    simp only [Recipe.parts, NodeClass.fields, List.zip_cons_cons, List.zip_nil_right,
      List.forall_mem_cons]
    refine ⟨fun hleaves => Bool.noConfusion hleaves, fun _ => ?_, List.forall_mem_nil _⟩
    rcases hsuits.keyword hparts with rfl | rfl
    · exact htoken _ (.inl rfl)
    · exact htoken _ (.inr rfl)

end Quote

/-! ### Well-formed nodes -/

theorem Recipe.fixedToken_eq {k : Kind} {t : Text} (hk : k.fixedText? = some t) :
    Recipe.fixedToken k = .token { kind := k, text := t, value := .str t } := by
  have hne : k ≠ .none := by rintro rfl; cases hk
  rw [Recipe.fixedToken, Token.fixed?, if_neg hne, hk]
  rfl

theorem Recipe.fixedToken_isToken {k : Kind} {t : Text} (hk : k.fixedText? = some t) :
    (Recipe.fixedToken k).IsToken :=
  ⟨_, Recipe.fixedToken_eq hk, .of_fixed (List.forall_mem_nil _) (List.forall_mem_nil _) hk⟩

/-- The value that stands for absence fits its property. -/
theorem Field.fits_of_isBlank {c : NodeClass} {f : Field} {v w : Value} (hf : f ∈ c.fields)
    (hw : Field.Fits c f w) (hlack : f.mayLack c = true) (h : f.isBlank v = true) :
    Field.Fits c f v ∧ v.Formed := by
  unfold isBlank at h
  split at h
  · split at h
    · next a hs => exact ⟨.inl (by rw [hs]; exact .inl rfl), .none⟩
    · cases h
  · simp only [decide_eq_true_eq] at h
    have hnil : ∀ u ∈ ([] : List Value), u.IsToken := List.forall_mem_nil _
    exact ⟨.inl (by rw [h]; exact ⟨[], rfl, hnil⟩), .tokens hnil (List.forall_mem_nil _)⟩
  · split at h
    · next t hs =>
      have hfits := hw.shape hf (by rw [hs]; nofun)
      rw [hs] at hfits
      cases t with
      | none => exact hfits.elim
      | some t =>
        have hnil : ∀ u ∈ ([] : List Value), u.isNodeOf t = true := List.forall_mem_nil _
        exact ⟨.inl (by rw [hs]; exact ⟨[], rfl, hnil⟩), .nodes hnil (List.forall_mem_nil _)⟩
    · cases h
  · split at h
    · next t hs =>
      have hfits := hw.shape hf (by rw [hs]; nofun)
      rw [hs] at hfits
      cases t with
      | none => exact hfits.elim
      | some t =>
        have hnil : ∀ u ∈ ([] : List Value), u.isNodeOf t = true ∨ u.IsSeparator :=
          List.forall_mem_nil _
        exact ⟨.inl (by rw [hs]; exact ⟨[], rfl, rfl, hnil⟩),
          .separated rfl hnil (List.forall_mem_nil _)⟩
    · cases h
  · simp only [Bool.and_eq_true, decide_eq_true_eq] at h
    obtain ⟨rfl, hs⟩ := h
    have hplace : c = .structDeclaration ∧ f.name = Text.of "semicolon_token" := by
      simpa [mayLack, hs] using hlack
    exact ⟨.inr ⟨hplace.1, hplace.2, rfl⟩, .absent⟩
  · cases h

/-- Brackets with nothing between them are well formed. -/
theorem NodeClass.brackets_formed {d : NodeClass} {k l : Kind} {v : Value}
    (hd : d.brackets? = some (k, v, l)) :
    (Value.node d [Recipe.fixedToken k, v, Recipe.fixedToken l]).Formed := by
  have hadmits : ∀ {d : NodeClass} {a b : Field} {m : Field} {v : Value}, d ∈ NodeClass.all
      → d.fields = [a, m, b] → a.shape = .token → b.shape = .token → m.shape.Fits v
      → (Recipe.fixedToken k).IsToken → (Recipe.fixedToken l).IsToken → d.kind?.isSome = true
      → v.Formed → (Value.node d [Recipe.fixedToken k, v, Recipe.fixedToken l]).Formed := by
    intro d a b m v hmem hfields ha hb hm hk hl hkind hv
    refine .node ⟨hmem, ?_, fun hnone => by rw [hnone] at hkind; cases hkind⟩ ?_
    · rw [hfields]
      exact .cons (.inl (by rw [ha]; exact hk)) (.cons (.inl hm) (.cons (.inl (by rw [hb]; exact hl)) .nil))
    · simpa using ⟨hk.formed, hv, hl.formed⟩
  have hnodes : ∀ t : NodeType, (Shape.nodes (some t)).Fits (.nodes []) :=
    fun t => ⟨[], rfl, List.forall_mem_nil _⟩
  have hseparated : ∀ t : NodeType, (Shape.separated (some t)).Fits (.separated []) :=
    fun t => ⟨[], rfl, rfl, List.forall_mem_nil _⟩
  have hnoNodes : (Value.nodes []).Formed :=
    .nodes (t := .category .node) (List.forall_mem_nil _) (List.forall_mem_nil _)
  have hnoItems : (Value.separated []).Formed :=
    .separated (t := .category .node) rfl (List.forall_mem_nil _) (List.forall_mem_nil _)
  cases d <;> cases hd
  · exact hadmits (by decide) rfl rfl rfl (hseparated _) (Recipe.fixedToken_isToken rfl)
      (Recipe.fixedToken_isToken rfl) rfl hnoItems
  · exact hadmits (by decide) rfl rfl rfl (hnodes _) (Recipe.fixedToken_isToken rfl)
      (Recipe.fixedToken_isToken rfl) rfl hnoNodes
  · exact hadmits (by decide) rfl rfl rfl (hseparated _) (Recipe.fixedToken_isToken rfl)
      (Recipe.fixedToken_isToken rfl) rfl hnoItems
  · exact hadmits (by decide) rfl rfl rfl (hseparated _) (Recipe.fixedToken_isToken rfl)
      (Recipe.fixedToken_isToken rfl) rfl hnoItems

/-- A value by default fits its property. -/
theorem Field.Standard.fits {c : NodeClass} {f : Field} {v w : Value} (h : f.Standard c v)
    (hf : f ∈ c.fields) (hw : Field.Fits c f w) : Field.Fits c f v ∧ v.Formed := by
  cases h with
  | blank hlack hv => exact Field.fits_of_isBlank hf hw hlack hv
  | token _ hshape hk =>
    have ht := Recipe.fixedToken_isToken hk
    exact ⟨.inl (by rw [hshape]; exact ht), ht.formed⟩
  | @brackets d k l v _ hshape hd =>
    refine ⟨.inl ?_, NodeClass.brackets_formed hd⟩
    rw [hshape]
    simp [Shape.Fits, Value.isNodeOf, NodeType.holds]

/-- Documentation has no values by default. -/
theorem Field.Standard.ne_documentation {c : NodeClass} {f : Field} {v : Value} (h : f.Standard c v)
    (hf : f ∈ c.fields) : c ≠ .documentationComment := by
  rintro rfl
  rw [NodeClass.fields, List.mem_singleton] at hf
  subst hf
  cases h with
  | blank hlack => cases hlack
  | token _ hs => cases hs
  | brackets _ hs => cases hs

namespace Quote

variable {c : NodeClass} {k : Kind} {fs : List Field} {parts : List Part} {vs : List Value}

/-- The properties that have their value or the one by default fit. -/
theorem baseline_fits (hvs : List.Forall₂ (Field.Fits c) fs vs) (hlen : fs.length = parts.length)
    (hfs : ∀ f ∈ fs, f ∈ c.fields) (hall : ∀ v ∈ vs, v.Formed)
    (hstandard : ∀ x ∈ fs.zip parts, x.2.leaves c x.1 = true
      → Field.Standard c x.1 ((x.2.default? c k).getD .none)) :
    List.Forall₂ (Field.Fits c) fs (baseline c k fs parts vs)
      ∧ ∀ v ∈ baseline c k fs parts vs, v.Formed := by
  induction hvs generalizing parts with
  | nil => cases parts <;> exact ⟨.nil, List.forall_mem_nil _⟩
  | @cons f v fs vs hv _ ih =>
    cases parts with
    | nil => cases hlen
    | cons part parts =>
      rw [List.zip_cons_cons, List.forall_mem_cons] at hstandard
      obtain ⟨hf, hfs⟩ := List.forall_mem_cons.mp hfs
      obtain ⟨hformed, hall⟩ := List.forall_mem_cons.mp hall
      obtain ⟨hrest, hrestAll⟩ := ih (Nat.succ.inj hlen) hfs hall hstandard.2
      rw [baseline]
      cases hleaves : part.leaves c f with
      | false => exact ⟨.cons hv hrest, List.forall_mem_cons.mpr ⟨hformed, hrestAll⟩⟩
      | true =>
        obtain ⟨hfits, hdefault⟩ := (hstandard.1 hleaves).fits hf hv
        exact ⟨.cons hfits hrest, List.forall_mem_cons.mpr ⟨hdefault, hrestAll⟩⟩

end Quote

end TreeQuote
