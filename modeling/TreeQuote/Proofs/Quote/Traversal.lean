/-
TreeQuote/Proofs/Quote/Traversal.lean

Quoting as a traversal of the tree.  `Sense o K` says that `K`, a relation between values and
calls, is kept by each of the steps by which quoting makes a call from those of the parts: so it
holds between every well-formed tree and its call.  What a call evaluates to, what is left of it
when it is trimmed and how it is printed are all such relations.

Main statement: `Quote.Sense.quoteNode`.
-/
import TreeQuote.Proofs.Quote.Selection

namespace TreeQuote.Quote

open Evaluate

/-- What the steps of quoting keep. -/
structure Sense (o : Options) (K : Value → Call → Prop) : Prop where
  text {t : Text} : t.Unmixed → K (.str t) (.ofText t)
  kind (k : Kind) : K (.kind k) (.ofKind k)
  token {t : Token} {q : Call} : t.WellFormed → quoteToken .standard o t = .ok (some q)
    → K (.token t) q
  /-- The absent token as a separator. -/
  absent : K (.token .absent) (separatorCall none)
  tokens {vs : List Value} {cs : List Call} {q : Call} : (∀ v ∈ vs, v.IsToken)
    → List.Forall₂ K vs cs → listCall (Text.of "token_list") cs = some q → K (.tokens vs) q
  nodes {t : NodeType} {vs : List Value} {cs : List Call} {q : Call} : t ∈ NodeType.all
    → (∀ v ∈ vs, v.isNodeOf t = true) → List.Forall₂ K vs cs
    → listCall (listName "singleton_list" "syntax_list" t.name cs) cs = some q → K (.nodes vs) q
  separated {t : NodeType} {vs : List Value} {cs : List Call} {q : Call} : t ∈ NodeType.all
    → Value.alternates vs = true → (∀ v ∈ vs, v.isNodeOf t = true ∨ v.IsSeparator)
    → List.Forall₂ K vs cs
    → listCall (listName "singleton_separated_list" "separated_list" t.name cs) cs = some q
    → K (.separated vs) q
  node {c : NodeClass} {vs : List Value} {qs : List (Option Call)} {p : Plan} : c.Admits vs
    → Rows K c c.fields vs qs → Suits c (Value.kindOf c vs) qs p → K (.node c vs) (planCall c p qs)

variable {o : Options} {K : Value → Call → Prop} (hK : Sense o K)

/-! ### Lists -/

theorem listCall_nil_or (name : Text) (cs : List Call) :
    (cs = [] ∧ listCall name cs = none) ∨ cs ≠ [] ∧ ∃ q, listCall name cs = some q := by
  rcases cs with _ | ⟨c, _ | ⟨d, cs⟩⟩
  · exact .inl ⟨rfl, rfl⟩
  · exact .inr ⟨nofun, _, rfl⟩
  · exact .inr ⟨nofun, _, rfl⟩

/-- The nodes of a list can be taken out of its call. -/
theorem listItems?_listCall {t : Text} {cs : List Call} {q : Call}
    (h : listCall (listName "singleton_list" "syntax_list" t cs) cs = some q) :
    listItems? q = some cs := by
  have hone : Call.baseName (Text.of "singleton_list" ++ Text.of "[" ++ t ++ Text.of "]")
      = Text.of "singleton_list" := Call.baseName_typed (Registry.no_bracket (Registry.list_mem 1 rfl))
  have hmany : Call.baseName (Text.of "syntax_list" ++ Text.of "[" ++ t ++ Text.of "]")
      = Text.of "syntax_list" := Call.baseName_typed (Registry.no_bracket (Registry.list_mem 0 rfl))
  simp only [List.append_assoc] at hone hmany
  have hne : Text.of "syntax_list" ≠ Text.of "singleton_list" := by decide
  rcases cs with _ | ⟨c, _ | ⟨d, cs⟩⟩
  · cases h
  · cases h
    cases c <;> simp [listItems?, listName, hone]
  · cases h
    simp [listItems?, listName, hmany, hne]

section Members

include hK

/-- The call for a token. -/
theorem Sense.quoteToken {t : Token} (h : t.WellFormed) :
    ∃ q, Quote.quoteToken .standard o t = .ok (some q) ∧ K (.token t) q := by
  obtain ⟨q, hq, -⟩ := eval_quoteToken (o := o) h
  exact ⟨q, hq, hK.token h hq⟩

theorem Sense.quoteTokens {vs : List Value} (h : ∀ v ∈ vs, v.IsToken) :
    ∃ cs, quoteEach (quoteMember .standard o) vs = .ok cs ∧ List.Forall₂ K vs cs := by
  induction vs with
  | nil => exact ⟨[], rfl, .nil⟩
  | cons v vs ih =>
    obtain ⟨t, rfl, ht⟩ := h v List.mem_cons_self
    obtain ⟨q, hq, hsense⟩ := hK.quoteToken ht
    obtain ⟨cs, hcs, hrest⟩ := ih fun w hw => h w (List.mem_cons_of_mem _ hw)
    refine ⟨q :: cs, ?_, .cons hsense hrest⟩
    rw [quoteEach, quoteMember, hq]
    show (do return q :: (← quoteEach (quoteMember .standard o) vs)) = _
    rw [hcs]
    rfl

omit hK

/-- The node has its call. -/
def Quotable (o : Options) (K : Value → Call → Prop) (v : Value) : Prop :=
  ∀ c vs, v = .node c vs → ∃ q, nodeCall .standard c vs (quoteFields .standard o c.fields vs) = .ok q
    ∧ K v q

theorem quoteNodes_sense {t : NodeType} {vs : List Value} (hvs : ∀ v ∈ vs, Quotable o K v)
    (h : ∀ v ∈ vs, v.isNodeOf t = true) :
    ∃ cs, quoteNodes .standard o vs = .ok cs ∧ List.Forall₂ K vs cs := by
  induction vs with
  | nil => exact ⟨[], rfl, .nil⟩
  | cons v vs ih =>
    obtain ⟨cs, hcs, hrest⟩ := ih (fun w hw => hvs w (List.mem_cons_of_mem v hw))
      fun w hw => h w (List.mem_cons_of_mem v hw)
    cases v with
    | node c fields =>
      obtain ⟨q, hq, hsense⟩ := hvs _ List.mem_cons_self c fields rfl
      refine ⟨q :: cs, ?_, .cons hsense hrest⟩
      rw [quoteNodes, hq]
      show (do return q :: (← quoteNodes .standard o vs)) = _
      rw [hcs]
      rfl
    | _ => cases h _ List.mem_cons_self

include hK in
theorem quoteItems_sense {t : NodeType} {vs : List Value} (hvs : ∀ v ∈ vs, Quotable o K v)
    (h : ∀ v ∈ vs, v.isNodeOf t = true ∨ v.IsSeparator) :
    ∃ cs, quoteItems .standard o vs = .ok cs ∧ List.Forall₂ K vs cs := by
  induction vs with
  | nil => exact ⟨[], rfl, .nil⟩
  | cons v vs ih =>
    obtain ⟨cs, hcs, hrest⟩ := ih (fun w hw => hvs w (List.mem_cons_of_mem v hw))
      fun w hw => h w (List.mem_cons_of_mem v hw)
    have htoken : ∀ t q, v = .token t → Quote.quoteToken .standard o t = .ok q
        → K v (separatorCall q)
        → ∃ cs, quoteItems .standard o (v :: vs) = .ok cs ∧ List.Forall₂ K (v :: vs) cs := by
      rintro t q rfl hq hsense
      refine ⟨separatorCall q :: cs, ?_, .cons hsense hrest⟩
      rw [quoteItems, hq]
      show (do return separatorCall q :: (← quoteItems .standard o vs)) = _
      rw [hcs]
      rfl
    rcases h v List.mem_cons_self with hnode | rfl | ⟨t, rfl, ht⟩
    · cases v with
      | node c fields =>
        obtain ⟨q, hq, hsense⟩ := hvs _ List.mem_cons_self c fields rfl
        refine ⟨q :: cs, ?_, .cons hsense hrest⟩
        rw [quoteItems, hq]
        show (do return q :: (← quoteItems .standard o vs)) = _
        rw [hcs]
        rfl
      | _ => cases hnode
    · exact htoken .absent none rfl rfl hK.absent
    · obtain ⟨q, hq, hsense⟩ := hK.quoteToken ht
      exact htoken t (some q) rfl hq hsense

end Members

/-! ### Properties -/

section Properties

variable {c : NodeClass} {f : Field}

/-- The element types of lists are types of the language, and only nodes are optional. -/
theorem tidy_shape (hc : c ∈ NodeClass.all) (hf : f ∈ c.fields) :
    (match f.shape with
      | .nodes (some t) => NodeType.all.contains t
      | .separated (some t) => NodeType.all.contains t
      | .optional (.node _) => true
      | .optional _ => false
      | _ => true) = true := by
  have h := List.all_eq_true.mp NodeClass.isTidy_all c hc
  simp only [NodeClass.isTidy, Bool.and_eq_true] at h
  exact List.all_eq_true.mp h.2 f hf

theorem stringArgument?_ofText (t : Text) : stringArgument? (.ofText t) = some (.ofText t) := by
  simp [Call.ofText, stringArgument?, Text.literalText, Text.doubleQuoted]

theorem quoteValue_node {c : NodeClass} {vs : List Value} {q : Call} (element : Text)
    (h : nodeCall .standard c vs (quoteFields .standard o c.fields vs) = .ok q) :
    quoteValue .standard o element (.node c vs) = .ok (some q) := by
  rw [quoteValue, h]
  rfl

theorem conveys_node {v : Value} {t : NodeType} (hnode : Quotable o K v)
    (hv : v.isNodeOf t = true) (hf : f.shape ≠ .text) (element : Text) :
    ∃ q, quoteValue .standard o element v = .ok q ∧ Conveys K f v q := by
  cases v with
  | node c vs =>
    obtain ⟨q, hq, hsense⟩ := hnode c vs rfl
    refine ⟨some q, quoteValue_node element hq, .written ⟨hsense, fun h => absurd h hf, ?_⟩⟩
    rintro ⟨ws, hws⟩
    cases hws
  | _ => cases hv

include hK

theorem conveys_token {v : Value} (hv : v.IsToken) (hf : f.shape ≠ .text) (element : Text) :
    ∃ q, quoteValue .standard o element v = .ok q ∧ Conveys K f v q := by
  obtain ⟨t, rfl, ht⟩ := hv
  obtain ⟨q, hq, hsense⟩ := hK.quoteToken ht
  refine ⟨some q, ?_, .written ⟨hsense, fun h => absurd h hf, ?_⟩⟩
  · rw [quoteValue, hq]
  · rintro ⟨ws, hws⟩
    cases hws

/-- A property has its call, if the nodes in it have theirs. -/
theorem conveys_value {v : Value} (hc : c ∈ NodeClass.all) (hf : f ∈ c.fields)
    (hfits : Field.Fits c f v) (hnode : Quotable o K v)
    (hchildren : ∀ w ∈ v.children, Quotable o K w) :
    ∃ q, quoteValue .standard o f.shape.elementName v = .ok q ∧ Conveys K f v q := by
  have htidy := tidy_shape hc hf
  rcases hfits with hfits | ⟨rfl, hname, rfl⟩
  · cases hs : f.shape with
    | text =>
      rw [hs] at hfits
      obtain ⟨t, rfl, ht⟩ := hfits
      refine ⟨some (.ofText t), rfl, .written ⟨hK.text ht, fun _ => ?_, ?_⟩⟩
      · rw [stringArgument?_ofText]
        rfl
      · rintro ⟨ws, hws⟩
        cases hws
    | kind =>
      rw [hs] at hfits
      obtain ⟨k, rfl⟩ := hfits
      refine ⟨some (.ofKind k), rfl, .written ⟨hK.kind k, fun h => ?_, ?_⟩⟩
      · rw [hs] at h
        cases h
      · rintro ⟨ws, hws⟩
        cases hws
    | token =>
      rw [hs] at hfits
      exact conveys_token hK hfits (by rw [hs]; rintro ⟨⟩) _
    | node t =>
      rw [hs] at hfits
      exact conveys_node hnode hfits (by rw [hs]; rintro ⟨⟩) _
    | tokens =>
      rw [hs] at hfits
      obtain ⟨vs, rfl, hvs⟩ := hfits
      obtain ⟨cs, hcs, hsense⟩ := hK.quoteTokens hvs
      refine ⟨listCall (Text.of "token_list") cs, ?_, ?_⟩
      · rw [quoteValue, hcs]
        rfl
      · rcases listCall_nil_or (Text.of "token_list") cs with ⟨rfl, hnone⟩ | ⟨-, q, hsome⟩
        · cases hsense
          rw [hnone]
          exact .blank (by simp [Field.isBlank, hs])
        · rw [hsome]
          refine .written ⟨hK.tokens hvs hsense hsome, fun h => ?_, ?_⟩
          · rw [hs] at h
            cases h
          · rintro ⟨ws, hws⟩
            cases hws
    | nodes t =>
      rw [hs] at hfits htidy
      cases t with
      | none => exact hfits.elim
      | some t =>
        obtain ⟨vs, rfl, hvs⟩ := hfits
        have ht : t ∈ NodeType.all := by simpa using htidy
        obtain ⟨cs, hcs, hsense⟩ := quoteNodes_sense (show ∀ w ∈ vs, _ from hchildren) hvs
        refine ⟨listCall (listName "singleton_list" "syntax_list" t.name cs) cs, ?_, ?_⟩
        · rw [quoteValue, hcs]
          rfl
        · rcases listCall_nil_or (listName "singleton_list" "syntax_list" t.name cs) cs with
            ⟨rfl, hnone⟩ | ⟨-, q, hsome⟩
          · cases hsense
            rw [hnone]
            exact .blank (by simp [Field.isBlank, hs])
          · rw [hsome]
            refine .written ⟨hK.nodes ht hvs hsense hsome, fun h => ?_, fun _ => ?_⟩
            · rw [hs] at h
              cases h
            · rw [listItems?_listCall hsome]
              rfl
    | separated t =>
      rw [hs] at hfits htidy
      cases t with
      | none => exact hfits.elim
      | some t =>
        obtain ⟨vs, rfl, halternates, hvs⟩ := hfits
        have ht : t ∈ NodeType.all := by simpa using htidy
        obtain ⟨cs, hcs, hsense⟩ := quoteItems_sense hK (show ∀ w ∈ vs, _ from hchildren) hvs
        refine ⟨listCall (listName "singleton_separated_list" "separated_list" t.name cs) cs, ?_, ?_⟩
        · rw [quoteValue, hcs]
          rfl
        · rcases listCall_nil_or (listName "singleton_separated_list" "separated_list" t.name cs) cs
            with ⟨rfl, hnone⟩ | ⟨-, q, hsome⟩
          · cases hsense
            rw [hnone]
            exact .blank (by simp [Field.isBlank, hs])
          · rw [hsome]
            refine .written ⟨hK.separated ht halternates hvs hsense hsome, fun h => ?_, ?_⟩
            · rw [hs] at h
              cases h
            · rintro ⟨ws, hws⟩
              cases hws
    | optional a =>
      rw [hs] at hfits htidy
      rcases hfits with rfl | hfits
      · exact ⟨none, rfl, .blank (by simp [Field.isBlank, Value.none, hs])⟩
      · cases a with
        | node t => exact conveys_node hnode hfits (by rw [hs]; rintro ⟨⟩) _
        | _ => cases htidy
    | _ =>
      rw [hs] at hfits
      exact hfits.elim
  · have hshape : ∀ f ∈ NodeClass.structDeclaration.fields,
        f.name = Text.of "semicolon_token" → f.shape = .token := by decide
    exact ⟨none, rfl, .blank (by simp [Field.isBlank, hshape f hf hname])⟩

end Properties

/-! ### Nodes -/

section Nodes

variable {c : NodeClass} {fs : List Field} {vs : List Value}

/-- The value is a node with a call, or the nodes in it have theirs. -/
def Reachable (o : Options) (K : Value → Call → Prop) (v : Value) : Prop :=
  Quotable o K v ∧ ∀ w ∈ v.children, Quotable o K w

include hK

/-- The properties have their calls. -/
theorem quoteFields_rows (hc : c ∈ NodeClass.all)
    (hfs : ∀ f ∈ fs, f ∈ c.fields ∧ f.name ≠ Text.of "kind")
    (hfits : List.Forall₂ (Field.Fits c) fs vs) (hvs : ∀ v ∈ vs, Reachable o K v) :
    ∃ qs, quoteFields .standard o fs vs = .ok (present fs qs) ∧ Rows K c fs vs qs := by
  induction hfits with
  | nil => exact ⟨[], rfl, .nil⟩
  | @cons f v fs vs hfit _ ih =>
    obtain ⟨hf, hkind⟩ := hfs f List.mem_cons_self
    obtain ⟨hnode, hchildren⟩ := hvs v List.mem_cons_self
    obtain ⟨q, hq, hconveys⟩ := conveys_value hK hc hf hfit hnode hchildren
    obtain ⟨qs, hqs, hrows⟩ := ih (fun g hg => hfs g (List.mem_cons_of_mem f hg))
      fun w hw => hvs w (List.mem_cons_of_mem v hw)
    refine ⟨q :: qs, ?_, .cons hf hfit hconveys hrows⟩
    rw [quoteFields, if_neg hkind, hq]
    cases q with
    | none => exact hqs
    | some q =>
      show (do return (⟨f.name, q⟩ : Quoted) :: (← quoteFields .standard o fs vs)) = _
      rw [hqs]
      rfl

omit hK

theorem hasKindParameter_eq (hc : c ∈ NodeClass.all) :
    Registry.standard.hasKindParameter (.cls c) = c.kind?.isNone := by
  obtain ⟨f, -, hhome⟩ := Home.exists_home hc
  rw [Registry.hasKindParameter, hhome.producing, List.any_map, ← hhome.takesKind]
  rfl

include hK in
/-- The kind and the other properties have their calls. -/
theorem kindValue_rows (hadmits : c.Admits vs) (hvs : ∀ v ∈ vs, Reachable o K v) :
    ∃ qs, (quoteFields .standard o c.fields vs).map
        (kindValue .standard c (Value.kindOf c vs) ++ ·) = .ok (present c.fields qs)
      ∧ Rows K c c.fields vs qs := by
  have hc := hadmits.class_mem
  have hfits := hadmits.fields
  obtain ⟨f, fs, hfields, hname, hshape, hrest⟩ := NodeClass.fields_kind hc
  have hmem : ∀ g ∈ f :: fs, g ∈ c.fields := fun g hg => hfields ▸ hg
  rw [hfields] at hfits ⊢
  rw [kindValue, hasKindParameter_eq hc]
  cases hk : c.kind? with
  | some k =>
    have hkinds : ∀ g ∈ f :: fs, g ∈ c.fields ∧ g.name ≠ Text.of "kind" := by
      intro g hg
      refine ⟨hmem g hg, ?_⟩
      rcases List.mem_cons.mp hg with rfl | hg
      · rw [Ne, hname, hk]
        nofun
      · exact hrest g hg
    obtain ⟨qs, hqs, hrows⟩ := quoteFields_rows hK hc hkinds hfits hvs
    exact ⟨qs, by rw [hqs]; rfl, hrows⟩
  | none =>
    have hkinds : ∀ g ∈ fs, g ∈ c.fields ∧ g.name ≠ Text.of "kind" :=
      fun g hg => ⟨hmem g (List.mem_cons_of_mem f hg), hrest g hg⟩
    cases hfits with
    | @cons _ v _ vs hfit hfits =>
      have hkind := hfit.shape (hmem f List.mem_cons_self) (by rw [hshape.mpr hk]; nofun)
      rw [hshape.mpr hk] at hkind
      obtain ⟨k, rfl⟩ := hkind
      obtain ⟨qs, hqs, hrows⟩ := quoteFields_rows hK hc hkinds hfits
        fun w hw => hvs w (List.mem_cons_of_mem _ hw)
      have hof : Value.kindOf c (.kind k :: vs) = k := by simp [Value.kindOf, hk]
      refine ⟨some (.ofKind k) :: qs, ?_, .cons (hmem f List.mem_cons_self) hfit ?_ hrows⟩
      · rw [quoteFields, if_pos (hname.mpr hk), hqs, hof, present_cons]
        simp only [present, hname.mpr hk]
        rfl
      · refine .written ⟨hK.kind k, fun h => ?_, ?_⟩
        · rw [hshape.mpr hk] at h
          cases h
        · rintro ⟨ws, hws⟩
          cases hws

include hK in
/-- A node has its call, if the nodes in it have theirs. -/
theorem nodeCall_sense (hadmits : c.Admits vs) (hvs : ∀ v ∈ vs, Reachable o K v) :
    ∃ q, nodeCall .standard c vs (quoteFields .standard o c.fields vs) = .ok q
      ∧ K (.node c vs) q := by
  obtain ⟨qs, hqs, hrows⟩ := kindValue_rows hK hadmits hvs
  obtain ⟨p, hsuits, hquote⟩ := quoteClass_eq hadmits.class_mem hrows hadmits.kind
  refine ⟨planCall c p qs, ?_, hK.node hadmits hrows hsuits⟩
  rw [nodeCall, hqs, hquote]

/-- Every well-formed tree has its call. -/
theorem Sense.quoteNode (hK : Sense o K) {v : Value} (h : v.WellFormed) :
    ∃ q, Quote.quoteNode .standard o v = .ok q ∧ K v q := by
  have hreach : ∀ v : Value, v.All NodeClass.Admits → Reachable o K v := by
    intro v
    refine Value.induction (P := fun v => v.All NodeClass.Admits → Reachable o K v) ?_ v
    intro v ih hall
    have hchildren : ∀ w ∈ v.children, Reachable o K w := fun w hw => ih w hw (hall.children w hw)
    refine ⟨?_, fun w hw => (hchildren w hw).1⟩
    rintro c vs rfl
    exact nodeCall_sense hK hall.1 hchildren
  obtain ⟨⟨c, vs, rfl⟩, hall⟩ := h
  exact (hreach _ hall).1 c vs rfl

end Nodes

end TreeQuote.Quote
