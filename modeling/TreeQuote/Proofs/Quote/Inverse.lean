/-
TreeQuote/Proofs/Quote/Inverse.lean

Evaluation is the inverse of quoting.  The call for a well-formed tree builds the tree again, with
each token as quoting leaves it (`Value.reduced`): without its span and, under default formatting,
without spaces and line ends.

    eval (quoteNode v) = v.reduced o

Spans make no difference, and layout puts the spaces back; so the root is built up to spans as it
was, or as its layout is.

Main statements: `Quote.eval_quoteNode` and `Quote.eval_quoteRoot`.
-/
import TreeQuote.Proofs.Layout.Spacing
import TreeQuote.Proofs.Quote.List

namespace TreeQuote

/-! ### Reduced tokens -/

section Reduced

variable {o : Options} {t : Token}

theorem Options.keep_mem {ts : List Trivia} {c : Trivia} (h : c ∈ o.keep ts) : c ∈ ts := by
  rw [keep] at h
  split at h
  · exact List.mem_of_mem_filter h
  · exact h

theorem Token.WellFormed.reduced (h : t.WellFormed) : (t.reduced o).WellFormed where
  built := match h.built with
    | .fixed hb => .fixed hb
    | .identifier hb => .identifier hb
    | .literal hb => .literal hb
    | .missing hb => .missing hb
  present := h.present
  leading c hc := h.leading c (Options.keep_mem hc)
  trailing c hc := h.trailing c (Options.keep_mem hc)
  text := h.text
  value := h.value

theorem Token.reduced_absent (o : Options) : Token.absent.reduced o = .absent := by
  cases h : o.defaultFormatting <;> simp [reduced, Options.keep, h, Layout.kept, core, absent, withTrivia]

theorem Token.reduced_sameCore (h : t.WellFormed) : (t.reduced o).SameCore t :=
  ⟨rfl, rfl, Scalar.same_self h.value, rfl⟩

theorem Value.keeps_reduced (o : Options) : Value.Keeps (Token.reduced o) where
  absent := Token.reduced_absent o
  present h := h

/-- What is kept is kept again. -/
theorem Layout.kept_keep (o : Options) (ts : List Trivia) : kept (o.keep ts) = kept ts := by
  rw [Options.keep]
  split
  · rw [kept, kept, List.filter_filter]
    simp
  · rfl

/-- The token with all its trivia. -/
theorem Token.reduced_eqv (h : t.WellFormed) (ho : o.defaultFormatting = false) :
    (t.reduced o).eqv t = true := by
  have hkeep : ∀ ts : List Trivia, o.keep ts = ts := fun ts => by simp [Options.keep, ho]
  simp [reduced, hkeep, eqv, core, withTrivia, Scalar.same_self h.value]

end Reduced

theorem Field.isBlank_retoken {g : Token → Token} (habsent : g .absent = .absent)
    {f : Field} {v : Value} (h : f.isBlank v = true) :
    f.isBlank (v.retoken g) = true := by
  unfold isBlank at h
  split at h
  · simpa [Value.retoken, isBlank] using h
  · simpa [isBlank] using h
  · simpa [isBlank] using h
  · simpa [isBlank] using h
  · simp only [Bool.and_eq_true, decide_eq_true_eq] at h
    obtain ⟨rfl, hs⟩ := h
    simp [Value.retoken, isBlank, habsent, hs]
  · cases h

theorem NodeClass.hasModifiers_of_mem {c : NodeClass} (hc : c ∈ all) : c.hasModifiers = true := by
  have h : ∀ c ∈ all, c.hasModifiers = true := by decide
  exact h c hc

namespace Quote

open Evaluate

section Rows

variable {g : Token → Token} {c : NodeClass} {fs : List Field} {vs : List Value}
  {qs : List (Option Call)}

/-- Calls that build changed properties. -/
theorem Rows.retoken (habsent : g .absent = .absent)
    (hg : ∀ t : Token, t.WellFormed → (g t).WellFormed)
    (h : Rows (fun v q => Builds (v.retoken g) q) c fs vs qs) :
    Rows Builds c fs (vs.map (Value.retoken g)) qs := by
  induction h with
  | nil => exact .nil
  | @cons f v q fs vs qs hmem hfits hq _ ih =>
    refine .cons hmem (hfits.retoken habsent hg) ?_ ih
    cases hq with
    | blank hblank => exact .blank (Field.isBlank_retoken habsent hblank)
    | written hw =>
      refine .written ⟨hw.sense, hw.text, ?_⟩
      rintro ⟨ws, hws⟩
      cases v with
      | nodes us => exact hw.items ⟨us, rfl⟩
      | _ => cases hws

end Rows

theorem evalList_builds {g : Token → Token} {vs : List Value} {cs : List Call}
    (h : List.Forall₂ (fun v q => Builds (v.retoken g) q) vs cs) :
    evalList .standard cs = .ok (vs.map (Value.retoken g)) := by
  induction h with
  | nil => rfl
  | cons hv _ ih => exact evalList_cons hv.eval ih

variable {o : Options}

/-- Each step of quoting gives a call that builds the reduced value. -/
theorem sense_reduced (o : Options) : Sense o fun v q => Builds (v.retoken (Token.reduced o)) q where
  text ht := ⟨eval_ofText ht, fun _ h => by cases h⟩
  kind k := ⟨eval_ofKind _ k, fun _ h => by cases h⟩
  token ht hq := by
    obtain ⟨c, hc, heval⟩ := eval_quoteToken (o := o) ht
    rw [hq, Except.ok.injEq, Option.some.injEq] at hc
    exact ⟨hc ▸ heval, fun _ h => by cases h⟩
  absent := by
    show Builds (.token (Token.absent.reduced o)) _
    rw [Token.reduced_absent]
    exact builds_absent
  tokens hvs hcs hq := by
    rw [Value.retoken_tokens]
    refine builds_tokens (List.forall_mem_map.mpr fun v hv => ?_) (evalList_builds hcs) hq
    exact (hvs v hv).retoken fun _ => Token.WellFormed.reduced
  nodes ht hvs hcs hq := by
    rw [Value.retoken_nodes]
    refine builds_nodes ht (List.forall_mem_map.mpr fun v hv => ?_) (evalList_builds hcs) hq
    rw [Value.isNodeOf_retoken]
    exact hvs v hv
  separated ht halternates hvs hcs hq := by
    rw [Value.retoken_separated]
    refine builds_separated ht (by rw [Value.alternates_retoken, halternates])
      (List.forall_mem_map.mpr fun v hv => ?_) (evalList_builds hcs) hq
    rw [Value.isNodeOf_retoken]
    exact (hvs v hv).imp_right
      fun h => h.retoken (Token.reduced_absent o) fun _ => Token.WellFormed.reduced
  node {c vs qs p} hadmits hrows hsuits := by
    rw [Value.retoken_node]
    have hrows' := hrows.retoken (Token.reduced_absent o) fun _ => Token.WellFormed.reduced
    have hkind : Value.kindOf c (vs.map (Value.retoken (Token.reduced o))) = Value.kindOf c vs :=
      Value.kindOf_retoken c vs
    refine ⟨eval_planCall hadmits.class_mem hrows' ?_ ?_, fun _ h => by cases h⟩
    · rw [hkind]
      exact hsuits
    · rw [hkind]
      exact hadmits.kind

/-- The call for a tree builds the reduced tree. -/
theorem eval_quoteNode {v : Value} (h : v.WellFormed) :
    ∃ q, quoteNode .standard o v = .ok q
      ∧ eval .standard q = .ok (v.retoken (Token.reduced o)) := by
  obtain ⟨q, hq, hbuilds⟩ := (sense_reduced o).quoteNode h
  exact ⟨q, hq, hbuilds.eval⟩

/-! ### Roots -/

/-- The layout of a node as a modifier. -/
theorem applyAll_normalize (owner : Text) {c : NodeClass} {vs : List Value} {w : Value}
    (hc : c.hasModifiers = true) (h : (Value.node c vs).normalized? {} = .ok w) :
    applyAll .standard owner (.node c vs) [.normalize] = .ok w := by
  have hname : isModifier Modifier.normalize.name = true := by decide
  have hmethod : methodOf owner Modifier.normalize.name (.node c vs) = .ok .normalize := by
    have hof : Method.of? (.node c vs) Modifier.normalize.name = some .normalize := by
      show (if c.hasModifiers then _ else none) = _
      rw [hc]
      rfl
    rw [methodOf, hname, hof]
    rfl
  rw [Modifier.normalize, applyAll_cons_iff]
  refine ⟨_, [], w, hmethod, rfl, ?_, rfl⟩
  have hcall : Method.call .normalize (.node c vs) [] = .ok w := h
  simp only [Evaluate.modify, checkArguments, Bind.bind, Except.bind, hcall]
  rfl

/-- More modifiers are applied to what a call builds. -/
theorem eval_modifiedBy {r : Registry} {q : Call} {v w : Value} {ms : List Modifier}
    (hq : eval r q = .ok v) (hfactory : ∃ n as ks ns, q = .factory n as ks ns)
    (hms : ∀ owner, applyAll r owner v ms = .ok w) : eval r (q.modifiedBy ms) = .ok w := by
  obtain ⟨n, as, ks, ns, rfl⟩ := hfactory
  obtain ⟨vs, us, x, hvs, hus, hx, hv⟩ := eval_factory_iff.mp hq
  rw [Call.modifiedBy, eval_factory_iff]
  exact ⟨vs, us, x, hvs, hus, hx, applyAll_append.mpr ⟨v, hv, hms n⟩⟩

theorem quoteNode_factory {v : Value} {q : Call} (h : quoteNode .standard o v = .ok q) :
    ∃ n as ks ms, q = .factory n as ks ms := by
  cases v with
  | node c vs =>
    simp only [quoteNode, nodeCall, quoteClass] at h
    split at h
    · cases h
    · obtain ⟨values, -, h⟩ := bind_eq_ok.mp h
      obtain ⟨ms, -, h⟩ := bind_eq_ok.mp h
      cases h
      exact ⟨_, _, _, _, rfl⟩
  | _ => cases h

/-- **Evaluation is the inverse of quoting.**  The call for a well-formed tree builds a tree that
equals it or, under default formatting, equals its layout. -/
theorem eval_quoteRoot (o : Options) {v : Value} (h : v.WellFormed) :
    ∃ q u w, quoteRoot .standard o v = .ok q ∧ eval .standard q = .ok w
      ∧ (if o.defaultFormatting then v.normalized? {} else .ok v) = .ok u ∧ w.eqv u = true := by
  obtain ⟨q, hq, heval⟩ := eval_quoteNode (o := o) h
  rw [quoteRoot, hq]
  cases ho : o.defaultFormatting with
  | false =>
    refine ⟨q, v, _, rfl, heval, rfl, ?_⟩
    exact h.formed.eqv_retoken (Token.reduced_absent o) fun t ht => Token.reduced_eqv ht ho
  | true =>
    have hreduced := h.retokened (Token.reduced_absent o) fun _ => Token.WellFormed.reduced
    have hroot := hreduced.normalized?_eq_ok Layout.isText_default
    have hmodified : eval .standard (q.modifiedBy [.normalize])
        = .ok ((v.retoken (Token.reduced o)).normalized {}) := by
      refine eval_modifiedBy heval (quoteNode_factory hq) fun owner => ?_
      obtain ⟨⟨c, vs, rfl⟩, hall⟩ := h
      rw [Value.retoken_node] at hroot ⊢
      exact applyAll_normalize owner (NodeClass.hasModifiers_of_mem hall.1.class_mem) hroot
    refine ⟨_, _, _, rfl, hmodified, h.normalized?_eq_ok Layout.isText_default, ?_⟩
    refine Value.normalized_retoken (Value.keeps_reduced o) (fun t ht => ?_) h {}
    exact ⟨Token.reduced_sameCore ht, Layout.kept_keep o _, Layout.kept_keep o _⟩

/-- The word `struct` behind a documentation comment. -/
def documentedStruct : Token where
  kind := .structKeyword
  text := Text.of "struct"
  value := .str (Text.of "struct")
  leading := [.documentation (Text.of " Empty."), .endOfLine (Text.of "\n")]
  trailing := [.whitespace (Text.of " ")]

/-- A struct without a name and without a semicolon. -/
def namelessStruct : Value :=
  .node .structDeclaration
    [.tokens [], .token documentedStruct, .token (Token.missingOf .identifierToken),
     Recipe.fixedToken .openBraceToken, .separated [], Recipe.fixedToken .closeBraceToken,
     .token .absent]

theorem namelessStruct_wellFormed : namelessStruct.WellFormed := by
  have hnone : ∀ c ∈ ([] : List Trivia), c.WellFormed := List.forall_mem_nil _
  have hlead : ∀ c ∈ documentedStruct.leading, c.WellFormed := by
    simp only [documentedStruct, List.forall_mem_cons]
    refine ⟨⟨.documentation _, ?_⟩, ⟨.endOfLine _, ?_⟩, hnone⟩
    · exact Text.unmixed_of_plain (by decide)
    · exact Text.unmixed_of_plain (by decide)
  have htrail : ∀ c ∈ documentedStruct.trailing, c.WellFormed := by
    simp only [documentedStruct, List.forall_mem_cons]
    exact ⟨⟨.whitespace _, Text.unmixed_of_plain (by decide)⟩, hnone⟩
  have hkeyword : documentedStruct.WellFormed := .of_fixed hlead htrail rfl
  have hname : (Token.missingOf .identifierToken).WellFormed := .of_missing hnone hnone nofun
  have hopen : (Recipe.fixedToken .openBraceToken).IsToken := ⟨_, rfl, .of_fixed hnone hnone rfl⟩
  have hclose : (Recipe.fixedToken .closeBraceToken).IsToken := ⟨_, rfl, .of_fixed hnone hnone rfl⟩
  refine ⟨⟨_, _, rfl⟩, Value.all_node.mpr ⟨⟨by decide, ?_, by decide⟩, ?_⟩⟩
  · refine .cons (.inl ⟨[], rfl, List.forall_mem_nil _⟩) (.cons (.inl ⟨_, rfl, hkeyword⟩)
      (.cons (.inl ⟨_, rfl, hname⟩) (.cons (.inl hopen) (.cons (.inl ?_) (.cons (.inl hclose)
        (.cons (.inr ⟨rfl, rfl, rfl⟩) .nil))))))
    exact ⟨[], rfl, rfl, List.forall_mem_nil _⟩
  · simp [Value.All, Value.AllList, Recipe.fixedToken]

/-- A struct that lacks its name is built again, with the comment in front. -/
theorem eval_quoteRoot_nameless : namelessStruct.WellFormed ∧ ∃ q u w,
    quoteRoot .standard {} namelessStruct = .ok q ∧ eval .standard q = .ok w
      ∧ namelessStruct.normalized? {} = .ok u ∧ w.eqv u = true :=
  ⟨namelessStruct_wellFormed, eval_quoteRoot {} namelessStruct_wellFormed⟩

end Quote

end TreeQuote
