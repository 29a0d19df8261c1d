/-
TreeQuote/Proofs/Grammar/Exchange.lean

Exchanging tokens for tokens of the same kind keeps a tree one of the grammar: forms look
at kinds and classes only.

Main statement: `Alike.grown`.
-/
import TreeQuote.Proofs.Grammar.Form

namespace TreeQuote.Grammar

open Value (Alike AlikeList)

/-! ### One value -/

/-- A node stays one of its class. -/
theorem Alike.isNodeOf {v w : Value} {t : NodeType} (h : Alike v w) (hv : v.isNodeOf t = true) :
    w.isNodeOf t = true := by
  cases h with
  | same => exact hv
  | node _ => exact hv
  | _ => exact absurd hv Bool.false_ne_true

/-- A token stays one of its kind. -/
theorem Alike.isTokenOf {v w : Value} {ks : List Kind} (h : Alike v w) (hv : IsTokenOf ks v) :
    IsTokenOf ks w := by
  obtain ⟨t, rfl, ht⟩ := hv
  cases h with
  | same => exact ⟨t, rfl, ht⟩
  | token hk _ => exact ⟨_, rfl, hk ▸ ht⟩

/-! ### Lists of values -/

/-- What holds of values, and goes over to values alike, holds of a list alike. -/
theorem AlikeList.forall {P : Value → Prop} (hP : ∀ {v w}, Alike v w → P v → P w)
    {vs ws : List Value} (h : AlikeList vs ws) (hvs : ∀ v ∈ vs, P v) : ∀ w ∈ ws, P w := by
  induction vs generalizing ws with
  | nil =>
    cases h
    exact fun w hw => absurd hw List.not_mem_nil
  | cons v vs ih =>
    cases h with
    | cons hv hs =>
      intro x hx
      rcases List.mem_cons.1 hx with rfl | hx
      · exact hP hv (hvs v List.mem_cons_self)
      · exact ih hs (fun u hu => hvs u (List.mem_cons_of_mem _ hu)) x hx

theorem AlikeList.more {t : NodeType} {vs ws : List Value} (h : AlikeList vs ws)
    (hvs : More t vs) : More t ws := by
  induction hvs generalizing ws with
  | nil =>
    cases h
    exact .nil
  | cons hc hv _ ih =>
    cases h with
    | cons hc' h =>
      cases h with
      | cons hv' h => exact .cons (Alike.isTokenOf hc' hc) (Alike.isNodeOf hv' hv) (ih h)

/-- A token of a list stays in it as one of its kind. -/
theorem AlikeList.mem_token {vs ws : List Value} {t : Token} (h : AlikeList vs ws)
    (ht : .token t ∈ vs) : ∃ u : Token, .token u ∈ ws ∧ u.kind = t.kind := by
  induction vs generalizing ws with
  | nil => exact absurd ht List.not_mem_nil
  | cons v vs ih =>
    cases h with
    | cons hv hs =>
      rcases List.mem_cons.1 ht with rfl | ht
      · obtain ⟨u, rfl, hu⟩ := Alike.isTokenOf hv ⟨t, rfl, List.mem_singleton.2 rfl⟩
        exact ⟨u, List.mem_cons_self, List.mem_singleton.1 hu⟩
      · obtain ⟨u, hu, hk⟩ := ih hs ht
        exact ⟨u, List.mem_cons_of_mem _ hu, hk⟩

/-! ### Nodes -/

/-- A property holds what its form says after an exchange. -/
theorem Alike.holds {f : Form} {v w : Value} (h : Alike v w) (hv : f.Holds v) : f.Holds w := by
  cases f with
  | nothing =>
    obtain ⟨k, rfl⟩ := hv
    cases h
    exact ⟨k, rfl⟩
  | token ks => exact Alike.isTokenOf h hv
  | perhaps k =>
    obtain rfl | hv := hv
    · cases h with
      | same => exact Or.inl rfl
      | token hk hpresent => exact absurd hk.symm hpresent
    · exact Or.inr (Alike.isTokenOf h hv)
  | tokens k =>
    obtain ⟨vs, rfl, hvs⟩ := hv
    cases h with
    | same => exact ⟨vs, rfl, hvs⟩
    | tokens hs => exact ⟨_, rfl, AlikeList.forall Alike.isTokenOf hs hvs⟩
  | node t => exact Alike.isNodeOf h hv
  | optional t =>
    obtain rfl | hv := hv
    · cases h
      exact Or.inl rfl
    · exact Or.inr (Alike.isNodeOf h hv)
  | nodes t =>
    obtain ⟨vs, rfl, hvs⟩ := hv
    cases h with
    | same => exact ⟨vs, rfl, hvs⟩
    | nodes hs => exact ⟨_, rfl, AlikeList.forall Alike.isNodeOf hs hvs⟩
  | separated t =>
    obtain ⟨vs, rfl, hvs⟩ := hv
    cases h with
    | same => exact ⟨vs, rfl, hvs⟩
    | separated hs =>
      refine ⟨_, rfl, ?_⟩
      obtain rfl | ⟨v, vs, rfl, hv, hmore⟩ := hvs
      · cases hs
        exact Or.inl rfl
      · cases hs with
        | cons hv' hs =>
          exact Or.inr ⟨_, _, rfl, Alike.isNodeOf hv' hv, AlikeList.more hs hmore⟩
  | more t => exact hv

theorem AlikeList.holds {fs : List Form} {vs ws : List Value} (h : AlikeList vs ws)
    (hvs : List.Forall₂ Form.Holds fs vs) : List.Forall₂ Form.Holds fs ws := by
  induction hvs generalizing ws with
  | nil =>
    cases h
    exact .nil
  | cons hv _ ih =>
    cases h with
    | cons hv' hs => exact .cons (Alike.holds hv' hv) (ih hs)

/-- The kind of a node is no token, so it stays. -/
theorem AlikeList.kindOf {c : NodeClass} {vs ws : List Value} (h : AlikeList vs ws) :
    Value.kindOf c ws = Value.kindOf c vs := by
  cases h with
  | nil => rfl
  | cons hv hs =>
    unfold Value.kindOf
    cases c.kind? with
    | some k => rfl
    | none =>
      cases hv with
      | same => cases ‹Value› <;> rfl
      | _ => rfl

/-- A node of the grammar stays one. -/
theorem AlikeList.grows {c : NodeClass} {vs ws : List Value} (h : AlikeList vs ws)
    (hvs : Grows c vs) : Grows c ws := by
  refine ⟨AlikeList.holds h hvs.slots, fun hc => ?_⟩
  obtain ⟨t, ht, hmem⟩ := hvs.kind hc
  obtain ⟨u, hu, hk⟩ := AlikeList.mem_token h ht
  exact ⟨u, hu, by rwa [AlikeList.kindOf h, hk]⟩

mutual

/-- What does not look at the tokens of a node holds of all nodes if it did. -/
theorem Alike.all {Q : NodeClass → List Value → Prop}
    (hQ : ∀ c vs ws, AlikeList vs ws → Q c vs → Q c ws) :
    ∀ (v w : Value), Alike v w → v.All Q → w.All Q
  | .node c vs, w, h, hv => by
    cases h with
    | same => exact hv
    | node hs => exact ⟨hQ _ _ _ hs hv.1, AlikeList.all hQ vs _ hs hv.2⟩
  | .tokens vs, w, h, hv => by
    cases h with
    | same => exact hv
    | tokens hs => exact AlikeList.all hQ vs _ hs hv
  | .nodes vs, w, h, hv => by
    cases h with
    | same => exact hv
    | nodes hs => exact AlikeList.all hQ vs _ hs hv
  | .separated vs, w, h, hv => by
    cases h with
    | same => exact hv
    | separated hs => exact AlikeList.all hQ vs _ hs hv
  | .array vs, w, h, hv => by
    cases h
    exact hv
  | .token t, w, h, _ => by cases h <;> trivial
  | .framed t l r, w, h, hv => by
    cases h with
    | same => exact hv
    | framed _ => trivial
  | .scalar _, w, h, _ => by cases h; trivial
  | .kind _, w, h, _ => by cases h; trivial
  | .trivia _, w, h, _ => by cases h; trivial
  | .triviaList _, w, h, _ => by cases h; trivial

theorem AlikeList.all {Q : NodeClass → List Value → Prop}
    (hQ : ∀ c vs ws, AlikeList vs ws → Q c vs → Q c ws) :
    ∀ (vs ws : List Value), AlikeList vs ws → Value.AllList Q vs → Value.AllList Q ws
  | [], ws, h, _ => by
    cases h
    trivial
  | v :: vs, ws, h, hvs => by
    cases h with
    | cons hv hs => exact ⟨Alike.all hQ v _ hv hvs.1, AlikeList.all hQ vs _ hs hvs.2⟩

end

/-- A tree of the grammar stays one. -/
theorem Alike.grown (v w : Value) (h : Alike v w) (hv : v.All Grows) : w.All Grows :=
  Alike.all (Q := Grows) (fun _ _ _ => AlikeList.grows) v w h hv

/-! ### Plain values -/

theorem isItem_of_isTokenOf {ks : List Kind} {v : Value} (h : IsTokenOf ks v) : v.IsItem := by
  obtain ⟨t, rfl, -⟩ := h
  exact Or.inl ⟨t, rfl⟩

theorem isItem_of_isNodeOf {t : NodeType} {v : Value} (h : v.isNodeOf t = true) : v.IsItem := by
  cases v with
  | node c vs => exact Or.inr ⟨c, vs, rfl⟩
  | _ => exact absurd h Bool.false_ne_true

theorem More.isItem {t : NodeType} {vs : List Value} (h : More t vs) : ∀ w ∈ vs, w.IsItem := by
  induction h with
  | nil => exact fun w hw => absurd hw List.not_mem_nil
  | cons hc hv _ ih =>
    intro w hw
    rcases List.mem_cons.1 hw with rfl | hw
    · exact isItem_of_isTokenOf hc
    rcases List.mem_cons.1 hw with rfl | hw
    · exact isItem_of_isNodeOf hv
    · exact ih w hw

/-- What a property of the grammar holds is plain. -/
theorem Form.Holds.plain {f : Form} {v : Value} (h : f.Holds v) : v.Plain := by
  cases f with
  | nothing =>
    obtain ⟨k, rfl⟩ := h
    trivial
  | token ks => exact (isItem_of_isTokenOf h).plain
  | perhaps k =>
    obtain rfl | h := h
    · trivial
    · exact (isItem_of_isTokenOf h).plain
  | tokens k =>
    obtain ⟨vs, rfl, hvs⟩ := h
    exact fun w hw => isItem_of_isTokenOf (hvs w hw)
  | node t => exact (isItem_of_isNodeOf h).plain
  | optional t =>
    obtain rfl | h := h
    · trivial
    · exact (isItem_of_isNodeOf h).plain
  | nodes t =>
    obtain ⟨vs, rfl, hvs⟩ := h
    exact fun w hw => isItem_of_isNodeOf (hvs w hw)
  | separated t =>
    obtain ⟨vs, rfl, rfl | ⟨v, ws, rfl, hv, hmore⟩⟩ := h
    · exact fun w hw => absurd hw List.not_mem_nil
    · intro w hw
      rcases List.mem_cons.1 hw with rfl | hw
      · exact isItem_of_isNodeOf hv
      · exact hmore.isItem w hw
  | more t => exact h.elim

/-- The properties of a node of the grammar are plain. -/
theorem Grows.plain {c : NodeClass} {vs : List Value} (h : Grows c vs) : ∀ v ∈ vs, v.Plain := by
  obtain ⟨hslots, -⟩ := h
  intro v hv
  generalize Grammar.slots c = fs at hslots
  induction hslots with
  | nil => exact absurd hv List.not_mem_nil
  | cons hf _ ih =>
    rcases List.mem_cons.1 hv with rfl | hv
    · exact hf.plain
    · exact ih hv

end TreeQuote.Grammar
