/-
TreeQuote/Proofs/Grammar/Refill.lean

Trees of the grammar with other tokens put in.  The places of such a tree hold plain tokens; tokens
of the same kinds leave its skeleton as it is, and tokens that are equal one by one give equal
trees.

Main statements: `placesIn_held`, `skeleton_refill` and `eqv_of_skeleton`.
-/
import TreeQuote.Proofs.Grammar.Rederivation
import TreeQuote.Proofs.Layout.Spacing

namespace TreeQuote

open Grammar

namespace Value

/-! ### Held tokens -/

/-- The places of a tree of the grammar hold their tokens as they are. -/
theorem placesIn_held {v : Value} (hv : v.Plain) (hgrown : v.All Grows) (c : NodeClass)
    (slot : Nat) : ∀ p ∈ placesIn c slot v, p.held = .token p.token := by
  induction v using Value.induction generalizing c slot with
  | h v ih =>
    have hbelow := fun w hw => ih w hw (plain_children hv hgrown hw) (hgrown.children w hw)
    cases v with
    | framed => exact hv.elim
    | array => exact hv.elim
    | token t =>
      intro p hp
      rw [placesIn] at hp
      split at hp
      · cases hp
      · rw [List.mem_singleton.1 hp]
    | tokens vs => exact forall_listPlaces hbelow
    | nodes vs => exact forall_listPlaces hbelow
    | separated vs => exact forall_listPlaces hbelow
    | node d vs => exact forall_fieldPlaces hbelow
    | _ => simp [placesIn]

/-! ### What is no token -/

/-- The value equals itself if its tokens do: a scalar is missing, and so is a token without a
kind, which no list has. -/
def Regular : Value → Prop
  | .scalar s => s = .none
  | .token t => t.isAbsent = true → t = .absent
  | .tokens vs => ∀ t, .token t ∈ vs → t.isAbsent = false
  | .nodes vs => ∀ t, .token t ∈ vs → t.isAbsent = false
  | .separated vs => ∀ t, .token t ∈ vs → t.isAbsent = false
  | _ => True

theorem regular_of_isNodeOf {v : Value} {n : NodeType} (h : v.isNodeOf n = true) : v.Regular := by
  cases v with
  | node c vs => trivial
  | _ => exact absurd h Bool.false_ne_true

end Value

open Value

namespace Grammar

theorem IsTokenOf.present {ks : List Kind} {t : Token} (h : IsTokenOf ks (.token t))
    (hks : ks.contains .none = false) : t.isAbsent = false := by
  obtain ⟨u, hu, hmem⟩ := h
  cases hu
  rw [Token.isAbsent, decide_eq_false_iff_not]
  intro hk
  rw [hk] at hmem
  simp_all

theorem IsTokenOf.regular {ks : List Kind} {v : Value} (h : IsTokenOf ks v)
    (hks : ks.contains .none = false) : v.Regular := by
  obtain ⟨t, rfl, -⟩ := id h
  exact fun hab => absurd hab (by simp [h.present hks])

/-- What a property of an inner node holds is regular. -/
theorem Form.Holds.regular {f : Form} {v : Value} (h : f.Holds v) (hf : f.isInner = true) :
    v.Regular := by
  have hnode : ∀ {n : NodeType} {t : Token}, ¬(Value.token t).isNodeOf n = true :=
    Bool.false_ne_true
  cases f with
  | nothing =>
    obtain ⟨k, rfl⟩ := h
    trivial
  | token ks => exact IsTokenOf.regular h (by simpa [isInner] using hf)
  | perhaps k =>
    rcases h with rfl | h
    · exact fun _ => rfl
    · exact IsTokenOf.regular h (by simpa [isInner] using hf)
  | tokens k =>
    obtain ⟨vs, rfl, hvs⟩ := h
    exact fun t ht => IsTokenOf.present (hvs _ ht) (by simpa [isInner] using hf)
  | node n => exact regular_of_isNodeOf h
  | optional n =>
    rcases h with rfl | h
    · rfl
    · exact regular_of_isNodeOf h
  | nodes n =>
    obtain ⟨vs, rfl, hvs⟩ := h
    exact fun t ht => absurd (hvs _ ht) hnode
  | separated n =>
    obtain ⟨vs, rfl, rfl | ⟨v, ws, rfl, hv, hmore⟩⟩ := h
    · exact fun t ht => absurd ht List.not_mem_nil
    · intro t ht
      rcases List.mem_cons.1 ht with rfl | ht
      · exact absurd hv hnode
      · exact (hmore.mem _ ht).elim (fun hn => absurd hn hnode) fun hc => hc.present (by decide)
  | more n => exact h.elim

theorem Grows.regular {c : NodeClass} {vs : List Value} (h : Grows c vs) : ∀ v ∈ vs, v.Regular := by
  obtain ⟨hslots, -⟩ := h
  have hinner : ∀ f ∈ Grammar.slots c, f.isInner = true := fun f hf => slots_isInner hf
  generalize Grammar.slots c = fs at hslots hinner
  induction hslots with
  | nil => exact List.forall_mem_nil _
  | cons hf _ ih =>
    obtain ⟨hfirst, hinner⟩ := List.forall_mem_cons.1 hinner
    exact List.forall_mem_cons.2 ⟨hf.regular hfirst, ih hinner⟩

/-- Below a regular value of the grammar all values are regular. -/
theorem regular_children {v w : Value} (hv : v.Plain) (hregular : v.Regular) (hgrown : v.All Grows)
    (hw : w ∈ v.children) : w.Regular := by
  have hitem : ∀ {vs : List Value}, (∀ x ∈ vs, x.IsItem)
      → (∀ t, .token t ∈ vs → t.isAbsent = false) → w ∈ vs → w.Regular := by
    intro vs hvs hpresent hmem
    obtain ⟨t, rfl⟩ | ⟨c, us, rfl⟩ := hvs w hmem
    · exact fun hab => absurd hab (by simp [hpresent t hmem])
    · trivial
  cases v with
  | framed => exact hv.elim
  | array => exact hv.elim
  | tokens vs => exact hitem hv hregular hw
  | nodes vs => exact hitem hv hregular hw
  | separated vs => exact hitem hv hregular hw
  | node c vs => exact hgrown.1.regular w hw
  | _ => exact absurd hw List.not_mem_nil

end Grammar

/-! ### Equal tokens -/

namespace Value

mutual

theorem retoken_id : ∀ v : Value, retoken id v = v
  | .scalar _ => rfl
  | .kind _ => rfl
  | .trivia _ => rfl
  | .triviaList _ => rfl
  | .token _ => rfl
  | .framed .. => rfl
  | .tokens vs => congrArg Value.tokens (retokenList_id vs)
  | .node c vs => congrArg (Value.node c) (retokenList_id vs)
  | .nodes vs => congrArg Value.nodes (retokenList_id vs)
  | .separated vs => congrArg Value.separated (retokenList_id vs)
  | .array vs => congrArg Value.array (retokenList_id vs)

theorem retokenList_id : ∀ vs : List Value, retokenList id vs = vs
  | [] => rfl
  | v :: vs => by rw [retokenList, retoken_id v, retokenList_id vs]

end

/-- A tree of the grammar takes equal tokens alike. -/
theorem refill_alike {v : Value} (hv : v.Plain) (hregular : v.Regular) (hgrown : v.All Grows)
    {ts us : List Token} (h : EqvTokens ts us) (hlen : (leaves v).length ≤ us.length) :
    RefillsAlike id v ts us := by
  induction v using Value.induction generalizing ts us with
  | h v ih =>
    have hbelow : ∀ w ∈ v.children, ∀ {ts us}, EqvTokens ts us → (leaves w).length ≤ us.length
        → RefillsAlike id w ts us := fun w hw => ih w hw (plain_children hv hgrown hw)
      (regular_children hv hregular hgrown hw) (hgrown.children w hw)
    cases v with
    | framed => exact hv.elim
    | array => exact hv.elim
    | scalar s =>
      obtain rfl : s = .none := hregular
      exact ⟨rfl, h, rfl⟩
    | kind k => exact ⟨decide_eq_true rfl, h, rfl⟩
    | trivia c => exact ⟨decide_eq_true rfl, h, rfl⟩
    | triviaList cs => exact ⟨decide_eq_true rfl, h, rfl⟩
    | token t =>
      cases hab : t.isAbsent with
      | true =>
        obtain rfl := hregular hab
        exact ⟨rfl, h, rfl⟩
      | false =>
        rw [leaves, hab, if_neg Bool.false_ne_true] at hlen
        cases h with
        | nil => exact absurd hlen (by simp)
        | cons hfirst hrest =>
          refine ⟨?_, ?_, ?_⟩
          · simpa [retoken, refill, refillToken, hab, eqv] using hfirst
          · simpa [retoken, refill, refillToken, hab] using hrest
          · simp [leaves, refill, refillToken, hab]
    | tokens vs =>
      have hlist := refillList_alike hbelow h hlen
      refine ⟨?_, ?_, hlist.length⟩ <;> rw [retoken_tokens]
      · exact hlist.values
      · exact hlist.rest
    | nodes vs =>
      have hlist := refillList_alike hbelow h hlen
      refine ⟨?_, ?_, hlist.length⟩ <;> rw [retoken_nodes]
      · exact hlist.values
      · exact hlist.rest
    | separated vs =>
      have hlist := refillList_alike hbelow h hlen
      refine ⟨?_, ?_, hlist.length⟩ <;> rw [retoken_separated]
      · exact hlist.values
      · exact hlist.rest
    | node c vs =>
      have hlist := refillList_alike hbelow h hlen
      refine ⟨?_, ?_, hlist.length⟩ <;> rw [retoken_node]
      · show (decide (c = c) && _) = true
        rw [decide_eq_true rfl, Bool.true_and]
        exact hlist.values
      · exact hlist.rest

end Value

/-! ### Trees of one skeleton -/

namespace Grammar

/-- Nodes of the grammar that have one skeleton and tokens that are equal one by one are equal. -/
theorem eqv_of_skeleton {v w : Value} {n : NodeType} (hv : v.isNodeOf n = true)
    (hgrown : v.All Grows) (hskeleton : w.skeleton = v.skeleton) (h : EqvTokens w.leaves v.leaves) :
    w.eqv v = true := by
  have hplain := (isItem_of_isNodeOf hv).plain
  have hw := refill_of_skeleton v hplain hgrown w [] hskeleton
  have hself := refill_of_skeleton v hplain hgrown v [] rfl
  have halike := (refill_alike hplain (regular_of_isNodeOf hv) hgrown h (Nat.le_refl _)).value
  rw [List.append_nil] at hw hself
  rwa [retoken_id, hw, hself] at halike

/-- Values that differ in their tokens only have one skeleton. -/
theorem skeleton_of_alike {v : Value} (hv : v.Plain) (hgrown : v.All Grows) {w : Value}
    (h : Alike v w) : w.skeleton = v.skeleton := by
  induction v using Value.induction generalizing w with
  | h v ih =>
    have hlist : ∀ {vs ws : List Value}, (∀ x ∈ vs, x ∈ v.children) → AlikeList vs ws
        → retokenList Token.outline ws = retokenList Token.outline vs := by
      intro vs
      induction vs with
      | nil =>
        intro ws _ hws
        cases hws
        rfl
      | cons x vs ih' =>
        intro ws hvs hws
        obtain ⟨hx, hvs⟩ := List.forall_mem_cons.1 hvs
        cases hws with
        | cons hfirst hrest =>
          have hsame := ih x hx (plain_children hv hgrown hx) (hgrown.children x hx) hfirst
          show retoken Token.outline _ :: retokenList Token.outline _ = _
          rw [ih' hvs hrest, show retoken Token.outline _ = retoken Token.outline x from hsame]
          rfl
    cases h with
    | same => rfl
    | @token t u hkind hpresent =>
      have houtline : u.outline = t.outline := by
        simp [Token.outline, Token.isAbsent, hkind, hpresent]
      exact congrArg Value.token houtline
    | framed => exact hv.elim
    | tokens hs => exact congrArg Value.tokens (hlist (fun _ hx => hx) hs)
    | node hs => exact congrArg (Value.node _) (hlist (fun _ hx => hx) hs)
    | nodes hs => exact congrArg Value.nodes (hlist (fun _ hx => hx) hs)
    | separated hs => exact congrArg Value.separated (hlist (fun _ hx => hx) hs)

/-- A tree keeps its skeleton with other tokens of the same kinds. -/
theorem skeleton_refill {v : Value} (hv : v.Plain) (hgrown : v.All Grows) {us : List Token}
    (hkinds : kinds us = kinds v.leaves) : (v.refill us).1.skeleton = v.skeleton :=
  skeleton_of_alike hv hgrown (refill_of_kinds hkinds).1

/-- Other tokens of the same kinds derive a tree of the same skeleton. -/
theorem Yields.exchange {m : Nonterminal} {tree : Value} {ts us : List Token}
    (h : Yields (.nonterminal m) [tree] ts) (hkinds : kinds us = kinds ts) :
    ∃ w, Yields (.nonterminal m) [w] us ∧ w.skeleton = tree.skeleton := by
  obtain ⟨parts, hparts, hskeletons⟩ := YieldsAll.rederive h (by simp) hkinds
  obtain ⟨ws, hws, hone⟩ := List.map_eq_singleton_iff.1 hskeletons
  obtain ⟨w, rfl, hw⟩ := List.map_eq_singleton_iff.1 hone
  subst hws
  exact ⟨w, hparts, hw⟩

end Grammar

end TreeQuote
