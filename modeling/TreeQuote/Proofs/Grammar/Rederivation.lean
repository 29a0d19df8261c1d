/-
TreeQuote/Proofs/Grammar/Rederivation.lean

Deriving other tokens of the same kinds.  Productions look at kinds only, so what derives
some tokens derives any others of the same kinds, and builds the same tree around them:
`Value.skeleton` is the tree with nothing but the kinds of its tokens.  A tree of the
grammar is determined by its skeleton and its leaves, and refilling puts the two together.

Main statements:
* `YieldsAll.rederive`: the derivation of other tokens of the same kinds;
* `refill_of_skeleton`: refilling a tree with the leaves of one of the same skeleton gives it.
-/
import TreeQuote.Proofs.Grammar.Shape
import TreeQuote.Proofs.Tree.Retoken

namespace TreeQuote

/-- The token with nothing but its kind. -/
def Token.outline (t : Token) : Token := if t.isAbsent then t else { kind := t.kind, text := [] }

@[simp] theorem Token.outline_kind (t : Token) : t.outline.kind = t.kind := by
  unfold Token.outline
  split <;> rfl

/-- The tree with nothing but the kinds of its tokens. -/
def Value.skeleton (v : Value) : Value := v.retoken Token.outline

namespace Grammar

open Value

/-! ### Productions look at kinds only -/

section Retoken

variable {g : Token → Token}

theorem token?_retoken (v : Value) : token? (v.retoken g) = (token? v).map g := by
  cases v <;> rfl

theorem property_retoken (a : Shape) (k : Kind) (vs : List Value) (habsent : g .absent = .absent) :
    property a k (vs.map (retoken g)) = (property a k vs).retoken g := by
  have hhead : ∀ d : Value, d.retoken g = d →
      (vs.map (retoken g)).headD d = (vs.headD d).retoken g := by
    intro d hd
    cases vs with
    | nil => exact hd.symm
    | cons v vs => rfl
  have htokens : (vs.map (retoken g)).filter isToken = (vs.filter isToken).map (retoken g) := by
    rw [List.filter_map]
    congr 1
    exact List.filter_congr fun v _ => isToken_retoken v
  unfold property
  split
  · rfl
  · rw [htokens, retoken_tokens]
  · rw [retoken_nodes]
  · rw [retoken_separated]
  · exact hhead _ (by rw [retoken, habsent])
  · exact hhead _ rfl

theorem partsAt_retoken (slot : Nat) (targets : List Nat) (parts : List (List Value)) :
    partsAt slot targets (parts.map (List.map (retoken g)))
      = (partsAt slot targets parts).map (retoken g) := by
  induction targets generalizing parts with
  | nil => rfl
  | cons target targets ih =>
    cases parts with
    | nil => rfl
    | cons vs parts =>
      have hcons : ∀ us : List (List Value), partsAt slot (target :: targets) (vs :: parts)
          = (if target = slot then vs else []) ++ partsAt slot targets parts := fun _ => rfl
      show (if target = slot then vs.map (retoken g) else [])
        ++ partsAt slot targets (parts.map (List.map (retoken g))) = _
      rw [ih, hcons parts, List.map_append]
      split <;> rfl

theorem properties_retoken (targets : List Nat) (parts : List (List Value)) (k : Kind) (slot : Nat)
    (fs : List Field) (habsent : g .absent = .absent) :
    properties targets (parts.map (List.map (retoken g))) k slot fs
      = (properties targets parts k slot fs).map (retoken g) := by
  induction fs generalizing slot with
  | nil => rfl
  | cons f fs ih =>
    rw [properties, properties, List.map_cons, ih, partsAt_retoken, property_retoken _ _ _ habsent]

theorem kindFor_retoken (c : NodeClass) (vs : List Value) (hkind : ∀ t, (g t).kind = t.kind) :
    kindFor c (vs.map (retoken g)) = kindFor c vs := by
  have hfind : (vs.map (retoken g)).findSome? token? = (vs.findSome? token?).map g := by
    induction vs with
    | nil => rfl
    | cons v vs ih =>
      rw [List.map_cons, List.findSome?_cons, List.findSome?_cons, token?_retoken, ih]
      cases token? v <;> rfl
  rw [kindFor, kindFor, hfind]
  cases vs.findSome? token? with
  | none => rfl
  | some t => simp [hkind]

/-- Productions build the same around tokens of the same kinds. -/
theorem apply_retoken (b : Build) (parts : List (List Value)) (habsent : g .absent = .absent)
    (hkind : ∀ t, (g t).kind = t.kind) :
    b.apply (parts.map (List.map (retoken g))) = (b.apply parts).map (retoken g) := by
  have hflat : (parts.map (List.map (retoken g))).flatten = parts.flatten.map (retoken g) :=
    List.map_flatten.symm
  cases b with
  | parts => exact hflat
  | node c targets =>
    rw [Build.apply, Build.apply, hflat, kindFor_retoken c _ hkind,
      properties_retoken _ _ _ _ _ habsent, List.map_singleton, retoken_node]

end Retoken

/-- Other tokens of the same kinds have a derivation that builds the same skeletons. -/
theorem YieldsAll.rederive {xs : List Symbol} {parts : List (List Value)} {ts us : List Token}
    (h : YieldsAll xs parts ts) (hxs : ∀ x ∈ xs, x ≠ .terminal .none)
    (hkinds : kinds us = kinds ts) :
    ∃ parts', YieldsAll xs parts' us
      ∧ parts'.map (List.map skeleton) = parts.map (List.map skeleton) := by
  induction h generalizing us with
  | nil =>
    obtain rfl : us = [] := List.map_eq_nil_iff.1 hkinds
    exact ⟨[], .nil, rfl⟩
  | token t _ ih =>
    obtain ⟨u, us, rfl, hu, hus⟩ := List.map_eq_cons_iff.1 hkinds
    obtain ⟨parts', hyields, hparts⟩ := ih (fun x hx => hxs x (List.mem_cons_of_mem _ hx)) hus
    have hpresent : t.kind ≠ .none := fun hk => hxs _ List.mem_cons_self (by rw [hk])
    have hout : u.outline = t.outline := by
      simp [Token.outline, Token.isAbsent, hu, hpresent]
    have hterminal := YieldsAll.token u hyields
    rw [show u.kind = t.kind from hu] at hterminal
    refine ⟨[.token u] :: parts', hterminal, ?_⟩
    simp only [List.map_cons, List.map_nil, hparts, skeleton, retoken, hout]
  | @production p parts ts xs rest vs hp _ _ ih ih' =>
    rw [kinds, kinds, List.map_append] at hkinds
    obtain ⟨us₁, us₂, rfl, hus₁, hus₂⟩ := List.map_eq_append_iff.1 hkinds
    obtain ⟨parts', hyields, hparts⟩ := ih (fun x hx => (rhs_ne hp x hx).1) hus₁
    obtain ⟨rest', hyields', hrest⟩ := ih' (fun x hx => hxs x (List.mem_cons_of_mem _ hx)) hus₂
    refine ⟨_, .production hp hyields hyields', ?_⟩
    have happly := fun qs => apply_retoken p.builds qs rfl Token.outline_kind
    rw [List.map_cons, List.map_cons, hrest]
    congr 1
    exact (happly parts').symm.trans ((congrArg p.builds.apply hparts).trans (happly parts))

/-! ### Refilling -/

theorem leaves_token_outline {t u : Token} (h : u.outline = t.outline) (hab : t.isAbsent = false) :
    u.isAbsent = false := by
  have hk := congrArg Token.kind h
  rw [Token.outline_kind, Token.outline_kind] at hk
  simpa [Token.isAbsent, hk] using hab

/-- A tree of the grammar is refilled with the leaves of any tree of the same skeleton to give that
tree. -/
theorem refill_of_skeleton (v : Value) (hv : v.Plain) (hgrown : v.All Grows) :
    ∀ (w : Value) (rest : List Token), w.skeleton = v.skeleton →
      v.refill (w.leaves ++ rest) = (w, rest) := by
  induction v using Value.induction with
  | h v ih =>
    have hbelow := fun x hx => ih x hx (plain_children hv hgrown hx) (hgrown.children x hx)
    have hlist : ∀ (vs ws : List Value) (rest : List Token), (∀ x ∈ vs, x ∈ v.children)
        → ws.map skeleton = vs.map skeleton
        → refillList vs (leavesList ws ++ rest) = (ws, rest) := by
      intro vs ws rest hvs hsame
      induction vs generalizing ws with
      | nil =>
        obtain rfl : ws = [] := List.map_eq_nil_iff.1 hsame
        rfl
      | cons x vs ih' =>
        obtain ⟨y, ws, rfl, hy, hws⟩ := List.map_eq_cons_iff.1 hsame
        obtain ⟨hx, hvs⟩ := List.forall_mem_cons.1 hvs
        rw [refillList, leavesList_cons, List.append_assoc, hbelow x hx y _ hy, ih' _ hvs hws]
    intro w rest hsame
    unfold skeleton at hsame
    cases v with
    | framed => exact hv.elim
    | array => exact hv.elim
    | tokens vs =>
      cases w <;> simp only [retoken, reduceCtorEq, Value.tokens.injEq] at hsame
      rw [retokenList_eq_map, retokenList_eq_map] at hsame
      rw [refill, leaves, hlist vs _ rest (fun x hx => hx) hsame]
    | nodes vs =>
      cases w <;> simp only [retoken, reduceCtorEq, Value.nodes.injEq] at hsame
      rw [retokenList_eq_map, retokenList_eq_map] at hsame
      rw [refill, leaves, hlist vs _ rest (fun x hx => hx) hsame]
    | separated vs =>
      cases w <;> simp only [retoken, reduceCtorEq, Value.separated.injEq] at hsame
      rw [retokenList_eq_map, retokenList_eq_map] at hsame
      rw [refill, leaves, hlist vs _ rest (fun x hx => hx) hsame]
    | node c vs =>
      cases w <;> simp only [retoken, reduceCtorEq, Value.node.injEq] at hsame
      obtain ⟨rfl, hsame⟩ := hsame
      rw [retokenList_eq_map, retokenList_eq_map] at hsame
      rw [refill, leaves, hlist vs _ rest (fun x hx => hx) hsame]
    | token t =>
      cases w <;> simp only [retoken, reduceCtorEq, Value.token.injEq] at hsame
      rename_i u
      cases hab : t.isAbsent with
      | true =>
        have hu : u.isAbsent = true := by
          by_contra hu
          have := leaves_token_outline hsame.symm (by simpa using hu)
          rw [hab] at this
          cases this
        simp only [Token.outline, hab, hu, if_true] at hsame
        subst hsame
        simp [refill, refillToken, leaves, hab]
      | false =>
        have hu := leaves_token_outline hsame hab
        simp [refill, refillToken, leaves, hab, hu]
    | _ =>
      cases w <;> simp only [retoken, reduceCtorEq] at hsame
      rw [← hsame]
      rfl

end Grammar

end TreeQuote
