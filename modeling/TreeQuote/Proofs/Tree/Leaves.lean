/-
TreeQuote/Proofs/Tree/Leaves.lean

The tokens at the leaves of a value, without their places.  `refill` replaces them one by
one and changes nothing else: `Alike v w` says that `w` is `v` with tokens exchanged for
tokens of the same kind.

Main statements:
* `refill_refilled`: after a refill the leaves are the supply, and the tree is alike if the
  kinds are;
* `tokenText?_leaves`: the text of a tree is the texts of its leaves one after the other.
-/
import TreeQuote.Proofs.Source.Gap
import TreeQuote.Tree.Places

namespace TreeQuote.Value

/-! ### Leaves -/

@[simp] theorem leavesList_nil : leavesList [] = [] := rfl

@[simp] theorem leavesList_cons (v : Value) (vs : List Value) :
    leavesList (v :: vs) = leaves v ++ leavesList vs := rfl

theorem leavesList_eq_flatMap (vs : List Value) : leavesList vs = vs.flatMap leaves := by
  induction vs with
  | nil => rfl
  | cons v vs ih => rw [leavesList_cons, ih, List.flatMap_cons]

theorem leavesList_append (vs ws : List Value) :
    leavesList (vs ++ ws) = leavesList vs ++ leavesList ws := by
  simp only [leavesList_eq_flatMap, List.flatMap_append]

mutual

/-- Leaves are places without the place. -/
theorem placesIn_token (c : NodeClass) (slot : Nat) :
    ∀ v : Value, (placesIn c slot v).map (·.token) = leaves v
  | .token t => by
    simp only [placesIn, leaves]
    split <;> rfl
  | .framed t l r => by
    simp only [placesIn, leaves]
    split <;> rfl
  | .tokens vs => listPlaces_token c slot vs
  | .node d vs => fieldPlaces_token d 0 vs
  | .nodes vs => listPlaces_token c slot vs
  | .separated vs => listPlaces_token c slot vs
  | .scalar _ => rfl
  | .kind _ => rfl
  | .trivia _ => rfl
  | .triviaList _ => rfl
  | .array _ => rfl

theorem listPlaces_token (c : NodeClass) (slot : Nat) :
    ∀ vs : List Value, (listPlaces c slot vs).map (·.token) = leavesList vs
  | [] => rfl
  | v :: vs => by
    rw [listPlaces, List.map_append, placesIn_token c slot v, listPlaces_token c slot vs,
      leavesList_cons]

theorem fieldPlaces_token (c : NodeClass) (slot : Nat) :
    ∀ vs : List Value, (fieldPlaces c slot vs).map (·.token) = leavesList vs
  | [] => rfl
  | v :: vs => by
    rw [fieldPlaces, List.map_append, placesIn_token c slot v, fieldPlaces_token c (slot + 1) vs,
      leavesList_cons]

end

theorem length_placesIn (c : NodeClass) (slot : Nat) (v : Value) :
    (placesIn c slot v).length = v.leaves.length := by
  rw [← placesIn_token c slot v, List.length_map]

theorem length_fieldPlaces (c : NodeClass) (slot : Nat) (vs : List Value) :
    (fieldPlaces c slot vs).length = (leavesList vs).length := by
  rw [← fieldPlaces_token c slot vs, List.length_map]

theorem fieldPlaces_append (c : NodeClass) (slot : Nat) (vs ws : List Value) :
    fieldPlaces c slot (vs ++ ws) = fieldPlaces c slot vs ++ fieldPlaces c (slot + vs.length) ws := by
  induction vs generalizing slot with
  | nil => rfl
  | cons v vs ih =>
    rw [List.cons_append, fieldPlaces, ih, fieldPlaces, List.append_assoc, List.length_cons,
      Nat.add_right_comm, Nat.add_assoc]

/-- The tokens of a node are its leaves. -/
theorem nodeTokens_node (c : NodeClass) (vs : List Value) :
    (Value.node c vs).nodeTokens = leavesList vs :=
  fieldPlaces_token c 0 vs

/-! ### Trees that differ in their tokens only -/

mutual

/-- The second value is the first with tokens exchanged for tokens of the same kind. -/
inductive Alike : Value → Value → Prop where
  | same (v : Value) : Alike v v
  | token {t u : Token} (h : t.kind = u.kind) (hpresent : u.kind ≠ .none) :
    Alike (.token t) (.token u)
  | framed {t u : Token} {l r : Value} (h : t.kind = u.kind) : Alike (.framed t l r) (.token u)
  | tokens {vs ws : List Value} (h : AlikeList vs ws) : Alike (.tokens vs) (.tokens ws)
  | node {c : NodeClass} {vs ws : List Value} (h : AlikeList vs ws) : Alike (.node c vs) (.node c ws)
  | nodes {vs ws : List Value} (h : AlikeList vs ws) : Alike (.nodes vs) (.nodes ws)
  | separated {vs ws : List Value} (h : AlikeList vs ws) : Alike (.separated vs) (.separated ws)

/-- The same for lists of values. -/
inductive AlikeList : List Value → List Value → Prop where
  | nil : AlikeList [] []
  | cons {v w : Value} {vs ws : List Value} (h : Alike v w) (hs : AlikeList vs ws) :
    AlikeList (v :: vs) (w :: ws)

end

/-! ### Refilling -/

/-- Tokens that can take the places of others: as many, and none of them absent. -/
structure Supplies (us ts : List Token) : Prop where
  length : us.length = ts.length
  present : ∀ u ∈ us, u.isAbsent = false

/-- A supply for two parts is a supply for each. -/
theorem Supplies.split {us ts ts' : List Token} (h : Supplies us (ts ++ ts')) :
    ∃ vs ws, us = vs ++ ws ∧ Supplies vs ts ∧ Supplies ws ts' := by
  have hlen := h.length
  rw [List.length_append] at hlen
  refine ⟨us.take ts.length, us.drop ts.length, (List.take_append_drop _ _).symm, ⟨?_, ?_⟩,
    ⟨?_, ?_⟩⟩
  · rw [List.length_take]; omega
  · exact fun u hu => h.present u (List.mem_of_mem_take hu)
  · rw [List.length_drop]; omega
  · exact fun u hu => h.present u (List.mem_of_mem_drop hu)

/-- The kinds of tokens. -/
def kinds (ts : List Token) : List Kind := ts.map (·.kind)

/-- The text of tokens one after the other. -/
def tokensText (ts : List Token) : Text := ts.flatMap Token.fullText

@[simp] theorem tokensText_nil : tokensText [] = [] := rfl

@[simp] theorem tokensText_cons (t : Token) (ts : List Token) :
    tokensText (t :: ts) = t.fullText ++ tokensText ts := rfl

theorem tokensText_append (ts us : List Token) :
    tokensText (ts ++ us) = tokensText ts ++ tokensText us := by
  simp [tokensText]

/-- What a refill of `v` gives: the leaves are the supply, the rest of the supply is handed on,
and kinds that stay leave the value alike. -/
structure Refilled (v : Value) (us rest : List Token) (r : Value × List Token) : Prop where
  rest : r.2 = rest
  leaves : r.1.leaves = us
  alike : kinds us = kinds v.leaves → Alike v r.1

/-- The same for a list of values. -/
structure RefilledList (vs : List Value) (us rest : List Token) (r : List Value × List Token) :
    Prop where
  rest : r.2 = rest
  leaves : leavesList r.1 = us
  alike : kinds us = kinds (leavesList vs) → AlikeList vs r.1

/-- Without leaves nothing is exchanged. -/
theorem refilled_leafless {v : Value} {us rest : List Token} (h : Supplies us [])
    (hleaves : v.leaves = []) : Refilled v us rest (v, us ++ rest) := by
  obtain rfl : us = [] := List.length_eq_zero_iff.1 h.length
  exact ⟨rfl, hleaves, fun _ => .same v⟩

/-- A token that is not absent is exchanged for the one token of its supply. -/
theorem refillToken_refilled {v : Value} {t : Token} {us rest : List Token}
    (hab : t.isAbsent = false) (h : Supplies us [t])
    (halike : ∀ u : Token, u.isAbsent = false → kinds [u] = kinds v.leaves → Alike v (.token u)) :
    Refilled v us rest (refillToken v t (us ++ rest)) := by
  obtain ⟨u, rfl⟩ := List.length_eq_one_iff.1 h.length
  have hu : u.isAbsent = false := h.present u List.mem_cons_self
  simp only [refillToken, hab]
  exact ⟨rfl, by simp [Value.leaves, hu], halike u hu⟩

mutual

theorem refill_refilled (us rest : List Token) :
    ∀ v : Value, Supplies us v.leaves → Refilled v us rest (v.refill (us ++ rest))
  | .token t, h => by
    rw [refill]
    cases hab : t.isAbsent with
    | true =>
      simp only [leaves, hab, if_true] at h
      simp only [refillToken, hab, if_true]
      exact refilled_leafless h (by simp [leaves, hab])
    | false =>
      simp only [leaves, hab] at h
      refine refillToken_refilled hab h fun u hu hk => .token ?_ ?_
      · simpa [kinds, leaves, hab] using hk.symm
      · simpa [Token.isAbsent] using hu
  | .framed t l r, h => by
    rw [refill]
    cases hab : t.isAbsent with
    | true =>
      simp only [leaves, hab, if_true] at h
      simp only [refillToken, hab, if_true]
      exact refilled_leafless h (by simp [leaves, hab])
    | false =>
      simp only [leaves, hab] at h
      refine refillToken_refilled hab ⟨h.length, h.present⟩ fun u hu hk => .framed ?_
      simpa [kinds, leaves, hab, Token.withTrivia] using hk.symm
  | .tokens vs, h => by
    obtain ⟨hrest, hleaves, halike⟩ := refillList_refilled us rest vs h
    exact ⟨hrest, hleaves, fun hk => .tokens (halike hk)⟩
  | .node c vs, h => by
    obtain ⟨hrest, hleaves, halike⟩ := refillList_refilled us rest vs h
    exact ⟨hrest, hleaves, fun hk => .node (halike hk)⟩
  | .nodes vs, h => by
    obtain ⟨hrest, hleaves, halike⟩ := refillList_refilled us rest vs h
    exact ⟨hrest, hleaves, fun hk => .nodes (halike hk)⟩
  | .separated vs, h => by
    obtain ⟨hrest, hleaves, halike⟩ := refillList_refilled us rest vs h
    exact ⟨hrest, hleaves, fun hk => .separated (halike hk)⟩
  | .scalar _, h => refilled_leafless h rfl
  | .kind _, h => refilled_leafless h rfl
  | .trivia _, h => refilled_leafless h rfl
  | .triviaList _, h => refilled_leafless h rfl
  | .array _, h => refilled_leafless h rfl

theorem refillList_refilled (us rest : List Token) :
    ∀ vs : List Value, Supplies us (leavesList vs) →
      RefilledList vs us rest (refillList vs (us ++ rest))
  | [], h => by
    obtain rfl : us = [] := List.length_eq_zero_iff.1 h.length
    exact ⟨rfl, rfl, fun _ => .nil⟩
  | v :: vs, h => by
    obtain ⟨ts, ws, rfl, hts, hws⟩ := h.split
    obtain ⟨hrest, hleaves, halike⟩ := refill_refilled ts (ws ++ rest) v hts
    obtain ⟨hrest', hleaves', halike'⟩ := refillList_refilled ws rest vs hws
    rw [refillList, List.append_assoc]
    simp only [hrest]
    refine ⟨hrest', by rw [leavesList_cons, hleaves, hleaves'], fun hk => ?_⟩
    simp only [kinds, leavesList_cons, List.map_append] at hk
    have hlen : (ts.map (·.kind)).length = (v.leaves.map (·.kind)).length := by
      simp only [List.length_map, hts.length]
    obtain ⟨hk₁, hk₂⟩ := List.append_inj hk hlen
    exact .cons (halike hk₁) (halike' hk₂)

end

/-! ### Leaves and texts -/

mutual

/-- Leaves are never absent. -/
theorem leaves_present : ∀ v : Value, ∀ t ∈ v.leaves, t.isAbsent = false
  | .token t, u, hu => by
    cases hab : t.isAbsent with
    | true => simp [leaves, hab] at hu
    | false =>
      simp only [leaves, hab, Bool.false_eq_true, if_false, List.mem_singleton] at hu
      rw [hu, hab]
  | .framed t l r, u, hu => by
    cases hab : t.isAbsent with
    | true => simp [leaves, hab] at hu
    | false =>
      simp only [leaves, hab, Bool.false_eq_true, if_false, List.mem_singleton] at hu
      rw [hu]
      exact hab
  | .tokens vs, u, hu => leavesList_present vs u hu
  | .node _ vs, u, hu => leavesList_present vs u hu
  | .nodes vs, u, hu => leavesList_present vs u hu
  | .separated vs, u, hu => leavesList_present vs u hu
  | .scalar _, _, hu => absurd hu List.not_mem_nil
  | .kind _, _, hu => absurd hu List.not_mem_nil
  | .trivia _, _, hu => absurd hu List.not_mem_nil
  | .triviaList _, _, hu => absurd hu List.not_mem_nil
  | .array _, _, hu => absurd hu List.not_mem_nil

theorem leavesList_present : ∀ vs : List Value, ∀ t ∈ leavesList vs, t.isAbsent = false
  | [], _, ht => absurd ht List.not_mem_nil
  | v :: vs, t, ht => by
    rcases List.mem_append.1 ht with ht | ht
    · exact leaves_present v t ht
    · exact leavesList_present vs t ht

end

/-- Tokens of the kinds of the leaves take their places. -/
theorem refill_of_kinds {v : Value} {us : List Token} (h : kinds us = kinds v.leaves) :
    Alike v (v.refill us).1 ∧ (v.refill us).1.leaves = us := by
  have hsupplies : Supplies us v.leaves := by
    refine ⟨by simpa [kinds] using congrArg List.length h, fun u hu => ?_⟩
    have hmem : u.kind ∈ kinds v.leaves := h ▸ List.mem_map_of_mem hu
    obtain ⟨t, ht, hk⟩ := List.mem_map.1 hmem
    have hpresent := leaves_present v t ht
    rwa [Token.isAbsent, hk] at hpresent
  obtain ⟨-, hleaves, halike⟩ := refill_refilled us [] v hsupplies
  rw [List.append_nil] at hleaves halike
  exact ⟨halike h, hleaves⟩

/-- A token or a node. -/
def IsItem (v : Value) : Prop := (∃ t, v = .token t) ∨ ∃ c vs, v = .node c vs

/-- The value is no token between other things than trivia, and holds none in a list. -/
def Plain : Value → Prop
  | .framed .. => False
  | .array _ => False
  | .tokens vs => ∀ w ∈ vs, w.IsItem
  | .nodes vs => ∀ w ∈ vs, w.IsItem
  | .separated vs => ∀ w ∈ vs, w.IsItem
  | _ => True

theorem IsItem.plain {v : Value} (h : v.IsItem) : v.Plain := by
  obtain ⟨t, rfl⟩ | ⟨c, vs, rfl⟩ := h <;> trivial

mutual

/-- The text of a tree is the texts of its leaves. -/
theorem tokenText?_leaves {Q : NodeClass → List Value → Prop}
    (hQ : ∀ c vs, Q c vs → ∀ v ∈ vs, v.Plain) :
    ∀ v : Value, v.Plain → v.All Q → (∀ t ∈ v.leaves, t.fullText? = .ok t.fullText) →
      v.tokenText? = .ok (tokensText v.leaves)
  | .token t, _, _, h => by
    rw [tokenText?, leaves]
    cases hab : t.isAbsent with
    | true => rfl
    | false =>
      have ht := h t (by simp [leaves, hab])
      simp [tokensText, ht]
  | .tokens vs, hp, hall, h => tokenTextList?_leaves hQ vs (fun w hw => (hp w hw).plain) hall h
  | .nodes vs, hp, hall, h => tokenTextList?_leaves hQ vs (fun w hw => (hp w hw).plain) hall h
  | .separated vs, hp, hall, h => tokenTextList?_leaves hQ vs (fun w hw => (hp w hw).plain) hall h
  | .node c vs, _, hall, h => tokenTextList?_leaves hQ vs (hQ c vs hall.1) hall.2 h
  | .scalar _, _, _, _ => rfl
  | .kind _, _, _, _ => rfl
  | .trivia _, _, _, _ => rfl
  | .triviaList _, _, _, _ => rfl
  | .framed .., hp, _, _ => hp.elim
  | .array _, hp, _, _ => hp.elim

theorem tokenTextList?_leaves {Q : NodeClass → List Value → Prop}
    (hQ : ∀ c vs, Q c vs → ∀ v ∈ vs, v.Plain) :
    ∀ vs : List Value, (∀ v ∈ vs, v.Plain) → AllList Q vs →
      (∀ t ∈ leavesList vs, t.fullText? = .ok t.fullText) →
      tokenTextList? vs = .ok (tokensText (leavesList vs))
  | [], _, _, _ => rfl
  | v :: vs, hp, hall, h => by
    have hv := tokenText?_leaves hQ v (hp v List.mem_cons_self) hall.1
      fun t ht => h t (List.mem_append_left _ ht)
    have hvs := tokenTextList?_leaves hQ vs (fun w hw => hp w (List.mem_cons_of_mem _ hw)) hall.2
      fun t ht => h t (List.mem_append_right _ ht)
    simp only [tokenTextList?, hv, hvs, leavesList_cons, tokensText_append]
    rfl

end

end TreeQuote.Value
