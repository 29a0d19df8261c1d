/-
TreeQuote/Proofs/Tree/Retoken.lean

Changing every token of a tree.  `Value.retoken g` applies `g` to each token and leaves the rest
of the tree alone, so it commutes with reading the places off, and the tree stays well formed if
the tokens do.

Main statements: `Value.Formed.places_retoken` and `Value.WellFormed.retokened`.
-/
import TreeQuote.Proofs.Tree.Leaves
import TreeQuote.Proofs.Tree.WellFormed

namespace TreeQuote

/-- The place with another token. -/
def Place.retoken (g : Token → Token) (p : Place) : Place :=
  { p with held := .token (g p.token), token := g p.token }

namespace Token

variable {g : Token → Token}

/-- The change keeps the kinds of tokens, and absent tokens as they are. -/
structure KeepsKinds (g : Token → Token) : Prop where
  absent {t : Token} : t.isAbsent = true → g t = t
  kind (t : Token) : (g t).kind = t.kind

theorem KeepsKinds.isAbsent (hg : KeepsKinds g) (t : Token) :
    (g t).isAbsent = t.isAbsent := by
  rw [Token.isAbsent, Token.isAbsent, hg.kind]

end Token

namespace Value

mutual

/-- The value with each token changed. -/
def retoken (g : Token → Token) : Value → Value
  | .scalar s => .scalar s
  | .kind k => .kind k
  | .trivia t => .trivia t
  | .triviaList ts => .triviaList ts
  | .token t => .token (g t)
  | .framed t l r => .framed t l r
  | .tokens vs => .tokens (retokenList g vs)
  | .node c vs => .node c (retokenList g vs)
  | .nodes vs => .nodes (retokenList g vs)
  | .separated vs => .separated (retokenList g vs)
  | .array vs => .array (retokenList g vs)

/-- The values with each token changed. -/
def retokenList (g : Token → Token) : List Value → List Value
  | [] => []
  | v :: vs => retoken g v :: retokenList g vs

end

variable {g h : Token → Token}

theorem retokenList_eq_map (vs : List Value) : retokenList g vs = vs.map (retoken g) := by
  induction vs with
  | nil => rfl
  | cons v vs ih => rw [retokenList, ih, List.map_cons]

@[simp] theorem retoken_tokens (vs : List Value) :
    retoken g (.tokens vs) = .tokens (vs.map (retoken g)) := by
  rw [retoken, retokenList_eq_map]

@[simp] theorem retoken_node (c : NodeClass) (vs : List Value) :
    retoken g (.node c vs) = .node c (vs.map (retoken g)) := by
  rw [retoken, retokenList_eq_map]

@[simp] theorem retoken_nodes (vs : List Value) :
    retoken g (.nodes vs) = .nodes (vs.map (retoken g)) := by
  rw [retoken, retokenList_eq_map]

@[simp] theorem retoken_separated (vs : List Value) :
    retoken g (.separated vs) = .separated (vs.map (retoken g)) := by
  rw [retoken, retokenList_eq_map]

@[simp] theorem isNodeOf_retoken (t : NodeType) (v : Value) :
    (retoken g v).isNodeOf t = v.isNodeOf t := by
  cases v <;> rfl

@[simp] theorem isToken_retoken (v : Value) : (retoken g v).isToken = v.isToken := by
  cases v <;> rfl

theorem alternates_retoken (vs : List Value) : alternates (vs.map (retoken g)) = alternates vs := by
  induction vs using alternates.induct with
  | case1 => rfl
  | case2 a => simp [alternates]
  | case3 a b rest ih => simp [alternates, ih]

theorem kindOf_retoken (c : NodeClass) (vs : List Value) :
    kindOf c (vs.map (retoken g)) = kindOf c vs := by
  unfold kindOf
  cases hk : c.kind? with
  | some k => rfl
  | none =>
    cases vs with
    | nil => rfl
    | cons v vs => cases v <;> rfl

/-! ### Places -/

/-- The change keeps absent tokens, and only those. -/
structure Keeps (g : Token → Token) : Prop where
  absent : g .absent = .absent
  present {t : Token} : t.isAbsent = false → (g t).isAbsent = false

theorem WellFormed.isAbsent {t : Token} (ht : t.WellFormed) : t.isAbsent = false := by
  simpa [Token.isAbsent] using ht.present

section Places

theorem listPlaces_retoken {c : NodeClass} {slot : Nat} {vs : List Value}
    (hvs : ∀ v ∈ vs, ∀ c slot,
      placesIn c slot (retoken g v) = (placesIn c slot v).map (Place.retoken g)) :
    listPlaces c slot (vs.map (retoken g)) = (listPlaces c slot vs).map (Place.retoken g) := by
  induction vs with
  | nil => rfl
  | cons v vs ih =>
    rw [List.map_cons, listPlaces, listPlaces, List.map_append, hvs v List.mem_cons_self,
      ih fun w hw => hvs w (List.mem_cons_of_mem v hw)]

theorem fieldPlaces_retoken {c : NodeClass} {slot : Nat} {vs : List Value}
    (hvs : ∀ v ∈ vs, ∀ c slot,
      placesIn c slot (retoken g v) = (placesIn c slot v).map (Place.retoken g)) :
    fieldPlaces c slot (vs.map (retoken g)) = (fieldPlaces c slot vs).map (Place.retoken g) := by
  induction vs generalizing slot with
  | nil => rfl
  | cons v vs ih =>
    rw [List.map_cons, fieldPlaces, fieldPlaces, List.map_append, hvs v List.mem_cons_self,
      ih fun w hw => hvs w (List.mem_cons_of_mem v hw)]

variable (hg : Keeps g)

include hg

theorem Formed.placesIn_retoken {v : Value} (hv : v.Formed) : ∀ c slot,
    placesIn c slot (retoken g v) = (placesIn c slot v).map (Place.retoken g) := by
  induction hv with
  | none => exact fun _ _ => rfl
  | text => exact fun _ _ => rfl
  | kind => exact fun _ _ => rfl
  | token ht =>
    intro c slot
    have hab := WellFormed.isAbsent ht
    simp [retoken, placesIn, hab, hg.present hab, Place.retoken]
  | absent =>
    intro c slot
    rw [retoken, hg.absent]
    rfl
  | tokens _ _ ih =>
    intro c slot
    rw [retoken_tokens]
    exact listPlaces_retoken ih
  | nodes _ _ ih =>
    intro c slot
    rw [retoken_nodes]
    exact listPlaces_retoken ih
  | separated _ _ _ ih =>
    intro c slot
    rw [retoken_separated]
    exact listPlaces_retoken ih
  | node _ _ ih =>
    intro c slot
    rw [retoken_node]
    exact fieldPlaces_retoken ih

/-- The places of the changed tree are the changed places. -/
theorem Formed.places_retoken {c : NodeClass} {vs : List Value} (hv : (Value.node c vs).Formed) :
    (retoken g (.node c vs)).places = (Value.node c vs).places.map (Place.retoken g) := by
  cases hv with
  | node _ hvs =>
    rw [retoken_node]
    exact fieldPlaces_retoken fun v hv => (hvs v hv).placesIn_retoken hg

end Places

end Value

/-! ### Changed properties -/

section Fits

variable {g : Token → Token} (habsent : g .absent = .absent)
  (hg : ∀ t : Token, t.WellFormed → (g t).WellFormed)

include hg in
theorem Value.IsToken.retoken {v : Value} (h : v.IsToken) : (v.retoken g).IsToken := by
  obtain ⟨t, rfl, ht⟩ := h
  exact ⟨g t, rfl, hg t ht⟩

include habsent hg

theorem Value.IsSeparator.retoken {v : Value} (h : v.IsSeparator) : (v.retoken g).IsSeparator := by
  rcases h with rfl | h
  · exact .inl (by rw [Value.retoken, habsent])
  · exact .inr (h.retoken hg)

theorem Shape.Fits.retoken {s : Shape} {v : Value} (h : s.Fits v) : s.Fits (v.retoken g) := by
  induction s with
  | text => obtain ⟨t, rfl, ht⟩ := h; exact ⟨t, rfl, ht⟩
  | kind => obtain ⟨k, rfl⟩ := h; exact ⟨k, rfl⟩
  | token => exact Value.IsToken.retoken hg h
  | tokens =>
    obtain ⟨vs, rfl, hvs⟩ := h
    refine ⟨vs.map (Value.retoken g), Value.retoken_tokens vs, List.forall_mem_map.mpr ?_⟩
    exact fun v hv => (hvs v hv).retoken hg
  | node t => rw [Shape.Fits, Value.isNodeOf_retoken]; exact h
  | nodes t =>
    cases t with
    | none => exact h.elim
    | some t =>
      obtain ⟨vs, rfl, hvs⟩ := h
      refine ⟨vs.map (Value.retoken g), Value.retoken_nodes vs, List.forall_mem_map.mpr ?_⟩
      exact fun v hv => by rw [Value.isNodeOf_retoken]; exact hvs v hv
  | separated t =>
    cases t with
    | none => exact h.elim
    | some t =>
      obtain ⟨vs, rfl, halternates, hvs⟩ := h
      refine ⟨vs.map (Value.retoken g), Value.retoken_separated vs, ?_, List.forall_mem_map.mpr ?_⟩
      · rw [Value.alternates_retoken, halternates]
      · intro v hv
        rw [Value.isNodeOf_retoken]
        exact (hvs v hv).imp_right fun h => h.retoken habsent hg
  | optional a ih =>
    rcases h with rfl | h
    · exact .inl rfl
    · exact .inr (ih h)
  | _ => exact h.elim

theorem Field.Fits.retoken {c : NodeClass} {f : Field} {v : Value} (h : Field.Fits c f v) :
    Field.Fits c f (v.retoken g) := by
  rcases h with h | ⟨hc, hname, rfl⟩
  · exact .inl (h.retoken habsent hg)
  · exact .inr ⟨hc, hname, by rw [Value.retoken, habsent]⟩

theorem NodeClass.Admits.retoken {c : NodeClass} {vs : List Value} (h : c.Admits vs) :
    c.Admits (vs.map (Value.retoken g)) where
  class_mem := h.class_mem
  fields := by
    rw [List.forall₂_map_right_iff]
    exact h.fields.imp fun _ _ hfits => hfits.retoken habsent hg
  kind hk := by
    rw [Value.kindOf_retoken]
    exact h.kind hk

/-- A well-formed tree stays one when its tokens are changed for well-formed ones. -/
theorem Value.Formed.retokened {v : Value} (hv : v.Formed) : (v.retoken g).Formed := by
  have hmap : ∀ vs : List Value, (∀ w ∈ vs, (w.retoken g).Formed)
      → ∀ w ∈ vs.map (Value.retoken g), w.Formed := fun _ h => List.forall_mem_map.mpr h
  induction hv with
  | none => exact .none
  | text ht => exact .text ht
  | kind k => exact .kind k
  | token ht => exact .token (hg _ ht)
  | absent =>
    rw [Value.retoken, habsent]
    exact .absent
  | tokens h _ ih =>
    rw [retoken_tokens]
    exact .tokens (List.forall_mem_map.mpr fun w hw => (h w hw).retoken hg) (hmap _ ih)
  | @nodes t _ h _ ih =>
    rw [retoken_nodes]
    exact .nodes (t := t)
      (List.forall_mem_map.mpr fun w hw => by rw [isNodeOf_retoken]; exact h w hw) (hmap _ ih)
  | @separated t _ halternates h _ ih =>
    rw [retoken_separated]
    refine .separated (t := t) (by rw [alternates_retoken, halternates])
      (List.forall_mem_map.mpr fun w hw => ?_) (hmap _ ih)
    rw [isNodeOf_retoken]
    exact (h w hw).imp_right fun h => h.retoken habsent hg
  | node h _ ih =>
    rw [retoken_node]
    exact .node (h.retoken habsent hg) (hmap _ ih)

theorem Value.WellFormed.retokened {v : Value} (hv : v.WellFormed) : (v.retoken g).WellFormed := by
  have hformed := hv.formed.retokened habsent hg
  obtain ⟨⟨c, vs, rfl⟩, -⟩ := hv
  rw [retoken_node] at hformed ⊢
  exact ⟨⟨c, _, rfl⟩, hformed.all⟩

end Fits

end TreeQuote
