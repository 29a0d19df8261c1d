/-
TreeQuote/Proofs/Quote/Retoken.lean

Quoting looks at a tree through its tokens.  If each token has the call of the token it is changed
for, then the tree has the call of the changed tree.

A token may also have no call at all.  So two computations are compared up to the errors of a set
(`Agrees`): they are equal, or the first one fails with such an error.  The relation goes through
the steps of quoting,

    Agrees E x y → (∀ a, Agrees E (f a) (g a)) → Agrees E (x >>= f) (y >>= g)

and no error at all leaves equality.

Main statement: `Quote.quoteRoot_agrees`.
-/
import TreeQuote.Proofs.Tree.Retoken
import TreeQuote.Quote.Quoter

namespace TreeQuote.Quote

/-! ### Computations -/

/-- The computations are equal, unless the first one fails with an error of `E`. -/
def Agrees {α : Type} (E : Error → Prop) (x y : Except Error α) : Prop :=
  x = y ∨ ∃ e, E e ∧ x = .error e

section Agrees

variable {α β : Type} {E : Error → Prop}

theorem Agrees.rfl {x : Except Error α} : Agrees E x x := .inl (Eq.refl x)

/-- Without errors agreement is equality. -/
theorem Agrees.eq {x y : Except Error α} (h : Agrees (fun _ => False) x y) : x = y :=
  h.resolve_right fun hfails => hfails.elim fun _ he => he.1

theorem Agrees.bind {x y : Except Error α} {f g : α → Except Error β} (h : Agrees E x y)
    (hf : ∀ a, Agrees E (f a) (g a)) : Agrees E (x >>= f) (y >>= g) := by
  rcases h with hxy | ⟨e, he, hx⟩
  · rw [hxy]
    cases y with
    | error e => exact .rfl
    | ok a => exact hf a
  · rw [hx]
    exact .inr ⟨e, he, Eq.refl _⟩

theorem Agrees.map {x y : Except Error α} (h : Agrees E x y) (f : α → β) :
    Agrees E (x.map f) (y.map f) := by
  rcases h with hxy | ⟨e, he, hx⟩
  · rw [hxy]
    exact .rfl
  · rw [hx]
    exact .inr ⟨e, he, Eq.refl _⟩

end Agrees

/-! ### Trees -/

section Retoken

variable {r : Registry} {o : Options} {E : Error → Prop} {g : Token → Token}

/-- The token agrees with the one it is changed for. -/
def TokenAgrees (r : Registry) (o : Options) (E : Error → Prop) (g : Token → Token) (t : Token) :
    Prop :=
  Agrees E (quoteToken r o t) (quoteToken r o (g t))

theorem quoteToken_absent {t : Token} (h : t.isAbsent = true) : quoteToken r o t = .ok none := by
  rw [quoteToken, tokenCall, h]
  rfl

theorem nodeCall_agrees {c : NodeClass} {vs : List Value}
    (h : Agrees E (quoteFields r o c.fields vs)
      (quoteFields r o c.fields (Value.retokenList g vs))) :
    Agrees E (nodeCall r c vs (quoteFields r o c.fields vs))
      (nodeCall r c (Value.retokenList g vs)
        (quoteFields r o c.fields (Value.retokenList g vs))) := by
  rw [nodeCall, nodeCall, Value.retokenList_eq_map, Value.kindOf_retoken,
    ← Value.retokenList_eq_map]
  unfold quoteClass
  split
  · exact .rfl
  · exact (h.map _).bind fun _ => .rfl

section Members

variable (habsent : ∀ t : Token, (g t).isAbsent = t.isAbsent)

include habsent

/-- A token that is absent stays absent, and the others are leaves. -/
theorem quoteToken_agrees {t : Token} (h : ∀ u ∈ (Value.token t).leaves, TokenAgrees r o E g u) :
    TokenAgrees r o E g t := by
  cases ht : t.isAbsent with
  | true => exact .inl (by rw [quoteToken_absent ht, quoteToken_absent ((habsent t).trans ht)])
  | false => exact h t (by simp [Value.leaves, ht])

theorem quoteMember_agrees {v : Value} (h : ∀ u ∈ v.leaves, TokenAgrees r o E g u) :
    Agrees E (quoteMember r o v) (quoteMember r o (v.retoken g)) := by
  cases v with
  | token t => exact quoteToken_agrees habsent h
  | _ => exact .rfl

theorem quoteMembers_agrees {vs : List Value}
    (h : ∀ u ∈ Value.leavesList vs, TokenAgrees r o E g u) :
    Agrees E (quoteEach (quoteMember r o) vs)
      (quoteEach (quoteMember r o) (Value.retokenList g vs)) := by
  induction vs with
  | nil => exact .rfl
  | cons v vs ih =>
    obtain ⟨hv, hvs⟩ := List.forall_mem_append.1 h
    rw [Value.retokenList, quoteEach, quoteEach]
    refine (quoteMember_agrees habsent hv).bind fun c => ?_
    cases c with
    | none => exact ih hvs
    | some c => exact (ih hvs).bind fun _ => .rfl

end Members

mutual

/-- The value agrees with the changed value. -/
theorem quoteValue_agrees (habsent : ∀ t : Token, (g t).isAbsent = t.isAbsent)
    (element : Text) : ∀ v : Value,
    (∀ u ∈ v.leaves, TokenAgrees r o E g u) →
      Agrees E (quoteValue r o element v) (quoteValue r o element (v.retoken g))
  | .token t, h => quoteToken_agrees habsent h
  | .tokens vs, h => by
    rw [Value.retoken, quoteValue, quoteValue]
    exact (quoteMembers_agrees habsent h).bind fun _ => .rfl
  | .node c vs, h => by
    rw [Value.retoken, quoteValue, quoteValue]
    exact (nodeCall_agrees (quoteFields_agrees habsent c.fields vs h)).bind fun _ => .rfl
  | .nodes vs, h => by
    rw [Value.retoken, quoteValue, quoteValue]
    exact (quoteNodes_agrees habsent vs h).bind fun _ => .rfl
  | .separated vs, h => by
    rw [Value.retoken, quoteValue, quoteValue]
    exact (quoteItems_agrees habsent vs h).bind fun _ => .rfl
  | .scalar _, _ => .rfl
  | .kind _, _ => .rfl
  | .trivia _, _ => .rfl
  | .triviaList _, _ => .rfl
  | .framed .., _ => .rfl
  | .array _, _ => .rfl

theorem quoteFields_agrees (habsent : ∀ t : Token, (g t).isAbsent = t.isAbsent)
    (fs : List Field) : ∀ vs : List Value,
    (∀ u ∈ Value.leavesList vs, TokenAgrees r o E g u) →
      Agrees E (quoteFields r o fs vs) (quoteFields r o fs (Value.retokenList g vs))
  | [], _ => .rfl
  | v :: vs, h => by
    obtain ⟨hv, hvs⟩ := List.forall_mem_append.1 h
    cases fs with
    | nil => exact .rfl
    | cons f fs =>
      have hrest := quoteFields_agrees habsent fs vs hvs
      rw [Value.retokenList, quoteFields, quoteFields]
      split
      · exact hrest
      · refine (quoteValue_agrees habsent f.shape.elementName v hv).bind fun c => ?_
        cases c with
        | none => exact hrest
        | some c => exact hrest.bind fun _ => .rfl

theorem quoteNodes_agrees (habsent : ∀ t : Token, (g t).isAbsent = t.isAbsent) : ∀ vs : List Value,
    (∀ u ∈ Value.leavesList vs, TokenAgrees r o E g u) →
      Agrees E (quoteNodes r o vs) (quoteNodes r o (Value.retokenList g vs))
  | [], _ => .rfl
  | .node c ws :: vs, h => by
    obtain ⟨hv, hvs⟩ := List.forall_mem_append.1 h
    rw [Value.retokenList, Value.retoken, quoteNodes, quoteNodes]
    exact (nodeCall_agrees (quoteFields_agrees habsent c.fields ws hv)).bind fun _ =>
      (quoteNodes_agrees habsent vs hvs).bind fun _ => .rfl
  | .scalar _ :: _, _ => .rfl
  | .kind _ :: _, _ => .rfl
  | .trivia _ :: _, _ => .rfl
  | .triviaList _ :: _, _ => .rfl
  | .token _ :: _, _ => .rfl
  | .framed .. :: _, _ => .rfl
  | .tokens _ :: _, _ => .rfl
  | .nodes _ :: _, _ => .rfl
  | .separated _ :: _, _ => .rfl
  | .array _ :: _, _ => .rfl

theorem quoteItems_agrees (habsent : ∀ t : Token, (g t).isAbsent = t.isAbsent) : ∀ vs : List Value,
    (∀ u ∈ Value.leavesList vs, TokenAgrees r o E g u) →
      Agrees E (quoteItems r o vs) (quoteItems r o (Value.retokenList g vs))
  | [], _ => .rfl
  | .token t :: vs, h => by
    obtain ⟨hv, hvs⟩ := List.forall_mem_append.1 h
    rw [Value.retokenList, Value.retoken, quoteItems, quoteItems]
    exact Agrees.bind (quoteToken_agrees habsent hv) fun _ =>
      (quoteItems_agrees habsent vs hvs).bind fun _ => .rfl
  | .framed t l r' :: vs, h => by
    obtain ⟨-, hvs⟩ := List.forall_mem_append.1 h
    rw [Value.retokenList, Value.retoken, quoteItems, quoteItems]
    exact Agrees.bind .rfl fun _ => (quoteItems_agrees habsent vs hvs).bind fun _ => .rfl
  | .node c ws :: vs, h => by
    obtain ⟨hv, hvs⟩ := List.forall_mem_append.1 h
    rw [Value.retokenList, Value.retoken, quoteItems, quoteItems]
    exact (nodeCall_agrees (quoteFields_agrees habsent c.fields ws hv)).bind fun _ =>
      (quoteItems_agrees habsent vs hvs).bind fun _ => .rfl
  | .scalar _ :: _, _ => .rfl
  | .kind _ :: _, _ => .rfl
  | .trivia _ :: _, _ => .rfl
  | .triviaList _ :: _, _ => .rfl
  | .tokens _ :: _, _ => .rfl
  | .nodes _ :: _, _ => .rfl
  | .separated _ :: _, _ => .rfl
  | .array _ :: _, _ => .rfl

end

theorem quoteNode_agrees (habsent : ∀ t : Token, (g t).isAbsent = t.isAbsent) {v : Value}
    (h : ∀ u ∈ v.leaves, TokenAgrees r o E g u) :
    Agrees E (quoteNode r o v) (quoteNode r o (v.retoken g)) := by
  cases v with
  | node c vs => exact nodeCall_agrees (quoteFields_agrees habsent c.fields vs h)
  | _ => exact .rfl

/-- If the tokens of a tree agree with those they are changed for, so does the tree. -/
theorem quoteRoot_agrees (habsent : ∀ t : Token, (g t).isAbsent = t.isAbsent) {v : Value}
    (h : ∀ u ∈ v.leaves, TokenAgrees r o E g u) :
    Agrees E (quoteRoot r o v) (quoteRoot r o (v.retoken g)) :=
  (quoteNode_agrees habsent h).bind fun _ => .rfl

end Retoken

end TreeQuote.Quote
