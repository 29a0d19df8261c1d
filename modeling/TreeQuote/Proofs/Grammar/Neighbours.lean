/-
TreeQuote/Proofs/Grammar/Neighbours.lean

What stands behind the tokens that layout joins to the next one.  A point is followed by a name, the
bracket in front of type arguments by a type or the closing bracket, and a prefix operator by what
starts an expression.  A finite check of the properties of each class says so for two tokens of one
node or of a node and its first child, and places one behind the other put it together.

Main statement: `Grows.led`.
-/
import TreeQuote.Layout
import TreeQuote.Proofs.Grammar.Shape

namespace TreeQuote

namespace Grammar

/-! ### What is followed by what -/

/-- The kinds that an expression starts with. -/
def expressionStarts : List Kind :=
  [.identifierToken, .numericLiteralToken, .stringLiteralToken, .trueKeyword, .falseKeyword,
   .openParenToken, .minusToken, .exclamationToken]

/-- The kinds that may follow a token of the kind in a property, if it is joined to them. -/
def followers (c : NodeClass) (slot : Nat) (k : Kind) : Option (List Kind) :=
  if k = .dotToken then some [.identifierToken]
  else if c = .typeArgumentList && k = .lessThanToken then
    some [.identifierToken, .greaterThanToken]
  else if c = .prefixUnaryExpression && slot = 1 then
    some (if k = .minusToken || k = .exclamationToken then expressionStarts else [])
  else none

/-- The kinds that a node of the class starts with, for types and expressions. -/
def starts (c : NodeClass) : Option (List Kind) :=
  if (NodeType.category .type).holds c then some [.identifierToken]
  else if (NodeType.category .expression).holds c then some expressionStarts
  else none

end Grammar

/-- The kinds that may follow a place. -/
def Place.followers (p : Place) : Option (List Kind) :=
  Grammar.followers p.parent p.slot p.token.kind

namespace Grammar

/-- Each place is followed by one of the kinds that may follow it. -/
def Led : List Place → Prop
  | [] => True
  | [p] => p.followers = none
  | p :: q :: ps => (∀ ks, p.followers = some ks → q.token.kind ∈ ks) ∧ Led (q :: ps)

/-- The first place has one of the kinds. -/
def Opens (ks : List Kind) (ps : List Place) : Prop := ∃ p qs, ps = p :: qs ∧ p.token.kind ∈ ks

theorem Opens.append {ks : List Kind} {ps : List Place} (h : Opens ks ps) (qs : List Place) :
    Opens ks (ps ++ qs) := by
  obtain ⟨p, rest, rfl, hp⟩ := h
  exact ⟨p, rest ++ qs, rfl, hp⟩

theorem Opens.mono {js ks : List Kind} {ps : List Place} (h : Opens js ps)
    (hsub : js.all ks.contains = true) : Opens ks ps := by
  obtain ⟨p, rest, rfl, hp⟩ := h
  exact ⟨p, rest, rfl, List.contains_iff_mem.1 (List.all_eq_true.1 hsub _ hp)⟩

/-- A place in front of others. -/
theorem Led.cons {p : Place} {ps : List Place} (hp : ∀ ks, p.followers = some ks → Opens ks ps)
    (h : Led ps) : Led (p :: ps) := by
  cases ps with
  | nil =>
    cases hks : p.followers with
    | none => exact hks
    | some ks =>
      obtain ⟨q, qs, hnil, -⟩ := hp ks hks
      cases hnil
  | cons q qs =>
    refine ⟨fun ks hks => ?_, h⟩
    obtain ⟨r, rs, heq, hr⟩ := hp ks hks
    cases heq
    exact hr

/-- The last place asks for nothing, so others may come behind it. -/
theorem Led.append {ps qs : List Place} (h : Led ps) (h' : Led qs) : Led (ps ++ qs) := by
  induction ps with
  | nil => exact h'
  | cons p ps ih =>
    cases ps with
    | nil =>
      refine Led.cons (fun ks hks => ?_) h'
      rw [show p.followers = none from h] at hks
      cases hks
    | cons q ps =>
      exact Led.cons (fun ks hks => ⟨q, ps ++ qs, rfl, h.1 ks hks⟩) (ih h.2)

/-! ### The check of the properties -/

/-- The kinds of the tokens of a form. -/
def Form.tokenKinds : Form → List Kind
  | .token ks => ks
  | .perhaps k => [k]
  | .tokens k => [k]
  | .more _ => [.commaToken]
  | .separated _ => [.commaToken]
  | _ => []

/-- Nodes of the type start with one of the kinds. -/
def typeOpens (ks : List Kind) (t : NodeType) : Bool :=
  (NodeClass.pair :: NodeClass.all).all fun c =>
    !t.holds c || (starts c).any fun js => js.all ks.contains

/-- The properties start with one of the kinds. -/
def opens (ks : List Kind) : List Form → Bool
  | .nothing :: fs => opens ks fs
  | .token js :: _ => !js.contains .none && js.all ks.contains
  | .node t :: _ => typeOpens ks t
  | .separated t :: fs => typeOpens ks t && opens ks fs
  | _ => false

/-- The tokens of each property are followed by what may follow them. -/
def leads (c : NodeClass) : Nat → List Form → Bool
  | _, [] => true
  | slot, .token js :: fs =>
    (js.all fun k => (followers c slot k).all fun ks => opens ks fs) && leads c (slot + 1) fs
  | slot, f :: fs =>
    (f.tokenKinds.all fun k => (followers c slot k).isNone) && leads c (slot + 1) fs

theorem slots_lead (c : NodeClass) : leads c 0 (slots c) = true := by
  cases c <;> decide

theorem slots_open (c : NodeClass) : ((starts c).all fun ks => opens ks (slots c)) = true := by
  cases c <;> decide

/-! ### Places -/

/-- The places of a node are led, and start as those of its class do. -/
def LedNode (v : Value) : Prop :=
  ∀ c vs, v = .node c vs → Led (Value.fieldPlaces c 0 vs)
    ∧ ∀ ks, starts c = some ks → Opens ks (Value.fieldPlaces c 0 vs)

variable {c : NodeClass} {slot : Nat}

theorem item_led {v : Value} (hv : v.IsItem) (hnode : LedNode v)
    (htoken : ∀ t, v = .token t → followers c slot t.kind = none) :
    Led (Value.placesIn c slot v) := by
  rcases hv with ⟨t, rfl⟩ | ⟨d, ws, rfl⟩
  · rw [Value.placesIn]
    split
    · trivial
    · exact htoken t rfl
  · exact (hnode d ws rfl).1

theorem list_led {vs : List Value} (hitem : ∀ v ∈ vs, v.IsItem) (hnode : ∀ v ∈ vs, LedNode v)
    (htoken : ∀ v ∈ vs, ∀ t, v = .token t → followers c slot t.kind = none) :
    Led (Value.listPlaces c slot vs) := by
  induction vs with
  | nil => trivial
  | cons v vs ih =>
    obtain ⟨hv, hvs⟩ := List.forall_mem_cons.1 hitem
    obtain ⟨hn, hns⟩ := List.forall_mem_cons.1 hnode
    obtain ⟨ht, hts⟩ := List.forall_mem_cons.1 htoken
    exact (item_led hv hn ht).append (ih hvs hns hts)

/-- A token of a form has one of its kinds. -/
theorem kind_of_isTokenOf {ks : List Kind} {t : Token} (h : IsTokenOf ks (.token t)) :
    t.kind ∈ ks := by
  obtain ⟨u, hu, hk⟩ := h
  cases hu
  exact hk

theorem not_token_of_isNodeOf {v : Value} {n : NodeType} (h : v.isNodeOf n = true) (t : Token) :
    v ≠ .token t := by
  rintro rfl
  cases h

/-- A property whose tokens nothing has to follow is led. -/
theorem property_led {f : Form} {v : Value} (hv : f.Holds v)
    (hnone : ∀ k ∈ f.tokenKinds, followers c slot k = none) (hnode : LedNode v)
    (hchildren : ∀ w ∈ v.children, LedNode w) : Led (Value.placesIn c slot v) := by
  have hplain := hv.plain
  cases f with
  | nothing =>
    obtain ⟨k, rfl⟩ := hv
    trivial
  | token ks =>
    exact item_led (isItem_of_isTokenOf hv) hnode fun t ht =>
      hnone _ (kind_of_isTokenOf (ht ▸ hv))
  | perhaps k =>
    rcases hv with rfl | hv
    · trivial
    · exact item_led (isItem_of_isTokenOf hv) hnode fun t ht =>
        hnone _ (kind_of_isTokenOf (ht ▸ hv))
  | node n =>
    exact item_led (isItem_of_isNodeOf hv) hnode fun t ht => absurd ht (not_token_of_isNodeOf hv t)
  | optional n =>
    rcases hv with rfl | hv
    · trivial
    · exact item_led (isItem_of_isNodeOf hv) hnode fun t ht =>
        absurd ht (not_token_of_isNodeOf hv t)
  | tokens k =>
    obtain ⟨vs, rfl, hvs⟩ := hv
    exact list_led hplain hchildren fun w hw t ht => hnone _ (kind_of_isTokenOf (ht ▸ hvs w hw))
  | nodes n =>
    obtain ⟨vs, rfl, hvs⟩ := hv
    exact list_led hplain hchildren fun w hw t ht => absurd ht (not_token_of_isNodeOf (hvs w hw) t)
  | separated n =>
    obtain ⟨vs, rfl, rfl | ⟨v, ws, rfl, hv, hmore⟩⟩ := hv
    · trivial
    · refine list_led hplain hchildren fun w hw t ht => ?_
      rcases List.mem_cons.1 hw with rfl | hw
      · exact absurd ht (not_token_of_isNodeOf hv t)
      · rcases hmore.mem w hw with hw | hw
        · exact absurd ht (not_token_of_isNodeOf hw t)
        · exact hnone _ (kind_of_isTokenOf (ht ▸ hw))
  | more n => exact hv.elim

/-- A node of the type starts with one of the kinds. -/
theorem node_opens {ks : List Kind} {n : NodeType} (h : typeOpens ks n = true) {v : Value}
    (hv : v.isNodeOf n = true) (hnode : LedNode v) : Opens ks (Value.placesIn c slot v) := by
  cases v with
  | node d ws =>
    have hd := List.all_eq_true.1 h d d.mem_pair_all
    rw [show n.holds d = true from hv, Bool.not_true, Bool.false_or, Option.any_eq_true] at hd
    obtain ⟨js, hjs, hsub⟩ := hd
    exact ((hnode d ws rfl).2 js hjs).mono hsub
  | _ => cases hv

/-- What the check says of the first place. -/
theorem fields_open {ks : List Kind} {fs : List Form} {vs : List Value} (h : opens ks fs = true)
    (hvs : List.Forall₂ Form.Holds fs vs)
    (hnodes : ∀ v ∈ vs, LedNode v ∧ ∀ w ∈ v.children, LedNode w) :
    Opens ks (Value.fieldPlaces c slot vs) := by
  induction hvs generalizing slot with
  | nil => cases h
  | @cons f v fs vs hv _ ih =>
    obtain ⟨⟨hnode, hchildren⟩, hrest⟩ := List.forall_mem_cons.1 hnodes
    cases f with
    | nothing =>
      obtain ⟨k, rfl⟩ := hv
      exact ih h hrest
    | token js =>
      simp only [opens, Bool.and_eq_true, Bool.not_eq_true'] at h
      obtain ⟨t, rfl, ht⟩ := hv
      have hpresent : t.isAbsent = false := by
        simp only [Token.isAbsent, decide_eq_false_iff_not]
        intro hk
        rw [hk, ← List.contains_iff_mem, h.1] at ht
        cases ht
      refine ⟨⟨.token t, t, c, slot⟩, Value.fieldPlaces c (slot + 1) vs, ?_, ?_⟩
      · rw [Value.fieldPlaces, Value.placesIn, hpresent]
        rfl
      · exact List.contains_iff_mem.1 (List.all_eq_true.1 h.2 _ ht)
    | node n => exact (node_opens h hv hnode).append _
    | separated n =>
      simp only [opens, Bool.and_eq_true] at h
      obtain ⟨us, rfl, rfl | ⟨u, ws, rfl, hu, -⟩⟩ := hv
      · exact ih h.2 hrest
      · exact ((node_opens h.1 hu (hchildren u List.mem_cons_self)).append _).append _
    | _ => cases h

/-- What the check says of all places. -/
theorem fields_led {fs : List Form} {vs : List Value} (h : leads c slot fs = true)
    (hvs : List.Forall₂ Form.Holds fs vs)
    (hnodes : ∀ v ∈ vs, LedNode v ∧ ∀ w ∈ v.children, LedNode w) :
    Led (Value.fieldPlaces c slot vs) := by
  induction hvs generalizing slot with
  | nil => trivial
  | @cons f v fs vs hv hvs ih =>
    obtain ⟨⟨hnode, hchildren⟩, hrest⟩ := List.forall_mem_cons.1 hnodes
    rw [Value.fieldPlaces]
    cases f with
    | token js =>
      simp only [leads, Bool.and_eq_true, List.all_eq_true] at h
      obtain ⟨t, rfl, ht⟩ := hv
      rw [Value.placesIn]
      split
      · exact ih h.2 hrest
      · refine Led.cons (fun ks hks => ?_) (ih h.2 hrest)
        have hopens := h.1 _ ht
        rw [show followers c slot t.kind = some ks from hks] at hopens
        exact fields_open hopens hvs hrest
    | _ =>
      simp only [leads, Bool.and_eq_true, List.all_eq_true, Option.isNone_iff_eq_none] at h
      exact (property_led hv h.1 hnode hchildren).append (ih h.2 hrest)

/-- The places of every node of the grammar are led. -/
theorem Grows.led (v : Value) (hgrown : v.All Grows) :
    LedNode v ∧ ∀ w ∈ v.children, LedNode w := by
  induction v using Value.induction with
  | h v ih =>
    have hbelow := fun w hw => ih w hw (hgrown.children w hw)
    refine ⟨?_, fun w hw => (hbelow w hw).1⟩
    rintro c vs rfl
    refine ⟨fields_led (slots_lead c) hgrown.1.slots hbelow, fun ks hks => ?_⟩
    have hopens := slots_open c
    rw [hks] at hopens
    exact fields_open hopens hgrown.1.slots hbelow

end Grammar

end TreeQuote
