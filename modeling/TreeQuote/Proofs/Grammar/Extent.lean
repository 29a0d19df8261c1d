/-
TreeQuote/Proofs/Grammar/Extent.lean

The tokens of a node, from the first to the last.  Inner nodes do not have the end of the file, as a
finite check of the properties of each class says.  Members start with one of four keywords, and
types end with a name or a closing bracket.

Main statements: `leaves_kind`, `member_opens` and `type_ends`.
-/
import TreeQuote.Proofs.Grammar.Nesting

namespace TreeQuote.Grammar

open Layout

variable {c : NodeClass} {slot : Nat}

/-! ### Kinds -/

/-- The nodes of the form are of the classes, and its tokens of the kinds. -/
def Form.isWithin (C : NodeClass → Bool) (K : Kind → Bool) : Form → Bool
  | .node n => (NodeClass.pair :: NodeClass.all).all fun c => !n.holds c || C c
  | .optional n => (NodeClass.pair :: NodeClass.all).all fun c => !n.holds c || C c
  | .nodes n => (NodeClass.pair :: NodeClass.all).all fun c => !n.holds c || C c
  | .separated n => K .commaToken && (NodeClass.pair :: NodeClass.all).all fun c => !n.holds c || C c
  | .token ks => ks.all K
  | .perhaps k => K k
  | .tokens k => K k
  | .nothing => true
  | .more _ => false

section Kinds

variable {C : NodeClass → Bool} {K : Kind → Bool}

/-- The tokens of a node of the classes are of the kinds. -/
def KindNode (C : NodeClass → Bool) (K : Kind → Bool) (v : Value) : Prop :=
  ∀ c vs, v = .node c vs → C c = true → ∀ t ∈ v.leaves, K t.kind = true

theorem property_kind {f : Form} {v : Value} (hv : f.Holds v) (hf : f.isWithin C K = true)
    (hnode : KindNode C K v) (hchildren : ∀ w ∈ v.children, KindNode C K w) :
    ∀ t ∈ v.leaves, K t.kind = true := by
  have htoken : ∀ {ks : List Kind} {w : Value}, IsTokenOf ks w → (∀ k ∈ ks, K k = true)
      → ∀ t ∈ w.leaves, K t.kind = true := by
    rintro ks w ⟨t, rfl, ht⟩ hks u hu
    rw [Value.leaves] at hu
    split at hu
    · cases hu
    · obtain rfl := List.mem_singleton.1 hu
      exact hks _ ht
  have hof : ∀ {n : NodeType} {w : Value}, w.isNodeOf n = true
      → ((NodeClass.pair :: NodeClass.all).all fun c => !n.holds c || C c) = true
      → KindNode C K w → ∀ t ∈ w.leaves, K t.kind = true := by
    intro n w hw hn hkind
    cases w with
    | node d ws =>
      have hd := List.all_eq_true.1 hn d d.mem_pair_all
      rw [show n.holds d = true from hw, Bool.not_true, Bool.false_or] at hd
      exact hkind d ws rfl hd
    | _ => cases hw
  have hlist : ∀ {vs : List Value}, (∀ w ∈ vs, ∀ t ∈ w.leaves, K t.kind = true)
      → ∀ t ∈ Value.leavesList vs, K t.kind = true := by
    intro vs hvs t ht
    rw [Value.leavesList_eq_flatMap] at ht
    obtain ⟨w, hw, ht⟩ := List.mem_flatMap.1 ht
    exact hvs w hw t ht
  cases f with
  | nothing =>
    obtain ⟨k, rfl⟩ := hv
    exact List.forall_mem_nil _
  | token ks => exact htoken hv (List.all_eq_true.1 hf)
  | perhaps k =>
    rcases hv with rfl | hv
    · exact List.forall_mem_nil _
    · exact htoken hv (List.forall_mem_singleton.2 hf)
  | node n => exact hof hv hf hnode
  | optional n =>
    rcases hv with rfl | hv
    · exact List.forall_mem_nil _
    · exact hof hv hf hnode
  | tokens k =>
    obtain ⟨vs, rfl, hvs⟩ := hv
    exact hlist fun w hw => htoken (hvs w hw) (List.forall_mem_singleton.2 hf)
  | nodes n =>
    obtain ⟨vs, rfl, hvs⟩ := hv
    exact hlist fun w hw => hof (hvs w hw) hf (hchildren w hw)
  | separated n =>
    simp only [Form.isWithin, Bool.and_eq_true] at hf
    obtain ⟨vs, rfl, rfl | ⟨v, ws, rfl, hv, hmore⟩⟩ := hv
    · exact List.forall_mem_nil _
    · refine hlist fun w hw => ?_
      rcases List.mem_cons.1 hw with rfl | hmem
      · exact hof hv hf.2 (hchildren _ hw)
      · rcases hmore.mem w hmem with hw' | hw'
        · exact hof hw' hf.2 (hchildren w hw)
        · exact htoken hw' (List.forall_mem_singleton.2 hf.1)
  | more n => exact hv.elim

/-- If the properties of some classes have nodes of these classes only and tokens of some kinds, then
the nodes have tokens of these kinds only. -/
theorem leaves_kind (hcheck : ∀ c, C c = true → (slots c).all (Form.isWithin C K) = true) (v : Value)
    (hgrown : v.All Grows) : KindNode C K v ∧ ∀ w ∈ v.children, KindNode C K w := by
  induction v using Value.induction with
  | h v ih =>
    have hbelow := fun w hw => ih w hw (hgrown.children w hw)
    refine ⟨?_, fun w hw => (hbelow w hw).1⟩
    rintro c vs rfl hc t ht
    have ht' : t ∈ Value.leavesList vs := ht
    rw [Value.leavesList_eq_flatMap] at ht'
    obtain ⟨w, hw, ht'⟩ := List.mem_flatMap.1 ht'
    have hfields := forall_holds (P := fun w => ∀ t ∈ w.leaves, K t.kind = true) hgrown.1.slots
      fun f hf w hw hholds => property_kind hholds (List.all_eq_true.1 (hcheck c hc) f hf)
        (hbelow w hw).1 (hbelow w hw).2
    exact hfields w hw t ht'

/-- And so do properties that hold such nodes. -/
theorem holds_kind (hcheck : ∀ c, C c = true → (slots c).all (Form.isWithin C K) = true) {f : Form}
    {v : Value} (hv : f.Holds v) (hgrown : v.All Grows) (hf : f.isWithin C K = true) :
    ∀ t ∈ v.leaves, K t.kind = true :=
  property_kind hv hf (leaves_kind hcheck v hgrown).1 (leaves_kind hcheck v hgrown).2

end Kinds

/-- Inner nodes do not have the end of the file. -/
theorem slots_inner (c : NodeClass) (h : isInner c = true) :
    (slots c).all (Form.isWithin isInner fun k => k ≠ .endOfFileToken) = true := by
  cases c <;> first | decide | exact absurd h (by decide)

/-- The classes of which the fields of structs and annotations are made. -/
def isTyping (c : NodeClass) : Bool :=
  (NodeType.category .type).holds c || c = .typeArgumentList || c = .fieldDeclaration
    || c = .typeClause

/-- The kinds of their tokens. -/
def typingKinds : List Kind :=
  [.identifierToken, .dotToken, .commaToken, .colonToken, .lessThanToken, .greaterThanToken]

theorem slots_typing (c : NodeClass) (h : isTyping c = true) :
    (slots c).all (Form.isWithin isTyping typingKinds.contains) = true := by
  cases c <;> first | decide | exact absurd h (by decide)

/-! ### First and last tokens -/

/-- The kinds that members start with. -/
def memberKinds : List Kind := [.pubKeyword, .fnKeyword, .structKeyword, .constKeyword]

/-- Members start with one of four keywords. -/
theorem member_opens {v : Value} (hv : v.isNodeOf (.category .member) = true)
    (hgrown : v.All Grows) : Opens memberKinds (Value.placesIn c slot v) := by
  cases v with
  | node d vs =>
    have hcases : slots d = .tokens .pubKeyword :: (slots d).tail
        ∧ opens memberKinds (slots d).tail = true ∨ opens memberKinds (slots d) = true := by
      have hholds : (NodeType.category .member).holds d = true := hv
      cases d <;> first | decide | exact absurd hholds (by decide)
    have hgrownAll : ∀ w ∈ vs, w.All Grows := Value.allList_iff.1 hgrown.2
    have hnodes : ∀ w ∈ vs, LedNode w ∧ ∀ u ∈ w.children, LedNode u := fun w hw =>
      Grows.led w (hgrownAll w hw)
    rcases hcases with ⟨hslots, hopens⟩ | hopens
    · have hholds := hgrown.1.slots
      rw [hslots] at hholds
      cases hholds with
      | @cons _ w _ ws hw hws =>
        obtain ⟨us, rfl, hus⟩ := hw
        obtain ⟨-, hrest⟩ := List.forall_mem_cons.1 hnodes
        cases us with
        | nil =>
          rw [Value.placesIn, Value.fieldPlaces]
          exact fields_open hopens hws hrest
        | cons u us =>
          obtain ⟨t, rfl, ht⟩ := hus u List.mem_cons_self
          obtain ht : t.kind = .pubKeyword := List.mem_singleton.1 ht
          refine ⟨⟨.token t, t, d, 0⟩, Value.listPlaces d 0 us ++ Value.fieldPlaces d 1 ws, ?_, ?_⟩
          · simp [Value.placesIn, Value.fieldPlaces, Value.listPlaces, Token.isAbsent, ht]
          · simp [memberKinds, ht]
    · exact fields_open hopens hgrown.1.slots hnodes
  | _ => cases hv

/-- The last place satisfies `P`. -/
def Ends (P : Place → Prop) (ps : List Place) : Prop := ∃ qs p, ps = qs ++ [p] ∧ P p

theorem Ends.behind {P : Place → Prop} {qs : List Place} (h : Ends P qs) (ps : List Place) :
    Ends P (ps ++ qs) := by
  obtain ⟨rs, p, rfl, hp⟩ := h
  exact ⟨ps ++ rs, p, (List.append_assoc _ _ _).symm, hp⟩

/-- The last property ends the node. -/
theorem Ends.fields {P : Place → Prop} {v : Value} (h : ∀ slot, Ends P (Value.placesIn c slot v))
    (vs : List Value) : Ends P (Value.fieldPlaces c slot (vs ++ [v])) := by
  induction vs generalizing slot with
  | nil =>
    rw [List.nil_append, Value.fieldPlaces, Value.fieldPlaces, List.append_nil]
    exact h slot
  | cons w vs ih => exact ih.behind _

/-- A place that a type ends with. -/
def EndsType (p : Place) : Prop :=
  p.token.kind = .identifierToken ∧ p.parent = .identifierName
    ∨ p.token.kind = .greaterThanToken ∧ p.parent = .typeArgumentList

/-- A token of the grammar ends its property. -/
theorem IsTokenOf.ends {k : Kind} {v : Value} (h : IsTokenOf [k] v) (hk : k ≠ .none) (slot : Nat) :
    Ends (fun p => p.token.kind = k ∧ p.parent = c) (Value.placesIn c slot v) := by
  obtain ⟨t, rfl, ht⟩ := h
  obtain rfl := List.mem_singleton.1 ht
  exact ⟨[], ⟨.token t, t, c, slot⟩,
    by rw [Value.placesIn, if_neg (by simpa [Token.isAbsent] using hk), List.nil_append], rfl, rfl⟩

theorem Ends.imp {P Q : Place → Prop} {ps : List Place} (h : Ends P ps) (hPQ : ∀ p, P p → Q p) :
    Ends Q ps := by
  obtain ⟨qs, p, hps, hp⟩ := h
  exact ⟨qs, p, hps, hPQ p hp⟩

/-- A name of one word ends with it. -/
theorem identifierName_ends {v : Value} (hv : v.isNodeOf (.cls .identifierName) = true)
    (hgrown : v.All Grows) : Ends EndsType (Value.placesIn c slot v) := by
  cases v with
  | node d vs =>
    obtain rfl : d = .identifierName := of_decide_eq_true hv
    cases hgrown.1.slots with
    | cons ha hnil =>
      cases hnil
      exact .fields (fun slot => (ha.ends (by decide) slot).imp fun _ => .inl) []
  | _ => cases hv

/-- Types end with a name or a closing bracket. -/
theorem type_ends {v : Value} (hv : v.isNodeOf (.category .type) = true) (hgrown : v.All Grows) :
    Ends EndsType (Value.placesIn c slot v) := by
  cases v with
  | node d vs =>
    have hholds : (NodeType.category .type).holds d = true := hv
    have hclass : d = .identifierName ∨ d = .genericName ∨ d = .qualifiedName := by
      cases d <;> first | decide | exact absurd hholds (by decide)
    have hvs : ∀ v ∈ vs, v.All Grows := Value.allList_iff.1 hgrown.2
    rcases hclass with rfl | rfl | rfl
    · exact identifierName_ends (by simp [Value.isNodeOf, NodeType.holds]) hgrown
    · cases hgrown.1.slots with
      | @cons _ a _ _ _ hslots =>
      cases hslots with
      | @cons _ b _ _ hb hnil =>
        cases hnil
        refine .fields (fun slot => ?_) [a]
        have hlist := hvs b (by simp)
        cases b with
        | node e ws =>
          obtain rfl : e = .typeArgumentList := of_decide_eq_true hb
          cases hlist.1.slots with
          | @cons _ x _ _ _ hslots =>
          cases hslots with
          | @cons _ y _ _ _ hslots =>
          cases hslots with
          | cons hz hnil =>
            cases hnil
            exact .fields (fun slot => (hz.ends (by decide) slot).imp fun _ => .inr) [x, y]
        | _ => cases hb
    · cases hgrown.1.slots with
      | @cons _ a _ _ _ hslots =>
      cases hslots with
      | @cons _ b _ _ _ hslots =>
      cases hslots with
      | @cons _ z _ _ hz hnil =>
        cases hnil
        exact .fields (fun slot => identifierName_ends hz (hvs z (by simp))) [a, b]
  | _ => cases hv

end TreeQuote.Grammar
