/-
TreeQuote/Proofs/Grammar/Nesting.lean

Braces and nesting.  Blocks and structs stand in braces, and the depth of layout counts them: at each
token of a tree of the grammar it is the number of blocks and structs whose open brace comes before
the token and whose close brace comes behind it.  A closing brace is never met at the depth in front
of its node, and behind a node layout is back at that depth.

`Nests start ps bs` says so of some places and of the pairs of braces among them.  It goes through
from two parts to both (`Nests.append`) and from what stands in braces to what is around them
(`Nests.bracket`); a finite check of the properties of each class says that there are no braces but
these.

Main statements: `Grows.nests` and `holds_level`.
-/
import TreeQuote.Proofs.Grammar.Neighbours
import TreeQuote.Proofs.Layout.Front

namespace TreeQuote

/-! ### Pairs of braces -/

/-- The positions of the two braces of a node among the tokens of a tree. -/
structure Braces where
  opening : Nat
  closing : Nat

/-- The open brace comes before the token at the position, and the close brace strictly after it. -/
def Braces.encloses (i : Nat) (b : Braces) : Bool := b.opening < i && i < b.closing

theorem Braces.encloses_iff {i j k : Nat} :
    Braces.encloses k ⟨i, j⟩ = true ↔ i < k ∧ k < j := by
  rw [encloses, Bool.and_eq_true, decide_eq_true_eq, decide_eq_true_eq]

/-- The positions of the open and the close brace among the properties of the class: blocks and
structs have braces. -/
def NodeClass.braceSlots? : NodeClass → Option (Nat × Nat)
  | .block => some (0, 2)
  | .structDeclaration => some (3, 5)
  | _ => none

/-- They are the properties of these names, and no other class has both. -/
theorem NodeClass.braceSlots?_eq (c : NodeClass) :
    c.braceSlots? = (c.fieldIndex? (Text.of "open_brace_token")).bind fun i =>
      (c.fieldIndex? (Text.of "close_brace_token")).map fun j => (i, j) := by
  cases c <;> decide

namespace Value

/-- The braces of a node itself, the tokens of which stand from `start` on. -/
def ownBraces (start : Nat) (c : NodeClass) (vs : List Value) : List Braces :=
  match c.braceSlots? with
  | some (i, j) =>
    [⟨start + (leavesList (vs.take i)).length, start + (leavesList (vs.take j)).length⟩]
  | Option.none => []

mutual

/-- The braces of all blocks and structs in a value, the tokens of which stand from `start` on. -/
def bracesFrom (start : Nat) : Value → List Braces
  | .tokens vs => bracesFromList start vs
  | .node c vs => ownBraces start c vs ++ bracesFromList start vs
  | .nodes vs => bracesFromList start vs
  | .separated vs => bracesFromList start vs
  | _ => []

/-- The same for the members of a list or the properties of a node. -/
def bracesFromList (start : Nat) : List Value → List Braces
  | [] => []
  | v :: vs => bracesFrom start v ++ bracesFromList (start + v.leaves.length) vs

end

/-- How many blocks and structs of the tree enclose the token at a position. -/
def nesting (v : Value) (i : Nat) : Nat := (v.bracesFrom 0).countP (Braces.encloses i)

theorem bracesFromList_append (start : Nat) (vs ws : List Value) :
    bracesFromList start (vs ++ ws)
      = bracesFromList start vs ++ bracesFromList (start + (leavesList vs).length) ws := by
  induction vs generalizing start with
  | nil => rfl
  | cons v vs ih =>
    rw [List.cons_append, bracesFromList, ih, bracesFromList, leavesList_cons, List.length_append,
      List.append_assoc, Nat.add_assoc]

end Value

namespace Layout

/-! ### Depth -/

/-- The depth behind some places. -/
def depthBehind (d : Nat) (ps : List Place) : Nat :=
  ps.foldl (fun d p => depthAfter p.token.kind d) d

theorem depthBehind_append (d : Nat) (ps qs : List Place) :
    depthBehind d (ps ++ qs) = depthBehind (depthBehind d ps) qs := List.foldl_append

theorem Level.depthBehind {ps : List Place} (h : Level ps) (d : Nat) :
    Layout.depthBehind d ps = d := h d

theorem depthAfter_open (d : Nat) : depthAfter .openBraceToken d = d + 1 := rfl

theorem depthAfter_close (d : Nat) : depthAfter .closeBraceToken (d + 1) = d := rfl

/-- The pair of braces stands among the places, the first of which has position `start`. -/
structure Marks (start : Nat) (ps : List Place) (b : Braces) : Prop where
  front : start ≤ b.opening
  order : b.opening < b.closing
  back : b.closing < start + ps.length
  opening : ps[b.opening - start]?.map (·.token.kind) = some .openBraceToken
  closing : ps[b.closing - start]?.map (·.token.kind) = some .closeBraceToken

section Marks

variable {start : Nat} {ps qs : List Place} {b : Braces}

theorem Marks.bounds (h : Marks start ps b) :
    b.opening - start < ps.length ∧ b.closing - start < ps.length := by
  have := h.front
  have := h.order
  have := h.back
  omega

theorem Marks.append_left (h : Marks start ps b) (qs : List Place) : Marks start (ps ++ qs) b where
  front := h.front
  order := h.order
  back := by
    rw [List.length_append, ← Nat.add_assoc]
    exact Nat.lt_add_right _ h.back
  opening := by rw [List.getElem?_append_left h.bounds.1, h.opening]
  closing := by rw [List.getElem?_append_left h.bounds.2, h.closing]

theorem Marks.append_right (h : Marks (start + ps.length) qs b) : Marks start (ps ++ qs) b where
  front := Nat.le_trans (Nat.le_add_right _ _) h.front
  order := h.order
  back := by
    rw [List.length_append, ← Nat.add_assoc]
    exact h.back
  opening := by
    have := h.front
    rw [List.getElem?_append_right (by omega), Nat.sub_sub, h.opening]
  closing := by
    have := h.front
    have := h.order
    rw [List.getElem?_append_right (by omega), Nat.sub_sub, h.closing]

/-- The braces around some places. -/
theorem Marks.pair {o z : Place} (ho : o.token.kind = .openBraceToken)
    (hz : z.token.kind = .closeBraceToken) :
    Marks start (o :: (ps ++ [z])) ⟨start, start + ps.length + 1⟩ where
  front := Nat.le_refl _
  order := Nat.lt_succ_of_le (Nat.le_add_right _ _)
  back := by
    simp only [List.length_cons, List.length_append, List.length_nil]
    omega
  opening := by
    rw [Nat.sub_self]
    exact congrArg some ho
  closing := by simp [Nat.add_assoc, hz]

end Marks

/-- A token of the kind with `x` in front of it stands `n` deeper than `d`; at a closing brace, that
is one level out. -/
structure Stands (d n : Nat) (k : Kind) (x : Nat) : Prop where
  depth : depthAt k x = d + n
  unclamped : k = .closeBraceToken → d < x

/-- In one more pair of braces. -/
theorem Stands.inner {d n x : Nat} {k : Kind} (h : Stands (d + 1) n k x) : Stands d (n + 1) k x :=
  ⟨h.depth.trans (by omega), fun hk => Nat.lt_of_succ_lt (h.unclamped hk)⟩

/-- The braces are all braces of the places, the first of which has position `start`: from any depth
`d`, each token stands deeper by the number of pairs around it, and layout comes back to `d`. -/
structure Nests (start : Nat) (ps : List Place) (bs : List Braces) : Prop where
  marks : ∀ b ∈ bs, Marks start ps b
  level : Level ps
  stands : ∀ d i q, ps[i]? = some q →
    Stands d (bs.countP (Braces.encloses (start + i))) q.token.kind (depthBehind d (ps.take i))

namespace Nests

variable {start : Nat} {ps qs : List Place} {bs cs : List Braces}

theorem nil (start : Nat) : Nests start [] [] where
  marks := List.forall_mem_nil _
  level _ := rfl
  stands _ _ _ h := by cases h

/-- A token that is no brace. -/
theorem single {p : Place} (h : p.token.kind ≠ .openBraceToken ∧ p.token.kind ≠ .closeBraceToken) :
    Nests start [p] [] where
  marks := List.forall_mem_nil _
  level := .of_kinds (List.forall_mem_singleton.2 h)
  stands d i q hq := by
    cases i with
    | zero =>
      obtain rfl : p = q := Option.some.inj hq
      exact ⟨if_neg h.2, fun hk => absurd hk h.2⟩
    | succ i => cases hq

/-- No braces enclose a token in front of the places. -/
theorem count_front (h : Nests start ps bs) {k : Nat} (hk : k ≤ start) :
    bs.countP (Braces.encloses k) = 0 := by
  refine List.countP_eq_zero.2 fun ⟨i, j⟩ hb => ?_
  have : start ≤ i := (h.marks _ hb).front
  rw [Braces.encloses_iff]
  omega

/-- And none enclose a token behind them. -/
theorem count_back (h : Nests start ps bs) {k : Nat} (hk : start + ps.length ≤ k) :
    bs.countP (Braces.encloses k) = 0 := by
  refine List.countP_eq_zero.2 fun ⟨i, j⟩ hb => ?_
  have : j < start + ps.length := (h.marks _ hb).back
  rw [Braces.encloses_iff]
  omega

theorem perm (h : Nests start ps bs) (hperm : bs.Perm cs) : Nests start ps cs where
  marks b hb := h.marks b (hperm.mem_iff.2 hb)
  level := h.level
  stands d i q hq := by
    rw [← hperm.countP_eq]
    exact h.stands d i q hq

/-- Two parts, one behind the other: the braces of one enclose no token of the other. -/
theorem append (h : Nests start ps bs) (h' : Nests (start + ps.length) qs cs) :
    Nests start (ps ++ qs) (bs ++ cs) where
  marks := List.forall_mem_append.2
    ⟨fun b hb => (h.marks b hb).append_left qs, fun b hb => (h'.marks b hb).append_right⟩
  level := h.level.append h'.level
  stands d i q hq := by
    rw [List.countP_append]
    rcases Nat.lt_or_ge i ps.length with hi | hi
    · rw [List.getElem?_append_left hi] at hq
      rw [List.take_append_of_le_length (Nat.le_of_lt hi), h'.count_front (by omega), Nat.add_zero]
      exact h.stands d i q hq
    · obtain ⟨j, rfl⟩ := Nat.exists_eq_add_of_le hi
      rw [List.getElem?_append_right hi, Nat.add_sub_cancel_left] at hq
      rw [List.take_length_add_append, depthBehind_append, h.level.depthBehind,
        h.count_back (by omega), Nat.zero_add, ← Nat.add_assoc]
      exact h'.stands d j q hq

/-- Braces around: what stands in them is one deeper, and they themselves are not. -/
theorem bracket (h : Nests (start + 1) ps bs) {o z : Place} (ho : o.token.kind = .openBraceToken)
    (hz : z.token.kind = .closeBraceToken) :
    Nests start (o :: (ps ++ [z])) (⟨start, start + ps.length + 1⟩ :: bs) where
  marks := List.forall_mem_cons.2 ⟨.pair ho hz, fun b hb =>
    @Marks.append_right start [o] (ps ++ [z]) b ((h.marks b hb).append_left [z])⟩
  level d := by
    rw [List.foldl_cons, List.foldl_append, ho, depthAfter_open, h.level, List.foldl_cons, hz,
      depthAfter_close, List.foldl_nil]
  stands d i q hq := by
    rcases i with - | i
    · -- The open brace.
      obtain rfl : o = q := Option.some.inj hq
      rw [List.countP_cons_of_neg (by rw [Braces.encloses_iff]; omega), h.count_front (by omega), ho]
      exact ⟨rfl, fun hk => absurd hk (by decide)⟩
    rw [List.take_succ_cons, depthBehind, List.foldl_cons, ho, depthAfter_open]
    replace hq : (ps ++ [z])[i]? = some q := hq
    rcases Nat.lt_or_ge i ps.length with hi | hi
    · -- A token in the braces.
      rw [List.getElem?_append_left hi] at hq
      rw [List.take_append_of_le_length (Nat.le_of_lt hi),
        List.countP_cons_of_pos (by rw [Braces.encloses_iff]; omega),
        show start + (i + 1) = start + 1 + i by omega]
      exact (h.stands (d + 1) i q hq).inner
    · -- The close brace.
      obtain rfl : i = ps.length := by
        have hlt := (List.getElem?_eq_some_iff.1 hq).1
        rw [List.length_append, List.length_singleton] at hlt
        omega
      rw [List.getElem?_concat_length] at hq
      obtain rfl : z = q := Option.some.inj hq
      rw [List.take_left, h.level, List.countP_cons_of_neg (by rw [Braces.encloses_iff]; omega),
        h.count_back (by omega), hz]
      exact ⟨rfl, fun _ => Nat.lt_succ_self d⟩

end Nests

end Layout

namespace Grammar

open Layout

/-! ### Nodes -/

/-- A brace. -/
def isBrace (k : Kind) : Bool := k = .openBraceToken || k = .closeBraceToken

/-- The tokens of the form are no braces. -/
def Form.isFree (f : Form) : Bool := f.tokenKinds.all fun k => !isBrace k

theorem Form.isFree_iff {f : Form} : f.isFree = true ↔ ∀ k ∈ f.tokenKinds, isBrace k = false := by
  simp only [Form.isFree, List.all_eq_true, Bool.not_eq_true']

/-- The braces of the value are those of its places, wherever it stands. -/
def NestsAt (v : Value) : Prop :=
  ∀ c slot start, Nests start (Value.placesIn c slot v) (v.bracesFrom start)

/-- This holds of the value if it is a node. -/
def NestsNode (v : Value) : Prop := ∀ c vs, v = .node c vs → NestsAt v

theorem nests_token {t : Token} (h : isBrace t.kind = false) : NestsAt (.token t) := by
  intro c slot start
  simp only [isBrace, Bool.or_eq_false_iff, decide_eq_false_iff_not] at h
  rw [Value.placesIn]
  split
  · exact .nil start
  · exact .single h

theorem list_nests {vs : List Value} (h : ∀ v ∈ vs, NestsAt v) (c : NodeClass) (slot start : Nat) :
    Nests start (Value.listPlaces c slot vs) (Value.bracesFromList start vs) := by
  induction vs generalizing start with
  | nil => exact .nil start
  | cons v vs ih =>
    obtain ⟨hv, hvs⟩ := List.forall_mem_cons.1 h
    refine (hv c slot start).append ?_
    rw [Value.length_placesIn]
    exact ih hvs _

theorem fields_nests {vs : List Value} (h : ∀ v ∈ vs, NestsAt v) (c : NodeClass) (slot start : Nat) :
    Nests start (Value.fieldPlaces c slot vs) (Value.bracesFromList start vs) := by
  induction vs generalizing slot start with
  | nil => exact .nil start
  | cons v vs ih =>
    obtain ⟨hv, hvs⟩ := List.forall_mem_cons.1 h
    refine (hv c slot start).append ?_
    rw [Value.length_placesIn]
    exact ih hvs _ _

theorem isTokenOf_nests {ks : List Kind} {v : Value} (hv : IsTokenOf ks v)
    (hks : ∀ k ∈ ks, isBrace k = false) : NestsAt v := by
  obtain ⟨t, rfl, ht⟩ := hv
  exact nests_token (hks _ ht)

theorem isNodeOf_nests {n : NodeType} {v : Value} (hv : v.isNodeOf n = true) (hnode : NestsNode v) :
    NestsAt v := by
  cases v with
  | node d vs => exact hnode d vs rfl
  | _ => cases hv

/-- A property whose tokens are no braces. -/
theorem property_nests {f : Form} {v : Value} (hv : f.Holds v) (hfree : f.isFree = true)
    (hnode : NestsNode v) (hchildren : ∀ w ∈ v.children, NestsNode w) : NestsAt v := by
  have hkinds := Form.isFree_iff.1 hfree
  cases f with
  | nothing =>
    obtain ⟨k, rfl⟩ := hv
    exact fun _ _ start => .nil start
  | token ks => exact isTokenOf_nests hv hkinds
  | perhaps k =>
    rcases hv with rfl | hv
    · exact fun _ _ start => .nil start
    · exact isTokenOf_nests hv hkinds
  | node n => exact isNodeOf_nests hv hnode
  | optional n =>
    rcases hv with rfl | hv
    · exact fun _ _ start => .nil start
    · exact isNodeOf_nests hv hnode
  | tokens k =>
    obtain ⟨vs, rfl, hvs⟩ := hv
    exact list_nests fun w hw => isTokenOf_nests (hvs w hw) hkinds
  | nodes n =>
    obtain ⟨vs, rfl, hvs⟩ := hv
    exact list_nests fun w hw => isNodeOf_nests (hvs w hw) (hchildren w hw)
  | separated n =>
    obtain ⟨vs, rfl, rfl | ⟨v, ws, rfl, hv, hmore⟩⟩ := hv
    · exact fun _ _ start => .nil start
    · refine list_nests fun w hw => ?_
      rcases List.mem_cons.1 hw with rfl | hmem
      · exact isNodeOf_nests hv (hchildren _ hw)
      · rcases hmore.mem w hmem with hw' | hw'
        · exact isNodeOf_nests hw' (hchildren w hw)
        · exact isTokenOf_nests hw' hkinds
  | more n => exact hv.elim

/-- A token of a kind has one place. -/
theorem token_places {k : Kind} {t : Token} (ht : t.kind ∈ [k]) (hk : k ≠ .none) (c : NodeClass)
    (slot : Nat) : Value.placesIn c slot (.token t) = [⟨.token t, t, c, slot⟩]
      ∧ (Value.token t).leaves.length = 1 := by
  have hpresent : ¬ t.isAbsent = true := by
    rw [Token.isAbsent, List.mem_singleton.1 ht]
    simpa using hk
  exact ⟨if_neg hpresent, congrArg List.length (if_neg hpresent)⟩

/-- A property with a brace on both sides. -/
theorem braced_nests {o m z : Value} (ho : IsTokenOf [.openBraceToken] o) (hm : NestsAt m)
    (hz : IsTokenOf [.closeBraceToken] z) (c : NodeClass) (slot start : Nat) :
    Nests start (Value.fieldPlaces c slot [o, m, z])
      (⟨start, start + (Value.leavesList [o, m]).length⟩ :: Value.bracesFromList start [o, m, z]) := by
  obtain ⟨t, rfl, ht⟩ := ho
  obtain ⟨u, rfl, hu⟩ := hz
  obtain ⟨hplace, hleaf⟩ := token_places ht (by decide) c slot
  obtain ⟨hplace', -⟩ := token_places hu (by decide) c (slot + 1 + 1)
  have hbracket := (hm c (slot + 1) (start + 1)).bracket (o := ⟨.token t, t, c, slot⟩)
    (z := ⟨.token u, u, c, slot + 1 + 1⟩) (List.mem_singleton.1 ht) (List.mem_singleton.1 hu)
  rw [Value.length_placesIn] at hbracket
  simpa [Value.fieldPlaces, Value.bracesFromList, Value.bracesFrom, hplace, hplace', hleaf,
    Nat.add_assoc, Nat.add_comm 1] using hbracket

/-- The properties of a node in two parts. -/
theorem fields_append {vs ws : List Value} {bs cs : List Braces} {c : NodeClass} {slot start : Nat}
    (h : Nests start (Value.fieldPlaces c slot vs) bs)
    (h' : Nests (start + (Value.leavesList vs).length) (Value.fieldPlaces c (slot + vs.length) ws) cs) :
    Nests start (Value.fieldPlaces c slot (vs ++ ws)) (bs ++ cs) := by
  rw [Value.fieldPlaces_append]
  rw [← Value.length_fieldPlaces c slot vs] at h'
  exact h.append h'

/-- Properties with braces around one of them. -/
theorem braced_fields {as zs : List Value} {o m z : Value} (has : ∀ v ∈ as, NestsAt v)
    (ho : IsTokenOf [.openBraceToken] o) (hm : NestsAt m) (hz : IsTokenOf [.closeBraceToken] z)
    (hzs : ∀ v ∈ zs, NestsAt v) (c : NodeClass) (start : Nat) :
    Nests start (Value.fieldPlaces c 0 (as ++ ([o, m, z] ++ zs)))
      (⟨start + (Value.leavesList as).length, start + (Value.leavesList (as ++ [o, m])).length⟩
        :: Value.bracesFromList start (as ++ ([o, m, z] ++ zs))) := by
  have hall := fields_append (fields_nests has c 0 start)
    (fields_append (braced_nests ho hm hz c _ _) (fields_nests hzs c _ _))
  rw [Value.bracesFromList_append, Value.bracesFromList_append, Value.leavesList_append,
    List.length_append, ← Nat.add_assoc]
  exact hall.perm List.perm_middle

/-- Properties of other classes than blocks and structs are no braces. -/
theorem slots_free {c : NodeClass} (h : c.braceSlots? = none) :
    (slots c).all Form.isFree = true := by
  cases c <;> first | decide | cases h

/-- Blocks and structs have one property between their braces, and no other braces. -/
theorem slots_braced {c : NodeClass} {i j : Nat} (h : c.braceSlots? = some (i, j)) :
    ∃ fs f gs, slots c = fs ++ ([.token [.openBraceToken], f, .token [.closeBraceToken]] ++ gs)
      ∧ fs.length = i ∧ i + 2 = j
      ∧ fs.all Form.isFree = true ∧ f.isFree = true ∧ gs.all Form.isFree = true := by
  cases c <;> cases h
  · exact ⟨[.tokens .pubKeyword, .token [.structKeyword], .token [.identifierToken]], _, [_], rfl,
      rfl, rfl, by decide, by decide, by decide⟩
  · exact ⟨[], _, [], rfl, rfl, rfl, by decide, by decide, by decide⟩

/-- A node of the grammar whose properties nest. -/
theorem node_nests {c : NodeClass} {vs : List Value} (h : Grows c vs)
    (hvs : ∀ v ∈ vs, NestsNode v ∧ ∀ w ∈ v.children, NestsNode w) : NestsAt (.node c vs) := by
  intro _ _ start
  have hall : ∀ {fs : List Form} {ws : List Value}, List.Forall₂ Form.Holds fs ws → ws ⊆ vs →
      fs.all Form.isFree = true → ∀ v ∈ ws, NestsAt v := by
    intro fs ws hws hsub hfree
    refine forall_holds hws fun f hf v hv hholds => ?_
    exact property_nests hholds (List.all_eq_true.1 hfree f hf) (hvs v (hsub hv)).1 (hvs v (hsub hv)).2
  have hslots := h.slots
  rw [Value.placesIn, Value.bracesFrom, Value.ownBraces]
  cases hbraces : c.braceSlots? with
  | none => exact fields_nests (hall hslots (List.Subset.refl _) (slots_free hbraces)) c 0 start
  | some ij =>
    obtain ⟨i, j⟩ := ij
    obtain ⟨fs, f, gs, heq, rfl, rfl, hfs, hf, hgs⟩ := slots_braced hbraces
    rw [heq] at hslots
    obtain ⟨as, rest, rfl, has, hrest⟩ := holds_append hslots
    cases hrest with
    | @cons _ o _ _ ho hrest =>
    cases hrest with
    | @cons _ m _ _ hm hrest =>
    cases hrest with
    | @cons _ z _ zs hz hzs =>
    have hnests := braced_fields (hall has (by simp) hfs) ho
      (hall (.cons hm .nil) (by simp) (by simpa using hf) m List.mem_cons_self) hz
      (hall hzs (fun v hv => by simp [hv]) hgs) c start
    have hlength : as.length = fs.length := has.length_eq.symm
    have htake : (as ++ o :: m :: z :: zs).take (fs.length + 2) = as ++ [o, m] := by
      rw [← hlength, List.take_length_add_append]
      rfl
    rw [← hlength] at htake ⊢
    simp only [htake, List.take_left]
    exact hnests

/-- **Braces nest.**  In a tree of the grammar the depth of layout at each token is the number of
blocks and structs around it. -/
theorem Grows.nests (v : Value) (hgrown : v.All Grows) :
    NestsNode v ∧ ∀ w ∈ v.children, NestsNode w := by
  induction v using Value.induction with
  | h v ih =>
    have hbelow := fun w hw => ih w hw (hgrown.children w hw)
    refine ⟨?_, fun w hw => (hbelow w hw).1⟩
    rintro c vs rfl
    exact node_nests hgrown.1 hbelow

/-- So it is in every property, but for one that is a brace. -/
theorem holds_nests {f : Form} {v : Value} (hv : f.Holds v) (hgrown : v.All Grows)
    (hfree : f.isFree = true) : NestsAt v :=
  property_nests hv hfree (Grows.nests v hgrown).1 (Grows.nests v hgrown).2

/-- Behind such a property layout is at the depth in front of it. -/
theorem holds_level {c : NodeClass} {slot : Nat} {f : Form} {v : Value} (hv : f.Holds v)
    (hgrown : v.All Grows) (hkinds : ∀ k ∈ f.tokenKinds, isBrace k = false) :
    Level (Value.placesIn c slot v) :=
  (holds_nests hv hgrown (Form.isFree_iff.2 hkinds) c slot 0).level

end Grammar

end TreeQuote
