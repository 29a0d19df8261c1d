/-
TreeQuote/Proofs/Quote/List.lean

What the calls for lists build.  A list of one member is a call of the factory of singletons, a
longer one has its members in an array; in both cases the factory gives the members back, and
the type in its name is one that all of them have.

Main statements: `Quote.builds_tokens`, `Quote.builds_nodes` and `Quote.builds_separated`.
-/
import TreeQuote.Proofs.Quote.Assembly
import TreeQuote.Proofs.Quote.Traversal

namespace TreeQuote

namespace Shape

/-- Each value is taken if a condition holds, so all are taken if it holds of all. -/
theorem acceptEach_when {f : Value → Except OutOfRange (Option Value)} {p : Value → Bool}
    (hf : ∀ v, f v = when (p v) v) (vs : List Value) :
    acceptEach f vs = .ok (if vs.all p then some vs else none) := by
  induction vs with
  | nil => rfl
  | cons v vs ih =>
    rw [acceptEach, hf, when]
    cases hv : p v with
    | false => simp [hv, bind, Except.bind, pure, Except.pure]
    | true =>
      show (do return (← acceptEach f vs).map (v :: ·)) = _
      rw [ih]
      cases hvs : vs.all p <;> simp [hv, hvs, bind, Except.bind, pure, Except.pure]

/-- An array is not taken if one of its members is not. -/
theorem accept_sequence_none {a : Shape} {p : Value → Bool} (ha : ∀ v, a.accept v = when (p v) v)
    {vs : List Value} {v : Value} (hv : v ∈ vs) (hp : p v = false) :
    (Shape.sequence a).accept (.array vs) = .ok none := by
  have hall : vs.all p = false := List.all_eq_false.mpr ⟨v, hv, by simp [hp]⟩
  rw [accept, acceptEach_when ha, hall]
  rfl

theorem accept_anyNode {v : Value} {t : NodeType} (h : v.isNodeOf t = true) :
    (Shape.variable (some (.category .node))).accept v = .ok (some v) := by
  cases v with
  | node c vs =>
    have hnode : (NodeType.category .node).holds c = true := by
      unfold NodeType.holds
      cases c <;> decide
    rw [accept, Value.isNodeOf, hnode]
    rfl
  | _ => cases h

end Shape

namespace Value

theorem IsSeparator.isToken {v : Value} (h : v.IsSeparator) : v.isToken = true := by
  rcases h with rfl | ⟨t, rfl, -⟩ <;> rfl

/-- Between two nodes there is a separator. -/
theorem exists_separator {vs : List Value} (h : alternates vs = true) (hlen : 2 ≤ vs.length) :
    ∃ v ∈ vs, v.isToken = true := by
  rcases vs with _ | ⟨v, _ | ⟨w, vs⟩⟩
  · simp at hlen
  · simp at hlen
  · rw [alternates, Bool.and_eq_true, Bool.and_eq_true] at h
    exact ⟨w, by simp, h.1.2⟩

theorem mem_evens {v : Value} {vs : List Value} (h : v ∈ evens vs) : v ∈ vs := by
  induction vs using evens.induct with
  | case1 => exact h
  | case2 a => exact h
  | case3 a b rest ih =>
    rcases List.mem_cons.mp h with rfl | h
    · exact List.mem_cons_self
    · exact List.mem_cons_of_mem _ (List.mem_cons_of_mem _ (ih h))

/-- The nodes of a separated list are no separators. -/
theorem evens_isToken {vs : List Value} (h : alternates vs = true) :
    ∀ v ∈ evens vs, v.isToken = false := by
  induction vs using evens.induct with
  | case1 => nofun
  | case2 a => simpa [alternates, evens] using h
  | case3 a b rest ih =>
    rw [alternates, Bool.and_eq_true, Bool.and_eq_true] at h
    rw [evens, List.forall_mem_cons]
    exact ⟨by simpa using h.1.1, ih h.2⟩

end Value

namespace Quote

open Evaluate

variable {vs : List Value} {cs : List Call} {q : Call}

theorem spread_array (vs : List Value) : Recipe.spread [.array vs] = vs := by
  simp [Recipe.spread]

theorem spread_node {v : Value} {t : NodeType} (h : v.isNodeOf t = true) :
    Recipe.spread [v] = [v] := by
  cases v with
  | node c vs => rfl
  | _ => cases h

/-- The call of a list of tokens builds it. -/
theorem builds_tokens (hvs : ∀ v ∈ vs, v.IsToken) (hcs : evalList .standard cs = .ok vs)
    (hq : listCall (Text.of "token_list") cs = some q) : Builds (.tokens vs) q := by
  have hone : ∀ w, vs = [w] → call .standard (Text.of "token_list") [w] [] = .ok (.tokens vs) := by
    rintro w rfl
    obtain ⟨t, rfl, -⟩ := hvs w List.mem_cons_self
    exact call_leaf 11 rfl rfl
  have hmany : 2 ≤ vs.length
      → call .standard (Text.of "token_list") [.array vs] [] = .ok (.tokens vs) := by
    intro _
    have hbind := Overload.bind?_one (p := Catalogue.req "tokens" (.sequence .token)) rfl
      (s := .tokens) (r := .tokens) (Shape.accept_sequence fun v hv => by
        obtain ⟨t, rfl, -⟩ := hvs v hv
        rfl)
    refine call_leaf 11 rfl ?_
    show Factory.build? [.array vs] [] [_] = _
    rw [Factory.build?_accept hbind]
    show (Except.ok (some (Except.ok (Value.tokens (Recipe.spread [.array vs])))) : Except _ _) = _
    rw [spread_array]
  rcases eval_listCall hcs hone hmany with ⟨-, hnone⟩ | ⟨-, c, hc, heval⟩
  · rw [hq] at hnone
    cases hnone
  · rw [hq, Option.some.injEq] at hc
    exact ⟨hc ▸ heval, nofun⟩

/-! ### Lists of nodes -/

/-- A call of a list factory, at position `i`, with a type that all members of the list have. -/
theorem call_list {f : Factory} {t : NodeType} {args : List Value} {v : Value} (i : Nat)
    (hf : Catalogue.listFactories[i]? = some f) (hg : f.isGeneric = true) (ht : t ∈ NodeType.all)
    (hbuild : Factory.build? args [] f.overloads = .ok (some (.ok v)))
    (hmembers : ∀ m ∈ v.members?.getD [], m.isNodeOf t = true) :
    call .standard (f.name ++ Text.of "[" ++ t.name ++ Text.of "]") args [] = .ok v :=
  call_generic (Registry.list_mem i hf) hg ht hbuild hmembers

/-- Both names of a list factory are used by the length of the list. -/
theorem eval_listName {one many : String} {element : Text} {v : Value}
    (hcs : evalList .standard cs = .ok vs)
    (hone : ∀ w, vs = [w]
      → call .standard (Text.of one ++ Text.of "[" ++ element ++ Text.of "]") [w] [] = .ok v)
    (hmany : 2 ≤ vs.length
      → call .standard (Text.of many ++ Text.of "[" ++ element ++ Text.of "]") [.array vs] [] = .ok v)
    (hq : listCall (listName one many element cs) cs = some q) : eval .standard q = .ok v := by
  have hlength : cs.length = vs.length := by
    clear hone hmany hq
    induction cs generalizing vs with
    | nil =>
      rw [evalList, Except.ok.injEq] at hcs
      rw [← hcs, List.length_nil, List.length_nil]
    | cons c cs ih =>
      obtain ⟨w, ws, -, hws, rfl⟩ := evalList_cons_eq_ok hcs
      rw [List.length_cons, List.length_cons, ih hws]
  have hone' : ∀ w, vs = [w] → call .standard (listName one many element cs) [w] [] = .ok v := by
    intro w hw
    rw [listName, hlength, hw]
    exact hone w hw
  have hmany' : 2 ≤ vs.length
      → call .standard (listName one many element cs) [.array vs] [] = .ok v := by
    intro h
    rw [listName, hlength, if_neg (by omega)]
    exact hmany h
  rcases eval_listCall hcs hone' hmany' with ⟨-, hnone⟩ | ⟨-, c, hc, heval⟩
  · rw [hq] at hnone
    cases hnone
  · rw [hq, Option.some.injEq] at hc
    exact hc ▸ heval

/-- The call of a list of nodes builds it. -/
theorem builds_nodes {t : NodeType} (ht : t ∈ NodeType.all)
    (hvs : ∀ v ∈ vs, v.isNodeOf t = true) (hcs : evalList .standard cs = .ok vs)
    (hq : listCall (listName "singleton_list" "syntax_list" t.name cs) cs = some q) :
    Builds (.nodes vs) q := by
  refine ⟨eval_listName hcs ?_ ?_ hq, ?_⟩
  · rintro w rfl
    have hw := hvs w List.mem_cons_self
    refine call_list 1 rfl rfl ht ?_ hvs
    rw [Factory.build?_accept
      (Overload.bind?_one (p := Catalogue.req "node" Catalogue.anyNode) rfl (Shape.accept_anyNode hw))]
    show (Except.ok (some (Except.ok (Value.nodes (Recipe.spread [w])))) : Except _ _) = _
    rw [spread_node hw]
  · intro _
    refine call_list 0 rfl rfl ht ?_ hvs
    rw [Factory.build?_reject rfl, Factory.build?_accept
      (Overload.bind?_one (p := Catalogue.req "nodes" (.sequence Catalogue.anyNode)) rfl
        (Shape.accept_sequence fun v hv => Shape.accept_anyNode (hvs v hv)))]
    show (Except.ok (some (Except.ok (Value.nodes (Recipe.spread [.array vs])))) : Except _ _) = _
    rw [spread_array]
  · intro ws hws items hitems
    cases hws
    rw [listItems?_listCall hq, Option.some.injEq] at hitems
    rw [← hitems, hcs]

/-- The call of a separated list builds it. -/
theorem builds_separated {t : NodeType} (ht : t ∈ NodeType.all)
    (halternates : Value.alternates vs = true)
    (hvs : ∀ v ∈ vs, v.isNodeOf t = true ∨ v.IsSeparator) (hcs : evalList .standard cs = .ok vs)
    (hq : listCall (listName "singleton_separated_list" "separated_list" t.name cs) cs = some q) :
    Builds (.separated vs) q := by
  have hmembers : ∀ m ∈ (Value.separated vs).members?.getD [], m.isNodeOf t = true := by
    intro m hm
    rcases hvs m (Value.mem_evens hm) with h | h
    · exact h
    · have := Value.evens_isToken halternates m hm
      rw [h.isToken] at this
      cases this
  refine ⟨eval_listName hcs ?_ ?_ hq, nofun⟩
  · rintro w rfl
    have hw : w.isNodeOf t = true := hmembers w List.mem_cons_self
    refine call_list 3 rfl rfl ht ?_ hmembers
    rw [Factory.build?_accept
      (Overload.bind?_one (p := Catalogue.req "node" Catalogue.anyNode) rfl (Shape.accept_anyNode hw))]
    show (Except.ok (some (Recipe.separatedOf (Recipe.spread [w]))) : Except _ _) = _
    rw [spread_node hw, Recipe.separatedOf, if_pos halternates]
  · intro hlen
    obtain ⟨s, hs, hstoken⟩ := Value.exists_separator halternates hlen
    have hsnode : s.isNodeOf (.category .node) = false := by
      cases s <;> first | rfl | cases hstoken
    -- A list with a separator is not one of nodes only, to which commas would be added.
    have hreject : Overload.bind? ⟨[Catalogue.req "nodes" (.sequence Catalogue.anyNode)],
        .separated none, .separatedByCommas⟩ [.array vs] [] = .ok none :=
      Overload.bind?_refuse rfl (Shape.accept_sequence_none (fun _ => rfl) hs hsnode)
    have haccept : ∀ v ∈ vs, (Shape.union (Catalogue.cat .node) .token).accept v = .ok (some v) := by
      intro v hv
      rcases hvs v hv with h | h
      · have hnode : (Catalogue.cat .node).accept v = .ok (some v) := Shape.accept_anyNode h
        rw [Shape.accept, hnode]
        rfl
      · rcases h with rfl | ⟨t, rfl, -⟩ <;> rfl
    refine call_list 2 rfl rfl ht ?_ hmembers
    rw [Factory.build?_reject rfl, Factory.build?_reject hreject, Factory.build?_accept
      (Overload.bind?_one (p := Catalogue.req "nodes_and_tokens"
        (.sequence (.union (Catalogue.cat .node) .token))) rfl (Shape.accept_sequence haccept))]
    show (Except.ok (some (Recipe.separatedOf (Recipe.spread [.array vs]))) : Except _ _) = _
    rw [spread_array, Recipe.separatedOf, if_pos halternates]

/-- The absent token stands as a separator. -/
theorem builds_absent : Builds (.token .absent) (separatorCall none) :=
  ⟨eval_factory (evalList_cons (eval_ofKind .standard .none) rfl) (call_leaf 7 rfl rfl), nofun⟩

end Quote

end TreeQuote
