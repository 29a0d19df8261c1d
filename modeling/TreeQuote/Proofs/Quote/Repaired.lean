/-
TreeQuote/Proofs/Quote/Repaired.lean

Round trips of texts that were repaired, under default formatting.  What trimming leaves of the tree
writes the same (`lenient_repairs`), and layout asks for no more than that.

A tree of which nothing was read is the exception: its last token has all trivia of the text.  There
trimming leaves everything, since no modifier is dropped.

Main statement: `roundtrip_repaired`.
-/
import TreeQuote.Command.Response
import TreeQuote.Proofs.Layout.Canonical
import TreeQuote.Proofs.Quote.Exchange

namespace TreeQuote

open Grammar Layout Value

/-! ### The text of a tree -/

namespace Quote

variable {o : Options}

/-- Trees whose places can be exchanged have the same text. -/
theorem rendered_congr (ho : o.defaultFormatting = true) {c : NodeClass} {vs ws : List Value}
    {ks : List Kind} (h : Exchanges ks (fieldPlaces c 0 vs) (fieldPlaces c 0 ws)) :
    (Value.node c ws).rendered o = (Value.node c vs).rendered o := by
  have htext := h Option.none [] (by simp)
  rw [List.append_nil, List.append_nil] at htext
  rw [rendered_places ho, rendered_places ho, htext]

/-- Quoting leaves the text. -/
theorem rendered_retoken (ho : o.defaultFormatting = true) {v : Value} (hv : v.WellFormed) :
    (v.retoken (Token.reduced o)).rendered o = v.rendered o := by
  have hformed := hv.formed
  obtain ⟨⟨c, vs, rfl⟩, -⟩ := hv
  have hplaces := hformed.places_retoken (keeps_reduced o)
  rw [retoken_node] at hplaces ⊢
  have hexchange : Exchanges [] (Value.node c vs).places
      (Value.node c (vs.map (retoken (Token.reduced o)))).places := by
    rw [hplaces]
    exact retoken_exchange _
  exact rendered_congr ho hexchange

/-- A layout has the text of the tree. -/
theorem rendered_normalized (ho : o.defaultFormatting = true) (c : NodeClass) (vs : List Value) :
    ((Value.node c vs).normalized {}).rendered o = (Value.node c vs).rendered o := by
  rw [rendered, rendered, if_pos ho, if_pos ho, tokens_normalized]

/-! ### Texts of which nothing was read -/

/-- What quoting leaves of tokens holds of the tokens of what quoting leaves. -/
theorem leaves_reduced {P : Token → Prop} (hP : ∀ t, P t → P (t.reduced o)) {v : Value}
    (hv : ∀ t ∈ v.leaves, P t) : ∀ t ∈ (v.retoken (Token.reduced o)).leaves, P t := by
  have hlist : ∀ vs : List Value,
      (∀ w ∈ vs, (∀ t ∈ w.leaves, P t) → ∀ t ∈ (w.retoken (Token.reduced o)).leaves, P t)
      → (∀ t ∈ leavesList vs, P t) → ∀ t ∈ leavesList (vs.map (retoken (Token.reduced o))), P t := by
    intro vs hvs h t ht
    rw [leavesList_eq_flatMap] at h ht
    obtain ⟨w, hw, ht⟩ := List.mem_flatMap.mp ht
    obtain ⟨u, hu, rfl⟩ := List.mem_map.mp hw
    exact hvs u hu (fun t ht => h t (List.mem_flatMap.mpr ⟨u, hu, ht⟩)) t ht
  induction v using Value.induction with
  | h v ih =>
    cases v with
    | token t =>
      intro u hu
      rw [retoken, leaves] at hu
      split at hu
      · cases hu
      · next habsent =>
        obtain rfl := List.mem_singleton.mp hu
        have habsent : ¬ t.isAbsent = true := habsent
        exact hP t (hv t (by simp [leaves, habsent]))
    | tokens vs => rw [retoken_tokens]; exact hlist vs (fun w hw => ih w hw) hv
    | node c vs => rw [retoken_node]; exact hlist vs (fun w hw => ih w hw) hv
    | nodes vs => rw [retoken_nodes]; exact hlist vs (fun w hw => ih w hw) hv
    | separated vs => rw [retoken_separated]; exact hlist vs (fun w hw => ih w hw) hv
    | _ => exact hv

theorem hollow_reduced {t : Token} (h : t.Hollow) : (t.reduced o).Hollow := by
  have hnil : o.keep [] = [] := by simp [Options.keep, kept]
  refine ⟨⟨h.missing, h.text, ?_⟩, ?_⟩
  · show o.keep t.leading = []
    rw [h.leading, hnil]
  · show o.keep t.trailing = []
    rw [h.trailing, hnil]

/-- A semicolon stands behind the token in front or on its own line. -/
theorem separator_semicolon (before : Text) (p : Place) (c : NodeClass) (slot : Nat) :
    separatorAfter before p (fixedPlace c slot .semicolonToken) ≠ .space := by
  have hmerge : wouldMerge before (Text.of ";") = false := by
    have hhead : (Text.of ";").head? = some (CodePoint.ofChar ';') := by decide
    have hpart : CodePoint.isWordPart (CodePoint.ofChar ';') = false := by decide
    rw [wouldMerge, hhead]
    cases before.getLast? with
    | none => rfl
    | some d => simp only [hpart, Bool.and_false]
  have htoken : (fixedPlace c slot .semicolonToken).token
      = { kind := .semicolonToken, text := Text.of ";", value := .str (Text.of ";") } := rfl
  have hseparator : separator p (fixedPlace c slot .semicolonToken)
      = if p.token.kind = .openBraceToken then .line
        else if p.token.kind = .closeBraceToken then .nothing
        else if p.token.kind = .semicolonToken then .line else .nothing := by
    simp [separator, htoken]
  rw [separatorAfter, hseparator, htoken, hmerge]
  simp only [Bool.false_eq_true, if_false]
  split_ifs <;> simp

/-- A missing token at the end, with all trivia behind it, does not look like a semicolon. -/
theorem semicolon_shows {ps : List Place} (hps : ∀ p ∈ ps, p.token.Hollow) {p : Place}
    (hp : p.token.Unseen) (c : NodeClass) (slot : Nat) :
    textFrom Option.none (ps ++ [p])
      ≠ textFrom Option.none (ps ++ [fixedPlace c slot .semicolonToken]) := by
  intro htext
  have htext := textFrom_cancel htext
  have hpending : pendingOf (along Option.none ps) = [] := (written_hollow (s := Option.none) hps rfl).2
  have hleft : textFrom (along Option.none ps) [p]
      = Trivia.fullText ((kept p.token.trailing).flatMap fun c => [space, c]) := by
    rw [textFrom, gapFrom_eq_nil hp hpending, hp.text]
    rfl
  -- The semicolon, or a line end in front of it.
  have hright : ∃ d rest, textFrom (along Option.none ps) [fixedPlace c slot .semicolonToken] = d :: rest
      ∧ d ≠ CodePoint.ofChar ' ' := by
    rw [textFrom, gapFrom, hpending]
    cases hfront : along Option.none ps with
    | none => exact ⟨CodePoint.ofChar ';', [], rfl, by decide⟩
    | some f =>
      show ∃ d rest, Trivia.fullText (between {} (some (separatorAfter _ _ _)) [] _ _) ++ _ ++ _ = d :: rest
        ∧ _
      cases hsep : separatorAfter f.before f.prev (fixedPlace c slot .semicolonToken) with
      | space => exact absurd hsep (separator_semicolon _ _ _ _)
      | nothing => exact ⟨CodePoint.ofChar ';', [], rfl, by decide⟩
      | line => exact ⟨CodePoint.ofChar '\n', _, rfl, by decide⟩
  obtain ⟨d, rest, hd, hne⟩ := hright
  rw [hleft, hd] at htext
  cases hkept : kept p.token.trailing with
  | nil =>
    rw [hkept] at htext
    cases htext
  | cons t ts =>
    rw [hkept] at htext
    exact hne (List.cons.inj htext).1.symm

/-- A fixed token is of a kind that the grammar allows. -/
def offers (g : Form) : Part → Bool
  | .fixed (.token t) => t.isAbsent || g.kinds.contains t.kind
  | _ => true

theorem offers_language : (Registry.language.all fun f => f.overloads.all fun o =>
    match o.recipe with
    | .node c parts => ((slots c).zip parts).all fun x => offers x.1 x.2
    | _ => true) = true := by
  decide +kernel

/-- The properties of the nodes that stand for nothing: tokens and nodes, a token last. -/
theorem slots_idle {c : NodeClass} (hc : c ∈ idleClasses) :
    (∀ g ∈ slots c, (∃ k, g = .token [k] ∧ k ≠ .none ∧ k ≠ .endOfFileToken) ∨ ∃ a, g = .cat a)
      ∧ ∃ before k, slots c = before ++ [.token [k]]
        ∧ (k = .semicolonToken ∨ k.fixedText? = Option.none) := by
  simp only [idleClasses, List.mem_cons, List.not_mem_nil, or_false] at hc
  rcases hc with rfl | rfl | rfl
  · exact ⟨by simp [slots], [], _, rfl, .inr rfl⟩
  · exact ⟨by simp [slots], [.cat .expression], _, rfl, .inl rfl⟩
  · exact ⟨by simp [slots], (slots .constDeclaration).dropLast, _, rfl, .inl rfl⟩

theorem class_idle {c : NodeClass} (hc : c ∈ idleClasses) :
    c.kind?.isSome = true ∧ c ≠ .structDeclaration ∧ c ≠ .documentationComment ∧ c ≠ .pair := by
  have hall : (idleClasses.all fun c => c.kind?.isSome && c ≠ .structDeclaration
      && c ≠ .documentationComment && c ≠ .pair) = true := by decide
  simpa [and_assoc] using List.all_eq_true.mp hall c hc

section Idle

variable {c : NodeClass} {k : Kind} {f : Field} {g : Form} {fs : List Field} {gs before : List Form}
  {part : Part} {parts : List Part} {os vs : List Value} {v d : Value}

/-- The token by default is the one that the grammar asks for. -/
theorem default_offered {i j : Kind} {s : Text} (hc : c ∈ idleClasses)
    (hoffers : offers (.token [i]) part = true) (hleaves : part.leaves c f = true)
    (hdefault : (part.default? c k).getD .none = Recipe.fixedToken j) (hj : j.fixedText? = some s) :
    j = i := by
  cases part with
  | fixed w =>
    obtain rfl : w = Recipe.fixedToken j := hdefault
    have hne : j ≠ .none := by
      rintro rfl
      cases hj
    rw [Recipe.fixedToken_eq hj] at hoffers
    simpa [offers, Token.isAbsent, hne, Form.kinds] using hoffers
  | operator i =>
    simp only [Part.leaves, Bool.and_eq_true, Option.isNone_iff_eq_none] at hleaves
    have hkind := (class_idle hc).1
    rw [hleaves.2] at hkind
    cases hkind
  | _ => cases hleaves

/-- No modifier is dropped where nothing was read. -/
theorem not_dropped (ho : o.defaultFormatting = true) (hc : c ∈ idleClasses)
    (hidle : (Value.node c (os ++ v :: vs)).Idle) (hslots : slots c = before ++ g :: gs)
    (hholds : List.Forall₂ Form.Holds (g :: gs) (v :: vs)) (hfg : fitsSlot c f g = true)
    (hoffers : offers g part = true) (hleaves : part.leaves c f = true)
    (hdefault : (part.default? c k).getD .none = d) (hstandard : Field.Standard c f d)
    (htext : textFrom Option.none (fieldPlaces c 0 (os.map (retoken (Token.reduced o))
        ++ v.retoken (Token.reduced o)
          :: baseline c k fs parts (vs.map (retoken (Token.reduced o)))))
      = textFrom Option.none (fieldPlaces c 0 (os.map (retoken (Token.reduced o))
        ++ d :: baseline c k fs parts (vs.map (retoken (Token.reduced o)))))) : False := by
  have hshape : f.shape = g.shape := by
    simp only [fitsSlot, Bool.and_eq_true, decide_eq_true_eq] at hfg
    exact hfg.1
  obtain ⟨hforms, front, l, hlast, hl⟩ := slots_idle hc
  have hform := hforms g (by simp [hslots])
  cases hstandard with
  | blank hlack _ =>
    have hmay : f.mayLack c = false := by
      rcases hform with ⟨i, rfl, -⟩ | ⟨a, rfl⟩ <;>
        simp [Field.mayLack, hshape, Form.shape, (class_idle hc).2.1]
    rw [hmay] at hlack
    cases hlack
  | brackets _ hnode he =>
    rw [hnode] at hshape
    rcases hform with ⟨i, rfl, -⟩ | ⟨a, rfl⟩ <;> cases hshape
  | @token j s _ htoken hj =>
    obtain ⟨i, rfl, hnone, hend⟩ : ∃ i, g = .token [i] ∧ i ≠ .none ∧ i ≠ .endOfFileToken := by
      refine hform.resolve_right ?_
      rintro ⟨a, ha⟩
      rw [htoken, ha] at hshape
      cases hshape
    obtain rfl := default_offered hc hoffers hleaves hdefault hj
    cases hholds with
    | cons hv hvs =>
    obtain ⟨t, rfl, ht⟩ := hv
    obtain rfl := List.mem_singleton.mp ht
    have habsent : t.isAbsent = false := by simpa [Token.isAbsent] using hnone
    have habsent' : (t.reduced o).isAbsent = false := habsent
    have hleavesAll : (Value.node c (os ++ .token t :: vs)).leaves
        = leavesList os ++ t :: leavesList vs := by
      simp [leaves, leavesList_append, habsent]
    rcases List.eq_nil_or_concat' gs with rfl | ⟨gs, g, rfl⟩
    · -- It is the last one, the semicolon.
      cases hvs
      have hkind : t.kind = .semicolonToken := by
        have hlast' := (List.append_inj_right' (hslots.symm.trans hlast) rfl)
        simp only [List.cons.injEq, Form.token.injEq, and_true] at hlast'
        rw [hlast']
        refine hl.resolve_right fun hnone => ?_
        rw [← hlast', hj] at hnone
        cases hnone
      have htoken : placesIn c os.length (.token (t.reduced o))
          = [⟨.token (t.reduced o), t.reduced o, c, os.length⟩] := by
        rw [placesIn, if_neg (by simp [habsent'])]
      rw [List.map_nil, baseline_nil, fieldPlaces_split, fieldPlaces_split, retoken, List.length_map,
        htoken, hkind] at htext
      have hunseen : (t.reduced o).Unseen := by
        have ht := hidle.tokens t (by simp [hleavesAll])
        have hnil : o.keep [] = [] := by simp [Options.keep, kept]
        exact ⟨ht.missing, ht.text, (congrArg o.keep ht.leading).trans hnil⟩
      refine semicolon_shows (fun p hp => ?_) hunseen c os.length htext
      have hos : ∀ u ∈ leavesList os, u.Hollow := by
        intro u hu
        obtain ⟨as, bs, hsplit⟩ := List.append_of_mem hu
        refine hidle.last as u (bs ++ [t]) ?_ (by simp)
        rw [hleavesAll, hsplit]
        simp
      have hleaf : p.token ∈ leavesList (os.map (retoken (Token.reduced o))) := by
        rw [← fieldPlaces_token c 0]
        exact List.mem_map_of_mem hp
      have hnode := leaves_reduced (o := o) (v := .node c os) (P := Token.Hollow)
        (fun _ => hollow_reduced) hos
      rw [retoken_node] at hnode
      exact hnode _ hleaf
    · -- Another token follows, so it has no trivia and shows nothing.
      obtain rfl : g = .token [l] := by
        have hslots' : slots c = (before ++ .token [t.kind] :: gs) ++ [g] := by simp [hslots]
        simpa using List.append_inj_right' (hslots'.symm.trans hlast) rfl
      obtain ⟨w, hw, u, rfl, hu⟩ := exists_slot hvs (g := .token [l]) (by simp)
      have hlnone : l ≠ .none := by
        rcases hforms (.token [l]) (by simp [hslots]) with ⟨i, hi, hi', -⟩ | ⟨a, ha⟩
        · cases hi
          exact hi'
        · cases ha
      have hmem : u ∈ leavesList vs := by
        rw [leavesList_eq_flatMap]
        refine List.mem_flatMap.mpr ⟨_, hw, ?_⟩
        simp [leaves, Token.isAbsent, List.mem_singleton.mp hu, hlnone]
      have hhollow := hidle.last _ t _ hleavesAll (List.ne_nil_of_mem hmem)
      rw [fieldPlaces_split, fieldPlaces_split] at htext
      have hink := ink_eq (textFrom_cancel htext)
      rw [← visible_eq_ink ho (Recipe.fixedToken t.kind), visible_fixedToken hj, retoken, Value.ink,
        leaves, if_neg (by simp [habsent']), Token.inks_cons, (hollow_reduced hhollow).ink] at hink
      rw [← hink] at hj
      exact hend (Kind.fixedText_injective hj rfl)

/-- Sifting leaves all properties of a node where nothing was read. -/
theorem Sifts.eq_of_idle {done ws us : List Value} (h : Sifts o c k done fs parts ws us)
    (ho : o.defaultFormatting = true) (hc : c ∈ idleClasses) (os : List Value)
    (hdone : done = os.map (retoken (Token.reduced o)))
    (hws : ws = vs.map (retoken (Token.reduced o))) (hidle : (Value.node c (os ++ vs)).Idle)
    (before : List Form) (hslots : slots c = before ++ gs) (hholds : List.Forall₂ Form.Holds gs vs)
    (hfields : List.Forall₂ (fun f g => fitsSlot c f g = true) fs gs)
    (hoffers : ∀ x ∈ gs.zip parts, offers x.1 x.2 = true) :
    us = vs.map (retoken (Token.reduced o)) := by
  induction h generalizing gs os vs before with
  | nil => exact hws
  | @keep done f fs part parts w ws us _ ih =>
    cases hfields with
    | @cons _ g _ gs hfg hfields =>
    cases hholds with
    | @cons _ v _ vs hv hvs =>
      cases hws
      rw [List.zip_cons_cons, List.forall_mem_cons] at hoffers
      have hrest := ih (os ++ [v]) (by simp [hdone]) rfl (by simpa using hidle) (before ++ [g])
        (by simpa using hslots) hvs hfields hoffers.2
      rw [hrest, List.map_cons]
  | @drop done f fs part parts d w ws us hleaves hd hstandard _ _ _ htext _ _ =>
    cases hfields with
    | @cons _ g _ gs hfg _ =>
    cases hholds with
    | @cons _ v _ vs hv hvs =>
      cases hws
      rw [List.zip_cons_cons, List.forall_mem_cons] at hoffers
      rw [rendered_places ho, rendered_places ho, hdone] at htext
      exact (not_dropped ho hc hidle hslots (.cons hv hvs) hfg hoffers.1 hleaves hd hstandard
        htext).elim

end Idle

/-- Trimming leaves a tree of which nothing was read. -/
theorem lenient_idle (ho : o.defaultFormatting = true) :
    Lenient o fun v w => v.Idle → w = v.retoken (Token.reduced o) where
  none _ := rfl
  text _ _ := rfl
  kind _ _ := rfl
  token _ _ := rfl
  absent _ := by rw [retoken, Token.reduced_absent]
  tokens h hv := by rw [retoken_tokens, forall₂_retoken h hv.ofTokens]
  nodes h hv := by rw [retoken_nodes, forall₂_retoken h hv.ofNodes]
  separated h hv := by rw [retoken_separated, forall₂_retoken h hv.ofSeparated]
  node {c vs ws us p} _ _ hws hsound hsifts hv := by
    have hc := hv.classes.1
    have hoffers := List.all_eq_true.mp (sound_parts
      (P := fun c parts => ((slots c).zip parts).all fun x => offers x.1 x.2) hsound offers_language
      (by decide))
    rw [retoken_node, hsifts.eq_of_idle ho hc [] rfl (forall₂_retoken hws hv.ofNode) hv [] rfl
      hv.grown.1.slots
      (fitsSlot_slots (class_idle hc).2.2.1 (class_idle hc).2.2.2) hoffers]

/-! ### Round trips -/

/-- Without trimming, quoting leaves the tree, and the call ends with its layout. -/
theorem quote_untrimmed (ho : o.defaultFormatting = true) (hkeep : o.removeRedundant = false)
    {c : NodeClass} {vs : List Value} (h : (Value.node c vs).WellFormed) :
    ∃ q, quote .standard o (.node c vs) = .ok q ∧ Evaluate.eval .standard q
      = .ok (((Value.node c vs).retoken (Token.reduced o)).normalized {}) := by
  obtain ⟨q, hq, heval⟩ := eval_quoteNode (o := o) h
  have hreduced := h.retokened (Token.reduced_absent o) fun _ => Token.WellFormed.reduced
  refine ⟨q.modifiedBy [.normalize], ?_, eval_modifiedBy heval (quoteNode_factory hq) fun owner => ?_⟩
  · rw [quote, quoteRoot, hq]
    simp only [Bind.bind, Except.bind, Except.mapError, ho, hkeep]
    rfl
  · have hlayout := hreduced.normalized?_eq_ok isText_default
    rw [retoken_node] at hlayout ⊢
    exact applyAll_normalize owner (NodeClass.hasModifiers_of_mem h.2.1.class_mem) hlayout

/-- The call for the tree of a text builds a layout with the text of the tree. -/
theorem quote_rendered (ho : o.defaultFormatting = true) {c : NodeClass} {vs : List Value}
    (h : (Value.node c vs).WellFormed) (hne : c ≠ .documentationComment)
    (hmended : (Value.node c vs).Mended ∨ (Value.node c vs).Idle) :
    ∃ q us, quote .standard o (.node c vs) = .ok q
      ∧ Evaluate.eval .standard q = .ok ((Value.node c us).normalized {})
      ∧ (Value.node c us).WellFormed ∧ (Value.node c us).rendered o = (Value.node c vs).rendered o := by
  have hretoken := rendered_retoken ho h
  rw [retoken_node] at hretoken
  cases hremove : o.removeRedundant with
  | false =>
    obtain ⟨q, hq, heval⟩ := quote_untrimmed ho hremove h
    have hreduced := h.retokened (Token.reduced_absent o) fun _ => Token.WellFormed.reduced
    rw [retoken_node] at heval hreduced
    exact ⟨q, _, hq, heval, hreduced, hretoken⟩
  | true =>
    rcases hmended with hmended | hidle
    · obtain ⟨q, us, hq, hus, hrepairs, heval⟩ := (lenient_repairs ho).quote h hne hremove
      rw [ho, if_pos rfl] at heval
      have hexchange := hrepairs.exchange (.cls c) c 0 hmended
        (by simp [Form.Holds, Value.isNodeOf, NodeType.holds]) rfl
      exact ⟨q, us, hq, heval, hus, rendered_congr ho hexchange⟩
    · obtain ⟨q, us, hq, hus, hsame, heval⟩ := (lenient_idle ho).quote h hne hremove
      rw [ho, if_pos rfl] at heval
      have hsame := hsame hidle
      rw [retoken_node] at hsame
      cases hsame
      exact ⟨q, _, hq, heval, hus, hretoken⟩

end Quote

/-- **Round trips under default formatting.**  The call for the tree of a text, repaired or not and
trimmed or not, builds a tree with the same layout, and the round trip is reported as such. -/
theorem roundtrip_repaired {o : Options} (ho : o.defaultFormatting = true) {source : Text}
    {c : Context} {file : Option Text} {p : Parsed} (hsource : Quotable source)
    (hread : parse? source c file = some p) :
    (∃ q w t, quote .standard o p.root = .ok q ∧ Evaluate.eval .standard q = .ok w
        ∧ Trim.render o w = .ok t ∧ Trim.render o p.root = .ok t)
      ∧ ∀ (command : Command) (name : Text), command.options = o
        → ∃ r, command.respondRoundtrip name p = .ok r ∧ r.exit = 0 ∧ r.errors = [] := by
  have hroot := parse?_wellFormed hsource hread
  have htype := (parse?_tree hread).1
  have hmended := parse?_mended hread
  have htrip : ∃ q w t, quote .standard o p.root = .ok q ∧ Evaluate.eval .standard q = .ok w
      ∧ Trim.render o w = .ok t ∧ Trim.render o p.root = .ok t := by
    generalize p.root = v at hroot htype hmended ⊢
    obtain ⟨d, vs, rfl⟩ : ∃ d vs, v = .node d vs := hroot.1
    have hne := ne_documentation htype
    obtain ⟨q, us, hq, heval, hus, htext⟩ := Quote.quote_rendered ho hroot hne hmended
    refine ⟨q, _, _, hq, heval, ?_, hroot.render o hne⟩
    have hlayout := hus.normalized
    have hnode : ∃ xs, (Value.node d us).normalized {} = .node d xs := ⟨_, rfl⟩
    obtain ⟨xs, hxs⟩ := hnode
    have hrender := Quote.rendered_normalized ho d us
    rw [hxs] at hlayout hrender ⊢
    rw [hlayout.render o hne, hrender, htext]
  refine ⟨htrip, fun command name hoptions => ?_⟩
  obtain ⟨q, w, t, hq, heval, hactual, hexpected⟩ := htrip
  subst hoptions
  rw [Command.respondRoundtrip, hq]
  simp only [heval, Command.shownValue, hexpected, hactual, Except.mapError, Bind.bind, Except.bind]
  cases command.json <;> simp [Pure.pure, Except.pure]

/-- A type argument and the semicolon behind a struct are inserted. -/
theorem roundtrip_repaired_struct :
    ({} : Options).defaultFormatting = true
      ∧ Quotable (Text.of "fn f(x: A<>) \x7b \x7d struct S \x7b a: T \x7d // end")
      ∧ ∃ p, parse? (Text.of "fn f(x: A<>) \x7b \x7d struct S \x7b a: T \x7d // end") .unit none = some p
        ∧ p.diagnostics ≠ []
        ∧ (∃ q w t, quote .standard {} p.root = .ok q ∧ Evaluate.eval .standard q = .ok w
          ∧ Trim.render {} w = .ok t ∧ Trim.render {} p.root = .ok t)
        ∧ ∀ (command : Command) (name : Text), command.options = {}
          → ∃ r, command.respondRoundtrip name p = .ok r ∧ r.exit = 0 ∧ r.errors = [] := by
  have hkinds : (Lexeme.scan? (Text.of
      "fn f(x: A<>) \x7b \x7d struct S \x7b a: T \x7d // end")).map (List.map (·.kind))
      = some [.fnKeyword, .identifierToken, .openParenToken, .identifierToken, .colonToken,
        .identifierToken, .lessThanToken, .greaterThanToken, .closeParenToken, .openBraceToken,
        .closeBraceToken, .structKeyword, .identifierToken, .openBraceToken, .identifierToken,
        .colonToken, .identifierToken, .closeBraceToken] := by
    decide +kernel
  have hsource := Quotable.of_kinds (by decide) hkinds (by decide) (by decide)
  have hread : (parse? (Text.of "fn f(x: A<>) \x7b \x7d struct S \x7b a: T \x7d // end")
      .unit none).map (fun p => p.diagnostics.isEmpty) = some false := by decide +kernel
  obtain ⟨p, hp, hrepaired⟩ := Option.map_eq_some_iff.mp hread
  refine ⟨rfl, hsource, p, hp, fun hnil => ?_, roundtrip_repaired rfl hsource hp⟩
  rw [hnil] at hrepaired
  cases hrepaired

end TreeQuote
