/-
TreeQuote/Proofs/Parse/FixedPoint.lean

The canonical layout is a fixed point of the parser.  A text without carriage returns that is read
as a unit without a report has a layout whose text is read as that layout, again without a report.

Main statements: `parse?_normalized`, the layout of what is read and its text, and
`parse?_fixedPoint`.
-/
import TreeQuote.Proofs.Grammar.Refill
import TreeQuote.Proofs.Layout.Rendering
import TreeQuote.Proofs.Parse.Readable
import TreeQuote.Proofs.Parse.Reading

namespace TreeQuote

open Grammar Dressing

/-! ### Laid-out trees -/

namespace Layout

theorem scanned_default : HoldsOfBlanks {} Trivia.Scanned where
  space := ⟨.whitespace _, CodePoint.ofChar ' ', [], rfl, by decide⟩
  lineBreak depth := by
    rw [lineBreak, List.forall_mem_cons]
    refine ⟨⟨.endOfLine _, CodePoint.ofChar '\n', [], rfl, by decide⟩, ?_⟩
    rw [indent]
    split
    · exact List.forall_mem_nil _
    · rename_i hdepth
      obtain ⟨n, rfl⟩ := Nat.exists_eq_succ_of_ne_zero (n := depth) fun h => hdepth (by simp [h])
      have htab : Lexeme.isGap (CodePoint.ofChar '\t') = true := by decide
      exact List.forall_mem_singleton.2
        ⟨.whitespace _, CodePoint.ofChar '\t', Text.copies n (Text.of "\t"), rfl, htab⟩

/-- Laid-out tokens are dressed. -/
theorem tokens_dressed {ps : List Place} (hps : ∀ p ∈ ps, Dressed p.token) :
    ∀ t ∈ tokens {} ps, Dressed t := by
  intro t ht
  obtain ⟨p, hp, hcore⟩ := core_of_mem_tokens ht
  have htrivia := forall_tokens scanned_default
    (fun p hp => ⟨(hps p hp).leading, (hps p hp).trailing⟩) t ht
  exact ⟨(hps p hp).built.congr hcore, htrivia.1, htrivia.2⟩

end Layout

/-- The places of what is read hold plain tokens, which can be laid out. -/
theorem parse?_plainly {source : Text} {c : Context} {file : Option Text} {p : Parsed}
    (h : parse? source c file = some p) : ∀ q ∈ p.root.places, Value.Plainly q := by
  obtain ⟨htype, hgrown, hdressed⟩ := parse?_tree h
  have hplaces := nodeTokens_root htype
  generalize p.root = v at htype hgrown hdressed hplaces ⊢
  cases v with
  | node d vs =>
    have hplain : (Value.node d vs).Plain := trivial
    intro q hq
    have htoken : Dressed q.token := hdressed _ (hplaces ▸ List.mem_map_of_mem hq)
    exact ⟨Value.placesIn_held hplain hgrown d 0 q hq,
      fun t ht => (htoken.leading t ht).built.flaw, fun t ht => (htoken.trailing t ht).built.flaw⟩
  | _ => exact absurd htype Bool.false_ne_true

/-- What is read can be laid out: the layout is a tree of the grammar of the laid-out tokens, and
its text is that of these tokens. -/
theorem parse?_normalized {source : Text} {c : Context} {file : Option Text} {p : Parsed}
    (h : parse? source c file = some p) :
    p.root.normalized? {} = .ok (p.root.normalized {})
      ∧ Value.Alike p.root (p.root.normalized {})
      ∧ (p.root.normalized {}).All Grows
      ∧ (p.root.normalized {}).leaves = Layout.tokens {} p.root.places
      ∧ (p.root.normalized {}).fullText? =
        .ok (Value.tokensText (Layout.tokens {} p.root.places)) := by
  have hheld := parse?_plainly h
  obtain ⟨htype, hgrown, hdressed⟩ := parse?_tree h
  have hplaces := nodeTokens_root htype
  generalize p.root = v at htype hgrown hdressed hplaces hheld ⊢
  cases v with
  | node d vs =>
    have htokens : ∀ q ∈ (Value.node d vs).places, Dressed q.token := fun q hq =>
      hdressed _ (hplaces ▸ List.mem_map_of_mem hq)
    obtain ⟨halike, hleaves⟩ := Value.normalized_refilled {} d vs
    have hgrown' := Alike.grown _ _ halike hgrown
    have htype' := Alike.isNodeOf halike htype
    refine ⟨Value.normalized?_of_plainly Layout.isText_default hheld, halike, hgrown', hleaves, ?_⟩
    rw [fullText?_grown ⟨c, htype'⟩ hgrown' (hleaves ▸ Layout.tokens_dressed htokens), hleaves]
  | _ => exact absurd htype Bool.false_ne_true

/-! ### Units -/

/-- Closing a unit looks at no token. -/
theorem close_retoken (g : Token → Token) (s : Token) (v : Value) :
    (Parsed.close .unit s v).retoken g = Parsed.close .unit (g s) (v.retoken g) := by
  cases v with
  | node d vs =>
    cases d with
    | compilationUnit => simp [Parsed.close, List.map_set, Value.retokenList_eq_map, Value.retoken]
    | _ => simp [Parsed.close]
  | _ => rfl

theorem skeleton_close {v w : Value} {s t : Token} (h : v.skeleton = w.skeleton)
    (ht : s.outline = t.outline) :
    (Parsed.close .unit s v).skeleton = (Parsed.close .unit t w).skeleton := by
  unfold Value.skeleton at h ⊢
  rw [close_retoken, close_retoken, h, ht]

/-- A unit that is derived from lexemes, refilled with tokens of their kinds and closed. -/
structure ClosedUnit (ls : List Lexeme) (tree : Value) (tokens : List Token) (eof : Token)
    (root : Value) : Prop where
  yields : Yields (.nonterminal Context.unit.start) [tree] (ls.map Repair.plain)
  kinds : Value.kinds tokens = Value.kinds (ls.map Repair.plain)
  closes : eof.kind = .endOfFileToken
  root : root = Parsed.close .unit eof (tree.refill tokens).1

namespace ClosedUnit

variable {ls : List Lexeme} {tree root : Value} {tokens : List Token} {eof : Token}

theorem kind_ne_end (h : ClosedUnit ls tree tokens eof root) :
    ∀ t ∈ tokens, t.kind ≠ .endOfFileToken := by
  intro t ht
  have hmem : t.kind ∈ Value.kinds (ls.map Repair.plain) := h.kinds ▸ List.mem_map_of_mem ht
  obtain ⟨u, hu, hk⟩ := List.mem_map.1 hmem
  rw [← hk]
  exact YieldsAll.kind_ne_end h.yields (by simp) u hu

theorem leaves (h : ClosedUnit ls tree tokens eof root) : root.leaves = tokens ++ [eof] := by
  obtain ⟨htype, hgrown, hleaves⟩ := refill_yields h.yields h.kinds
  have hend : ∀ t ∈ (tree.refill tokens).1.leaves, t.kind ≠ .endOfFileToken := by
    rw [hleaves]
    exact h.kind_ne_end
  rw [h.root, (close_unit htype hgrown hend h.closes).2.2, hleaves]

theorem skeleton_tree (h : ClosedUnit ls tree tokens eof root) :
    (tree.refill tokens).1.skeleton = tree.skeleton := by
  obtain ⟨htakes, hgrown, hleaves⟩ := Yields.grown h.yields
  rw [Context.start_form] at htakes
  obtain ⟨v, hv, htype⟩ := htakes
  obtain rfl : tree = v := by simpa using hv
  rw [Value.leavesList_cons, Value.leavesList_nil, List.append_nil] at hleaves
  exact skeleton_refill (isItem_of_isNodeOf htype).plain (hgrown _ List.mem_cons_self)
    (by rw [h.kinds, hleaves])

/-- Other lexemes of the same kinds derive a unit of the same skeleton. -/
theorem skeleton {ms : List Lexeme} {tree' root' : Value} {us : List Token} {end' : Token}
    (h : ClosedUnit ls tree tokens eof root) (h' : ClosedUnit ms tree' us end' root')
    (hskeleton : tree'.skeleton = tree.skeleton) : root'.skeleton = root.skeleton := by
  have hend : end'.outline = eof.outline := by
    simp [Token.outline, Token.isAbsent, h.closes, h'.closes]
  rw [h.root, h'.root]
  exact skeleton_close (h'.skeleton_tree.trans (hskeleton.trans h.skeleton_tree.symm)) hend

/-- The places of a unit: those of its tokens, and the end of the file behind them. -/
theorem places (h : ClosedUnit ls tree tokens eof root)
    (htype : root.isNodeOf Context.unit.type = true) (hgrown : root.All Grows) :
    ∃ ps e, root.places = ps ++ [e] ∧ ps.map (·.token) = tokens ∧ e.token = eof
      ∧ Led (ps ++ [e]) := by
  obtain ⟨t, rfl⟩ | ⟨c, vs, hroot⟩ := isItem_of_isNodeOf htype
  · exact absurd htype Bool.false_ne_true
  have hplaces : root.places.map (·.token) = tokens ++ [eof] := by
    rw [← h.leaves, hroot]
    exact Value.nodeTokens_node c vs
  obtain ⟨ps, es, hsplit, hps, hes⟩ := List.map_eq_append_iff.1 hplaces
  obtain ⟨e, rfl, he⟩ := List.map_eq_singleton_iff.1 hes
  refine ⟨ps, e, hsplit, hps, he, hsplit ▸ ?_⟩
  rw [hroot]
  exact ((Grows.led root hgrown).1 c vs hroot).1

end ClosedUnit

/-- What is read as a unit without a report. -/
theorem parsePure?_closedUnit {source : Text} {file : Option Text} {p : Parsed}
    (h : parsePure? source .unit file = some p) (hclean : p.diagnostics = []) :
    ∃ ls tree tokens eof, Lexeme.scan? source = some ls
      ∧ dress file .unit (Gap.scan source []) source.length (ls.map .read) = some (tokens, eof)
      ∧ ClosedUnit ls tree tokens (Parsed.endOfFile file source eof) p.root := by
  obtain ⟨ls, tree, tokens, eof, hls, hr, hdress, hroot⟩ := parsePure?_clean h hclean
  have hfed := Repair.fed_clean ls tree
  have hplain : (ls.map Fed.read).map Fed.plain = ls.map Repair.plain := by
    simp [Fed.plain, Function.comp_def]
  have htiles : Tiles .unit source _ [] tokens eof :=
    dress_run hls hr (by rw [hfed, Repair.skipped_taken]; exact hdress)
  have hyields := Repair.run?_yields hr
  have hkinds := htiles.kinds
  rw [hfed, hplain] at hyields hkinds
  exact ⟨ls, tree, tokens, eof, hls, hdress, hyields, hkinds, rfl, hroot⟩

/-! ### The fixed point -/

/-- **The layout of a unit is read as it is**: where a text without carriage returns is read without
a report, the text of the canonical layout is read as that layout, without a report. -/
theorem parse?_fixedPoint {source : Text} {file : Option Text} {p : Parsed}
    (hsource : CodePoint.ofChar '\r' ∉ source) (h : parse? source .unit file = some p)
    (hclean : p.diagnostics = []) :
    ∃ n t q, p.root.normalized? {} = .ok n ∧ n.fullText? = .ok t
      ∧ parse? t .unit file = some q ∧ q.diagnostics = [] ∧ q.root.eqv n = true := by
  obtain ⟨ls, tree, tokens, eof, hls, hdress, hunit⟩ :=
    parsePure?_closedUnit ((parse?_iff_pure (by simp [hclean])).1 h) hclean
  obtain ⟨hreadable, heof⟩ := dress_readable hls hsource hdress
  obtain ⟨hnormal, halike, hgrown, hleaves, htext⟩ := parse?_normalized h
  obtain ⟨htype, hgrownRoot, -⟩ := parse?_tree h
  obtain ⟨ps, e, hplaces, hps, he, hled⟩ := hunit.places htype hgrownRoot
  have hreads : ∀ q ∈ ps, q.token.Readable file ∧ q.token.kind ≠ .endOfFileToken := by
    intro q hq
    have hmem : q.token ∈ tokens := hps ▸ List.mem_map_of_mem hq
    exact ⟨hreadable _ hmem, hunit.kind_ne_end _ hmem⟩
  have hending : e.token.Ending := by
    rw [he]
    exact ⟨rfl, rfl, heof, rfl⟩
  -- the laid-out tokens are scanned and dressed again
  obtain ⟨ts, lead, ms, us, htokens, hscan, hkinds, hdressed, heqv⟩ :=
    Layout.tokens_reread hreads hending hled
  rw [hplaces, htokens] at hleaves htext
  have hspelled : Value.tokensText (ts ++ [e.token.withTrivia lead []])
      = Value.tokensText ts ++ Trivia.fullText lead := by
    rw [Value.tokensText_append]
    simp [Token.fullText, Token.withTrivia, hending.text]
  have hsame : Value.kinds ts = Value.kinds tokens := by
    have hcore := congrArg (List.map fun t : Token => t.kind)
      (Layout.tokens_core (L := {}) (ps ++ [e]))
    rw [htokens] at hcore
    rw [← hps]
    simpa [Value.kinds, Function.comp_def, Token.core, Token.withTrivia] using hcore
  have hplain : Value.kinds (ms.map Repair.plain) = Value.kinds ts := by
    rw [← hkinds]
    simp [Value.kinds, Repair.plain, Function.comp_def]
  -- so they derive a tree of the same skeleton
  obtain ⟨tree', hyields, hskeleton⟩ :=
    Yields.exchange hunit.yields (hplain.trans (hsame.trans hunit.kinds))
  have hread := (parse?_iff_pure (by simp)).2 (parsePure?_of_yields hscan hyields hdressed)
  refine ⟨_, _, _, hnormal, htext.trans (congrArg Except.ok hspelled), hread, rfl, ?_⟩
  have hus : Value.kinds us = Value.kinds ts := by
    refine List.forall₂_eq_eq_eq ▸ ?_
    exact List.forall₂_map_left_iff.2 (List.forall₂_map_right_iff.2 (heqv.imp fun t u htu => by
      simp only [Token.eqv, Bool.and_eq_true, decide_eq_true_eq] at htu
      exact htu.1.1.1.1.1))
  have hunit' : ClosedUnit ms tree' us
      (Parsed.endOfFile file (Value.tokensText ts ++ Trivia.fullText lead) lead) _ :=
    ⟨hyields, hus.trans hplain.symm, rfl, rfl⟩
  have hsides := hunit.skeleton hunit' hskeleton
  have hplainRoot := (isItem_of_isNodeOf htype).plain
  refine eqv_of_skeleton (Alike.isNodeOf halike htype) hgrown
    (hsides.trans (skeleton_of_alike hplainRoot hgrownRoot halike).symm) ?_
  rw [hunit'.leaves, hleaves]
  refine List.rel_append heqv (.cons ?_ .nil)
  rw [he]
  simp [Token.eqv, Parsed.endOfFile, Token.withTrivia, Scalar.same, Scalar.eqv]

/-- Comments behind a brace and in front of the end, and a name that is not spaced. -/
theorem parse?_fixedPoint_comments :
    CodePoint.ofChar '\r' ∉ Text.of "fn f ( ) \x7b // one\n return - 1 ; /* two */ \x7d\n// three"
      ∧ ∃ p, parse? (Text.of "fn f ( ) \x7b // one\n return - 1 ; /* two */ \x7d\n// three") .unit
          none = some p
        ∧ p.diagnostics = []
        ∧ ∃ n t q, p.root.normalized? {} = .ok n ∧ n.fullText? = .ok t
          ∧ parse? t .unit none = some q ∧ q.diagnostics = [] ∧ q.root.eqv n = true := by
  have hsource : CodePoint.ofChar '\r'
      ∉ Text.of "fn f ( ) \x7b // one\n return - 1 ; /* two */ \x7d\n// three" := by decide
  have hread : ((parse? (Text.of "fn f ( ) \x7b // one\n return - 1 ; /* two */ \x7d\n// three")
      .unit none).map fun p => p.diagnostics) = some [] := by decide +kernel
  obtain ⟨p, hp, hclean⟩ := Option.map_eq_some_iff.1 hread
  exact ⟨hsource, p, hp, hclean, parse?_fixedPoint hsource hp hclean⟩

end TreeQuote
