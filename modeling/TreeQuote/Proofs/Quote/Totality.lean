/-
TreeQuote/Proofs/Quote/Totality.lean

Which trees are quoted.  Every tree that is read is quoted, whatever is in the text, but for one
thing: the parser reads hexadecimal and binary integers of any length, and an integer is quoted in
decimal digits, of which there may be `Integer.maxDigits`.

A tree that is read need not be well formed, but the tree with its tokens mended is, so that one is
quoted.  The tree has the call of the mended tree, unless a token that is too long is in the way.
Then it has none: the call would be that of two mended trees that differ.

Main statement: `quote_total`.
-/
import TreeQuote.Proofs.Quote.Mending
import TreeQuote.Proofs.Quote.Retoken
import TreeQuote.Proofs.Quote.RoundTrip

namespace TreeQuote

open Grammar Dressing

/-! ### Changing the tokens of a tree of the grammar -/

section Grown

variable {g : Token → Token}

theorem Value.AlikeList.of_forall {f : Value → Value} {vs : List Value}
    (h : ∀ v ∈ vs, Value.Alike v (f v)) : Value.AlikeList vs (vs.map f) := by
  induction vs with
  | nil => exact .nil
  | cons v vs ih =>
    obtain ⟨hv, hvs⟩ := List.forall_mem_cons.mp h
    exact .cons hv (ih hvs)

theorem Value.leavesList_retoken {vs : List Value}
    (h : ∀ v ∈ vs, (v.retoken g).leaves = v.leaves.map g) :
    Value.leavesList (vs.map (Value.retoken g)) = (Value.leavesList vs).map g := by
  induction vs with
  | nil => rfl
  | cons v vs ih =>
    obtain ⟨hv, hvs⟩ := List.forall_mem_cons.mp h
    rw [List.map_cons, leavesList_cons, leavesList_cons, List.map_append, hv, ih hvs]

/-- A tree of the grammar is like the changed tree, whose tokens are the changed ones. -/
theorem Value.grown_retoken (hg : Token.KeepsKinds g) {v : Value} (hv : v.Plain)
    (hgrown : v.All Grows) :
    Value.Alike v (v.retoken g) ∧ (v.retoken g).leaves = v.leaves.map g := by
  induction v using Value.induction with
  | h v ih =>
    have hbelow := fun w hw => ih w hw (plain_children hv hgrown hw) (hgrown.children w hw)
    have hlist : ∀ {vs : List Value}, (∀ w ∈ vs, w ∈ v.children) →
        Value.AlikeList vs (vs.map (Value.retoken g))
          ∧ Value.leavesList (vs.map (Value.retoken g)) = (Value.leavesList vs).map g :=
      fun hvs => ⟨.of_forall fun w hw => (hbelow w (hvs w hw)).1,
        Value.leavesList_retoken fun w hw => (hbelow w (hvs w hw)).2⟩
    cases v with
    | token t =>
      cases ht : t.isAbsent with
      | true =>
        rw [Value.retoken, hg.absent ht]
        refine ⟨.same _, ?_⟩
        simp [Value.leaves, ht]
      | false =>
        have hkind : (g t).kind ≠ .none := by
          rw [hg.kind]
          simpa [Token.isAbsent] using ht
        refine ⟨.token (hg.kind t).symm hkind, ?_⟩
        simp [Value.retoken, Value.leaves, hg.isAbsent, ht]
    | tokens vs =>
      rw [retoken_tokens]
      exact (hlist fun _ hw => hw).imp_left .tokens
    | node c vs =>
      rw [retoken_node]
      exact (hlist fun _ hw => hw).imp_left .node
    | nodes vs =>
      rw [retoken_nodes]
      exact (hlist fun _ hw => hw).imp_left .nodes
    | separated vs =>
      rw [retoken_separated]
      exact (hlist fun _ hw => hw).imp_left .separated
    | framed => exact hv.elim
    | array => exact hv.elim
    | _ => exact ⟨.same _, rfl⟩

end Grown

/-! ### Trees that are read -/

section Read

variable {source : Text} {c : Context} {file : Option Text} {p : Parsed}

/-- The value of a lexeme: a string is read off the text, and a double is canonical. -/
theorem token?_sourced {ls : List Lexeme} (hls : Lexeme.scan? source = some ls) {l : Lexeme}
    (hl : l ∈ ls) {t : Token} (h : Dressing.token? file l = some t) :
    (t.kind = .stringLiteralToken → ∀ s, t.value = .str s → Literal.decodeString t.text = .ok s)
      ∧ ∀ x, t.value = .float x → x.Canonical := by
  unfold Dressing.token? at h
  simp only at h
  split at h
  · cases h
    exact ⟨by rintro ⟨⟩, by rintro x ⟨⟩⟩
  split at h
  · next hk =>
    obtain ⟨v, hv, u, hu, rfl⟩ :
        ∃ v, Literal.parseNumber? l.text = some v ∧ ∃ u, Token.literal? l.text v = some u
          ∧ { u with span := some (l.span file) } = t := by
      simpa [Option.bind_eq_some_iff] using h
    obtain ⟨k, hkind, rfl⟩ := Option.map_eq_some_iff.1 hu
    refine ⟨fun hstring s hs => ?_, fun x hx => ?_⟩
    · -- A number is no text.
      have hv' : v = .str s := hs
      have hnumber := parseNumber?_kind hv
      rw [hv'] at hnumber
      cases hnumber
    · have hv' : v = .float x := hx
      obtain ⟨d, rest, htext, hd⟩ := Lexeme.scan?_digit hls hl hk
      rw [hv', htext] at hv
      exact Literal.parseNumber?_canonical hd hv
  split at h
  · split at h
    · next s hdecode =>
      cases h
      exact ⟨fun _ u hu => (Scalar.str.inj hu) ▸ hdecode, by rintro x ⟨⟩⟩
    · cases h
  · next hstring =>
    obtain ⟨u, hu, rfl⟩ := Option.map_eq_some_iff.1 h
    rw [Token.fixed?] at hu
    split at hu
    · cases hu
      exact ⟨by rintro - s ⟨⟩, by rintro x ⟨⟩⟩
    · obtain ⟨s, -, rfl⟩ := Option.map_eq_some_iff.1 hu
      exact ⟨fun hk => absurd hk hstring, by rintro x ⟨⟩⟩

/-- The tokens of a tree that is read come from a source. -/
theorem parse?_sourced (h : parse? source c file = some p) : ∀ t ∈ p.root.leaves, t.Sourced := by
  intro t ht
  obtain ⟨-, -, hdressed⟩ := parse?_tree h
  obtain ⟨q, hq, hassembled⟩ := parse?_assembled h
  obtain ⟨ls, r, hls, hr, horigin⟩ := parsePure?_origin hq
  have hvalue : (t.kind = .stringLiteralToken → ∀ s, t.value = .str s
      → Literal.decodeString t.text = .ok s) ∧ ∀ x, t.value = .float x → x.Canonical := by
    rcases horigin t ((hassembled.leaves t).1 ht) with (⟨hk, hu, -, -⟩ | ⟨hl, hs, hu⟩) | ⟨eof, rfl⟩
    · have hnone : t.value = .none := congrArg Token.value hu
      rw [hnone]
      exact ⟨by rintro - s ⟨⟩, by rintro x ⟨⟩⟩
    · rename_i l s
      have hkind : t.kind = s.kind := congrArg (·.kind) hu
      have htext : t.text = s.text := congrArg (·.text) hu
      have hsame : t.value = s.value := congrArg (·.value) hu
      rw [hkind, htext, hsame]
      exact token?_sourced hls ((reads_sublist hr).subset hl) hs
    · exact ⟨by rintro ⟨⟩, by rintro x ⟨⟩⟩
  exact ⟨(hdressed t ht).built, fun c hc => ((hdressed t ht).leading c hc).built,
    fun c hc => ((hdressed t ht).trailing c hc).built, hvalue.1, hvalue.2⟩

/-- The mended tree: it is well formed, and its tokens are the mended ones. -/
theorem parse?_mend (o : Options) {n : Int} (hn : n.natAbs < Integer.decimalBound)
    (h : parse? source c file = some p) :
    (p.root.retoken (Token.mend o n)).WellFormed
      ∧ (p.root.retoken (Token.mend o n)).Plain ∧ (p.root.retoken (Token.mend o n)).All Grows
      ∧ (p.root.retoken (Token.mend o n)).leaves = p.root.leaves.map (Token.mend o n) := by
  have hsourced := parse?_sourced h
  have hpresent := Value.leaves_present p.root
  obtain ⟨htype, hgrown, -⟩ := parse?_tree h
  have hplain := (isItem_of_isNodeOf htype).plain
  obtain ⟨halike, hleaves⟩ := Value.grown_retoken (Token.mend_keepsKinds o n) hplain hgrown
  have htype' := Alike.isNodeOf halike htype
  have hgrown' := Alike.grown _ _ halike hgrown
  refine ⟨root_all (T := Token.WellFormed) htype' hgrown' ?_ ?_ Grows.admits,
    (isItem_of_isNodeOf htype').plain, hgrown', hleaves⟩
  · rintro rfl vs hvs habsent
    cases hroot : p.root with
    | node d ws =>
      rw [hroot, Value.retoken_node, Value.node.injEq] at hvs
      obtain ⟨rfl, rfl⟩ := hvs
      obtain ⟨w, hw, hmend⟩ := List.mem_map.mp habsent
      cases w with
      | token t =>
        have htoken : t.mend o n = .absent := Value.token.inj hmend
        have hnone : t.isAbsent = true := by
          rw [← (Token.mend_keepsKinds o n).isAbsent, htoken]
          rfl
        rw [(Token.mend_keepsKinds o n).absent hnone] at htoken
        rw [htoken] at hw
        obtain ⟨q, -, hassembled⟩ := parse?_assembled h
        exact hassembled.closed rfl _ hroot hw
      | _ => cases hmend
    | _ =>
      rw [hroot] at hvs
      cases hvs
  · rw [hleaves]
    exact List.forall_mem_map.mpr fun t ht => (hsourced t ht).mend (hpresent t ht) hn

namespace Quote

/-- What cannot be written is an integer with too many digits. -/
def TooLong (e : Error) : Prop := e = .literal .tooManyDigits

theorem mend_agrees (o : Options) (n : Int) (h : parse? source c file = some p) :
    ∀ t ∈ p.root.leaves, TokenAgrees .standard o TooLong (Token.mend o n) t := by
  intro t ht
  have hsourced := parse?_sourced h t ht
  by_cases hshort : t.value.Short
  · exact .inl (quoteToken_mend hsourced (Value.leaves_present p.root t ht) hshort)
  · obtain ⟨m, hm, hlong⟩ : ∃ m, t.value = .int m ∧ Integer.decimalBound ≤ m.natAbs := by
      simpa [Scalar.Short] using hshort
    exact .inr ⟨_, rfl, quoteToken_long hsourced hm hlong⟩

/-- A well-formed tree is quoted. -/
theorem quote_wellFormed (o : Options) {v : Value} (hv : v.WellFormed)
    (htype : v.isNodeOf c.type = true) : ∃ q, TreeQuote.quote .standard o v = .ok q := by
  obtain ⟨d, vs, rfl⟩ := hv.1
  cases hremove : o.removeRedundant with
  | true =>
    have hlenient : Lenient o fun _ _ => True :=
      ⟨trivial, fun _ => trivial, fun _ => trivial, fun _ => trivial, trivial, fun _ => trivial,
        fun _ => trivial, fun _ => trivial, fun _ _ _ _ _ => trivial⟩
    obtain ⟨q, us, hq, -⟩ := hlenient.quote hv (ne_documentation htype) hremove
    exact ⟨q, hq⟩
  | false =>
    obtain ⟨q, hq, -⟩ := eval_quoteNode (o := o) hv
    rw [TreeQuote.quote, quoteRoot, hq, hremove]
    exact ⟨_, rfl⟩

/-- A tree that has no token that is too long has the call of the mended tree. -/
theorem quoteRoot_mend (o : Options) (n : Int) (h : parse? source c file = some p)
    (hshort : ∀ t ∈ p.root.leaves, t.value.Short) :
    quoteRoot .standard o p.root = quoteRoot .standard o (p.root.retoken (Token.mend o n)) := by
  have hsourced := parse?_sourced h
  refine Agrees.eq (quoteRoot_agrees (Token.mend_keepsKinds o n).isAbsent fun t ht => .inl ?_)
  exact quoteToken_mend (hsourced t ht) (Value.leaves_present p.root t ht) (hshort t ht)

theorem one_lt_decimalBound : 1 < Integer.decimalBound := by
  have hpow : ∀ k, k ≠ 0 → 1 < Nat.pow 10 k := fun k hk => Nat.one_lt_pow hk (by decide)
  delta Integer.decimalBound
  exact hpow Integer.maxDigits (by decide)

/-- A tree with a token that is too long has no call: the call would be that of two mended trees
that differ in that token. -/
theorem quoteNode_long (o : Options) (h : parse? source c file = some p) {t : Token}
    (ht : t ∈ p.root.leaves) (hlong : ¬t.value.Short) :
    quoteNode .standard o p.root = .error (.literal .tooManyDigits) := by
  have hcall : ∀ n : Int, n.natAbs < Integer.decimalBound →
      quoteNode .standard o p.root = .error (.literal .tooManyDigits)
        ∨ ∃ q, quoteNode .standard o p.root = .ok q ∧ Evaluate.eval .standard q
          = .ok ((p.root.retoken (Token.mend o n)).retoken (Token.reduced o)) := by
    intro n hn
    obtain ⟨q, hq, heval⟩ := eval_quoteNode (o := o) (parse?_mend o hn h).1
    have hagrees := quoteNode_agrees (Token.mend_keepsKinds o n).isAbsent (mend_agrees o n h)
    rcases hagrees with heq | ⟨e, he, herror⟩
    · exact .inr ⟨q, heq.trans hq, heval⟩
    · exact .inl (he ▸ herror)
  have hzero : (0 : Int).natAbs < Integer.decimalBound := Nat.lt_of_succ_lt one_lt_decimalBound
  have hone : (1 : Int).natAbs < Integer.decimalBound := one_lt_decimalBound
  rcases hcall 0 hzero with herror | ⟨q, hq, heval⟩
  · exact herror
  rcases hcall 1 hone with herror | ⟨q', hq', heval'⟩
  · exact herror
  exfalso
  obtain rfl : q = q' := Except.ok.inj (hq.symm.trans hq')
  have htrees := Except.ok.inj (heval.symm.trans heval')
  obtain ⟨hformed, -, -, hleaves⟩ := parse?_mend o hzero h
  obtain ⟨hformed', -, -, hleaves'⟩ := parse?_mend o hone h
  have hall := congrArg Value.leaves htrees
  rw [leaves_reduced_eq hformed, leaves_reduced_eq hformed', hleaves, hleaves', List.map_map,
    List.map_map] at hall
  have hsame := congrArg Token.value (List.map_inj_left.mp hall t ht)
  obtain ⟨m, hm, hbound⟩ : ∃ m, t.value = .int m ∧ Integer.decimalBound ≤ m.natAbs := by
    simpa [Scalar.Short] using hlong
  have hvalue : ∀ n : Int, ((Token.mend o n t).reduced o).value = .int n := by
    intro n
    rw [Token.mend_of_present (Value.leaves_present p.root t ht)]
    show t.value.mend n = .int n
    rw [hm, Scalar.mend, if_neg (Nat.not_lt.mpr hbound)]
  simp only [Function.comp_apply, hvalue] at hsame
  cases hsame

end Quote

/-- **Which trees are quoted.**  Every tree that is read is quoted, but for one with an integer of
more than `Integer.maxDigits` decimal digits; the call for that would have to write them, so quoting
fails with the complaint about it. -/
theorem quote_total (o : Options) (h : parse? source c file = some p) :
    ((∀ t ∈ p.root.leaves, t.value.Short) → ∃ q, quote .standard o p.root = .ok q)
      ∧ ∀ t ∈ p.root.leaves, ¬t.value.Short
        → quote .standard o p.root = .error (.quote (.literal .tooManyDigits)) := by
  constructor
  · intro hshort
    obtain ⟨htype, -, -⟩ := parse?_tree h
    have hmended := parse?_mend o (n := 1) Quote.one_lt_decimalBound h
    obtain ⟨q, hq⟩ := Quote.quote_wellFormed o hmended.1
      ((Value.isNodeOf_retoken c.type p.root).trans htype)
    refine ⟨q, ?_⟩
    rw [quote, Quote.quoteRoot_mend o 1 h hshort]
    exact hq
  · intro t ht hlong
    rw [quote, Quote.quoteRoot, Quote.quoteNode_long o h ht hlong]
    rfl

end Read

/-- The escape of a surrogate and a code point beyond `0xFFFF` in one string. -/
def mixedSource : Text := Text.of "\"\\ud800😀\""

/-- The sum of this string and an integer is quoted, though the string cannot be written. -/
theorem quote_total_mixed : ∃ p, parse? (mixedSource ++ Text.of " + 0x1") .expression none = some p
    ∧ (∃ t ∈ p.root.leaves, ¬t.value.Writable) ∧ ∃ q, quote .standard {} p.root = .ok q := by
  have hread : ((parse? (mixedSource ++ Text.of " + 0x1") .expression none).map fun p =>
      p.root.leaves.map (·.value)) = some [.str Evaluate.mixedText, .str (Text.of "+"), .int 1] := by
    decide +kernel
  obtain ⟨p, hp, hvalues⟩ := Option.map_eq_some_iff.mp hread
  have hshort : ∀ t ∈ p.root.leaves, t.value.Short := by
    intro t ht
    have hmem : t.value ∈ p.root.leaves.map (·.value) := List.mem_map_of_mem ht
    rw [hvalues] at hmem
    intro n hn
    simp only [hn, List.mem_cons, reduceCtorEq, Scalar.int.injEq, List.not_mem_nil, or_false,
      false_or] at hmem
    rw [hmem]
    exact Quote.one_lt_decimalBound
  obtain ⟨t, ht, hvalue⟩ := List.mem_map.mp (hvalues ▸ List.mem_cons_self :
    Scalar.str Evaluate.mixedText ∈ p.root.leaves.map (·.value))
  refine ⟨p, hp, ⟨t, ht, ?_⟩, (quote_total {} hp).1 hshort⟩
  have hmixed : ¬Evaluate.mixedText.Unmixed := by
    rw [← Text.spread_eq_self_iff]
    decide
  rw [hvalue]
  exact hmixed

end TreeQuote
