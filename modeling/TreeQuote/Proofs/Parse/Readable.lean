/-
TreeQuote/Proofs/Parse/Readable.lean

The tokens of a text without carriage returns.  Where there are none, each gap of the text is made
of white space, line ends and comments that end where the next trivia starts; so the tokens of a
text without a report can be laid out and read back.

Main statement: `parse?_readable`.
-/
import TreeQuote.Proofs.Layout.Reread
import TreeQuote.Proofs.Parse.Clean
import TreeQuote.Proofs.Parse.Report

namespace TreeQuote

open Dressing

/-! ### Values -/

theorem Token.SameCore.congr {t u v : Token} (h : t.SameCore u) (hcore : v.core = u.core) :
    t.SameCore v := by
  obtain ⟨hkind, htext, hvalue, hmissing⟩ := h
  simp only [Token.core, Token.mk.injEq] at hcore
  obtain ⟨hk, ht, hv, -, -, hm, -⟩ := hcore
  exact ⟨hkind.trans hk.symm, htext.trans ht.symm, hv ▸ hvalue, hmissing.trans hm.symm⟩

theorem Lexeme.IsLexeme.digit {w : Text} (h : IsLexeme .numericLiteralToken w) :
    ∃ c rest, w = c :: rest ∧ c.isDigit = true := by
  obtain ⟨c, rest, hw, -, hstarts⟩ := h.starts
  cases hstarts with
  | word hk => exact absurd hk (by decide)
  | number hc => exact ⟨c, rest, hw, hc⟩
  | punctuation hk => exact absurd hk (by decide)

/-- The token of a lexeme of the same kind and text is the same, and has a value that equals
itself. -/
theorem token?_same {file : Option Text} {l m : Lexeme} {s : Token}
    (hl : Lexeme.IsLexeme l.kind l.text) (h : token? file l = some s) (hkind : m.kind = l.kind)
    (htext : m.text = l.text) : ∃ u, token? file m = some u ∧ u.SameCore s := by
  unfold token? at h ⊢
  simp only [hkind, htext] at h ⊢
  split at h
  · rename_i hid
    cases h
    exact ⟨_, if_pos hid, rfl, rfl, Scalar.same_self_of_canonical (by simp [Token.identifier]), rfl⟩
  split at h
  · rename_i hid hnum
    rw [if_neg hid, if_pos hnum]
    obtain ⟨v, hv, t, ht, rfl⟩ :
        ∃ v, Literal.parseNumber? l.text = some v ∧ ∃ t, Token.literal? l.text v = some t
          ∧ { t with span := some (l.span file) } = s := by
      simpa [Option.bind_eq_some_iff] using h
    have hvalue : t.value = v := by
      obtain ⟨k, -, rfl⟩ := Option.map_eq_some_iff.1 ht
      rfl
    refine ⟨{ t with span := some (m.span file) }, by simp [hv, ht], rfl, rfl, ?_, rfl⟩
    refine Scalar.same_self_of_canonical fun x hx => ?_
    obtain ⟨c, rest, hw, hc⟩ := (hnum ▸ hl).digit
    rw [← hvalue, hx, hw] at hv
    exact Literal.parseNumber?_canonical hc hv
  split at h
  · rename_i hid hnum hstr
    rw [if_neg hid, if_neg hnum, if_pos hstr]
    split at h
    · cases h
      exact ⟨_, rfl, rfl, rfl, Scalar.same_self_of_canonical (by simp), rfl⟩
    · cases h
  · rename_i hid hnum hstr
    rw [if_neg hid, if_neg hnum, if_neg hstr]
    obtain ⟨t, ht, rfl⟩ := Option.map_eq_some_iff.1 h
    refine ⟨{ t with span := some (m.span file) }, by rw [ht]; rfl, rfl, rfl,
      Scalar.same_self_of_canonical fun x hx => ?_, rfl⟩
    unfold Token.fixed? at ht
    split at ht
    · cases ht
      cases hx
    · obtain ⟨w, -, rfl⟩ := Option.map_eq_some_iff.1 ht
      cases hx

/-! ### Lexemes -/

theorem Lexeme.Lexes.isLexeme {p : Cursor} {t : Text} {ls : List Lexeme} (h : Lexes p t ls) :
    ∀ l ∈ ls, IsLexeme l.kind l.text := by
  induction h with
  | done => exact List.forall_mem_nil _
  | lexeme _ hw _ ih => exact List.forall_mem_cons.2 ⟨⟨_, hw⟩, ih⟩

/-- What a lexeme starts with is no gap. -/
theorem Lexeme.Munch.flush {t : Text} {k : Kind} {n : Nat} (h : Munch t k n) :
    ∀ c ∈ t.head?, isGap c = false := by
  obtain ⟨c, rest, rfl, hc⟩ := match?_head (match?_iff.2 h)
  intro d hd
  cases hd
  exact hc

/-! ### Gaps -/

/-- The trivia of a gap without carriage returns. -/
theorem Lexeme.Passes.settled {g rest : Text} (h : Passes g rest) (hg : CodePoint.ofChar '\r' ∉ g)
    (hrest : ∀ c ∈ rest.head?, isGap c = false) (before : Text) :
    ∀ c ∈ Gap.scan (before ++ (g ++ rest)) [] before.length (before.length + g.length),
      c.Settled := by
  obtain ⟨ts, hlaid, rfl⟩ := h.laid hg hrest
  rw [Gap.scan_laid hlaid]
  exact hlaid.settled

theorem settled_split {gap : List Trivia} (h : ∀ c ∈ gap, c.Settled) :
    (∀ c ∈ (Gap.splitTrailing gap).1, c.Settled) ∧ ∀ c ∈ (Gap.splitTrailing gap).2, c.Settled :=
  Layout.forall_split h

/-- The trivia of the tokens behind one that was read. -/
theorem dressAfter_settled {file : Option Text} {p : Cursor} {t : Text} {ls : List Lexeme}
    (h : Lexeme.Lexes p t ls) (ht : CodePoint.ofChar '\r' ∉ t) {before : Text}
    (hbefore : before.length = p.offset) {trail : List Trivia} {ts : List Token}
    {eof : List Trivia}
    (hdress : dressAfter file .unit (Gap.scan (before ++ t) []) (before ++ t).length p.offset
      (ls.map .read) = some (trail, ts, eof)) :
    (∀ c ∈ trail, c.Settled)
      ∧ (∀ u ∈ ts, (∀ c ∈ u.leading, c.Settled) ∧ ∀ c ∈ u.trailing, c.Settled)
      ∧ ∀ c ∈ eof, c.Settled := by
  induction h generalizing before trail ts eof with
  | @done p g hg =>
    have hgap := hg.settled ht (fun c hc => by cases hc) before
    rw [List.append_nil, ← List.length_append, hbefore] at hgap
    cases hdress
    exact ⟨(settled_split hgap).1, List.forall_mem_nil _, (settled_split hgap).2⟩
  | @lexeme p g w rest k ls hg hw _ ih =>
    obtain ⟨hgr, hwr⟩ := not_or.1 (mt List.mem_append.2 ht)
    have hgap := hg.settled hgr hw.flush before
    have hstart : (p.after g).offset = before.length + g.length := by
      rw [Cursor.after_offset, hbefore]
    have hstop : (before ++ (g ++ w)).length = ((p.after g).after w).offset := by
      rw [Cursor.after_offset, hstart, List.length_append, List.length_append, Nat.add_assoc]
    simp only [List.map_cons, dressAfter, Option.bind_eq_bind, Option.bind_eq_some_iff,
      Prod.exists] at hdress
    obtain ⟨u, -, trailing, us, eof', hrest, heq⟩ := hdress
    cases heq
    have hbehind := ih (fun hmem => hwr (List.mem_append_right _ hmem)) hstop
      (by simpa only [List.append_assoc] using hrest)
    rw [← hstart, hbefore] at hgap
    exact ⟨(settled_split hgap).1,
      List.forall_mem_cons.2 ⟨⟨(settled_split hgap).2, hbehind.1⟩, hbehind.2.1⟩, hbehind.2.2⟩

/-- The trivia of all tokens of a text. -/
theorem dress_settled {file : Option Text} {t : Text} {ls : List Lexeme}
    (hls : Lexeme.scan? t = some ls) (ht : CodePoint.ofChar '\r' ∉ t) {ts : List Token}
    {eof : List Trivia}
    (hdress : dress file .unit (Gap.scan t []) t.length (ls.map .read) = some (ts, eof)) :
    (∀ u ∈ ts, (∀ c ∈ u.leading, c.Settled) ∧ ∀ c ∈ u.trailing, c.Settled)
      ∧ ∀ c ∈ eof, c.Settled := by
  obtain h := Lexeme.scan?_iff.1 hls
  cases h with
  | done hg =>
    have hgap := hg.settled ht (fun c hc => by cases hc) []
    rw [List.append_nil, List.nil_append, List.length_nil, Nat.zero_add] at hgap
    rw [List.map_nil, dress, if_pos rfl] at hdress
    cases hdress
    exact ⟨List.forall_mem_nil _, hgap⟩
  | @lexeme _ g w rest k ls hg hw hbehind =>
    obtain ⟨hgr, hwr⟩ := not_or.1 (mt List.mem_append.2 ht)
    have hgap := hg.settled hgr hw.flush []
    rw [List.nil_append, List.length_nil] at hgap
    have hstart : (Cursor.start.after g).offset = 0 + g.length := Cursor.after_offset _ _
    have hstop : (g ++ w).length = ((Cursor.start.after g).after w).offset := by
      rw [Cursor.after_offset, hstart, List.length_append, Nat.zero_add]
    simp only [List.map_cons, dress, Option.bind_eq_bind, Option.bind_eq_some_iff,
      Prod.exists] at hdress
    obtain ⟨u, -, trailing, us, eof', hrest, heq⟩ := hdress
    cases heq
    have hsides := dressAfter_settled hbehind (fun hmem => hwr (List.mem_append_right _ hmem)) hstop
      (by simpa only [List.append_assoc] using hrest)
    rw [← hstart] at hgap
    exact ⟨List.forall_mem_cons.2 ⟨⟨hgap, hsides.1⟩, hsides.2.1⟩, hsides.2.2⟩

/-! ### Tokens -/

theorem comment_of_settled {ts : List Trivia} (h : ∀ c ∈ ts, c.Settled) :
    ∀ c ∈ Layout.kept ts, c.Comment := by
  intro c hc
  obtain ⟨hmem, hkept⟩ := List.mem_filter.1 hc
  exact ⟨h c hmem, by simpa using hkept⟩

/-- The tokens of a text without carriage returns, dressed as they stand there, are read back
whatever their layout, up to the end of the file. -/
theorem dress_readable {file : Option Text} {t : Text} {ls : List Lexeme}
    (hls : Lexeme.scan? t = some ls) (ht : CodePoint.ofChar '\r' ∉ t) {ts : List Token}
    {eof : List Trivia}
    (hdress : dress file .unit (Gap.scan t []) t.length (ls.map .read) = some (ts, eof)) :
    (∀ u ∈ ts, u.Readable file) ∧ ∀ c ∈ Layout.kept eof, c.Comment := by
  obtain ⟨hsides, heof⟩ := dress_settled hls ht hdress
  refine ⟨fun u hu => ?_, comment_of_settled heof⟩
  obtain ⟨hlead, htrail⟩ := hsides u hu
  cases dress_origin hdress u hu with
  | inserted hk =>
    obtain ⟨l, -, hl⟩ := List.mem_map.1 hk
    cases hl
  | @read l s hl hs hcore =>
    rw [reads_read_all] at hl
    have hlexeme := (Lexeme.scan?_iff.1 hls).isLexeme l hl
    have hbares := token?_bares hlexeme.spells hs
    have hkind : u.kind = l.kind := (congrArg Token.kind hcore).trans hbares.kind
    have htext : u.text = l.text := (congrArg Token.text hcore).trans hbares.text
    have hpresent : u.missing = false := (congrArg Token.missing hcore).trans hbares.missing
    refine ⟨by rwa [hkind, htext], hpresent, comment_of_settled hlead, comment_of_settled htrail,
      fun m hm hmtext => ?_⟩
    obtain ⟨v, hv, hsame⟩ := token?_same hlexeme hs (hm.trans hkind) (hmtext.trans htext)
    exact ⟨v, hv, hsame.congr hcore⟩

end TreeQuote
