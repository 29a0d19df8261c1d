/-
TreeQuote/Proofs/Parse/Dressing.lean

Dressing loses nothing.  The tokens that were read and the gaps between them tile the
source, so the full texts of the dressed tokens, followed by what is left for the
end-of-file token, are the source again.  Inserted tokens add no text.

Main statement: `dress_sound`.
-/
import TreeQuote.Proofs.Parse.Repair
import TreeQuote.Proofs.Tree.Leaves

namespace TreeQuote

/-- The part of a text between two others. -/
theorem Text.slice_append (before gap after : Text) :
    (before ++ (gap ++ after)).slice before.length (before.length + gap.length) = gap := by
  simp [Text.slice]

namespace Dressing

open Grammar Lexeme

/-! ### One token -/

/-- A number is read as an integer or a double. -/
theorem parseNumber?_kind {t : Text} {v : Scalar} (h : Literal.parseNumber? t = some v) :
    Token.literalKind? v = some .numericLiteralToken := by
  have hint : ∀ {base : Nat} {d : Text}, (Integer.read? base d).map Scalar.int = some v →
      Token.literalKind? v = some .numericLiteralToken := by
    intro base d hd
    obtain ⟨n, -, rfl⟩ := Option.map_eq_some_iff.1 hd
    rfl
  have hplain : ∀ {d e : Text}, Literal.parseNumber?.plain d e = some v →
      Token.literalKind? v = some .numericLiteralToken := by
    intro d e hd
    unfold Literal.parseNumber?.plain at hd
    split at hd
    · obtain ⟨x, -, rfl⟩ := Option.map_eq_some_iff.1 hd
      rfl
    · exact hint hd
  unfold Literal.parseNumber? at h
  simp only at h
  split at h
  · split at h
    · exact hint h
    · split at h
      · exact hint h
      · exact hplain h
  · exact hplain h

/-- The token is the bare token of a lexeme. -/
structure Bares (l : Lexeme) (t : Token) : Prop where
  built : t.Built
  kind : t.kind = l.kind
  text : t.text = l.text
  leading : t.leading = []
  trailing : t.trailing = []
  missing : t.missing = false

/-- The token of a lexeme is one that the builders make, with its kind and its text. -/
theorem token?_bares {file : Option Text} {l : Lexeme} {t : Token} (hl : Spells l.kind l.text)
    (h : token? file l = some t) : Bares l t := by
  unfold token? at h
  simp only at h
  split at h
  · rename_i hk
    cases h
    exact ⟨.identifier rfl, hk.symm, rfl, rfl, rfl, rfl⟩
  split at h
  · rename_i hk
    obtain ⟨v, hv, u, hu, rfl⟩ :
        ∃ v, Literal.parseNumber? l.text = some v ∧ ∃ u, Token.literal? l.text v = some u
          ∧ { u with span := some (l.span file) } = t := by
      simpa [Option.bind_eq_some_iff] using h
    obtain ⟨k, hkind, rfl⟩ := Option.map_eq_some_iff.1 hu
    rw [parseNumber?_kind hv] at hkind
    cases hkind
    exact ⟨.literal (by simp [Token.literal?, parseNumber?_kind hv, Token.core]), hk.symm, rfl, rfl,
      rfl, rfl⟩
  split at h
  · rename_i hk
    split at h
    · cases h
      exact ⟨.literal (by simp [Token.literal?, Token.literalKind?, hk, Token.core]), rfl, rfl, rfl,
        rfl, rfl⟩
    · cases h
  · rename_i hid hnum hstr
    obtain ⟨u, hu, rfl⟩ := Option.map_eq_some_iff.1 h
    have hfixed : l.kind.fixedText? = some l.text := by
      rcases hl with (hk | hk | hk) | hk
      · exact absurd hk hid
      · exact absurd hk hnum
      · exact absurd hk hstr
      · exact hk
    have hne : l.kind ≠ .none := by
      intro hk
      rw [hk] at hfixed
      cases hfixed
    simp only [Token.fixed?, hne, if_false, hfixed, Option.map_some, Option.some.injEq] at hu
    subst hu
    exact ⟨.fixed (by simp [Token.fixed?, hne, hfixed, Token.core]), rfl, rfl, rfl, rfl, rfl⟩

/-! ### All tokens -/

/-- A token as dressing leaves it: made by the builders, between trivia of the source. -/
structure Dressed (t : Token) : Prop where
  built : t.Built
  leading : ∀ p ∈ t.leading, p.Scanned
  trailing : ∀ p ∈ t.trailing, p.Scanned

theorem Dressed.fullText? {t : Token} (h : Dressed t) : t.fullText? = .ok t.fullText :=
  Token.fullText?_eq_ok (fun p hp => (h.leading p hp).built.flaw) fun p hp => (h.trailing p hp).built.flaw

theorem missingOf_dressed (k : Kind) : Dressed (.missingOf k) :=
  ⟨.missing rfl, by simp [Token.missingOf], by simp [Token.missingOf]⟩

/-- A bare token between trivia. -/
theorem Bares.dressed {l : Lexeme} {t : Token} (h : Bares l t) {lead trail : List Trivia}
    (hlead : ∀ p ∈ lead, p.Scanned) (htrail : ∀ p ∈ trail, p.Scanned) :
    Dressed (t.withTrivia lead trail) := by
  refine ⟨?_, hlead, htrail⟩
  cases h.built with
  | fixed hb => exact .fixed hb
  | identifier hb => exact .identifier hb
  | literal hb => exact .literal hb
  | missing hb => exact .missing hb

/-- The gaps of a source: each spells its part of the text. -/
def Spelling (source : Text) (gaps : Gaps) : Prop :=
  ∀ start stop, Trivia.fullText (gaps start stop) = source.slice start stop
    ∧ ∀ p ∈ gaps start stop, p.Scanned

/-- Splitting a gap keeps its text. -/
theorem fullText_split (gap : List Trivia) :
    Trivia.fullText (Gap.splitTrailing gap).1 ++ Trivia.fullText (Gap.splitTrailing gap).2
      = Trivia.fullText gap := by
  rw [← Trivia.fullText_append, Gap.splitTrailing_append]

theorem mem_of_mem_split {gap : List Trivia} {p : Trivia}
    (h : p ∈ (Gap.splitTrailing gap).1 ∨ p ∈ (Gap.splitTrailing gap).2) : p ∈ gap := by
  rw [← Gap.splitTrailing_append gap]
  exact List.mem_append.2 h

/-- What a dressing gives: tokens and the rest of the trivia spell the text together; only in a
unit there is a rest. -/
structure Tiles (c : Context) (t : Text) (fs : List Fed) (trail : List Trivia) (ts : List Token)
    (eof : List Trivia) : Prop where
  text : Trivia.fullText trail ++ (Value.tokensText ts ++ Trivia.fullText eof) = t
  kinds : Value.kinds ts = Value.kinds (fs.map Fed.plain)
  dressed : ∀ u ∈ ts, Dressed u
  trail_scanned : ∀ p ∈ trail, p.Scanned
  eof_scanned : ∀ p ∈ eof, p.Scanned
  eof_unit : c ≠ .unit → eof = []

variable {source : Text} {gaps : Gaps} {file : Option Text} {c : Context}

/-- One more inserted token in front adds nothing to the text. -/
theorem Tiles.inserted {fs : List Fed} {trail : List Trivia} {t : Text} {ts : List Token}
    {eof : List Trivia} (h : Tiles c t fs trail ts eof) (k : Kind) :
    Tiles c t (.inserted k :: fs) trail (.missingOf k :: ts) eof := by
  refine ⟨h.text, congrArg (k :: ·) h.kinds, ?_, h.trail_scanned, h.eof_scanned, h.eof_unit⟩
  intro u hu
  rcases List.mem_cons.1 hu with rfl | hu
  · exact missingOf_dressed k
  · exact h.dressed u hu

theorem lastGap_tiles (hgaps : Spelling source gaps) {before t : Text} (hsource : source = before ++ t) :
    Tiles c t [] (lastGap c (gaps before.length source.length)).trailing []
      (lastGap c (gaps before.length source.length)).endOfFile := by
  have hgap : source.slice before.length source.length = t := by
    rw [hsource, List.length_append]
    simpa using Text.slice_append before t []
  obtain ⟨htext, hscanned⟩ := hgaps before.length source.length
  rw [hgap] at htext
  unfold lastGap
  split
  · refine ⟨?_, rfl, by simp, fun p hp => hscanned p (mem_of_mem_split (Or.inl hp)),
      fun p hp => hscanned p (mem_of_mem_split (Or.inr hp)), fun hc => absurd ‹_› hc⟩
    rw [Value.tokensText_nil, List.nil_append, fullText_split, htext]
  · exact ⟨by simpa using htext, rfl, by simp, hscanned, by simp, fun _ => rfl⟩

/-- The text of a token that was read, with what stands around it. -/
theorem fullText_bares {l : Lexeme} {t : Token} (h : Bares l t) (lead trail : List Trivia) :
    (t.withTrivia lead trail).fullText
      = Trivia.fullText lead ++ l.text ++ Trivia.fullText trail := by
  simp [Token.fullText, Token.withTrivia, h.text]

/-- One more token that was read in front: the gap before it and its own text are added. -/
theorem Tiles.read {l : Lexeme} {u : Token} (hu : Bares l u) {fs : List Fed}
    {trail lead trailing : List Trivia} {gap rest : Text} {ts : List Token} {eof : List Trivia}
    (hgap : Trivia.fullText trail ++ Trivia.fullText lead = gap) (htrail : ∀ p ∈ trail, p.Scanned)
    (hlead : ∀ p ∈ lead, p.Scanned) (h : Tiles c rest fs trailing ts eof) :
    Tiles c (gap ++ l.text ++ rest) (.read l :: fs) trail (u.withTrivia lead trailing :: ts) eof := by
  refine ⟨?_, ?_, ?_, htrail, h.eof_scanned, h.eof_unit⟩
  · rw [Value.tokensText_cons, fullText_bares hu, ← hgap, ← h.text]
    simp only [List.append_assoc]
  · exact (congrArg₂ List.cons hu.kind h.kinds :)
  · intro w hw
    rcases List.mem_cons.1 hw with rfl | hw
    · exact hu.dressed hlead h.trail_scanned
    · exact h.dressed w hw

/-- The tokens behind one that was read tile the text behind it. -/
theorem dressAfter_tiles (hgaps : Spelling source gaps) {fs : List Fed} {before t : Text}
    (hsource : source = before ++ t) (hlies : Lies before.length t (reads fs))
    (hspells : ∀ l ∈ reads fs, Spells l.kind l.text) {trail : List Trivia} {ts : List Token}
    {eof : List Trivia}
    (h : dressAfter file c gaps source.length before.length fs = some (trail, ts, eof)) :
    Tiles c t fs trail ts eof := by
  induction fs generalizing before t trail ts eof with
  | nil =>
    simp only [dressAfter, Option.some.injEq, Prod.mk.injEq] at h
    obtain ⟨rfl, rfl, rfl⟩ := h
    exact lastGap_tiles hgaps hsource
  | cons f fs ih =>
    cases f with
    | inserted k =>
      obtain ⟨⟨trail', ts', eof'⟩, hrest, heq⟩ := Option.map_eq_some_iff.1 h
      cases heq
      exact (ih hsource hlies hspells hrest).inserted k
    | read l =>
      simp only [dressAfter, Option.bind_eq_bind, Option.bind_eq_some_iff, Prod.exists] at h
      obtain ⟨u, hu, trailing, us, eof', hrest, heq⟩ := h
      cases heq
      rw [reads_read] at hlies hspells
      have hbares := token?_bares (hspells l List.mem_cons_self) hu
      cases hlies with
      | @cons _ gap rest _ _ hstart hstop hne hlies =>
        obtain ⟨htext, hscanned⟩ := hgaps before.length l.start.offset
        have hgap : source.slice before.length l.start.offset = gap := by
          rw [hsource, hstart, List.append_assoc]
          exact Text.slice_append before gap _
        have hlen : (before ++ (gap ++ l.text)).length = l.stop.offset := by
          simp only [List.length_append, hstop, hstart]
          omega
        rw [← hlen] at hrest hlies
        have htiles := ih (by simp [hsource]) hlies
          (fun m hm => hspells m (List.mem_cons_of_mem _ hm)) hrest
        refine htiles.read hbares ?_ (fun p hp => hscanned p (mem_of_mem_split (Or.inl hp)))
          fun p hp => hscanned p (mem_of_mem_split (Or.inr hp))
        rw [fullText_split, htext, hgap]

/-- The dressed tokens and what is left for the end of the file are the source.  A text that is
no unit has at least one token to carry what there is. -/
theorem dress_tiles (hgaps : Spelling source gaps) {fs : List Fed} (hlies : Lies 0 source (reads fs))
    (hspells : ∀ l ∈ reads fs, Spells l.kind l.text) (hfs : c ≠ .unit → fs ≠ []) {ts : List Token}
    {eof : List Trivia} (h : dress file c gaps source.length fs = some (ts, eof)) :
    Tiles c source fs [] ts eof := by
  obtain ⟨htext, hscanned⟩ := hgaps 0 source.length
  have hwhole : source.slice 0 source.length = source := by simp [Text.slice]
  rw [hwhole] at htext
  induction fs generalizing ts eof with
  | nil =>
    by_cases hc : c = .unit
    · subst hc
      cases h
      exact ⟨htext, rfl, by simp, by simp, hscanned, fun hc => absurd rfl hc⟩
    · exact absurd rfl (hfs hc)
  | cons f fs ih =>
    cases f with
    | inserted k =>
      cases fs with
      | nil =>
        by_cases hc : c = .unit
        · subst hc
          cases h
          have hnil : Tiles .unit source [] [] [] (gaps 0 source.length) :=
            ⟨htext, rfl, by simp, by simp, hscanned, fun hc => absurd rfl hc⟩
          exact hnil.inserted k
        · simp only [dress, hc, if_false, Option.some.injEq, Prod.mk.injEq] at h
          obtain ⟨rfl, rfl⟩ := h
          refine ⟨?_, rfl, ?_, by simp, by simp, fun _ => rfl⟩
          · simpa [Token.fullText, Token.missingOf] using htext
          · intro u hu
            obtain rfl := List.mem_singleton.1 hu
            exact ⟨.missing rfl, by simp [Token.missingOf], hscanned⟩
      | cons g fs =>
        obtain ⟨⟨ts', eof'⟩, hrest, heq⟩ := Option.map_eq_some_iff.1 h
        cases heq
        exact (ih hlies hspells (fun _ => List.cons_ne_nil _ _) hrest).inserted k
    | read l =>
      simp only [dress, Option.bind_eq_bind, Option.bind_eq_some_iff, Prod.exists] at h
      obtain ⟨u, hu, trailing, us, eof', hrest, heq⟩ := h
      cases heq
      rw [reads_read] at hlies hspells
      have hbares := token?_bares (hspells l List.mem_cons_self) hu
      generalize hsource : source = t at hlies
      cases hlies with
      | @cons _ gap rest _ _ hstart hstop hne hlies =>
        obtain ⟨hlead, hleadScanned⟩ := hgaps 0 l.start.offset
        have hgap : source.slice 0 l.start.offset = gap := by
          rw [hsource, hstart, List.append_assoc]
          exact Text.slice_append [] gap _
        have hlen : (gap ++ l.text).length = l.stop.offset := by
          simp only [List.length_append, hstop, hstart]
          omega
        rw [← hlen] at hrest hlies
        have htiles := dressAfter_tiles hgaps hsource hlies
          (fun m hm => hspells m (List.mem_cons_of_mem _ hm)) hrest
        exact htiles.read hbares (hlead.trans hgap) (by simp) hleadScanned

end Dressing

end TreeQuote
