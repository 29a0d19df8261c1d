/-
TreeQuote/Proofs/Source/Gap.lean

A gap of the source loses nothing when it is taken apart: each piece is a part of the
gap that is not empty, so the pieces fit into the number of steps that the length of the
gap allows, and their texts one after the other are the gap again.

Main statements:
* `scan_fullText`: the trivia between two offsets spell the text there;
* `scan_scanned`: each of them is one that the builders make, and only white space starts with a
  blank.
-/
import TreeQuote.Proofs.Source.Lexeme
import TreeQuote.Proofs.Tree.WellFormed
import TreeQuote.Source.Gap

namespace TreeQuote

/-! ### Texts of lists of trivia -/

namespace Trivia

@[simp] theorem fullText_nil : fullText [] = [] := rfl

@[simp] theorem fullText_cons (t : Trivia) (ts : List Trivia) :
    fullText (t :: ts) = t.text ++ fullText ts := rfl

@[simp] theorem fullText_append (ts us : List Trivia) :
    fullText (ts ++ us) = fullText ts ++ fullText us := by
  simp [fullText]

/-- A trivia of a source: one that the builders make, not empty, and only white space starts with a
blank. -/
structure Scanned (t : Trivia) : Prop where
  built : t.Built
  head : ∃ c rest, t.text = c :: rest ∧ Lexeme.isGap c = t.isWhitespace

theorem Scanned.text_ne_nil {t : Trivia} (h : t.Scanned) : t.text ≠ [] := by
  obtain ⟨c, rest, htext, -⟩ := h.head
  rw [htext]
  exact List.cons_ne_nil c rest

end Trivia

namespace Gap

/-! ### One piece -/

/-- The piece is a part of the text it starts. -/
def Starts (t : Trivia) (text : Text) : Prop := t.text <+: text ∧ t.Scanned

/-- Skipped text of one code point. -/
theorem skipped_starts {c : CodePoint} (rest : Text) (hc : Lexeme.isGap c = false) :
    Starts (.skipped [c]) (c :: rest) :=
  ⟨⟨rest, rfl⟩, .skipped _, c, [], rfl, hc⟩

/-- A line end of one code point. -/
theorem endOfLine_starts {c : CodePoint} (rest : Text) (hc : Lexeme.isGap c = true) :
    Starts (.endOfLine [c]) (c :: rest) :=
  ⟨⟨rest, rfl⟩, .endOfLine _, c, [], rfl, hc⟩

/-- A line comment is a part of the text that two slashes start. -/
theorem lineComment_starts (rest : Text) :
    Starts (lineComment (Text.of "//" ++ rest)) (Text.of "//" ++ rest) := by
  have hpre := List.takeWhile_prefix (l := Text.of "//" ++ rest) staysOnLine
  have hline : (Text.of "//" ++ rest).takeWhile staysOnLine
      = Text.of "//" ++ rest.takeWhile staysOnLine := by
    refine List.takeWhile_append_of_pos (List.all_eq_true.1 ?_)
    decide
  have hslash : Lexeme.isGap (CodePoint.ofChar '/') = false := by decide
  rw [hline] at hpre
  unfold lineComment
  simp only [hline]
  split
  · rename_i hdoc
    -- The three slashes and what stands behind them are the whole piece.
    obtain ⟨more, hmore⟩ := List.isPrefixOf_iff_prefix.1 hdoc
    rw [← hmore] at hpre ⊢
    exact ⟨hpre, .documentation _, _, _, rfl, hslash⟩
  · exact ⟨hpre, .lineComment _ ⟨_, rfl⟩, _, _, rfl, hslash⟩

/-- The first piece of a gap is a part of it. -/
theorem first_starts (c : CodePoint) (rest : Text) : Starts (first c rest) (c :: rest) := by
  unfold first
  split
  · rename_i hc
    have hgap : Lexeme.isGap c = true := by simp [Lexeme.isGap, hc]
    split
    · rename_i d more
      split
      · exact ⟨⟨more, rfl⟩, .endOfLine _, c, [d], rfl, hgap⟩
      · exact endOfLine_starts _ hgap
    · exact endOfLine_starts _ hgap
  rename_i hreturn
  split
  · rename_i hc
    exact endOfLine_starts _ (by simp [Lexeme.isGap, hc])
  rename_i hline
  split
  · rename_i hspace
    refine ⟨?_, .whitespace _, c, _, rfl, ?_⟩
    · exact (List.prefix_cons_inj c).2 (List.takeWhile_prefix _)
    · show Lexeme.isGap c = true
      simp only [isSpace, Bool.or_eq_true, decide_eq_true_eq] at hspace
      simp only [Lexeme.isGap, Bool.or_eq_true, decide_eq_true_eq]
      exact .inl (.inl hspace)
  rename_i hspace
  have hgap : Lexeme.isGap c = false := by
    simp only [isSpace, Bool.not_eq_true] at hspace
    simp [Lexeme.isGap, hspace, hreturn, hline]
  split
  · rename_i hc
    subst hc
    split
    · rename_i d more
      split
      · rename_i hd
        subst hd
        exact lineComment_starts more
      split
      · rename_i hd
        subst hd
        split
        · rename_i n _
          exact ⟨List.take_prefix _ _, .blockComment _ ⟨more.take n, rfl⟩, _, _, rfl, hgap⟩
        · exact skipped_starts _ hgap
      · exact skipped_starts _ hgap
    · exact skipped_starts _ hgap
  · exact skipped_starts _ hgap

/-! ### All pieces -/

/-- The piece that is taken at an offset, skipped lexemes included. -/
def pieceAt (skipped : List Lexeme) (offset : Nat) (c : CodePoint) (rest : Text) : Trivia :=
  match skippedAt? skipped offset with
  | some l => Trivia.skipped ((c :: rest).take l.text.length)
  | none => first c rest

theorem scanFrom_cons (skipped : List Lexeme) (fuel offset : Nat) (c : CodePoint) (rest : Text) :
    scanFrom skipped (fuel + 1) offset (c :: rest)
      = pieceAt skipped offset c rest
          :: scanFrom skipped fuel (offset + (pieceAt skipped offset c rest).text.length)
              ((c :: rest).drop (pieceAt skipped offset c rest).text.length) := rfl

variable {source : Text} {skipped : List Lexeme}

/-- The lexemes stand in the source, and no blank is where they start. -/
def Stand (source : Text) (skipped : List Lexeme) : Prop :=
  ∀ l ∈ skipped, l.text ≠ []
    ∧ ∀ c, (source.drop l.start.offset).head? = some c → Lexeme.isGap c = false

/-- Lexemes that a text is scanned into stand in it. -/
theorem stand_of_scan {ls : List Lexeme} (h : Lexeme.scan? source = some ls)
    (hskip : skipped ⊆ ls) : Stand source skipped := by
  intro l hl
  obtain ⟨d, rest, htext, hgap⟩ := Lexeme.scan?_head h l (hskip hl)
  obtain ⟨before, after, hsource, hstart⟩ := (Lexeme.scan?_lies h).split l (hskip hl)
  refine ⟨by rw [htext]; exact List.cons_ne_nil _ _, fun c hc => ?_⟩
  rw [hstart, Nat.zero_add, hsource, List.drop_left, htext] at hc
  cases hc
  exact hgap

/-- Skipped lexemes are not empty, so every piece is a part of the gap. -/
theorem pieceAt_starts (hskip : Stand source skipped) {offset : Nat} {c : CodePoint} {rest : Text}
    (hc : (source.drop offset).head? = some c) :
    Starts (pieceAt skipped offset c rest) (c :: rest) := by
  unfold pieceAt
  split
  · rename_i l hl
    obtain ⟨hne, hhead⟩ := hskip l (List.mem_of_find?_eq_some hl)
    have hoffset : l.start.offset = offset := by simpa using List.find?_some hl
    obtain ⟨n, hn⟩ := Nat.exists_eq_succ_of_ne_zero (Nat.ne_of_gt (List.length_pos_iff.2 hne))
    refine ⟨List.take_prefix _ _, .skipped _, c, rest.take n, ?_, hhead c (hoffset ▸ hc)⟩
    show (c :: rest).take l.text.length = _
    rw [hn, List.take_succ_cons]
  · exact first_starts c rest

/-- The pieces of a gap spell it, and each is one of a source. -/
theorem scanFrom_sound (hskip : Stand source skipped) {fuel offset : Nat} {t : Text}
    (hfuel : t.length ≤ fuel) (ht : t <+: source.drop offset) :
    Trivia.fullText (scanFrom skipped fuel offset t) = t
      ∧ ∀ p ∈ scanFrom skipped fuel offset t, p.Scanned := by
  induction fuel generalizing offset t with
  | zero =>
    obtain rfl : t = [] := List.length_eq_zero_iff.1 (Nat.le_zero.1 hfuel)
    exact ⟨rfl, by simp [scanFrom]⟩
  | succ fuel ih =>
    cases t with
    | nil => exact ⟨rfl, by simp [scanFrom]⟩
    | cons c rest =>
      have hc : (source.drop offset).head? = some c := by
        obtain ⟨more, hmore⟩ := ht
        rw [← hmore]
        rfl
      obtain ⟨hpre, hscanned⟩ := @pieceAt_starts _ _ hskip _ _ rest hc
      rw [scanFrom_cons]
      generalize pieceAt skipped offset c rest = p at *
      have hlen : ((c :: rest).drop p.text.length).length ≤ fuel := by
        have hpos := List.length_pos_iff.2 hscanned.text_ne_nil
        rw [List.length_drop]
        omega
      have hdrop : (c :: rest).drop p.text.length <+: source.drop (offset + p.text.length) := by
        obtain ⟨more, hmore⟩ := ht
        rw [← List.drop_drop, ← hmore, List.drop_append_of_le_length hpre.length_le]
        exact List.prefix_append _ _
      obtain ⟨htext, hall⟩ := @ih (offset + p.text.length) _ hlen hdrop
      refine ⟨?_, ?_⟩
      · rw [Trivia.fullText_cons, htext]
        conv => lhs; arg 1; rw [List.prefix_iff_eq_take.1 hpre]
        exact List.take_append_drop _ _
      · intro q hq
        rcases List.mem_cons.1 hq with rfl | hq
        · exact hscanned
        · exact hall q hq

/-- The trivia between two offsets spell the text there. -/
theorem scan_fullText (hskip : Stand source skipped) (start stop : Nat) :
    Trivia.fullText (scan source skipped start stop) = source.slice start stop :=
  (scanFrom_sound hskip (List.length_take_le _ _) (List.take_prefix _ _)).1

/-- Each trivia of a gap is one of the source. -/
theorem scan_scanned (hskip : Stand source skipped) (start stop : Nat) :
    ∀ p ∈ scan source skipped start stop, p.Scanned :=
  (scanFrom_sound hskip (List.length_take_le _ _) (List.take_prefix _ _)).2

/-! ### Splitting at the first line end -/

theorem splitTrailing_append (ts : List Trivia) :
    (splitTrailing ts).1 ++ (splitTrailing ts).2 = ts := by
  induction ts with
  | nil => rfl
  | cons t ts ih =>
    simp only [splitTrailing]
    split
    · rfl
    · rw [List.cons_append, ih]

end Gap

end TreeQuote
