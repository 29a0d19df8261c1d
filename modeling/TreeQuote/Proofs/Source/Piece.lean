/-
TreeQuote/Proofs/Source/Piece.lean

Trivia that are read back.  `Trivia.Ends c rest` says that the trivia `c` ends where `rest` starts:
white space in front of anything else, a line comment at the end of its line.  Trivia of which each
ends where the next one starts are a gap: the lexer passes over their text, and taking the text
apart gives them again.  Without carriage returns every gap is made of such trivia.

Main statements:
* `Trivia.Laid.passes` and `Trivia.Laid.scanFrom`: such trivia are a gap, and its pieces;
* `Lexeme.Passes.laid`: a gap is made of such trivia.
-/
import Mathlib.Data.List.TakeWhile
import TreeQuote.Proofs.Source.Gap
import TreeQuote.Proofs.Source.Scan

namespace TreeQuote

namespace Trivia

/-- The trivia ends where the rest starts. -/
inductive Ends : Trivia → Text → Prop where
  | whitespace {t rest : Text} (hne : t ≠ []) (ht : t.all Gap.isSpace = true)
    (hrest : ∀ c ∈ rest.head?, Gap.isSpace c = false) : Ends (.whitespace t) rest
  | endOfLine (rest : Text) : Ends (.endOfLine (Text.of "\n")) rest
  | lineComment {t rest : Text} (ht : t.all Gap.staysOnLine = true)
    (hrest : ∀ c ∈ rest.head?, c = CodePoint.ofChar '\n') :
    Ends (Gap.lineComment (Text.of "//" ++ t)) rest
  | blockComment {t : Text} (rest : Text) (ht : Lexeme.blockEnd? t = some t.length) :
    Ends { kind := .multiLineCommentTrivia, text := Text.of "/*" ++ t } rest

/-- Each trivia ends where the next one starts, and the last where the rest does. -/
inductive Laid : List Trivia → Text → Prop where
  | nil (rest : Text) : Laid [] rest
  | cons {c : Trivia} {ts : List Trivia} {rest : Text} (hc : c.Ends (fullText ts ++ rest))
    (h : Laid ts rest) : Laid (c :: ts) rest

theorem staysOnLine_slashes {t : Text} (ht : t.all Gap.staysOnLine = true) :
    ∀ c ∈ Text.of "//" ++ t, Gap.staysOnLine c = true := by
  rw [← List.all_eq_true, List.all_append, ht, Bool.and_true]
  decide

/-- A line comment ends where its line does. -/
theorem lineComment_append {t rest : Text} (ht : t.all Gap.staysOnLine = true)
    (hrest : ∀ c ∈ rest.head?, c = CodePoint.ofChar '\n') :
    Gap.lineComment (Text.of "//" ++ t ++ rest) = Gap.lineComment (Text.of "//" ++ t) := by
  have hstop : ∀ c ∈ rest.head?, Gap.staysOnLine c = false := by
    intro c hc
    rw [hrest c hc]
    decide
  have hown := List.takeWhile_eq_self_iff.2 (staysOnLine_slashes ht)
  unfold Gap.lineComment
  rw [Lexeme.takeWhile_append_stop (staysOnLine_slashes ht) hstop, hown]

/-- A line comment is all of its line. -/
theorem text_lineComment {t : Text} (ht : t.all Gap.staysOnLine = true) :
    (Gap.lineComment (Text.of "//" ++ t)).text = Text.of "//" ++ t := by
  have hown := List.takeWhile_eq_self_iff.2 (staysOnLine_slashes ht)
  unfold Gap.lineComment
  simp only [hown]
  split
  · rename_i hdoc
    obtain ⟨more, hmore⟩ := List.isPrefixOf_iff_prefix.1 hdoc
    rw [← hmore]
    rfl
  · rfl

theorem kind_lineComment (t : Text) :
    (Gap.lineComment t).kind = .singleLineCommentTrivia
      ∨ (Gap.lineComment t).kind = .documentationCommentTrivia := by
  unfold Gap.lineComment
  simp only
  split
  · exact .inr rfl
  · exact .inl rfl

/-- What is passed over behind a trivia is passed over with it. -/
theorem Ends.passes {c : Trivia} {g rest : Text} (hc : c.Ends (g ++ rest))
    (h : Lexeme.Passes g rest) : Lexeme.Passes (c.text ++ g) rest := by
  cases hc with
  | whitespace _ ht _ =>
    refine h.blanks (List.all_eq_true.2 fun d hd => ?_)
    have hspace := List.all_eq_true.1 ht d hd
    simp only [Gap.isSpace, Bool.or_eq_true] at hspace
    simp only [Lexeme.isGap, Bool.or_eq_true]
    exact .inl (.inl hspace)
  | endOfLine => exact .blank (by decide) h
  | @lineComment t _ ht hrest =>
    have hline : ∀ d ∈ t, decide (d ≠ CodePoint.ofChar '\n') = true := fun d hd => by
      have hstays := List.all_eq_true.1 ht d hd
      simp only [Gap.staysOnLine, Bool.and_eq_true] at hstays
      exact hstays.2
    have hrun : Lexeme.run (· ≠ CodePoint.ofChar '\n') (t ++ (g ++ rest)) = t.length :=
      congrArg List.length (Lexeme.takeWhile_append_stop hline fun d hd => by simp [hrest d hd])
    rw [text_lineComment ht]
    refine .comment ?_ h
    rw [List.append_assoc, Lexeme.comment?_line, hrun, List.length_append]
    rfl
  | @blockComment t _ ht =>
    have hend := (Lexeme.blockEnd?_take ht).2.2 (g ++ rest)
    rw [List.take_length] at hend
    refine .comment ?_ h
    show Lexeme.comment? (Text.of "/*" ++ t ++ (g ++ rest)) = some (Text.of "/*" ++ t).length
    rw [List.append_assoc, Lexeme.comment?_block, hend, List.length_append, Nat.add_comm]
    rfl

/-- The lexer passes over a gap. -/
theorem Laid.passes {ts : List Trivia} {rest : Text} (h : Laid ts rest) :
    Lexeme.Passes (fullText ts) rest := by
  induction h with
  | nil => exact .nil _
  | cons hc h ih => exact hc.passes ih

/-! ### Taking a gap apart -/

theorem Ends.text_ne_nil {c : Trivia} {rest : Text} (h : c.Ends rest) : c.text ≠ [] := by
  cases h with
  | whitespace hne => exact hne
  | endOfLine => exact List.cons_ne_nil _ _
  | lineComment ht =>
    rw [text_lineComment ht]
    exact List.cons_ne_nil _ _
  | blockComment => exact List.cons_ne_nil _ _

/-- A trivia that ends in front of a text ends in front of what the text starts with. -/
theorem Ends.cut {c : Trivia} {s rest : Text} (h : c.Ends (s ++ rest)) : c.Ends s := by
  have hhead : ∀ d ∈ s.head?, d ∈ (s ++ rest).head? := by
    intro d hd
    obtain ⟨more, rfl⟩ := List.head?_eq_some_iff.1 hd
    rfl
  cases h with
  | whitespace hne ht hrest => exact .whitespace hne ht fun d hd => hrest d (hhead d hd)
  | endOfLine => exact .endOfLine s
  | lineComment ht hrest => exact .lineComment ht fun d hd => hrest d (hhead d hd)
  | blockComment _ ht => exact .blockComment s ht

/-- A space ends no line and starts no comment. -/
theorem isSpace_plain {c : CodePoint} (h : Gap.isSpace c = true) :
    c ≠ CodePoint.ofChar '\r' ∧ c ≠ CodePoint.ofChar '\n' := by
  constructor <;>
    · rintro rfl
      exact absurd h (by decide)

/-- The first piece of a gap is the trivia that ends first. -/
theorem Ends.first {c : Trivia} {rest : Text} (h : c.Ends rest) :
    ∃ d more, c.text ++ rest = d :: more ∧ Gap.first d more = c := by
  cases h with
  | @whitespace t _ hne ht hrest =>
    obtain ⟨d, t, rfl⟩ := List.exists_cons_of_ne_nil hne
    rw [List.all_cons, Bool.and_eq_true] at ht
    obtain ⟨hreturn, hline⟩ := isSpace_plain ht.1
    have hrun := Lexeme.takeWhile_append_stop (List.all_eq_true.1 ht.2) hrest
    refine ⟨d, t ++ rest, rfl, ?_⟩
    unfold Gap.first
    rw [if_neg hreturn, if_neg hline, if_pos ht.1, hrun]
  | endOfLine => exact ⟨_, rest, rfl, rfl⟩
  | @lineComment t _ ht hrest =>
    refine ⟨CodePoint.ofChar '/', CodePoint.ofChar '/' :: (t ++ rest), ?_, ?_⟩
    · rw [text_lineComment ht]
      rfl
    · exact lineComment_append ht hrest
  | @blockComment t _ ht =>
    have hend := (Lexeme.blockEnd?_take ht).2.2 rest
    rw [List.take_length] at hend
    refine ⟨CodePoint.ofChar '/', CodePoint.ofChar '*' :: (t ++ rest), rfl, ?_⟩
    have hspace : Gap.isSpace (CodePoint.ofChar '/') = false := by decide
    simp only [Gap.first, Lexeme.ofChar_inj, hspace, hend, Char.reduceEq, if_false, if_true,
      Bool.false_eq_true, List.take_succ_cons, List.take_left]
    rfl

/-- Taking a gap apart gives its trivia. -/
theorem Laid.scanFrom {ts : List Trivia} {rest : Text} (h : Laid ts rest) {fuel : Nat}
    (offset : Nat) (hfuel : (fullText ts).length ≤ fuel) :
    Gap.scanFrom [] fuel offset (fullText ts) = ts := by
  induction h generalizing fuel offset with
  | nil => cases fuel <;> rfl
  | @cons c ts rest hc h ih =>
    obtain ⟨d, more, hsplit, hfirst⟩ := hc.cut.first
    have hpos := List.length_pos_iff.2 hc.text_ne_nil
    rw [fullText_cons] at hfuel ⊢
    rw [List.length_append] at hfuel
    obtain ⟨fuel, rfl⟩ : ∃ n, fuel = n + 1 := ⟨fuel - 1, by omega⟩
    have hpiece : Gap.pieceAt [] offset d more = c := hfirst
    rw [hsplit, Gap.scanFrom_cons, hpiece, ← hsplit, List.drop_left, ih _ (by omega)]

/-! ### Every gap -/

/-- A trivia of a gap somewhere. -/
def Settled (c : Trivia) : Prop := ∃ rest, c.Ends rest

theorem Laid.settled {ts : List Trivia} {rest : Text} (h : Laid ts rest) : ∀ c ∈ ts, c.Settled := by
  induction h with
  | nil => exact List.forall_mem_nil _
  | cons hc _ ih => exact List.forall_mem_cons.2 ⟨⟨_, hc⟩, ih⟩

end Trivia

theorem Trivia.Ends.of_whitespace {t rest : Text} (h : (Trivia.whitespace t).Ends rest) :
    t ≠ [] ∧ t.all Gap.isSpace = true ∧ ∀ c ∈ rest.head?, Gap.isSpace c = false := by
  generalize hc : Trivia.whitespace t = c at h
  cases h with
  | whitespace hne ht hrest =>
    cases hc
    exact ⟨hne, ht, hrest⟩
  | endOfLine => cases hc
  | @lineComment u _ _ _ =>
    rcases kind_lineComment (Text.of "//" ++ u) with hk | hk <;>
      · rw [← hc] at hk
        cases hk
  | blockComment => cases hc

/-- A gap starts with white space, or with no space. -/
theorem Trivia.Laid.head {ts : List Trivia} {rest : Text} (h : Laid ts rest)
    (hrest : ∀ c ∈ rest.head?, Lexeme.isGap c = false) :
    (∃ t us, ts = .whitespace t :: us)
      ∨ ∀ c ∈ (fullText ts ++ rest).head?, Gap.isSpace c = false := by
  cases h with
  | nil =>
    refine .inr fun c hc => ?_
    have hgap := hrest c hc
    simp only [Lexeme.isGap, Bool.or_eq_false_iff] at hgap
    simpa [Gap.isSpace] using hgap.1.1
  | cons hc _ =>
    cases hc with
    | whitespace => exact .inl ⟨_, _, rfl⟩
    | endOfLine =>
      refine .inr fun c hc => ?_
      cases hc
      decide
    | lineComment ht =>
      refine .inr fun c hc => ?_
      rw [fullText_cons, text_lineComment ht] at hc
      cases hc
      decide
    | blockComment =>
      refine .inr fun c hc => ?_
      cases hc
      decide

/-- A space in front of a gap belongs to the white space that starts it, if there is some. -/
theorem Trivia.Laid.space {c : CodePoint} {ts : List Trivia} {rest : Text}
    (hc : Gap.isSpace c = true) (h : Laid ts rest)
    (hrest : ∀ c ∈ rest.head?, Lexeme.isGap c = false) :
    ∃ us, Laid us rest ∧ fullText us = c :: fullText ts := by
  rcases h.head hrest with ⟨t, us, rfl⟩ | hhead
  · cases h with
    | cons hends hus =>
      obtain ⟨-, ht, hstop⟩ := hends.of_whitespace
      exact ⟨.whitespace (c :: t) :: us,
        .cons (.whitespace (List.cons_ne_nil _ _) (by simp [hc, ht]) hstop) hus, rfl⟩
  · exact ⟨.whitespace [c] :: ts,
      .cons (.whitespace (List.cons_ne_nil _ _) (by simp [hc]) hhead) h, rfl⟩

/-- A gap without carriage returns is made of trivia each of which ends where the next one
starts. -/
theorem Lexeme.Passes.laid {g rest : Text} (h : Passes g rest) (hg : CodePoint.ofChar '\r' ∉ g)
    (hrest : ∀ c ∈ rest.head?, Lexeme.isGap c = false) :
    ∃ ts, Trivia.Laid ts rest ∧ Trivia.fullText ts = g := by
  induction h with
  | nil => exact ⟨[], .nil _, rfl⟩
  | @blank c g rest hc h ih =>
    obtain ⟨ts, hlaid, rfl⟩ := ih (fun hmem => hg (List.mem_cons_of_mem _ hmem)) hrest
    by_cases hline : c = CodePoint.ofChar '\n'
    · subst hline
      exact ⟨_ :: ts, .cons (.endOfLine _) hlaid, rfl⟩
    · have hreturn : c ≠ CodePoint.ofChar '\r' := fun heq => hg (heq ▸ List.mem_cons_self)
      have hspace : Gap.isSpace c = true := by
        simpa [Lexeme.isGap, Gap.isSpace, hline, hreturn] using hc
      exact hlaid.space hspace hrest
  | @comment a g rest ha h ih =>
    obtain ⟨ts, hlaid, rfl⟩ := ih (fun hmem => hg (List.mem_append_right _ hmem)) hrest
    rcases comment?_append ha with ⟨b, rfl, hb, hstop⟩ | ⟨b, rfl, hb⟩
    · have hall : b.all Gap.staysOnLine = true := List.all_eq_true.2 fun c hc => by
        have hreturn : c ≠ CodePoint.ofChar '\r' := by
          rintro rfl
          exact hg (List.mem_append_left _ (List.mem_append_right _ hc))
        simp [Gap.staysOnLine, hreturn, hb c hc]
      refine ⟨_ :: ts, .cons (.lineComment hall hstop) hlaid, ?_⟩
      rw [Trivia.fullText_cons, Trivia.text_lineComment hall]
    · exact ⟨_ :: ts, .cons (.blockComment _ hb) hlaid, rfl⟩

end TreeQuote
