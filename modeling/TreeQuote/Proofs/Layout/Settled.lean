/-
TreeQuote/Proofs/Layout/Settled.lean

Layout keeps comments apart.  What it puts in front of a token, comments with blanks between them,
is a gap that is read back as it stands: each line comment is followed by a line end, and no two
runs of spaces meet.

Main statements:
* `laid_between`: the trivia in front of a token end where they should;
* `endsAt_between`: a token ends at them.
-/
import TreeQuote.Proofs.Layout.Spacing
import TreeQuote.Proofs.Source.Piece

namespace TreeQuote

open Trivia

namespace Trivia

/-! ### Comments -/

/-- A comment of a gap somewhere. -/
structure Comment (c : Trivia) : Prop where
  settled : c.Settled
  kept : c.isWhitespace = false

/-- A comment ends in front of everything that is on another line, and at the end of its mark
otherwise. -/
theorem Comment.ends {c : Trivia} (h : c.Comment) {rest : Text}
    (hrest : Layout.isLineComment c = true → ∀ d ∈ rest.head?, d = CodePoint.ofChar '\n') :
    c.Ends rest := by
  obtain ⟨⟨s, hs⟩, hkept⟩ := h
  cases hs with
  | whitespace => cases hkept
  | endOfLine => cases hkept
  | @lineComment t _ ht _ =>
    refine .lineComment ht (hrest ?_)
    rcases kind_lineComment (Text.of "//" ++ t) with hk | hk <;> simp [Layout.isLineComment, hk]
  | blockComment _ ht => exact .blockComment rest ht

/-- A comment starts with a slash. -/
theorem Comment.head {c : Trivia} (h : c.Comment) :
    ∃ more, c.text = CodePoint.ofChar '/' :: more := by
  obtain ⟨⟨s, hs⟩, hkept⟩ := h
  cases hs with
  | whitespace => cases hkept
  | endOfLine => cases hkept
  | lineComment ht => exact ⟨_, text_lineComment ht⟩
  | blockComment => exact ⟨_, rfl⟩

end Trivia

namespace Layout

/-! ### Blanks -/

/-- The text does not start with a space. -/
def Flush (t : Text) : Prop := ∀ c ∈ t.head?, Gap.isSpace c = false

theorem flush_comment {c : Trivia} (h : c.Comment) (ts : List Trivia) (rest : Text) :
    Flush (fullText (c :: ts) ++ rest) := by
  obtain ⟨more, hmore⟩ := h.head
  intro d hd
  rw [fullText_cons, hmore] at hd
  cases hd
  decide

variable {ts : List Trivia} {rest : Text}

theorem laid_space (h : Laid ts rest) (hflush : Flush (fullText ts ++ rest)) :
    Laid (space :: ts) rest :=
  .cons (.whitespace (List.cons_ne_nil _ _) (by decide) hflush) h

theorem copies_tab (n : Nat) : (Text.copies n (Text.of "\t")).all Gap.isSpace = true := by
  induction n with
  | zero => rfl
  | succ n ih =>
    rw [Text.copies, List.all_append, ih, Bool.and_true]
    decide

theorem laid_lineBreak (depth : Nat) (h : Laid ts rest) (hflush : Flush (fullText ts ++ rest)) :
    Laid (lineBreak {} depth ++ ts) rest := by
  refine .cons (.endOfLine _) ?_
  unfold indent
  split
  · exact h
  · rename_i hdepth
    refine .cons (.whitespace ?_ (copies_tab depth) hflush) h
    cases depth with
    | zero => simp at hdepth
    | succ n => exact List.cons_ne_nil _ _

/-- Blanks that keep a comment apart from what follows. -/
theorem laid_behind {c : Trivia} (hc : c.Comment) (h : Laid ts rest)
    (hflush : Flush (fullText ts ++ rest)) (line : Bool) (depth : Nat)
    (hline : isLineComment c = true → line = true) :
    Laid (c :: (if line then lineBreak {} depth else [space]) ++ ts) rest := by
  cases line with
  | true =>
    refine .cons (hc.ends fun _ d hd => ?_) (laid_lineBreak depth h hflush)
    cases hd
    rfl
  | false =>
    exact .cons (hc.ends fun h => absurd (hline h) Bool.false_ne_true) (laid_space h hflush)

/-! ### Comments in a row -/

theorem flush_comments {cs : List Trivia} (hcs : ∀ c ∈ cs, c.Comment) (hne : cs ≠ [])
    (ownLine : Bool) (inner depth : Nat) (rest : Text) :
    Flush (fullText (comments {} ownLine inner depth cs) ++ rest) := by
  match cs with
  | [] => exact absurd rfl hne
  | [c] => exact flush_comment (hcs c List.mem_cons_self) _ rest
  | c :: d :: cs => exact flush_comment (hcs c List.mem_cons_self) _ rest

theorem laid_comments {cs : List Trivia} (hcs : ∀ c ∈ cs, c.Comment) (ownLine : Bool)
    (inner depth : Nat) (hrest : Flush rest) :
    Laid (comments {} ownLine inner depth cs) rest := by
  induction cs with
  | nil => exact .nil rest
  | cons c cs ih =>
    obtain ⟨hc, hcs⟩ := List.forall_mem_cons.1 hcs
    cases cs with
    | nil =>
      have hlaid := laid_behind hc (.nil rest) hrest (isLineComment c || ownLine) depth
        fun hline => by rw [hline, Bool.true_or]
      rwa [List.append_nil] at hlaid
    | cons d cs =>
      have hflush := flush_comments hcs (List.cons_ne_nil d cs) ownLine inner depth rest
      exact laid_behind hc (ih hcs) hflush (isLineComment c) inner id

theorem laid_finalComments {cs : List Trivia} (hcs : ∀ c ∈ cs, c.Comment) (first : Bool) :
    Laid (finalComments {} first cs) [] := by
  induction cs generalizing first with
  | nil => exact .nil []
  | cons c cs ih =>
    obtain ⟨hc, hcs⟩ := List.forall_mem_cons.1 hcs
    have hlaid := ih hcs false
    have hends : c.Ends (fullText (finalComments {} false cs) ++ []) := by
      refine hc.ends fun _ d hd => ?_
      cases cs with
      | nil => cases hd
      | cons e cs =>
        cases hd
        rfl
    cases first with
    | true => exact .cons hends hlaid
    | false => exact .cons (.endOfLine _) (.cons hends hlaid)

/-! ### Gaps -/

/-- The trivia in front of a token end where they should. -/
theorem laid_between {sep : Option Separator} {pending : List Trivia}
    (hpending : ∀ c ∈ pending, c.Comment) {k : Kind} (depth : Nat) (hrest : Flush rest)
    (hend : k = .endOfFileToken → rest = []) : Laid (between {} sep pending k depth) rest := by
  unfold between
  split
  · rename_i hk
    rw [hend hk]
    exact laid_finalComments hpending sep.isNone
  split
  · split
    · have hlaid := laid_lineBreak depth (.nil rest) hrest
      rwa [List.append_nil] at hlaid
    · exact laid_space (.nil rest) hrest
    · exact .nil rest
  · rename_i hne
    have hne : pending ≠ [] := by simpa using hne
    have hcomments := fun ownLine inner => laid_comments hpending ownLine inner depth hrest
    have hflush := fun ownLine inner => flush_comments hpending hne ownLine inner depth rest
    match sep with
    | none => exact hcomments _ _
    | some .line => exact laid_lineBreak _ (hcomments _ _) (hflush _ _)
    | some .space => exact laid_space (hcomments _ _) (hflush _ _)
    | some .nothing => exact laid_space (hcomments _ _) (hflush _ _)

/-- A token ends at the trivia behind it; without trivia it has to end at the next token. -/
theorem endsAt_between {p k : Kind} {sep : Separator} {pending : List Trivia} (depth : Nat)
    (hempty : k ≠ .endOfFileToken → sep = .nothing → Lexeme.EndsAt p rest)
    (hend : k = .endOfFileToken → rest = []) :
    Lexeme.EndsAt p (fullText (between {} (some sep) pending k depth) ++ rest) := by
  have hblank : ∀ {c : Trivia} {d : CodePoint} {t : Text} {us : List Trivia}, c.text = d :: t
      → Lexeme.isGap d = true → Lexeme.EndsAt p (fullText (c :: us) ++ rest) := by
    intro c d t us hc hd
    rw [fullText_cons, hc]
    exact .blank p hd _
  unfold between
  split
  · rename_i hk
    cases pending with
    | nil =>
      rw [hend hk]
      exact .nil p
    | cons c cs => exact hblank rfl (by decide)
  rename_i hk
  split
  · match sep with
    | .line => exact hblank rfl (by decide)
    | .space => exact hblank rfl (by decide)
    | .nothing => exact hempty hk rfl
  · match sep with
    | .line => exact hblank rfl (by decide)
    | .space => exact hblank rfl (by decide)
    | .nothing => exact hblank rfl (by decide)

end Layout

end TreeQuote
