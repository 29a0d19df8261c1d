/-
TreeQuote/Proofs/Layout/Ink.lean

Layout changes blanks only.  The ink of a text is what remains of it without spaces and line ends;
the ink of a token is that of its text and of the comments beside it.  A tree that is laid out has
the ink of its tokens, in order:

    ink (layout of v) = ink of the leaves of v

So two trees with the same text in canonical layout have the same ink.

Main statement: `Value.WellFormed.ink_rendered`.
-/
import TreeQuote.Proofs.Layout.Rendering

namespace TreeQuote

/-! ### Ink -/

/-- A text without spaces and line ends. -/
def Text.ink (t : Text) : Text := t.filter fun c => !Lexeme.isGap c

@[simp] theorem Text.ink_nil : Text.ink [] = [] := rfl

@[simp] theorem Text.ink_append (s t : Text) : Text.ink (s ++ t) = s.ink ++ t.ink :=
  List.filter_append s t

theorem Text.length_ink_le (t : Text) : t.ink.length ≤ t.length := List.length_filter_le _ t

/-- A text whose first code point is no blank has ink. -/
theorem Text.ink_ne_nil {t : Text} {c : CodePoint} {rest : Text} (ht : t = c :: rest)
    (hc : Lexeme.isGap c = false) : t.ink ≠ [] := by
  rw [ht, Text.ink, List.filter_cons_of_pos (by simp [hc])]
  exact List.cons_ne_nil _ _

/-- The ink of a token: that of its text and of the comments on both sides. -/
def Token.ink (t : Token) : Text :=
  Text.ink (Trivia.fullText (Layout.kept t.leading)) ++ t.text.ink
    ++ Text.ink (Trivia.fullText (Layout.kept t.trailing))

/-- The ink of tokens one after the other. -/
def Token.inks (ts : List Token) : Text := ts.flatMap Token.ink

@[simp] theorem Token.inks_cons (t : Token) (ts : List Token) : inks (t :: ts) = t.ink ++ inks ts :=
  rfl

theorem Token.inks_append (ts us : List Token) : inks (ts ++ us) = inks ts ++ inks us :=
  List.flatMap_append

namespace Layout

/-! ### Gaps -/

/-- Line ends and indentation are blank. -/
structure IsBlank (L : Layout) : Prop where
  lineEnd : L.lineEnd.ink = []
  indentation : L.indentation.ink = []

theorem isBlank_default : IsBlank {} := ⟨by decide, by decide⟩

theorem ink_space : space.text.ink = [] := by decide

variable {L : Layout}

theorem ink_copies {t : Text} (h : t.ink = []) (n : Nat) : (Text.copies n t).ink = [] := by
  induction n with
  | zero => rfl
  | succ n ih => rw [Text.copies, Text.ink_append, h, ih, List.append_nil]

variable (hL : L.IsBlank)

include hL

theorem ink_lineBreak (depth : Nat) : (Trivia.fullText (L.lineBreak depth)).ink = [] := by
  rw [lineBreak, indent]
  split
  · simp [newLine, hL.lineEnd]
  · simp [newLine, hL.lineEnd, ink_copies hL.indentation]

theorem ink_comments (ownLine : Bool) (inner depth : Nat) (ts : List Trivia) :
    (Trivia.fullText (L.comments ownLine inner depth ts)).ink = (Trivia.fullText ts).ink := by
  induction ts using comments.induct with
  | case1 => rfl
  | case2 c =>
    rw [comments]
    split <;> simp [ink_lineBreak hL, ink_space]
  | case3 c d rest ih =>
    rw [comments, Trivia.fullText_append, Text.ink_append, ih, Trivia.fullText_cons c]
    split <;> simp [ink_lineBreak hL, ink_space]

theorem ink_finalComments (first : Bool) (ts : List Trivia) :
    (Trivia.fullText (L.finalComments first ts)).ink = (Trivia.fullText ts).ink := by
  induction ts generalizing first with
  | nil => rfl
  | cons c rest ih =>
    rw [finalComments, Trivia.fullText_append, Text.ink_append, ih]
    split <;> simp [newLine, hL.lineEnd]

/-- What stands between two tokens has the ink of the comments there. -/
theorem ink_between (sep : Option Separator) (pending : List Trivia) (k : Kind) (depth : Nat) :
    (Trivia.fullText (L.between sep pending k depth)).ink = (Trivia.fullText pending).ink := by
  unfold between
  split
  · exact ink_finalComments hL _ _
  split
  · next hnil =>
    rw [List.isEmpty_iff.mp hnil]
    rcases sep with _ | _ | _ | _ <;> simp [ink_lineBreak hL, ink_space]
  · rw [Trivia.fullText_append, Text.ink_append, ink_comments hL]
    rcases sep with _ | _ | _ | _ <;> simp [ink_lineBreak hL, ink_space]

/-! ### All tokens -/

omit hL in
theorem ink_trailing (ts : List Trivia) :
    (Trivia.fullText (ts.flatMap fun c => [space, c])).ink = (Trivia.fullText ts).ink := by
  induction ts with
  | nil => rfl
  | cons c ts ih => simp [ih, ink_space]

omit hL in
theorem ink_split (ts : List Trivia) :
    (Trivia.fullText (Gap.splitTrailing ts).1).ink ++ (Trivia.fullText (Gap.splitTrailing ts).2).ink
      = (Trivia.fullText ts).ink := by
  rw [← Text.ink_append, ← Trivia.fullText_append, Gap.splitTrailing_append]

omit hL in
theorem ink_fullText (t : Token) (leading trailing : List Trivia) :
    (t.withTrivia leading trailing).fullText.ink
      = (Trivia.fullText leading).ink ++ t.text.ink ++ (Trivia.fullText trailing).ink := by
  simp [Token.fullText, Token.withTrivia]

/-- The tokens behind a place are laid out with their ink, behind what trails the place. -/
theorem ink_layoutAfter (p : Place) (depth : Nat) (before : Text) (ps : List Place) :
    (Trivia.fullText (L.layoutAfter p depth before ps).1).ink
        ++ (Value.tokensText (L.layoutAfter p depth before ps).2).ink
      = (Trivia.fullText (kept p.token.trailing)).ink ++ Token.inks (ps.map (·.token)) := by
  induction ps generalizing p depth before with
  | nil =>
    rw [layoutAfter_nil, ink_trailing]
    rfl
  | cons q ps ih =>
    have hgap : (Trivia.fullText (L.gap p depth before q)).ink
        = (Trivia.fullText (kept p.token.trailing)).ink
          ++ (Trivia.fullText (kept q.token.leading)).ink := by
      rw [gap, ink_between hL, Trivia.fullText_append, Text.ink_append]
    have hrest := ih q (depthAfter q.token.kind depth) (lastText before q.token.text)
    rw [← ink_split] at hgap
    simp only [layoutAfter_cons, Value.tokensText_cons, Text.ink_append, ink_fullText, behind,
      List.map_cons, Token.inks_cons, Token.ink]
    calc
      _ = ((Trivia.fullText (Gap.splitTrailing (L.gap p depth before q)).1).ink
            ++ (Trivia.fullText (Gap.splitTrailing (L.gap p depth before q)).2).ink)
          ++ q.token.text.ink
          ++ ((Trivia.fullText (L.layoutAfter q (depthAfter q.token.kind depth)
              (lastText before q.token.text) ps).1).ink
            ++ (Value.tokensText (L.layoutAfter q (depthAfter q.token.kind depth)
              (lastText before q.token.text) ps).2).ink) := by simp only [List.append_assoc]
      _ = _ := by rw [hgap, hrest]; simp only [List.append_assoc]

/-- All tokens are laid out with their ink. -/
theorem ink_tokens (ps : List Place) :
    (Value.tokensText (L.tokens ps)).ink = Token.inks (ps.map (·.token)) := by
  cases ps with
  | nil => rfl
  | cons p ps =>
    have hrest := ink_layoutAfter hL p (depthAfter p.token.kind 0) (lastText [] p.token.text) ps
    rw [tokens_cons, Value.tokensText_cons, Text.ink_append, ink_fullText, ink_between hL, behind,
      List.append_assoc, hrest, List.map_cons, Token.inks_cons, Token.ink]
    simp only [List.append_assoc]

end Layout

namespace Value

/-- The ink of the tokens of a value. -/
def ink (v : Value) : Text := Token.inks v.leaves

/-- The ink of the tokens of some values. -/
def inkList (vs : List Value) : Text := Token.inks (leavesList vs)

@[simp] theorem ink_node (c : NodeClass) (vs : List Value) : (Value.node c vs).ink = inkList vs := rfl

@[simp] theorem inkList_cons (v : Value) (vs : List Value) :
    inkList (v :: vs) = v.ink ++ inkList vs := by
  rw [inkList, leavesList_cons, Token.inks_append, ink, inkList]

/-- **Layout keeps the ink.**  The text of a tree in canonical layout has the ink of its tokens. -/
theorem WellFormed.ink_rendered {o : Options} (ho : o.defaultFormatting = true) {v : Value}
    (hv : v.WellFormed) : (v.rendered o).ink = v.ink := by
  rw [rendered, ho, if_pos rfl, Layout.ink_tokens Layout.isBlank_default, hv.leaves_places, ink]

end Value

end TreeQuote
