/-
TreeQuote/Proofs/Layout/Front.lean

Layout from where it stands.  The text of a layout is written from left to right, and what is behind
a token depends on the tokens in front only through the last of them, the depth, and the last text
that is not empty (`Layout.Front`):

    textFrom s (ps ++ qs) = written s ps ++ textFrom (along s ps) qs

So some places can be exchanged for others wherever they stand, if they write the same text from
every front (`Layout.Exchanges`).

Main statements: `textFrom_tokens`, `textFrom_append` and `Exchanges.append`.
-/
import TreeQuote.Proofs.Layout.Ink

namespace TreeQuote

open Layout

namespace Layout

/-! ### Fronts -/

/-- Where layout stands behind a token. -/
structure Front where
  prev : Place
  depth : Nat
  before : Text

/-- The depth at which layout goes on; it starts at 0. -/
def depthOf (s : Option Front) : Nat := (s.map (·.depth)).getD 0

/-- The last text that is not empty. -/
def beforeOf (s : Option Front) : Text := (s.map (·.before)).getD []

/-- The comments behind the last token. -/
def pendingOf (s : Option Front) : List Trivia := kept ((s.map (·.prev.token.trailing)).getD [])

/-- Where layout stands behind one more token. -/
def step (s : Option Front) (p : Place) : Front where
  prev := p
  depth := depthAfter p.token.kind (depthOf s)
  before := lastText (beforeOf s) p.token.text

/-- What stands in front of the next token. -/
def gapFrom (s : Option Front) (p : Place) : List Trivia :=
  between {} (s.map fun f => separatorAfter f.before f.prev p) (pendingOf s ++ kept p.token.leading)
    p.token.kind (depthAt p.token.kind (depthOf s))

/-- The text of the places from a front on. -/
def textFrom : Option Front → List Place → Text
  | s, [] => Trivia.fullText ((pendingOf s).flatMap fun c => [space, c])
  | s, p :: ps => Trivia.fullText (gapFrom s p) ++ p.token.text ++ textFrom (some (step s p)) ps

/-- Where layout stands behind some places. -/
def along (s : Option Front) (ps : List Place) : Option Front :=
  ps.foldl (fun s p => some (step s p)) s

/-- What is written up to the last of some places. -/
def written : Option Front → List Place → Text
  | _, [] => []
  | s, p :: ps => Trivia.fullText (gapFrom s p) ++ p.token.text ++ written (some (step s p)) ps

theorem textFrom_layoutAfter (f : Front) (ps : List Place) :
    Trivia.fullText (layoutAfter {} f.prev f.depth f.before ps).1
        ++ Value.tokensText (layoutAfter {} f.prev f.depth f.before ps).2
      = textFrom (some f) ps := by
  induction ps generalizing f with
  | nil => rw [layoutAfter_nil, Value.tokensText_nil, List.append_nil]; rfl
  | cons p ps ih =>
    have hsplit := congrArg Trivia.fullText
      (Gap.splitTrailing_append (Layout.gap {} f.prev f.depth f.before p))
    rw [Trivia.fullText_append] at hsplit
    have hgap : gapFrom (some f) p = Layout.gap {} f.prev f.depth f.before p := rfl
    rw [layoutAfter_cons, textFrom, ← ih (step (some f) p), hgap, ← hsplit, Value.tokensText_cons,
      Token.fullText]
    simp only [List.append_assoc]
    rfl

/-- The text of a layout is written from the start. -/
theorem textFrom_tokens (ps : List Place) : Value.tokensText (tokens {} ps) = textFrom none ps := by
  cases ps with
  | nil => rfl
  | cons p ps =>
    rw [tokens_cons, textFrom, ← textFrom_layoutAfter (step none p), behind, Value.tokensText_cons,
      Token.fullText]
    show _ ++ p.token.text ++ _ ++ _ = _
    rw [List.append_assoc]
    rfl

theorem textFrom_append (s : Option Front) (ps qs : List Place) :
    textFrom s (ps ++ qs) = written s ps ++ textFrom (along s ps) qs := by
  induction ps generalizing s with
  | nil => rfl
  | cons p ps ih =>
    rw [List.cons_append, textFrom, ih, written, List.append_assoc _ (written _ _)]
    rfl

/-- What is written first is the same in both texts. -/
theorem textFrom_cancel {s : Option Front} {ps qs rs : List Place}
    (h : textFrom s (ps ++ qs) = textFrom s (ps ++ rs)) :
    textFrom (along s ps) qs = textFrom (along s ps) rs := by
  rw [textFrom_append, textFrom_append] at h
  exact List.append_cancel_left h

theorem along_append (s : Option Front) (ps qs : List Place) :
    along s (ps ++ qs) = along (along s ps) qs := List.foldl_append

theorem along_concat (s : Option Front) (ps : List Place) (p : Place) :
    along s (ps ++ [p]) = some (step (along s ps) p) := along_append s ps [p]

/-- The depth behind some places. -/
theorem depthOf_along (s : Option Front) (ps : List Place) :
    depthOf (along s ps) = ps.foldl (fun d p => depthAfter p.token.kind d) (depthOf s) := by
  induction ps generalizing s with
  | nil => rfl
  | cons p ps ih => exact ih (some (step s p))

/-- Behind the places layout is at the depth in front of them. -/
def Level (ps : List Place) : Prop :=
  ∀ d, ps.foldl (fun d p => depthAfter p.token.kind d) d = d

theorem Level.append {ps qs : List Place} (h : Level ps) (h' : Level qs) : Level (ps ++ qs) := by
  intro d
  rw [List.foldl_append, h, h']

theorem Level.depthOf {ps : List Place} (h : Level ps) (s : Option Front) :
    depthOf (along s ps) = Layout.depthOf s := by
  rw [depthOf_along, h]

/-- Places that are no braces. -/
theorem Level.of_kinds {ps : List Place}
    (h : ∀ p ∈ ps, p.token.kind ≠ .openBraceToken ∧ p.token.kind ≠ .closeBraceToken) : Level ps := by
  intro d
  induction ps generalizing d with
  | nil => rfl
  | cons p ps ih =>
    obtain ⟨⟨hopen, hclose⟩, hps⟩ := List.forall_mem_cons.mp h
    rw [List.foldl_cons, depthAfter, if_neg hopen, depthAt, if_neg hclose, ih hps]

/-- Tokens without text leave the last text. -/
theorem beforeOf_along {ps : List Place} (h : ∀ p ∈ ps, p.token.text = []) (s : Option Front) :
    beforeOf (along s ps) = beforeOf s := by
  induction ps generalizing s with
  | nil => rfl
  | cons p ps ih =>
    obtain ⟨hp, hps⟩ := List.forall_mem_cons.mp h
    show beforeOf (along (some (step s p)) ps) = _
    rw [ih hps]
    show lastText _ _ = _
    rw [hp]
    rfl

/-- What is written from a front has the ink of the comments there and of the tokens. -/
theorem ink_textFrom (s : Option Front) (ps : List Place) :
    (textFrom s ps).ink = (Trivia.fullText (pendingOf s)).ink ++ Token.inks (ps.map (·.token)) := by
  cases s with
  | none => rw [← textFrom_tokens, ink_tokens isBlank_default]; rfl
  | some f =>
    rw [← textFrom_layoutAfter, Text.ink_append, ink_layoutAfter isBlank_default]
    rfl

theorem ink_gapFrom (s : Option Front) (p : Place) :
    (Trivia.fullText (gapFrom s p)).ink
      = (Trivia.fullText (pendingOf s)).ink ++ (Trivia.fullText (kept p.token.leading)).ink := by
  rw [gapFrom, ink_between isBlank_default, Trivia.fullText_append, Text.ink_append]

theorem ink_written (s : Option Front) (ps : List Place) :
    (written s ps).ink ++ (Trivia.fullText (pendingOf (along s ps))).ink
      = (Trivia.fullText (pendingOf s)).ink ++ Token.inks (ps.map (·.token)) := by
  have htext := congrArg Text.ink (textFrom_append s ps [])
  rw [List.append_nil, Text.ink_append, ink_textFrom, ink_textFrom (along s ps) []] at htext
  simpa [Token.inks] using htext.symm

/-! ### Places that write the same -/

/-- The second places can stand for the first ones wherever what is behind them does not start with
one of the kinds. -/
def Exchanges (ks : List Kind) (ps qs : List Place) : Prop :=
  ∀ s rest, (∀ p ∈ rest.head?, p.token.kind ∉ ks) → textFrom s (ps ++ rest) = textFrom s (qs ++ rest)

namespace Exchanges

variable {js ks : List Kind} {ps qs rs ps' qs' : List Place}

theorem refl (ps : List Place) : Exchanges ks ps ps := fun _ _ _ => rfl

theorem symm (h : Exchanges ks ps qs) : Exchanges ks qs ps := fun s rest hrest => (h s rest hrest).symm

theorem trans (h : Exchanges ks ps qs) (h' : Exchanges ks qs rs) : Exchanges ks ps rs :=
  fun s rest hrest => (h s rest hrest).trans (h' s rest hrest)

theorem mono (h : Exchanges js ps qs) (hsub : js ⊆ ks) : Exchanges ks ps qs :=
  fun s rest hrest => h s rest fun p hp hk => hrest p hp (hsub hk)

/-- Exchange behind other places. -/
theorem behind (h : Exchanges ks qs qs') (ps : List Place) : Exchanges ks (ps ++ qs) (ps ++ qs') := by
  intro s rest hrest
  rw [List.append_assoc, List.append_assoc, textFrom_append, textFrom_append s ps,
    h (along s ps) rest hrest]

/-- Exchange in front of other places. -/
theorem front (h : Exchanges js ps ps') (hqs : ∀ q ∈ qs.head?, q.token.kind ∉ js)
    (hnil : qs = [] → js ⊆ ks) : Exchanges ks (ps ++ qs) (ps' ++ qs) := by
  intro s rest hrest
  rw [List.append_assoc, List.append_assoc]
  refine h s (qs ++ rest) fun p hp hk => ?_
  cases qs with
  | nil => exact hrest p hp (hnil rfl hk)
  | cons q qs => exact hqs p hp hk

/-- Exchange in both parts, the first of which goes with whatever follows. -/
theorem append (h : Exchanges [] ps ps') (h' : Exchanges ks qs qs') :
    Exchanges ks (ps ++ qs) (ps' ++ qs') :=
  (h.front (by simp) (by simp)).trans (h'.behind ps')

/-- Places that can be exchanged have the same ink. -/
theorem inks (h : Exchanges ks ps qs) :
    Token.inks (ps.map (·.token)) = Token.inks (qs.map (·.token)) := by
  have htext := congrArg Text.ink (h none [] (by simp))
  rwa [List.append_nil, List.append_nil, ink_textFrom, ink_textFrom] at htext

end Exchanges

/-! ### Tokens that layout does not tell apart -/

/-- Layout goes on alike behind both places, in front of the given ones. -/
theorem textFrom_congr {p q : Place} {depth : Nat} {before : Text} {rest : List Place}
    (htrailing : kept p.token.trailing = kept q.token.trailing)
    (hseparator : ∀ r ∈ rest.head?, separatorAfter before p r = separatorAfter before q r) :
    textFrom (some ⟨p, depth, before⟩) rest = textFrom (some ⟨q, depth, before⟩) rest := by
  cases rest with
  | nil =>
    rw [textFrom, textFrom]
    show Trivia.fullText ((kept p.token.trailing).flatMap _) = Trivia.fullText ((kept q.token.trailing).flatMap _)
    rw [htrailing]
  | cons r rest =>
    have hgap : gapFrom (some ⟨p, depth, before⟩) r = gapFrom (some ⟨q, depth, before⟩) r := by
      show between {} (some (separatorAfter before p r)) (kept p.token.trailing ++ _) _ _
        = between {} (some (separatorAfter before q r)) (kept q.token.trailing ++ _) _ _
      rw [htrailing, hseparator r rfl]
      rfl
    rw [textFrom, textFrom, hgap]
    rfl

/-- Places of tokens of one kind, in the same property. -/
structure Seats (p q : Place) : Prop where
  kind : p.token.kind = q.token.kind
  parent : p.parent = q.parent
  slot : p.slot = q.slot

theorem Seats.separatorAfter {p q : Place} (h : Seats p q) (before : Text) (r : Place) :
    separatorAfter before p r = separatorAfter before q r := by
  unfold Layout.separatorAfter separator isPrefixOperator isBinaryOperator
  rw [h.kind, h.parent, h.slot]

/-- A token whose sides keep the same can stand for another one. -/
theorem Exchanges.token {p q : Place} (h : Seats p q) (htext : p.token.text = q.token.text)
    (hmissing : p.token.missing = q.token.missing)
    (hleading : kept p.token.leading = kept q.token.leading)
    (htrailing : kept p.token.trailing = kept q.token.trailing) : Exchanges [] [p] [q] := by
  intro s rest _
  have hseparator : ∀ f : Front, Layout.separatorAfter f.before f.prev p
      = Layout.separatorAfter f.before f.prev q := by
    intro f
    unfold Layout.separatorAfter separator
    rw [h.kind, h.parent, hmissing, htext]
  have hgap : gapFrom s p = gapFrom s q := by
    rw [gapFrom, gapFrom, hleading, h.kind, funext hseparator]
  rw [List.singleton_append, List.singleton_append, textFrom, textFrom, hgap, htext, step, h.kind, htext]
  rw [textFrom_congr htrailing fun r _ => h.separatorAfter _ r]
  rfl

end Layout

end TreeQuote
