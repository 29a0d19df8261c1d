/-
TreeQuote/Proofs/Layout/Touching.lean

Tokens with nothing between them.  Layout joins two tokens only where brackets, points, commas and
the like stand, behind the bracket in front of type arguments, and behind a prefix operator.  What
the grammar puts there does not clash with what it is joined to.

Main statement: `clashes_eq_false`.
-/
import TreeQuote.Proofs.Grammar.Neighbours
import TreeQuote.Proofs.Source.Munch

namespace TreeQuote.Layout

open Lexeme

/-- Tokens that may be joined to any token behind them. -/
def openers : List Kind :=
  [.openBraceToken, .closeBraceToken, .semicolonToken, .commaToken, .openParenToken, .dotToken]

/-- Tokens that may be joined to any token in front of them. -/
def closers : List Kind :=
  [.closeBraceToken, .semicolonToken, .commaToken, .closeParenToken, .dotToken, .lessThanToken,
   .greaterThanToken, .openParenToken, .colonToken]

/-- Other tokens are joined behind the bracket in front of type arguments and behind a prefix
operator. -/
theorem joined_cases {p q : Place} (hopen : p.token.kind ∉ openers)
    (hclose : q.token.kind ∉ closers)
    (hmissing : q.token.missing = false) (hend : q.token.kind ≠ .endOfFileToken)
    (hsep : separator p q = .nothing) :
    p.parent = .typeArgumentList ∧ p.token.kind = .lessThanToken ∨ isPrefixOperator p = true := by
  simp only [openers, closers, List.mem_cons, List.not_mem_nil, or_false, not_or] at hopen hclose
  obtain ⟨ho₁, ho₂, ho₃, ho₄, ho₅, ho₆⟩ := hopen
  obtain ⟨hc₁, hc₂, hc₃, hc₄, hc₅, hc₆, hc₇, hc₈, hc₉⟩ := hclose
  by_cases hless : p.parent = .typeArgumentList ∧ p.token.kind = .lessThanToken
  · exact .inl hless
  by_cases hprefix : isPrefixOperator p = true
  · exact .inr hprefix
  simp only [separator, hmissing, hend, ho₁, ho₂, ho₃, ho₄, ho₅, ho₆, hc₁, hc₂, hc₃, hc₄, hc₅, hc₆,
    hc₇, hc₈, hc₉, hprefix, decide_false, Bool.or_self, Bool.and_false, Bool.false_and,
    Bool.false_eq_true, if_false, Bool.and_eq_true, decide_eq_true_eq, if_neg hless] at hsep
  split at hsep
  · cases hsep
  split at hsep <;> cases hsep

/-- No word and no number is punctuation. -/
theorem isWord_ne {k j : Kind} (h : isWord k = true ∨ k = .numericLiteralToken)
    (hj : j ∈ punctuation) : k ≠ j := by
  have hcheck : (punctuation.all fun j => !isWord j && j ≠ .numericLiteralToken) = true := by decide
  have hplain := List.all_eq_true.1 hcheck j hj
  simp only [Bool.and_eq_true, Bool.not_eq_true', decide_eq_true_eq] at hplain
  rintro rfl
  rcases h with h | h
  · rw [hplain.1] at h
    cases h
  · exact hplain.2 h

theorem openers_subset : ∀ k ∈ openers ++ closers, k ∈ punctuation := by decide

/-- What clashes with a token behind it. -/
theorem clashes_cases {k next : Kind} (h : clashes k next = true) :
    (isWord k = true ∨ k = .numericLiteralToken)
        ∧ (isWord next = true ∨ next = .numericLiteralToken)
      ∨ (k = .equalsToken ∨ k = .exclamationToken ∨ k = .lessThanToken ∨ k = .greaterThanToken)
        ∧ (next = .equalsToken ∨ next = .equalsEqualsToken)
      ∨ k = .slashToken ∧ (next = .slashToken ∨ next = .asteriskToken)
      ∨ k = .dotToken ∧ next = .numericLiteralToken := by
  simp only [clashes, Bool.or_eq_true, Bool.and_eq_true, decide_eq_true_eq, or_assoc,
    List.contains_iff_mem] at h
  refine h.imp_right (Or.imp_left (And.imp_left fun hgo => ?_))
  unfold goesOn at hgo
  split at hgo <;> simp_all [ofChar_inj]

/-- What the grammar puts behind them. -/
theorem joined_followers {p q : Place} (hopen : p.token.kind ∉ openers)
    (hclose : q.token.kind ∉ closers) (hfollow : ∀ ks, p.followers = some ks → q.token.kind ∈ ks)
    (hmissing : q.token.missing = false) (hend : q.token.kind ≠ .endOfFileToken)
    (hsep : separator p q = .nothing) :
    p.token.kind = .lessThanToken ∧ q.token.kind = .identifierToken
      ∨ (p.token.kind = .minusToken ∨ p.token.kind = .exclamationToken)
        ∧ q.token.kind ∈ Grammar.expressionStarts := by
  have hdot : p.token.kind ≠ .dotToken := fun h => hopen (by rw [h]; decide)
  rcases joined_cases hopen hclose hmissing hend hsep with ⟨hparent, hless⟩ | hprefix
  · have hq := hfollow [.identifierToken, .greaterThanToken]
      (by simp [Place.followers, Grammar.followers, hparent, hless])
    rcases List.mem_pair.1 hq with hq | hq
    · exact .inl ⟨hless, hq⟩
    · exact absurd (by rw [hq]; decide) hclose
  · simp only [isPrefixOperator, Bool.and_eq_true, decide_eq_true_eq] at hprefix
    have hq := hfollow _ (by simp [Place.followers, Grammar.followers, hdot, hprefix]; rfl)
    split at hq
    · rename_i hkind
      exact .inr ⟨by simpa using hkind, hq⟩
    · exact absurd hq List.not_mem_nil

/-- Tokens that layout joins do not clash. -/
theorem clashes_eq_false {p q : Place}
    (hfollow : ∀ ks, p.followers = some ks → q.token.kind ∈ ks) (hmissing : q.token.missing = false)
    (hend : q.token.kind ≠ .endOfFileToken) (hsep : separator p q = .nothing) :
    clashes p.token.kind q.token.kind = false := by
  refine Bool.eq_false_iff.2 fun hclash => ?_
  have hjoined := fun hopen hclose => joined_followers hopen hclose hfollow hmissing hend hsep
  rcases clashes_cases hclash with ⟨hp, hq⟩ | ⟨hp, hq⟩ | ⟨hp, hq⟩ | ⟨hp, hq⟩
  · have hopen : p.token.kind ∉ openers := fun h =>
      isWord_ne hp (openers_subset _ (List.mem_append_left _ h)) rfl
    have hclose : q.token.kind ∉ closers := fun h =>
      isWord_ne hq (openers_subset _ (List.mem_append_right _ h)) rfl
    rcases hjoined hopen hclose with ⟨hless, -⟩ | ⟨hminus | hnot, -⟩
    · exact isWord_ne hp (by decide) hless
    · exact isWord_ne hp (by decide) hminus
    · exact isWord_ne hp (by decide) hnot
  · have hopen : p.token.kind ∉ openers := by
      rcases hp with h | h | h | h <;> rw [h] <;> decide
    have hclose : q.token.kind ∉ closers
        ∧ q.token.kind ∉ .identifierToken :: Grammar.expressionStarts := by
      rcases hq with h | h <;> rw [h] <;> decide
    rcases hjoined hopen hclose.1 with ⟨-, hid⟩ | ⟨-, hstart⟩
    · exact hclose.2 (hid ▸ List.mem_cons_self)
    · exact hclose.2 (List.mem_cons_of_mem _ hstart)
  · have hclose : q.token.kind ∉ closers := by
      rcases hq with h | h <;> rw [h] <;> decide
    have hopen : p.token.kind ∉ openers := by
      rw [hp]
      decide
    rcases hjoined hopen hclose with ⟨hless, -⟩ | ⟨hminus | hnot, -⟩
    · cases hp.symm.trans hless
    · cases hp.symm.trans hminus
    · cases hp.symm.trans hnot
  · have hname := hfollow [.identifierToken] (by simp [Place.followers, Grammar.followers, hp])
    cases (List.mem_singleton.1 hname).symm.trans hq

end TreeQuote.Layout
