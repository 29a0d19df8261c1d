/-
TreeQuote/Proofs/Grammar/Derivation.lean

What the grammar itself says, without tables.  `YieldsAll xs parts ts` says that the
symbols `xs` derive the tokens `ts` one after the other, and that `parts` is what their
productions build, one list of parts for each symbol.  The machine is one way to find such
a derivation; everything that is known about the trees it builds is proved by induction on
the derivation.
-/
import TreeQuote.Grammar.Machine

namespace TreeQuote.Grammar

/-- The symbols derive the tokens one after the other, each with parts of its own. -/
inductive YieldsAll : List Symbol → List (List Value) → List Token → Prop where
  | nil : YieldsAll [] [] []
  | token {xs : List Symbol} {parts : List (List Value)} {ts : List Token} (t : Token)
      (hrest : YieldsAll xs parts ts) :
      YieldsAll (.terminal t.kind :: xs) ([.token t] :: parts) (t :: ts)
  | production {p : Production} {parts : List (List Value)} {ts : List Token}
      {xs : List Symbol} {rest : List (List Value)} {us : List Token}
      (hp : p ∈ productions) (h : YieldsAll p.rhs parts ts) (hrest : YieldsAll xs rest us) :
      YieldsAll (.nonterminal p.lhs :: xs) (p.builds.apply parts :: rest) (ts ++ us)

/-- The symbol derives the tokens, and the parts are what is built from them. -/
abbrev Yields (x : Symbol) (vs : List Value) (ts : List Token) : Prop := YieldsAll [x] [vs] ts

/-- A token derives itself. -/
theorem Yields.token (t : Token) : Yields (.terminal t.kind) [.token t] [t] :=
  YieldsAll.token t .nil

/-- A production derives what its right-hand side does. -/
theorem Yields.production {p : Production} {parts : List (List Value)} {ts : List Token}
    (hp : p ∈ productions) (h : YieldsAll p.rhs parts ts) :
    Yields (.nonterminal p.lhs) (p.builds.apply parts) ts := by
  have hone := YieldsAll.production hp h .nil
  rwa [List.append_nil] at hone

/-- A single symbol has one list of parts. -/
theorem YieldsAll.exists_yields {x : Symbol} {parts : List (List Value)} {ts : List Token}
    (h : YieldsAll [x] parts ts) : ∃ vs, Yields x vs ts := by
  cases h with
  | token u hrest => cases hrest; exact ⟨_, .token u⟩
  | production hp h hrest =>
    cases hrest
    exact ⟨_, by rw [List.append_nil]; exact .production hp h⟩

/-- What a nonterminal derives, one of its productions does. -/
theorem Yields.exists_production {m : Nonterminal} {vs : List Value} {ts : List Token}
    (h : Yields (.nonterminal m) vs ts) :
    ∃ p parts, p ∈ productions ∧ p.lhs = m ∧ YieldsAll p.rhs parts ts
      ∧ vs = p.builds.apply parts := by
  cases h with
  | production hp hrhs hrest =>
    cases hrest
    exact ⟨_, _, hp, rfl, by rwa [List.append_nil], rfl⟩

/-- Derivations side by side. -/
theorem YieldsAll.append {xs ys : List Symbol} {ps qs : List (List Value)} {ts us : List Token}
    (h : YieldsAll xs ps ts) (h' : YieldsAll ys qs us) :
    YieldsAll (xs ++ ys) (ps ++ qs) (ts ++ us) := by
  induction h with
  | nil => exact h'
  | token t _ ih => exact .token t ih
  | production hp h _ _ ih =>
    rw [List.append_assoc]
    exact .production hp h ih

end TreeQuote.Grammar
