/-
TreeQuote/Proofs/Layout/Indentation.lean

Indentation follows the tree.  What layout puts in front of a token depends on the depth there
(`Layout.gapAt`), and the depth is the number of blocks and structs around the token.  Wherever the
line breaks in front of a token, behind all comments, the line of the token starts with the
indentation for that depth and nothing else; comments stand where they may, in front of the last
break (`Layout.indented_between`).

Main statements: `Layout.gapTrivia_tokens`, what stands in front of each token of a layout, and
`parse?_indented`.
-/
import TreeQuote.Proofs.Grammar.Nesting
import TreeQuote.Proofs.Layout.Canonical
import TreeQuote.Proofs.Parse.FixedPoint

namespace TreeQuote

open Grammar

namespace Layout

variable {L : Layout}

/-! ### What stands in front of a token -/

/-- All trivia in each gap from `trail` on, which stands in front of the tokens. -/
def gapTriviaFrom (trail : List Trivia) : List Token → List (List Trivia)
  | [] => [trail]
  | t :: ts => (trail ++ t.leading) :: gapTriviaFrom t.trailing ts

/-- All trivia in front of the first token, between each two, and behind the last. -/
def gapTrivia (ts : List Token) : List (List Trivia) := gapTriviaFrom [] ts

/-- What layout puts in front of a token. -/
def gapAt (L : Layout) (s : Option Front) (p : Place) : List Trivia :=
  L.between (s.map fun f => separatorAfter f.before f.prev p) (pendingOf s ++ kept p.token.leading)
    p.token.kind (depthAt p.token.kind (depthOf s))

/-- What layout puts in front of each token from a front on, and behind the last. -/
def gapsAlong (L : Layout) : Option Front → List Place → List (List Trivia)
  | s, [] => [(pendingOf s).flatMap fun c => [space, c]]
  | s, p :: ps => L.gapAt s p :: gapsAlong L (some (step s p)) ps

theorem gapTriviaFrom_layoutAfter (f : Front) (ps : List Place) :
    gapTriviaFrom (L.layoutAfter f.prev f.depth f.before ps).1
        (L.layoutAfter f.prev f.depth f.before ps).2 = L.gapsAlong (some f) ps := by
  induction ps generalizing f with
  | nil => rfl
  | cons p ps ih =>
    rw [layoutAfter_cons]
    refine congrArg₂ List.cons ?_ (ih (step (some f) p))
    exact Gap.splitTrailing_append (L.gap f.prev f.depth f.before p)

theorem gapsAlong_getElem? {s : Option Front} {ps : List Place} {i : Nat} {q : Place}
    (h : ps[i]? = some q) : (L.gapsAlong s ps)[i]? = some (L.gapAt (along s (ps.take i)) q) := by
  induction ps generalizing s i with
  | nil => cases h
  | cons p ps ih =>
    cases i with
    | zero =>
      obtain rfl : p = q := Option.some.inj h
      rfl
    | succ i => exact ih h

/-- The gap in front of each token of a layout is what layout puts there, at the depth behind the
tokens before it. -/
theorem gapTrivia_tokens {ps : List Place} {i : Nat} {q : Place} (h : ps[i]? = some q) :
    (gapTrivia (L.tokens ps))[i]? = some (L.gapAt (along none (ps.take i)) q) := by
  rw [← gapsAlong_getElem? h]
  cases ps with
  | nil => cases h
  | cons p ps =>
    rw [tokens_cons]
    exact congrArg (·[i]?) (congrArg₂ List.cons rfl (gapTriviaFrom_layoutAfter (step none p) ps))

/-! ### Line breaks -/

/-- Where the line breaks in the gap, behind all comments, the indentation for the depth follows,
and nothing else. -/
def Indented (L : Layout) (depth : Nat) (gap : List Trivia) : Prop :=
  ∀ before b after, gap = before ++ b :: after → b.kind = .endOfLineTrivia → kept after = [] →
    after = L.indent depth

theorem indented_nil (depth : Nat) : L.Indented depth [] := by
  intro before b after h
  exact absurd h.symm (by simp)

/-- Behind something else than a line end. -/
theorem Indented.cons {depth : Nat} {c : Trivia} {gap : List Trivia} (h : L.Indented depth gap)
    (hc : c.kind ≠ .endOfLineTrivia) : L.Indented depth (c :: gap) := by
  intro before b after hsplit hb hafter
  cases before with
  | nil =>
    obtain ⟨rfl, -⟩ := List.cons.inj hsplit
    exact absurd hb hc
  | cons a before => exact h before b after (List.cons.inj hsplit).2 hb hafter

/-- In front of a comment it does not matter where the line breaks. -/
theorem Indented.behind {depth : Nat} {gap : List Trivia} (h : L.Indented depth gap)
    (hkept : kept gap ≠ []) (front : List Trivia) : L.Indented depth (front ++ gap) := by
  intro before b after hsplit hb hafter
  rcases List.append_eq_append_iff.1 hsplit with ⟨us, rfl, hgap⟩ | ⟨us, hfront, hrest⟩
  · exact h us b after hgap hb hafter
  · -- The line breaks in front, so what follows has no comment.
    have hgap : kept (us ++ gap) = [] := by
      rw [← hrest, kept_cons_blank (by simp [Trivia.isWhitespace, hb]), hafter]
    rw [kept_append] at hgap
    exact absurd (List.append_eq_nil_iff.1 hgap).2 hkept

theorem indent_kind {depth : Nat} : ∀ t ∈ L.indent depth, t.kind = .whitespaceTrivia := by
  rw [indent]
  split
  · exact List.forall_mem_nil _
  · exact List.forall_mem_singleton.2 rfl

/-- The indentation is so many copies of one level. -/
theorem fullText_indent (depth : Nat) :
    Trivia.fullText (L.indent depth) = Text.copies depth L.indentation := by
  rw [indent]
  split
  · rename_i hnone
    simp only [Bool.or_eq_true, Bool.and_eq_true, decide_eq_true_eq, List.isEmpty_iff] at hnone
    rcases hnone with rfl | ⟨hempty, -⟩
    · rfl
    · rw [hempty, Trivia.fullText_nil]
      induction depth with
      | zero => rfl
      | succ n ih => exact ih
  · exact List.append_nil _

theorem indented_lineBreak (depth : Nat) : L.Indented depth (L.lineBreak depth) := by
  intro before b after hsplit hb _
  cases before with
  | nil => exact (List.cons.inj hsplit).2.symm
  | cons a before =>
    have hmem : b ∈ L.indent depth := by
      rw [(List.cons.inj hsplit).2]
      exact List.mem_append_right _ List.mem_cons_self
    rw [indent_kind b hmem] at hb
    cases hb

theorem indented_space (depth : Nat) : L.Indented depth [space] :=
  (indented_nil depth).cons (by decide)

/-- The last comment is followed by a space or by the line of the token, whatever stands between the
comments. -/
theorem indented_comments {ts : List Trivia} (hts : ∀ t ∈ ts, t.isWhitespace = false)
    (ownLine : Bool) (inner depth : Nat) : L.Indented depth (L.comments ownLine inner depth ts) := by
  induction ts using comments.induct with
  | case1 => exact indented_nil depth
  | case2 c =>
    have hc : c.kind ≠ .endOfLineTrivia := by
      intro hk
      have hblank := hts c List.mem_cons_self
      rw [Trivia.isWhitespace, hk] at hblank
      cases hblank
    rw [comments]
    refine Indented.cons ?_ hc
    split
    · exact indented_lineBreak depth
    · exact indented_space depth
  | case3 c d rest ih =>
    have hrest : ∀ t ∈ d :: rest, t.isWhitespace = false := fun t ht =>
      hts t (List.mem_cons_of_mem c ht)
    rw [comments]
    refine (ih hrest).behind ?_ _
    rw [kept_comments hrest]
    exact List.cons_ne_nil d rest

/-- In front of a token other than the end of the file. -/
theorem indented_between {ts : List Trivia} (hts : ∀ t ∈ ts, t.isWhitespace = false)
    (sep : Option Separator) {k : Kind} (hk : k ≠ .endOfFileToken) (depth : Nat) :
    L.Indented depth (L.between sep ts k depth) := by
  unfold between
  split
  · rename_i heof
    exact absurd heof hk
  split
  · rcases sep with _ | _ | _ | _
    · exact indented_nil depth
    · exact indented_nil depth
    · exact indented_space depth
    · exact indented_lineBreak depth
  · rename_i hne
    refine (indented_comments hts _ _ depth).behind ?_ _
    rw [kept_comments hts]
    simpa using hne

theorem indented_gapAt (s : Option Front) {p : Place} (hp : p.token.kind ≠ .endOfFileToken) :
    L.Indented (depthAt p.token.kind (depthOf s)) (L.gapAt s p) :=
  indented_between (List.forall_mem_append.2 ⟨not_whitespace_of_kept, not_whitespace_of_kept⟩) _ hp _

end Layout

/-! ### Trees that were read -/

/-- Where the layout of a tree stands in front of the token at a position. -/
def Value.frontAt (v : Value) (i : Nat) : Option Layout.Front :=
  Layout.along Option.none (v.places.take i)

theorem Value.depthOf_frontAt (v : Value) (i : Nat) :
    Layout.depthOf (v.frontAt i) = Layout.depthBehind 0 (v.places.take i) :=
  Layout.depthOf_along Option.none _

/-- **Indentation follows the tree.**  What is read can be laid out with any indentation and any line
end, by the same tokens.  At each token the depth is the number of blocks and structs whose open brace
comes before it and whose close brace comes after it; in front of a closing brace it is never 0, and
it is 0 in the end.  So in front of a token, where the line breaks behind all comments, there are just
as many copies of the indentation. -/
theorem parse?_indented {source : Text} {c : Context} {file : Option Text} {p : Parsed}
    (h : parse? source c file = some p) (indentation lineEnd : Text) :
    ∃ w, p.root.normalized? { indentation, lineEnd } = .ok w
      ∧ w.nodeTokens.map Token.bare = p.root.nodeTokens.map Token.bare
      ∧ (∀ b ∈ p.root.bracesFrom 0, b.opening < b.closing
        ∧ p.root.places[b.opening]?.map (·.token.kind) = some .openBraceToken
        ∧ p.root.places[b.closing]?.map (·.token.kind) = some .closeBraceToken)
      ∧ (∀ i q, p.root.places[i]? = some q →
        Layout.depthAt q.token.kind (Layout.depthOf (p.root.frontAt i)) = p.root.nesting i
        ∧ (q.token.kind = .closeBraceToken → 0 < Layout.depthOf (p.root.frontAt i))
        ∧ (Layout.gapTrivia w.nodeTokens)[i]?
          = some (Layout.gapAt { indentation, lineEnd } (p.root.frontAt i) q)
        ∧ (q.token.kind ≠ .endOfFileToken → Layout.Indented { indentation, lineEnd }
          (p.root.nesting i) (Layout.gapAt { indentation, lineEnd } (p.root.frontAt i) q)))
      ∧ Layout.depthOf (p.root.frontAt p.root.places.length) = 0
      ∧ ∀ n, Trivia.fullText (Layout.indent { indentation, lineEnd } n) = Text.copies n indentation := by
  have hplain := parse?_plainly h
  obtain ⟨htype, hgrown, -⟩ := parse?_tree h
  generalize p.root = v at htype hgrown hplain ⊢
  cases v with
  | node d vs =>
    have hnests : Layout.Nests 0 (Value.node d vs).places ((Value.node d vs).bracesFrom 0) :=
      (Grows.nests _ hgrown).1 d vs rfl d 0 0
    have hbare := Layout.tokens_bare (L := { indentation, lineEnd }) (Value.node d vs).places
    have htokens : ((Value.node d vs).normalized { indentation, lineEnd }).nodeTokens = _ :=
      Value.nodeTokens_refill hbare
    refine ⟨_, Value.normalized?_of_plainly ⟨rfl, rfl⟩ hplain, ?_, fun b hb => ?_, fun i q hq => ?_,
      ?_, Layout.fullText_indent⟩
    · rw [htokens, hbare, Value.nodeTokens, List.map_map]
      rfl
    · have hmarks := hnests.marks b hb
      exact ⟨hmarks.order, hmarks.opening, hmarks.closing⟩
    · have hstands := hnests.stands 0 i q hq
      rw [Nat.zero_add, ← Value.depthOf_frontAt] at hstands
      have hdepth : Layout.depthAt q.token.kind (Layout.depthOf ((Value.node d vs).frontAt i))
          = (Value.node d vs).nesting i := hstands.depth.trans (Nat.zero_add _)
      refine ⟨hdepth, hstands.unclamped, ?_, fun hk => ?_⟩
      · rw [htokens]
        exact Layout.gapTrivia_tokens hq
      · rw [← hdepth]
        exact Layout.indented_gapAt _ hk
    · rw [Value.depthOf_frontAt, List.take_length]
      exact hnests.level 0
  | _ => exact absurd htype Bool.false_ne_true

/-- Two spaces for each level, and line ends of two characters. -/
def twoSpaces : Layout := { indentation := Text.of "  ", lineEnd := Text.of "\r\n" }

/-- A block in a function whose closing brace is missing.  The comment belongs to the block, and the
brace behind it stands one level out. -/
theorem parse?_indented_repaired :
    ∃ p w, parse? (Text.of "fn f ( ) \x7b if x \x7b return 1 ; // one\n \x7d") .unit none = some p
      ∧ p.diagnostics.length = 1
      ∧ (List.range 14).map p.root.nesting = [0, 0, 0, 0, 0, 1, 1, 1, 2, 2, 2, 1, 0, 0]
      ∧ p.root.normalized? twoSpaces = .ok w
      ∧ ∃ gap, (Layout.gapTrivia w.nodeTokens)[11]? = some gap
        ∧ Trivia.fullText gap = Text.of "\r\n    // one\r\n  " ∧ twoSpaces.Indented 1 gap := by
  have hread : ((parse? (Text.of "fn f ( ) \x7b if x \x7b return 1 ; // one\n \x7d") .unit
      none).map fun p => (p.diagnostics.length, (List.range 14).map p.root.nesting,
        p.root.places[11]?.map (·.token.kind),
        (Layout.gapTrivia (p.root.normalized twoSpaces).nodeTokens)[11]?.map Trivia.fullText))
      = some (1, [0, 0, 0, 0, 0, 1, 1, 1, 2, 2, 2, 1, 0, 0], some .closeBraceToken,
        some (Text.of "\r\n    // one\r\n  ")) := by
    decide +kernel
  obtain ⟨p, hp, hfacts⟩ := Option.map_eq_some_iff.1 hread
  simp only [Prod.mk.injEq] at hfacts
  obtain ⟨hdiagnostics, hnesting, hplace, htext⟩ := hfacts
  obtain ⟨q, hq, hk⟩ := Option.map_eq_some_iff.1 hplace
  obtain ⟨w, hw, -, -, htokens, -, -⟩ := parse?_indented hp (Text.of "  ") (Text.of "\r\n")
  obtain ⟨-, -, hgap, hindented⟩ := htokens 11 q hq
  have hone : p.root.nesting 11 = 1 := Option.some.inj (congrArg (·[11]?) hnesting)
  rw [hone] at hindented
  obtain ⟨-, rfl⟩ := Value.normalized?_cases hw
  refine ⟨p, _, hp, hdiagnostics, hnesting, hw, _, hgap, ?_, hindented (by rw [hk]; decide)⟩
  obtain ⟨gap, hgap', htext⟩ := Option.map_eq_some_iff.1 htext
  rw [← htext, Option.some.inj (hgap.symm.trans hgap')]

end TreeQuote
