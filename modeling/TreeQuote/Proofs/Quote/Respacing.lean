/-
TreeQuote/Proofs/Quote/Respacing.lean

Code does not depend on the spacing of the source.  Under default formatting white space is left
out, so a token between blanks has the call of its bare token (`quoteToken_core`), and a tree all
of whose trivia are blank has the call of the tree with bare tokens.  Texts without comments that
have the same lexemes have the same such tree, hence the same code, or the same error.

Main statement: `quoteText_respaced`.
-/
import TreeQuote.Proofs.Parse.Reading
import TreeQuote.Proofs.Parse.Respacing
import TreeQuote.Proofs.Quote.Retoken
import TreeQuote.Quote.Basic

namespace TreeQuote

namespace Quote

variable {r : Registry} {o : Options}

/-! ### Tokens between blanks -/

theorem quoteTrivia_blank (ho : o.defaultFormatting = true) {p : Trivia} (h : p.Blank) : quoteTrivia r o p = .ok none := by
  obtain ⟨hspace, hflaw⟩ := h
  simp [quoteTrivia, hflaw, ho, hspace]

/-- Blanks are left out. -/
theorem quoteTriviaList_blank (ho : o.defaultFormatting = true) {ts : List Trivia} (h : ∀ p ∈ ts, p.Blank) :
    quoteTriviaList r o ts = .ok none := by
  have heach : quoteEach (quoteTrivia r o) ts = .ok [] := by
    induction ts with
    | nil => rfl
    | cons p ts ih =>
      rw [quoteEach, quoteTrivia_blank ho (h p List.mem_cons_self),
        ih fun q hq => h q (List.mem_cons_of_mem p hq)]
      rfl
  rw [quoteTriviaList, heach]
  rfl

/-- A token between blanks has the call of its bare token. -/
theorem quoteToken_core (ho : o.defaultFormatting = true) {t : Token} (h : t.Carries Trivia.Blank) :
    quoteToken r o t = quoteToken r o t.core := by
  obtain ⟨hleading, htrailing⟩ := h
  have hnil : quoteTriviaList r o [] = .ok none := quoteTriviaList_blank ho (List.forall_mem_nil _)
  rw [quoteToken, quoteToken, quoteTriviaList_blank ho hleading, quoteTriviaList_blank ho htrailing]
  show _ = tokenCall t.core (quoteTriviaList r o []) (quoteTriviaList r o [])
  rw [hnil]
  rfl

/-- A tree all of whose trivia are blank has the call of the tree with bare tokens. -/
theorem quoteRoot_core (ho : o.defaultFormatting = true) {v : Value}
    (h : ∀ u ∈ v.leaves, u.Carries Trivia.Blank) :
    quoteRoot r o v = quoteRoot r o (v.retoken Token.core) :=
  (quoteRoot_agrees (g := Token.core) (fun _ => rfl) fun u hu =>
    .inl (quoteToken_core ho (h u hu))).eq

end Quote

/-! ### Texts that differ in their spacing -/

section Spacing

variable {source source' : Text} {ls ls' : List Lexeme} {c : Grammar.Context}
  {file file' : Option Text} {p : Parsed}

/-- The code of a text without comments that is read without skipping anything is that of its tree
with bare tokens. -/
theorem quoteText_blank {r : Registry} {o : Options} (ho : o.defaultFormatting = true)
    (hsource : Lexeme.Commentless source) (h : parse? source c none = some p)
    (hskipped : ∀ d ∈ p.diagnostics, d.isSkipped = false) :
    quoteText r o source c
      = (quote r o (p.root.retoken Token.core)).bind fun q => .ok ((q.print? o).getD []) := by
  have hblank := parsePure?_blank hsource ((parse?_iff_pure hskipped).1 h) hskipped
  have hquote : quote r o (p.root.retoken Token.core) = quote r o p.root := by
    rw [quote, quote, ← Quote.quoteRoot_core ho hblank]
  rw [quoteText, read_eq_read.2 h, hquote]
  rfl

/-- What is skipped does not depend on places. -/
theorem isSkipped_of_unplaced {p p' : Parsed}
    (h : p'.diagnostics.map Diagnostic.unplaced = p.diagnostics.map Diagnostic.unplaced)
    (hskipped : ∀ d ∈ p.diagnostics, d.isSkipped = false) :
    ∀ d ∈ p'.diagnostics, d.isSkipped = false := by
  intro d hd
  have hmem : d.unplaced ∈ p.diagnostics.map Diagnostic.unplaced := h ▸ List.mem_map_of_mem hd
  obtain ⟨e, he, heq⟩ := List.mem_map.1 hmem
  have hsame : e.unplaced.isSkipped = d.unplaced.isSkipped := congrArg Diagnostic.isSkipped heq
  exact hsame.symm.trans (hskipped e he)

/-- A text with the same kinds and texts of lexemes as one that is read without skipping anything is
read alike. -/
theorem parse?_respaced (hls : Lexeme.scan? source = some ls) (hls' : Lexeme.scan? source' = some ls')
    (hsame : ls.map Lexeme.sketch = ls'.map Lexeme.sketch) (h : parse? source c file = some p)
    (hskipped : ∀ d ∈ p.diagnostics, d.isSkipped = false) (file' : Option Text) :
    ∃ p', parse? source' c file' = some p'
      ∧ p'.root.retoken Token.core = p.root.retoken Token.core
      ∧ p'.diagnostics.map Diagnostic.unplaced = p.diagnostics.map Diagnostic.unplaced := by
  obtain ⟨p', hp', htree, hreport⟩ :=
    parsePure?_respaced hls hls' hsame ((parse?_iff_pure hskipped).1 h) file'
  exact ⟨p', (parse?_iff_pure (isSkipped_of_unplaced hreport hskipped)).2 hp', htree, hreport⟩

/-- **Code does not depend on the spacing of the source.**  Of two texts without comments that have
the same kinds and texts of lexemes, if one is read without skipping anything, then so is the other:
their trees are the same but for trivia and spans, missing tokens included, their reports are the
same but for places, and under default formatting they have the same code or the same error. -/
theorem quoteText_respaced (hsource : Lexeme.Commentless source)
    (hsource' : Lexeme.Commentless source') (hls : Lexeme.scan? source = some ls)
    (hls' : Lexeme.scan? source' = some ls') (hsame : ls.map Lexeme.sketch = ls'.map Lexeme.sketch)
    (h : parse? source c file = some p) (hskipped : ∀ d ∈ p.diagnostics, d.isSkipped = false)
    (file' : Option Text) :
    (∃ p', parse? source' c file' = some p'
        ∧ p'.root.retoken Token.core = p.root.retoken Token.core
        ∧ p'.diagnostics.map Diagnostic.unplaced = p.diagnostics.map Diagnostic.unplaced)
      ∧ ∀ (r : Registry) (o : Options), o.defaultFormatting = true →
        quoteText r o source' c = quoteText r o source c := by
  refine ⟨parse?_respaced hls hls' hsame h hskipped file', fun r o ho => ?_⟩
  -- Code is made without a file.
  obtain ⟨q, hq, htree, hreport⟩ := parse?_respaced hls hls rfl h hskipped none
  obtain ⟨q', hq', htree', hreport'⟩ := parse?_respaced hls hls' hsame h hskipped none
  rw [quoteText_blank ho hsource hq (isSkipped_of_unplaced hreport hskipped),
    quoteText_blank ho hsource' hq' (isSkipped_of_unplaced hreport' hskipped), htree, htree']

end Spacing

/-- A call without its closing parenthesis, on one line and on two. -/
theorem quoteText_respaced_call : ∃ p, parse? (Text.of "f(a") .expression none = some p
    ∧ p.diagnostics.length = 1 ∧ (∀ d ∈ p.diagnostics, d.isSkipped = false)
    ∧ Lexeme.Commentless (Text.of "f(a") ∧ Lexeme.Commentless (Text.of " f\n( a")
    ∧ (∃ p', parse? (Text.of " f\n( a") .expression none = some p'
      ∧ p'.root.retoken Token.core = p.root.retoken Token.core
      ∧ p'.diagnostics.map Diagnostic.unplaced = p.diagnostics.map Diagnostic.unplaced)
    ∧ ∀ (r : Registry) (o : Options), o.defaultFormatting = true →
      quoteText r o (Text.of " f\n( a") .expression = quoteText r o (Text.of "f(a") .expression := by
  have hsource : Lexeme.Commentless (Text.of "f(a") :=
    .step (n := 1) rfl rfl (.step (n := 1) rfl rfl (.step (n := 1) rfl rfl .nil))
  have hsource' : Lexeme.Commentless (Text.of " f\n( a") :=
    .step (n := 1) rfl rfl (.step (n := 1) rfl rfl (.step (n := 1) rfl rfl
      (.step (n := 1) rfl rfl (.step (n := 1) rfl rfl (.step (n := 1) rfl rfl .nil)))))
  have hread : ((parse? (Text.of "f(a") .expression none).map fun p =>
      (p.diagnostics.length, p.diagnostics.all fun d => !d.isSkipped)) = some (1, true) := by
    decide +kernel
  have hlex : ∀ s ∈ [Text.of "f(a", Text.of " f\n( a"], (Lexeme.scan? s).map (·.map Lexeme.sketch)
      = some [(.identifierToken, Text.of "f"), (.openParenToken, Text.of "("),
        (.identifierToken, Text.of "a")] := by
    decide +kernel
  obtain ⟨p, hp, hshape⟩ := Option.map_eq_some_iff.1 hread
  simp only [Prod.mk.injEq, List.all_eq_true, Bool.not_eq_true'] at hshape
  obtain ⟨hlen, hskipped⟩ := hshape
  obtain ⟨ls, hls, hkinds⟩ := Option.map_eq_some_iff.1 (hlex _ List.mem_cons_self)
  obtain ⟨ls', hls', hkinds'⟩ := Option.map_eq_some_iff.1
    (hlex _ (List.mem_cons_of_mem _ List.mem_cons_self))
  exact ⟨p, hp, hlen, hskipped, hsource, hsource',
    quoteText_respaced hsource hsource' hls hls' (hkinds.trans hkinds'.symm) hp hskipped none⟩

end TreeQuote
