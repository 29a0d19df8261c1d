/-
TreeQuote/Proofs/Parse/Clean.lean

Texts that are read without a report.  Nothing was inserted and nothing was skipped, so what was fed
are the lexemes of the text; each token of the tree was read, and none starts with a blank.

Main statements: `parsePure?_clean`, `parsePure?_whole` and `Value.Clean`.
-/
import TreeQuote.Proofs.Parse.Acceptance
import TreeQuote.Proofs.Parse.WellFormed

namespace TreeQuote

open Grammar Dressing

/-- What is only taken is read, and nothing is skipped. -/
theorem Repair.fed_clean (ls : List Lexeme) (tree : Value) :
    (Repair.Run.mk (ls.map (.taken [])) [] tree).fed = ls.map .read := by
  rw [Repair.Run.fed, Repair.fed_taken]
  exact List.append_nil _

theorem Repair.skipped_taken (ls : List Lexeme) : skipped (ls.map (.taken [])) = [] := by
  induction ls with
  | nil => rfl
  | cons l ls ih => exact ih

theorem Dressing.reads_read_all (ls : List Lexeme) : reads (ls.map .read) = ls := by
  induction ls with
  | nil => rfl
  | cons l ls ih => rw [List.map_cons, reads_read, ih]

/-- A text without a report is read without repairs. -/
theorem parsePure?_clean {source : Text} {c : Context} {file : Option Text} {p : Parsed}
    (h : parsePure? source c file = some p) (hclean : p.diagnostics = []) :
    ∃ ls tree tokens eof, Lexeme.scan? source = some ls
      ∧ Repair.run? c ls = some ⟨ls.map (.taken []), [], tree⟩
      ∧ dress file c (Gap.scan source []) source.length (ls.map .read) = some (tokens, eof)
      ∧ p.root = Parsed.close c (Parsed.endOfFile file source eof) (tree.refill tokens).1 := by
  obtain ⟨ls, r, tokens, eof, hls, hr, hdress, hroot⟩ := parsePure?_steps h
  obtain ⟨r', hr', hreport, hfinal⟩ := parsePure?_reports hls h hclean
  cases hr.symm.trans hr'
  obtain ⟨steps, final, tree⟩ := r
  have hsteps := Repair.steps_of_report hreport
  rw [Repair.run?_steps hr] at hsteps
  obtain rfl : final = [] := hfinal
  obtain rfl : steps = ls.map (.taken []) := hsteps
  rw [Repair.fed_clean, Repair.skipped_taken] at hdress
  exact ⟨ls, tree, tokens, eof, hls, hr, hdress, hroot⟩

/-- Lexemes from which the start symbol derives a tree are read without a report, if they can be
dressed. -/
theorem parsePure?_of_yields {source : Text} {c : Context} {file : Option Text} {ls : List Lexeme}
    {tree : Value} {tokens : List Token} {eof : List Trivia} (hls : Lexeme.scan? source = some ls)
    (htree : Yields (.nonterminal c.start) [tree] (ls.map Repair.plain))
    (hdress : dress file c (Gap.scan source []) source.length (ls.map .read) = some (tokens, eof)) :
    parsePure? source c file = some ⟨Parsed.close c (Parsed.endOfFile file source eof)
      (tree.refill tokens).1, []⟩ := by
  have hrun := Repair.run?_yielded htree
  rw [← Repair.skipped_taken ls, ← Repair.fed_taken ls] at hdress
  simp [parsePure?, hls, hrun, hdress, Repair.report_taken]

/-! ### Whole tokens -/

/-- A token of a text without repairs: it was read, between trivia of the text, and only the end of
the file has no text. -/
structure Token.Whole (t : Token) : Prop where
  dressed : Dressed t
  present : t.missing = false
  head : t.kind = .endOfFileToken ∨ ∃ c rest, t.text = c :: rest ∧ Lexeme.isGap c = false

theorem parsePure?_whole {source : Text} {c : Context} {file : Option Text} {p : Parsed}
    (h : parsePure? source c file = some p) (hclean : p.diagnostics = []) :
    ∀ t ∈ p.root.leaves, t.Whole := by
  intro t ht
  have hdressed := (parsePure?_readFrom h).dressed t ht
  obtain ⟨ls, tree, -, -, hls, hr, -⟩ := parsePure?_clean h hclean
  obtain ⟨ls', r, hls', hr', horigin⟩ := parsePure?_origin h
  cases hls.symm.trans hls'
  cases hr.symm.trans hr'
  rw [Repair.fed_clean] at horigin
  rcases horigin t ht with (⟨hk, -⟩ | ⟨hl, hs, hu⟩) | ⟨eof, rfl⟩
  · obtain ⟨l, -, hl⟩ := List.mem_map.1 hk
    cases hl
  · rename_i l s
    rw [reads_read_all] at hl
    have hbares := token?_bares (Lexeme.scan?_spelled hls l hl) hs
    obtain ⟨d, rest, htext, hd⟩ := Lexeme.scan?_head hls l hl
    refine ⟨hdressed, (congrArg Token.missing hu).trans hbares.missing, .inr ⟨d, rest, ?_, hd⟩⟩
    exact ((congrArg Token.text hu).trans hbares.text).trans htext
  · exact ⟨hdressed, rfl, .inl rfl⟩

/-! ### Clean values -/

/-- A value in the tree of a text without repairs: its nodes are those of the grammar, and its
tokens were read. -/
structure Value.Clean (v : Value) : Prop where
  grown : v.All Grows
  whole : ∀ t ∈ v.leaves, t.Whole

theorem parsePure?_root_clean {source : Text} {c : Context} {file : Option Text} {p : Parsed}
    (h : parsePure? source c file = some p) (hclean : p.diagnostics = []) : p.root.Clean :=
  ⟨(parsePure?_readFrom h).grown, parsePure?_whole h hclean⟩

namespace Value.Clean

variable {v : Value} {vs : List Value} {c : NodeClass}

theorem members (hgrown : AllList Grows vs) (hwhole : ∀ t ∈ leavesList vs, t.Whole) :
    ∀ v ∈ vs, v.Clean := by
  intro v hv
  refine ⟨allList_iff.mp hgrown v hv, fun t ht => hwhole t ?_⟩
  rw [leavesList_eq_flatMap]
  exact List.mem_flatMap.mpr ⟨v, hv, ht⟩

theorem ofTokens (h : (Value.tokens vs).Clean) : ∀ v ∈ vs, v.Clean := members h.grown h.whole

theorem ofNodes (h : (Value.nodes vs).Clean) : ∀ v ∈ vs, v.Clean := members h.grown h.whole

theorem ofSeparated (h : (Value.separated vs).Clean) : ∀ v ∈ vs, v.Clean := members h.grown h.whole

theorem ofNode (h : (Value.node c vs).Clean) : ∀ v ∈ vs, v.Clean := members h.grown.2 h.whole

end Value.Clean

end TreeQuote
