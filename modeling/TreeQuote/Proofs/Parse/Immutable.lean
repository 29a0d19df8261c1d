/-
TreeQuote/Proofs/Parse/Immutable.lean

What is read with immutable lists.  An attempt that is given up leaves nothing behind then, so the
tree has the tokens that were fed, each once and in order: no token is lost, the text of the tree is
the source, and every token and every repair is accounted for.

Main statements: `readWith_sound`, `readWith_fullText`, `readWith_accounts` and `readWith_slices`.
-/
import TreeQuote.Proofs.Parse.Reading
import TreeQuote.Proofs.Parse.Span

namespace TreeQuote

open Grammar

variable {source : Text} {c : Context} {file : Option Text} {p : Parsed}

/-- **Reading fails for three reasons only**, and never for want of a token.  Else the builder makes
the tree from a parse tree, as it does from every parse tree of the grammar, and each node of the
tree is sound. -/
theorem readWith_sound (source : Text) (c : Context) (file : Option Text) :
    (readWith .immutable source c file = .unreadable ↔ Unreadable source c)
      ∧ readWith .immutable source c file ≠ .lost
      ∧ (∀ tree tokens, Parses (.nonterminal c.start) tree tokens → ∃ v, tree.build = .ok v)
      ∧ ∀ p, readWith .immutable source c file = .read p →
        (∃ tree tokens eof v, Parses (.nonterminal c.start) tree tokens ∧ tree.build = .ok v
          ∧ p.root = Parsed.close c (Parsed.endOfFile file source eof) v)
        ∧ (∃ d vs, p.root = .node d vs) ∧ p.root.All NodeClass.Sound := by
  obtain ⟨hnone, hbuilds, hsound⟩ := parsePure?_sound source c file
  refine ⟨readWith_eq_unreadable.trans hnone, ?_, hbuilds, fun p h =>
    hsound p (readWith_immutable_eq_read.1 h)⟩
  rw [readWith_immutable]
  cases parsePure? source c file <;> simp

/-- The exact text of what is read from a source is the source, whatever was inserted or skipped
on the way. -/
theorem readWith_fullText (h : readWith .immutable source c file = .read p) :
    p.root.fullText? = .ok source :=
  parsePure?_fullText (readWith_immutable_eq_read.1 h)

/-- A block in which a second semicolon is skipped. -/
theorem readWith_fullText_skipped :
    ∃ p, readWith .immutable (Text.of "\x7b a; b;; \x7d") .statement none = .read p
      ∧ p.diagnostics.length = 1
      ∧ p.root.fullText? = .ok (Text.of "\x7b a; b;; \x7d") := by
  have hread : ((readWith .immutable (Text.of "\x7b a; b;; \x7d") .statement none).parsed?.map
      fun p => p.diagnostics.length) = some 1 := by decide +kernel
  obtain ⟨p, hp, hlen⟩ := Option.map_eq_some_iff.1 hread
  have hp := Reading.parsed?_eq_some.1 hp
  exact ⟨p, hp, hlen, readWith_fullText hp⟩

/-- **Every token and every repair is accounted for.**  The tokens of the tree that were read are
the lexemes without a report, in order and with their kinds, texts and places; the tokens that are
missing are those that are reported to be, in order and by kind. -/
theorem readWith_accounts (h : readWith .immutable source c file = .read p) :
    ∃ ls, Lexeme.scan? source = some ls
      ∧ List.Forall₂ (Lexeme.ReadAs file) (ls.filter fun l => !p.skips file l)
          (p.root.nodeTokens.filter Token.isRead)
      ∧ List.Forall₂ (fun (t : Token) d => ∀ k, Diagnostic.Misses file k d ↔ k = t.kind)
          (p.root.nodeTokens.filter (·.missing)) (p.diagnostics.filter Diagnostic.isMissing) :=
  parsePure?_accounts (readWith_immutable_eq_read.1 h)

/-- A struct without its closing brace, and a lexeme that is skipped. -/
theorem readWith_accounts_repaired :
    ∃ p, readWith .immutable (Text.of "struct S \x7b a: int, // one\n ) b: T\n/* end */") .unit none
        = .read p
      ∧ p.diagnostics.length = 2
      ∧ ∃ ls, Lexeme.scan? (Text.of "struct S \x7b a: int, // one\n ) b: T\n/* end */") = some ls
        ∧ List.Forall₂ (Lexeme.ReadAs none) (ls.filter fun l => !p.skips none l)
            (p.root.nodeTokens.filter Token.isRead)
        ∧ List.Forall₂ (fun (t : Token) d => ∀ k, Diagnostic.Misses none k d ↔ k = t.kind)
            (p.root.nodeTokens.filter (·.missing)) (p.diagnostics.filter Diagnostic.isMissing) := by
  have hread : ((readWith .immutable (Text.of "struct S \x7b a: int, // one\n ) b: T\n/* end */") .unit
      none).parsed?.map fun p => p.diagnostics.length) = some 2 := by decide +kernel
  obtain ⟨p, hp, hlen⟩ := Option.map_eq_some_iff.1 hread
  have hp := Reading.parsed?_eq_some.1 hp
  exact ⟨p, hp, hlen, readWith_accounts hp⟩

/-- **Spans slice the source**, with immutable lists or if no lexeme was skipped.  For every node of
what is read whose first and last token are not missing, the span is there and lies in the source,
and the text of the node is the slice of the source that the span names, whatever was inserted or
skipped inside. -/
theorem readWith_slices {m : Repair.Lists} (h : readWith m source c file = .read p)
    (hm : m = .immutable ∨ ∀ d ∈ p.diagnostics, d.isSkipped = false) :
    p.root.isNodeOf c.type = true ∧ p.root.All fun d vs => ∀ a z : Token,
      (Value.node d vs).nodeTokens.head? = some a → (Value.node d vs).nodeTokens.getLast? = some z →
      a.missing = false → z.missing = false → (Value.node d vs).Slices source := by
  have hpure : parsePure? source c file = some p := by
    rcases hm with rfl | hskipped
    · exact readWith_immutable_eq_read.1 h
    · exact (readWith_iff_pure hskipped).1 h
  exact parsePure?_slices hpure

/-- A struct in which a colon is missing and a parenthesis is skipped, between comments. -/
theorem readWith_slices_repaired :
    ∃ p, readWith .immutable (Text.of "// one\nstruct S \x7b a int ) \x7d /* end */") .member none
        = .read p
      ∧ p.diagnostics.length = 2
      ∧ p.root.Slices (Text.of "// one\nstruct S \x7b a int ) \x7d /* end */") := by
  have hread : ((readWith .immutable (Text.of "// one\nstruct S \x7b a int ) \x7d /* end */") .member
      none).parsed?.map fun p => (p.diagnostics.length, p.root.nodeTokens.head?.map (·.missing),
        p.root.nodeTokens.getLast?.map (·.missing))) = some (2, some false, some false) := by
    decide +kernel
  obtain ⟨p, hp, hshape⟩ := Option.map_eq_some_iff.1 hread
  have hp := Reading.parsed?_eq_some.1 hp
  simp only [Prod.mk.injEq, Option.map_eq_some_iff] at hshape
  obtain ⟨hlen, ⟨a, ha, hread⟩, z, hz, hread'⟩ := hshape
  obtain ⟨htype, hall⟩ := readWith_slices hp (.inl rfl)
  refine ⟨p, hp, hlen, ?_⟩
  cases hroot : p.root with
  | node d vs =>
    rw [hroot] at hall ha hz
    exact hall.1 a z ha hz hread hread'
  | _ =>
    rw [hroot] at htype
    exact absurd htype Bool.false_ne_true

end TreeQuote
