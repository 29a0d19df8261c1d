/-
TreeQuote/Proofs/Quote/RoundTrip.lean

Round trips from a source to its code and back.  Without default formatting nothing of the text of a
tree is lost: a modifier is dropped only where the text stays, and since the texts of the properties
follow each other in the text of a node, the property has the same text with it and without it.

Main statement: `reads_quoteText`.
-/
import TreeQuote.Proofs.Call.Reading
import TreeQuote.Proofs.Parse.Reading
import TreeQuote.Proofs.Quote.Legible
import TreeQuote.Proofs.Quote.Sift

namespace TreeQuote

namespace Value

/-! ### Spellings -/

/-- The texts of the tokens of a value, one after the other. -/
def spelling (v : Value) : Text := tokensText v.leaves

/-- The same for a list of values. -/
def spellings (vs : List Value) : Text := tokensText (leavesList vs)

@[simp] theorem spelling_node (c : NodeClass) (vs : List Value) :
    (Value.node c vs).spelling = spellings vs := rfl

@[simp] theorem spellings_cons (v : Value) (vs : List Value) :
    spellings (v :: vs) = v.spelling ++ spellings vs := by
  rw [spellings, leavesList_cons, tokensText_append, spelling, spellings]

theorem spellings_append (vs ws : List Value) :
    spellings (vs ++ ws) = spellings vs ++ spellings ws := by
  rw [spellings, leavesList_append, tokensText_append, spellings, spellings]

theorem spellings_congr {vs ws : List Value}
    (h : List.Forall₂ (fun v w => w.spelling = v.spelling) vs ws) :
    spellings ws = spellings vs := by
  induction h with
  | nil => rfl
  | cons hv _ ih => rw [spellings_cons, spellings_cons, hv, ih]

end Value

namespace Quote

open Evaluate Value

variable {o : Options}

/-! ### Trimming -/

/-- The spelling of a token whose trivia are all kept. -/
theorem spelling_reduced (ho : o.defaultFormatting = false) (t : Token) :
    (t.reduced o).fullText = t.fullText := by
  simp [Token.reduced, Options.keep, ho, Token.fullText, Token.withTrivia, Token.core]

/-- Sifting keeps the spelling. -/
theorem Sifts.spelling (ho : o.defaultFormatting = false) {c : NodeClass} {k : Kind}
    {done ws us : List Value} {fs : List Field} {parts : List Part}
    (h : Sifts o c k done fs parts ws us) : spellings us = spellings ws := by
  induction h with
  | nil => rfl
  | keep _ ih => rw [spellings_cons, spellings_cons, ih]
  | @drop done f fs part parts d w ws us _ _ _ _ _ _ htext _ ih =>
    have hsame : spellings (done ++ w :: baseline c k fs parts ws)
        = spellings (done ++ d :: baseline c k fs parts ws) := by
      rw [rendered, rendered, ho] at htext
      exact htext
    rw [spellings_append, spellings_append, spellings_cons, spellings_cons] at hsame
    have hpart := List.append_cancel_right (List.append_cancel_left hsame)
    rw [spellings_cons, spellings_cons, hpart, ih]

/-- Trimming keeps the spelling. -/
theorem lenient_spelling (ho : o.defaultFormatting = false) :
    Lenient o fun v w => w.spelling = v.spelling where
  none := rfl
  text _ := rfl
  kind _ := rfl
  absent := rfl
  token {t} ht := by
    have habsent : t.isAbsent = false := Value.WellFormed.isAbsent ht
    have hreduced : (t.reduced o).isAbsent = false := habsent
    simp only [Value.spelling, leaves, habsent, hreduced, Bool.false_eq_true, if_false,
      tokensText_cons, spelling_reduced ho]
  tokens h := spellings_congr h
  nodes h := spellings_congr h
  separated h := spellings_congr h
  node _ _ hws _ hsifts := (hsifts.spelling ho).trans (spellings_congr hws)

/-! ### Roots -/

/-- The tokens of what quoting leaves of a tree are what it leaves of the tokens. -/
theorem leaves_reduced_eq {v : Value} (h : v.WellFormed) :
    (v.retoken (Token.reduced o)).leaves = v.leaves.map (Token.reduced o) := by
  have hus := h.retokened (Token.reduced_absent o) fun _ => Token.WellFormed.reduced
  obtain ⟨c, vs, rfl⟩ := h.1
  rw [← h.leaves_places, ← hus.leaves_places, h.formed.places_retoken (keeps_reduced o),
    List.map_map, List.map_map]
  rfl

/-- Without default formatting the call for a tree, trimmed or not, builds a tree of the same
spelling. -/
theorem quote_spelling (ho : o.defaultFormatting = false) {c : NodeClass} {vs : List Value}
    (h : (Value.node c vs).WellFormed) (hc : c ≠ .documentationComment) :
    ∃ q us, TreeQuote.quote .standard o (.node c vs) = .ok q ∧ (Value.node c us).WellFormed
      ∧ (Value.node c us).spelling = (Value.node c vs).spelling
      ∧ eval .standard q = .ok (.node c us) := by
  cases hremove : o.removeRedundant with
  | true =>
    obtain ⟨q, us, hq, hus, htext, heval⟩ := (lenient_spelling ho).quote h hc hremove
    rw [ho] at heval
    exact ⟨q, us, hq, hus, htext, heval⟩
  | false =>
    obtain ⟨q, hq, heval⟩ := eval_quoteNode (o := o) h
    have hus := h.retokened (Token.reduced_absent o) fun _ => Token.WellFormed.reduced
    have hquote : TreeQuote.quote .standard o (.node c vs) = .ok q := by
      rw [TreeQuote.quote, quoteRoot, hq]
      simp only [Bind.bind, Except.bind, ho, hremove]
      rfl
    have hspelling : (Value.retoken (Token.reduced o) (.node c vs)).spelling
        = (Value.node c vs).spelling := by
      have hmap : ∀ ts : List Token, tokensText (ts.map (Token.reduced o)) = tokensText ts := by
        intro ts
        induction ts with
        | nil => rfl
        | cons t ts ih => rw [List.map_cons, tokensText_cons, tokensText_cons, ih, spelling_reduced ho]
      rw [Value.spelling, leaves_reduced_eq h, hmap, Value.spelling]
    rw [retoken_node] at heval hus hspelling
    exact ⟨q, _, hquote, hus, hspelling, heval⟩

/-- The call for a tree is legible, trimmed or not. -/
theorem quote_legible {c : NodeClass} {vs : List Value} {q : Call}
    (h : (Value.node c vs).WellFormed) (hq : TreeQuote.quote .standard o (.node c vs) = .ok q) :
    q.Legible := by
  rw [TreeQuote.quote] at hq
  obtain ⟨d, hd, hq⟩ := bind_eq_ok.mp hq
  have hd := mapError_eq_ok hd
  have hlegible : d.Legible := by
    rw [quoteRoot] at hd
    obtain ⟨e, he, hd⟩ := bind_eq_ok.mp hd
    have hlegible := quoteNode_legible h he
    cases hd
    split
    · exact modifiedBy_legible hlegible
    · exact hlegible
  split at hq
  · obtain ⟨⟨e, n⟩, he, hq⟩ := bind_eq_ok.mp hq
    cases hq
    exact Trim.trim_legible (mapError_eq_ok he) hlegible
  · cases hq
    exact hlegible

end Quote

/-- **The code of a text builds a tree with the text of the one that was read.**  Every text of which
a tree can be read is quoted, whatever was inserted or skipped on the way, and the code is read and
evaluated to a tree with the same text.  If no lexeme was skipped, that is the source. -/
theorem reads_quoteText {o : Options} (ho : o.defaultFormatting = false) {source : Text}
    {c : Grammar.Context} {p : Parsed} (hsource : Quotable source)
    (hread : parse? source c none = some p) :
    ∃ code q v text, quoteText .standard o source c = .ok code ∧ Code.read code = .ok q
      ∧ Evaluate.eval .standard q = .ok v
      ∧ p.root.fullText? = .ok text ∧ v.fullText? = .ok text
      ∧ ((∀ d ∈ p.diagnostics, d.isSkipped = false) → text = source) := by
  have hroot := parse?_wellFormed hsource hread
  have htype := (parse?_tree hread).1
  obtain ⟨d, vs, hnode⟩ : ∃ d vs, p.root = .node d vs := hroot.1
  rw [hnode] at hroot
  have hd : d ≠ .documentationComment := ne_documentation (hnode ▸ htype)
  obtain ⟨q, us, hq, hus, hspelling, heval⟩ := Quote.quote_spelling ho hroot hd
  have hlegible := Quote.quote_legible hroot hq
  obtain ⟨code, hprint, hcode⟩ := Code.read_of_print? o hlegible
  have htext : p.root.fullText? = .ok (Value.node d vs).spelling := hnode ▸ hroot.fullText? hd
  refine ⟨code, q, _, _, ?_, hcode, heval, htext, ?_, fun hskipped => ?_⟩
  · rw [quoteText, read_eq_read.2 hread]
    simp only [hnode, hq, Bind.bind, Except.bind, hprint]
    rfl
  · exact (hus.fullText? hd).trans (congrArg Except.ok hspelling)
  · have hpure := parsePure?_fullText ((parse?_iff_pure hskipped).1 hread)
    exact Except.ok.inj (htext.symm.trans hpure)

/-- A block with a second semicolon, which is skipped.  It was tried behind the statement before it, so
that one is in the tree twice, and the code builds both. -/
theorem reads_quoteText_repeated :
    ({ defaultFormatting := false, staticImport := true } : Options).defaultFormatting = false
      ∧ Quotable (Text.of "\x7b a; b;; \x7d")
      ∧ ∃ p, parse? (Text.of "\x7b a; b;; \x7d") .statement none = some p
        ∧ ∃ code q v, quoteText .standard { defaultFormatting := false, staticImport := true }
            (Text.of "\x7b a; b;; \x7d") .statement = .ok code
          ∧ Code.read code = .ok q ∧ Evaluate.eval .standard q = .ok v
          ∧ v.fullText? = .ok (Text.of "\x7b a; b;; b;; \x7d") := by
  have hread : ((parse? (Text.of "\x7b a; b;; \x7d") .statement none).map fun p =>
      p.root.fullText?.toOption) = some (some (Text.of "\x7b a; b;; b;; \x7d")) := by decide +kernel
  obtain ⟨p, hp, htext⟩ := Option.map_eq_some_iff.mp hread
  obtain ⟨ls, hls, hkinds⟩ : ∃ ls, Lexeme.scan? (Text.of "\x7b a; b;; \x7d") = some ls
      ∧ ls.map (·.kind) = [.openBraceToken, .identifierToken, .semicolonToken, .identifierToken,
          .semicolonToken, .semicolonToken, .closeBraceToken] :=
    Option.map_eq_some_iff.1 (by decide +kernel : (Lexeme.scan?
      (Text.of "\x7b a; b;; \x7d")).map (List.map (·.kind)) = some _)
  have hsource : Quotable (Text.of "\x7b a; b;; \x7d") := by
    refine ⟨by decide, fun ls' hls' l hl => ?_⟩
    cases hls.symm.trans hls'
    have hk : l.kind ∈ ls.map (·.kind) := List.mem_map_of_mem hl
    rw [hkinds] at hk
    refine ⟨fun h => ?_, fun h => ?_⟩ <;> rw [h] at hk <;> exact absurd hk (by decide)
  have ho : ({ defaultFormatting := false, staticImport := true } : Options).defaultFormatting
      = false := rfl
  obtain ⟨code, q, v, text, hcode, hcall, heval, hroot, hv, -⟩ := reads_quoteText ho hsource hp
  rw [hroot] at htext
  obtain rfl := Option.some.inj htext
  exact ⟨ho, hsource, p, hp, code, q, v, hcode, hcall, heval, hv⟩

end TreeQuote
