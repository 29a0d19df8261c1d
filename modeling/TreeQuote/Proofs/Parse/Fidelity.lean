/-
TreeQuote/Proofs/Parse/Fidelity.lean

The tree that is read from a text with immutable lists is the text.  The machine gives the
shape of the tree, with the tokens that were fed at its leaves; dressing gives the tokens, which
tile the text; refilling puts them together.  `ReadFrom` collects what is known about the
result, and everything later that is about trees that were read starts from it.

Main statements:
* `parsePure?_readFrom`: what is read is a tree of the grammar whose leaves spell the source;
* **`parsePure?_fullText`**: the exact text of what is read is the source.
-/
import TreeQuote.Parse.Basic
import TreeQuote.Proofs.Grammar.Exchange
import TreeQuote.Proofs.Parse.Dressing

namespace TreeQuote

open Grammar Dressing

/-- The type of the trees that a context gives. -/
def Grammar.Context.type : Context → NodeType
  | .unit => .cls .compilationUnit
  | .member => .category .member
  | .statement => .category .statement
  | .expression => .category .expression

theorem Grammar.Context.start_form (c : Context) : c.start.form = .node c.type := by
  cases c <;> rfl

/-- The root is a tree of the grammar whose leaves spell the source. -/
structure ReadFrom (source : Text) (c : Context) (root : Value) : Prop where
  type : root.isNodeOf c.type = true
  grown : root.All Grows
  dressed : ∀ t ∈ root.leaves, Dressed t
  text : Value.tokensText root.leaves = source

/-! ### Parsing step by step -/

/-- What parsing is made of: lexemes, a run of the machine, and dressed tokens. -/
theorem parsePure?_steps {source : Text} {c : Context} {file : Option Text} {p : Parsed}
    (h : parsePure? source c file = some p) :
    ∃ ls r tokens eof, Lexeme.scan? source = some ls ∧ Repair.run? c ls = some r
      ∧ dress file c (Gap.scan source (skipped r.steps)) source.length r.fed = some (tokens, eof)
      ∧ p.root = Parsed.close c (Parsed.endOfFile file source eof) (r.tree.refill tokens).1 := by
  simp only [parsePure?, Option.bind_eq_bind, Option.bind_eq_some_iff] at h
  obtain ⟨ls, hls, r, hr, ⟨tokens, eof⟩, hdress, hp⟩ := h
  cases hp
  exact ⟨ls, r, tokens, eof, hls, hr, hdress, rfl⟩

/-- A unit that is not closed yet lacks its end. -/
theorem unit_fields {vs : List Value} (h : Grows .compilationUnit vs)
    (hend : ∀ t ∈ Value.leavesList vs, t.kind ≠ .endOfFileToken) :
    ∃ imports members, vs = [imports, members, .token .absent]
      ∧ (Form.nodes (.cls .importDirective)).Holds imports
      ∧ (Form.nodes (.category .member)).Holds members := by
  obtain ⟨hslots, -⟩ := h
  cases hslots with
  | @cons _ imports _ _ himports hslots =>
    cases hslots with
    | @cons _ members _ _ hmembers hslots =>
      cases hslots with
      | @cons _ last _ _ hlast hnil =>
        cases hnil
        obtain rfl | ⟨t, rfl, ht⟩ := hlast
        · exact ⟨imports, members, rfl, himports, hmembers⟩
        · have hk : t.kind = .endOfFileToken := List.mem_singleton.1 ht
          exact absurd hk (hend t (by simp [Value.leaves, Token.isAbsent, hk]))

/-- Closing a unit puts the end of the file behind its leaves. -/
theorem close_unit {v : Value} (hv : v.isNodeOf (.cls .compilationUnit) = true) (hgrown : v.All Grows)
    (hend : ∀ t ∈ v.leaves, t.kind ≠ .endOfFileToken) {eof : Token}
    (heof : eof.kind = .endOfFileToken) :
    (Parsed.close .unit eof v).isNodeOf (.cls .compilationUnit) = true
      ∧ (Parsed.close .unit eof v).All Grows
      ∧ (Parsed.close .unit eof v).leaves = v.leaves ++ [eof] := by
  cases v with
  | node d vs =>
    obtain rfl : d = .compilationUnit := by simpa [Value.isNodeOf, NodeType.holds] using hv
    obtain ⟨imports, members, rfl, himports, hmembers⟩ := unit_fields hgrown.1 hend
    refine ⟨rfl, ⟨⟨?_, fun hc => absurd rfl hc⟩, hgrown.2.1, hgrown.2.2.1, trivial, trivial⟩, ?_⟩
    · exact .cons himports (.cons hmembers (.cons (Or.inr ⟨eof, rfl, by simp [heof]⟩) .nil))
    · simp [Parsed.close, Value.leaves, Token.isAbsent, heof, Token.absent]
  | _ => exact absurd hv Bool.false_ne_true

/-- Elsewhere closing changes nothing. -/
theorem close_of_ne_unit {c : Context} (hc : c ≠ .unit) (eof : Token) (v : Value) :
    Parsed.close c eof v = v := by
  unfold Parsed.close
  split
  · rw [if_neg hc]
  · rfl

/-- A tree that is derived for a context is of its type, in the grammar, and has the tokens as its leaves. -/
theorem Grammar.Yields.tree {c : Context} {tree : Value} {ts : List Token}
    (h : Yields (.nonterminal c.start) [tree] ts) :
    tree.isNodeOf c.type = true ∧ tree.All Grows ∧ tree.leaves = ts := by
  obtain ⟨htakes, hgrown, hleaves⟩ := h.grown
  rw [c.start_form] at htakes
  obtain ⟨v, hv, htype⟩ := htakes
  obtain rfl : tree = v := by simpa using hv
  rw [Value.leavesList_cons, Value.leavesList_nil, List.append_nil] at hleaves
  exact ⟨htype, hgrown _ List.mem_cons_self, hleaves⟩

/-- Refilled with tokens of the same kinds, it is a tree of the grammar with these leaves. -/
theorem refill_yields {c : Context} {tree : Value} {ts tokens : List Token}
    (h : Yields (.nonterminal c.start) [tree] ts) (hkinds : Value.kinds tokens = Value.kinds ts) :
    (tree.refill tokens).1.isNodeOf c.type = true ∧ (tree.refill tokens).1.All Grows
      ∧ (tree.refill tokens).1.leaves = tokens := by
  obtain ⟨htype, htree, hleaves⟩ := h.tree
  rw [← hleaves] at hkinds
  obtain ⟨halike, hrefill⟩ := Value.refill_of_kinds hkinds
  exact ⟨Alike.isNodeOf halike htype, Alike.grown _ _ halike htree, hrefill⟩

/-! ### The tree and its text -/

section Steps

variable {source : Text} {c : Context} {file : Option Text} {ls : List Lexeme} {r : Repair.Run}

/-- The gaps between what was read spell the source. -/
theorem scan_spelling (hls : Lexeme.scan? source = some ls) (hr : Repair.run? c ls = some r) :
    Spelling source (Gap.scan source (skipped r.steps)) := by
  have hsteps := Repair.run?_steps hr
  have hskip : Gap.Stand source (skipped r.steps) :=
    Gap.stand_of_scan hls fun l hl => hsteps ▸ skipped_subset _ l hl
  exact fun start stop => ⟨Gap.scan_fullText hskip start stop, Gap.scan_scanned hskip start stop⟩

/-- What was read is part of the lexemes, in their order. -/
theorem reads_sublist (hr : Repair.run? c ls = some r) : (reads r.fed).Sublist ls := by
  rw [Repair.Run.fed, reads_append, reads_inserted_all, List.append_nil]
  exact Repair.run?_steps hr ▸ reads_fed_sublist r.steps

/-- A text that is no unit is made of at least one token. -/
theorem fed_ne_nil (hr : Repair.run? c ls = some r) (hc : c ≠ .unit) : r.fed ≠ [] := by
  intro hnil
  have hnull := (Repair.run?_yields hr).nullable (by rw [hnil]; rfl) _ List.mem_cons_self
  cases c with
  | unit => exact hc rfl
  | _ => exact absurd hnull Bool.false_ne_true

/-- The dressed tokens tile the source. -/
theorem dress_run (hls : Lexeme.scan? source = some ls) (hr : Repair.run? c ls = some r)
    {tokens : List Token} {eof : List Trivia}
    (hdress : dress file c (Gap.scan source (skipped r.steps)) source.length r.fed
      = some (tokens, eof)) : Tiles c source r.fed [] tokens eof := by
  have hsub := reads_sublist hr
  refine dress_tiles (scan_spelling hls hr) ((Lexeme.scan?_lies hls).sublist hsub) ?_
    (fed_ne_nil hr) hdress
  exact fun l hl => Lexeme.scan?_spelled hls l (hsub.subset hl)

/-- The tree of a run refilled with dressed tokens is a tree of the grammar with these leaves. -/
theorem refill_run (hr : Repair.run? c ls = some r) {tokens : List Token}
    (hkinds : Value.kinds tokens = Value.kinds (r.fed.map Fed.plain)) :
    (r.tree.refill tokens).1.isNodeOf c.type = true ∧ (r.tree.refill tokens).1.All Grows
      ∧ (r.tree.refill tokens).1.leaves = tokens :=
  refill_yields (Repair.run?_yields hr) hkinds

/-- No token that was fed is the end of the file. -/
theorem kind_ne_end (hr : Repair.run? c ls = some r) {tokens : List Token}
    (hkinds : Value.kinds tokens = Value.kinds (r.fed.map Fed.plain)) :
    ∀ t ∈ tokens, t.kind ≠ .endOfFileToken := by
  intro t ht
  have hmem : t.kind ∈ Value.kinds (r.fed.map Fed.plain) := by
    rw [← hkinds]
    exact List.mem_map_of_mem ht
  obtain ⟨u, hu, hk⟩ := List.mem_map.1 hmem
  rw [← hk]
  exact (Repair.run?_yields hr).kind_ne_end (by simp) u hu

end Steps

/-- What is read is a tree of the grammar whose leaves spell the source. -/
theorem parsePure?_readFrom {source : Text} {c : Context} {file : Option Text} {p : Parsed}
    (h : parsePure? source c file = some p) : ReadFrom source c p.root := by
  obtain ⟨ls, r, tokens, eof, hls, hr, hdress, hroot⟩ := parsePure?_steps h
  have htiles := dress_run hls hr hdress
  obtain ⟨htype, hgrown, hleaves⟩ := refill_run hr htiles.kinds
  have htext := htiles.text
  rw [Trivia.fullText_nil, List.nil_append] at htext
  rw [hroot]
  by_cases hc : c = .unit
  · subst hc
    have hend : ∀ t ∈ (r.tree.refill tokens).1.leaves, t.kind ≠ .endOfFileToken := by
      rw [hleaves]
      exact kind_ne_end hr htiles.kinds
    have heof : (Parsed.endOfFile file source eof).kind = .endOfFileToken := rfl
    obtain ⟨htype', hgrown', hleaves'⟩ := close_unit htype hgrown hend heof
    refine ⟨htype', hgrown', fun t ht => ?_, ?_⟩
    · rw [hleaves', hleaves] at ht
      rcases List.mem_append.1 ht with ht | ht
      · exact htiles.dressed t ht
      · obtain rfl := List.mem_singleton.1 ht
        exact ⟨.fixed rfl, htiles.eof_scanned, by simp [Parsed.endOfFile]⟩
    · rw [hleaves', hleaves, Value.tokensText_append]
      simpa [Token.fullText, Parsed.endOfFile] using htext
  · rw [close_of_ne_unit hc]
    refine ⟨htype, hgrown, fun t ht => htiles.dressed t (hleaves ▸ ht), ?_⟩
    rw [hleaves]
    simpa [htiles.eof_unit hc] using htext

/-- No context is read as documentation. -/
theorem ne_documentation {c : Context} {d : NodeClass} {vs : List Value}
    (h : (Value.node d vs).isNodeOf c.type = true) : d ≠ .documentationComment := by
  rintro rfl
  have hholds : c.type.holds .documentationComment = true := h
  cases c <;> exact absurd hholds (by decide)

/-- The text of a node of the grammar is the texts of its leaves. -/
theorem fullText?_grown {v : Value} (htype : ∃ t : Context, v.isNodeOf t.type = true)
    (hgrown : v.All Grows) (hdressed : ∀ t ∈ v.leaves, Dressed t) :
    v.fullText? = .ok (Value.tokensText v.leaves) := by
  obtain ⟨c, hc⟩ := htype
  cases v with
  | node d vs =>
    have hd := ne_documentation hc
    have htext : (Value.node d vs).fullText? = Value.tokenTextList? vs := by
      cases d <;> first | exact absurd rfl hd | rfl
    rw [htext]
    exact Value.tokenTextList?_leaves (fun _ _ hq => hq.plain) vs hgrown.1.plain hgrown.2
      fun t ht => (hdressed t ht).fullText?
  | _ => exact absurd hc Bool.false_ne_true

/-- The exact text of what is read from a source is the source, whatever was inserted or skipped
on the way. -/
theorem parsePure?_fullText {source : Text} {c : Context} {file : Option Text} {p : Parsed}
    (h : parsePure? source c file = some p) : p.root.fullText? = .ok source := by
  obtain ⟨htype, hgrown, hdressed, htext⟩ := parsePure?_readFrom h
  rw [fullText?_grown ⟨c, htype⟩ hgrown hdressed, htext]

end TreeQuote
