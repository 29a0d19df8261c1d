/-
TreeQuote/Proofs/Parse/Span.lean

Spans slice the source.  `Placed pos ts` says that the tokens stand one behind the other from `pos`
on: a token that was read has the span of its own text, behind the trivia that leads it, and a
token that was inserted has none.  Dressing places its tokens, and the end of the file is placed
behind them.  The leaves of a node are a stretch of those of the root, so they are placed too; if
the first and the last of them were read, then the span of the node is what they span and its text
is the slice in between.

    source = before ++ leading trivia ++ text of the node ++ trailing trivia ++ after

Main statement: `parsePure?_slices`.
-/
import TreeQuote.Proofs.Grammar.Refill
import TreeQuote.Proofs.Parse.Report

namespace TreeQuote

open Grammar Dressing

/-! ### Tokens in their places -/

/-- The span of the token is that of its text, if the token with its trivia starts at `pos`. -/
def Token.StandsAt (t : Token) (pos : Nat) : Prop :=
  ∃ s : Span, t.span = some s ∧ s.start = some ↑(pos + (Trivia.fullText t.leading).length)
    ∧ s.stop = some ↑(pos + (Trivia.fullText t.leading).length + t.text.length)

/-- Tokens one behind the other, the first of which starts at `pos`. -/
inductive Placed : Nat → List Token → Prop where
  | nil (pos : Nat) : Placed pos []
  | missing {pos : Nat} {t : Token} {ts : List Token} (ht : t.missing = true) (hspan : t.span = none)
    (h : Placed (pos + t.fullText.length) ts) : Placed pos (t :: ts)
  | read {pos : Nat} {t : Token} {ts : List Token} (ht : t.missing = false) (hspan : t.StandsAt pos)
    (h : Placed (pos + t.fullText.length) ts) : Placed pos (t :: ts)

namespace Placed

variable {pos : Nat} {ts us : List Token}

theorem append (hts : Placed pos ts) (hus : Placed (pos + (Value.tokensText ts).length) us) :
    Placed pos (ts ++ us) := by
  induction hts with
  | nil => exact hus
  | missing ht hspan _ ih =>
    refine .missing ht hspan (ih ?_)
    rwa [Value.tokensText_cons, List.length_append, ← Nat.add_assoc] at hus
  | read ht hspan _ ih =>
    refine .read ht hspan (ih ?_)
    rwa [Value.tokensText_cons, List.length_append, ← Nat.add_assoc] at hus

theorem left (h : Placed pos (ts ++ us)) : Placed pos ts := by
  induction ts generalizing pos with
  | nil => exact .nil pos
  | cons t ts ih =>
    cases h with
    | missing ht hspan h => exact .missing ht hspan (ih h)
    | read ht hspan h => exact .read ht hspan (ih h)

theorem right (h : Placed pos (ts ++ us)) : Placed (pos + (Value.tokensText ts).length) us := by
  induction ts generalizing pos with
  | nil => exact h
  | cons t ts ih =>
    rw [Value.tokensText_cons, List.length_append, ← Nat.add_assoc]
    cases h with
    | missing ht hspan h => exact ih h
    | read ht hspan h => exact ih h

/-- The first token, if it was read, stands where all of them start. -/
theorem head {t : Token} (h : Placed pos (t :: ts)) (ht : t.missing = false) : t.StandsAt pos := by
  cases h with
  | missing hmissing =>
    rw [ht] at hmissing
    cases hmissing
  | read _ hspan => exact hspan

end Placed

/-! ### Dressing places tokens -/

namespace Dressing

variable {source : Text} {gaps : Gaps} {file : Option Text} {c : Context}

/-- A token that was read stands behind its trivia, where its lexeme starts. -/
theorem token?_placed {l : Lexeme} {u : Token} (hu : token? file l = some u) (hbares : Bares l u)
    {pos : Nat} {lead trailing : List Trivia} {ts : List Token}
    (hstart : l.start.offset = pos + (Trivia.fullText lead).length)
    (hstop : l.stop.offset = l.start.offset + l.text.length)
    (h : Placed (l.stop.offset + (Trivia.fullText trailing).length) ts) :
    Placed pos (u.withTrivia lead trailing :: ts) := by
  have hspan : u.span = some (l.span file) := token?_span hu
  have hnext : pos + (u.withTrivia lead trailing).fullText.length
      = l.stop.offset + (Trivia.fullText trailing).length := by
    rw [fullText_bares hbares, List.length_append, List.length_append, hstop, hstart]
    omega
  refine .read hbares.missing ⟨l.span file, hspan, ?_, ?_⟩ (hnext ▸ h)
  · show some (l.start.offset : Int) = _
    rw [hstart]
    rfl
  · show some (l.stop.offset : Int) = some ↑(pos + (Trivia.fullText lead).length + u.text.length)
    rw [hstop, hstart, hbares.text]

theorem length_split (gap : List Trivia) :
    (Trivia.fullText (Gap.splitTrailing gap).1).length
      + (Trivia.fullText (Gap.splitTrailing gap).2).length = (Trivia.fullText gap).length := by
  rw [← List.length_append, fullText_split]

theorem missingOf_placed {pos : Nat} {ts : List Token} (k : Kind) (h : Placed pos ts) :
    Placed pos (.missingOf k :: ts) :=
  .missing rfl rfl h

/-- The tokens behind one that was read stand behind the trivia that trails it. -/
theorem dressAfter_placed (hgaps : Spelling source gaps) {fs : List Fed} {before t : Text}
    (hsource : source = before ++ t) (hlies : Lexeme.Lies before.length t (reads fs))
    (hspells : ∀ l ∈ reads fs, Lexeme.Spells l.kind l.text) {trail : List Trivia} {ts : List Token}
    {eof : List Trivia}
    (h : dressAfter file c gaps source.length before.length fs = some (trail, ts, eof)) :
    Placed (before.length + (Trivia.fullText trail).length) ts := by
  induction fs generalizing before t trail ts eof with
  | nil =>
    cases h
    exact .nil _
  | cons f fs ih =>
    cases f with
    | inserted k =>
      obtain ⟨⟨trail', ts', eof'⟩, hrest, heq⟩ := Option.map_eq_some_iff.1 h
      cases heq
      exact missingOf_placed k (ih hsource hlies hspells hrest)
    | read l =>
      simp only [dressAfter, Option.bind_eq_bind, Option.bind_eq_some_iff, Prod.exists] at h
      obtain ⟨u, hu, trailing, us, eof', hrest, heq⟩ := h
      cases heq
      rw [reads_read] at hlies hspells
      have hbares := token?_bares (hspells l List.mem_cons_self) hu
      cases hlies with
      | @cons _ gap rest _ _ hstart hstop hne hlies =>
        have htext := (hgaps before.length l.start.offset).1
        have hgap : source.slice before.length l.start.offset = gap := by
          rw [hsource, hstart, List.append_assoc]
          exact Text.slice_append before gap _
        have hlen : (before ++ (gap ++ l.text)).length = l.stop.offset := by
          simp only [List.length_append, hstop, hstart]
          omega
        have hsplit := length_split (gaps before.length l.start.offset)
        rw [htext, hgap] at hsplit
        rw [← hlen] at hrest hlies
        have hplaced := ih (by simp [hsource]) hlies
          (fun m hm => hspells m (List.mem_cons_of_mem _ hm)) hrest
        rw [hlen] at hplaced
        exact token?_placed hu hbares (by omega) hstop hplaced

/-- Dressed tokens stand one behind the other from the start of the source. -/
theorem dress_placed (hgaps : Spelling source gaps) {fs : List Fed}
    (hlies : Lexeme.Lies 0 source (reads fs))
    (hspells : ∀ l ∈ reads fs, Lexeme.Spells l.kind l.text) {ts : List Token} {eof : List Trivia}
    (h : dress file c gaps source.length fs = some (ts, eof)) : Placed 0 ts := by
  induction fs generalizing ts eof with
  | nil =>
    cases h
    exact .nil 0
  | cons f fs ih =>
    cases f with
    | inserted k =>
      cases fs with
      | nil =>
        rw [dress] at h
        split at h
        · cases h
          exact missingOf_placed k (.nil 0)
        · cases h
          exact .missing rfl rfl (.nil _)
      | cons g fs =>
        obtain ⟨⟨ts', eof'⟩, hrest, heq⟩ := Option.map_eq_some_iff.1 h
        cases heq
        exact missingOf_placed k (ih hlies hspells hrest)
    | read l =>
      simp only [dress, Option.bind_eq_bind, Option.bind_eq_some_iff, Prod.exists] at h
      obtain ⟨u, hu, trailing, us, eof', hrest, heq⟩ := h
      cases heq
      rw [reads_read] at hlies hspells
      have hbares := token?_bares (hspells l List.mem_cons_self) hu
      generalize hsource : source = t at hlies
      cases hlies with
      | @cons _ gap rest _ _ hstart hstop hne hlies =>
        have htext := (hgaps 0 l.start.offset).1
        have hgap : source.slice 0 l.start.offset = gap := by
          rw [hsource, hstart, List.append_assoc]
          exact Text.slice_append [] gap _
        have hlen : (gap ++ l.text).length = l.stop.offset := by
          simp only [List.length_append, hstop, hstart]
          omega
        rw [hgap] at htext
        rw [← hlen] at hrest hlies
        have hplaced := dressAfter_placed hgaps hsource hlies
          (fun m hm => hspells m (List.mem_cons_of_mem _ hm)) hrest
        rw [hlen] at hplaced
        exact token?_placed hu hbares (by rw [htext]; exact hstart) hstop hplaced

end Dressing

/-- The tokens of what is read stand one behind the other from the start of the source. -/
theorem parsePure?_placed {source : Text} {c : Context} {file : Option Text} {p : Parsed}
    (h : parsePure? source c file = some p) : Placed 0 p.root.leaves := by
  obtain ⟨ls, r, tokens, eof, hls, hr, hdress, hroot⟩ := parsePure?_steps h
  have hsub := reads_sublist hr
  have hplaced := dress_placed (scan_spelling hls hr) ((Lexeme.scan?_lies hls).sublist hsub)
    (fun l hl => Lexeme.scan?_spelled hls l (hsub.subset hl)) hdress
  have htiles := dress_run hls hr hdress
  obtain ⟨htype, hgrown, hleaves⟩ := refill_run hr htiles.kinds
  rw [hroot]
  by_cases hc : c = .unit
  · subst hc
    have hend : ∀ t ∈ (r.tree.refill tokens).1.leaves, t.kind ≠ .endOfFileToken := by
      rw [hleaves]
      exact kind_ne_end hr htiles.kinds
    have heof : (Parsed.endOfFile file source eof).kind = .endOfFileToken := rfl
    obtain ⟨-, -, hleaves'⟩ := close_unit htype hgrown hend heof
    rw [hleaves', hleaves]
    -- The end of the file stands behind all there is.
    have hlen := congrArg List.length htiles.text
    rw [Trivia.fullText_nil, List.nil_append, List.length_append] at hlen
    refine hplaced.append (.read rfl ⟨_, rfl, ?_, ?_⟩ (.nil _))
    · rw [Nat.zero_add]
      exact congrArg (fun n : Nat => some (n : Int)) hlen.symm
    · rw [Nat.zero_add]
      exact congrArg (fun n : Nat => some (n : Int)) hlen.symm
  · rw [close_of_ne_unit hc, hleaves]
    exact hplaced

/-! ### The text of a node -/

namespace Value

/-- The places hold dressed tokens as they are. -/
def HoldsDressed (ps : List Place) : Prop := ∀ p ∈ ps, p.held = .token p.token ∧ Dressed p.token

theorem leading_text {p : Place} (h : p.held = .token p.token) (ht : Dressed p.token) :
    p.held.leading.fullText? = .ok (Trivia.fullText p.token.leading) := by
  rw [h]
  exact Trivia.fullText?_eq_ok fun q hq => (ht.leading q hq).built.flaw

theorem trailing_text {p : Place} (h : p.held = .token p.token) (ht : Dressed p.token) :
    p.held.trailing.fullText? = .ok (Trivia.fullText p.token.trailing) := by
  rw [h]
  exact Trivia.fullText?_eq_ok fun q hq => (ht.trailing q hq).built.flaw

theorem held_text {p : Place} (h : p.held = .token p.token) (ht : Dressed p.token) :
    p.held.fullText? = .ok p.token.fullText := by
  rw [h]
  exact ht.fullText?

/-- What stands behind the first token is all but what trails the last. -/
theorem restText?_eq {p : Place} {ps : List Place} (h : HoldsDressed (p :: ps)) :
    ∃ rest, restText? p ps = .ok rest ∧ tokensText ((p :: ps).map (·.token))
      = rest ++ Trivia.fullText ((p :: ps).getLast (List.cons_ne_nil p ps)).token.trailing := by
  induction ps generalizing p with
  | nil =>
    obtain ⟨hheld, hdressed⟩ := h p List.mem_cons_self
    refine ⟨Trivia.fullText p.token.leading ++ p.token.text, ?_, ?_⟩
    · rw [restText?, leading_text hheld hdressed]
      rfl
    · simp [tokensText, Token.fullText]
  | cons q ps ih =>
    obtain ⟨hheld, hdressed⟩ := h p List.mem_cons_self
    obtain ⟨rest, hrest, htext⟩ := ih fun x hx => h x (List.mem_cons_of_mem p hx)
    refine ⟨p.token.fullText ++ rest, ?_, ?_⟩
    · rw [restText?, held_text hheld hdressed, hrest]
      rfl
    · rw [List.map_cons, tokensText_cons, htext, List.append_assoc,
        List.getLast_cons (List.cons_ne_nil q ps)]

/-- The text of some tokens is all but what leads the first and what trails the last. -/
theorem innerText?_eq {p : Place} {ps : List Place} (h : HoldsDressed (p :: ps)) :
    ∃ inner, innerText? (p :: ps) = .ok inner ∧ tokensText ((p :: ps).map (·.token))
      = Trivia.fullText p.token.leading ++ (inner
        ++ Trivia.fullText ((p :: ps).getLast (List.cons_ne_nil p ps)).token.trailing) := by
  obtain ⟨hheld, hdressed⟩ := h p List.mem_cons_self
  cases ps with
  | nil => exact ⟨p.token.text, rfl, by simp [tokensText, Token.fullText]⟩
  | cons q ps =>
    obtain ⟨rest, hrest, htext⟩ := restText?_eq fun x hx => h x (List.mem_cons_of_mem p hx)
    refine ⟨p.token.text ++ Trivia.fullText p.token.trailing ++ rest, ?_, ?_⟩
    · rw [innerText?, trailing_text hheld hdressed, hrest]
      rfl
    · rw [List.map_cons, tokensText_cons, htext, List.getLast_cons (List.cons_ne_nil q ps)]
      simp [Token.fullText]

/-- The span and the text of the value are one slice of the source. -/
def Slices (source : Text) (v : Value) : Prop :=
  ∃ (s : Span) (start stop : Nat), v.span? = some s ∧ s.start = some ↑start ∧ s.stop = some ↑stop
    ∧ start ≤ stop ∧ stop ≤ source.length ∧ v.text? = .ok (source.slice start stop)

/-- The span of a value goes from the first to the last token, if these have spans. -/
theorem span?_eq {v : Value} {a z : Token} {s e : Span} (ha : v.nodeTokens.head? = some a)
    (hz : v.nodeTokens.getLast? = some z) (hs : a.span = some s) (he : z.span = some e) :
    v.span? = some (s.cover e) := by
  obtain ⟨ts, hts⟩ := List.head?_eq_some_iff.1 ha
  obtain ⟨us, hus⟩ := List.getLast?_eq_some_iff.1 hz
  have hhead : (v.nodeTokens.filterMap (·.span)).head? = some s := by
    rw [hts, List.filterMap_cons_some hs, List.head?_cons]
  have hlast : (v.nodeTokens.filterMap (·.span)).getLast? = some e := by
    rw [hus, List.filterMap_append, List.filterMap_cons_some he, List.filterMap_nil,
      List.getLast?_concat]
  simp only [span?, hhead, hlast]

/-- A value whose tokens are a stretch of the source, placed and dressed, slices it. -/
theorem slices_of_places {v : Value} {before after source : Text} (hheld : HoldsDressed v.places)
    (hplaced : Placed before.length v.nodeTokens)
    (hsource : source = before ++ (tokensText v.nodeTokens ++ after)) {a z : Token}
    (ha : v.nodeTokens.head? = some a) (hz : v.nodeTokens.getLast? = some z)
    (hread : a.missing = false) (hread' : z.missing = false) : v.Slices source := by
  obtain ⟨us, hus⟩ := List.getLast?_eq_some_iff.1 hz
  cases hps : v.places with
  | nil => simp [nodeTokens, hps] at ha
  | cons p ps =>
    obtain ⟨inner, hinner, htext⟩ := innerText?_eq (hps ▸ hheld)
    have htokens : v.nodeTokens = (p :: ps).map (·.token) := by rw [nodeTokens, hps]
    obtain rfl : p.token = a := by simpa [htokens] using ha
    obtain rfl : ((p :: ps).getLast (List.cons_ne_nil p ps)).token = z := by
      rw [htokens, List.getLast?_map, List.getLast?_eq_getLast_of_ne_nil (List.cons_ne_nil p ps),
        Option.map_some, Option.some.injEq] at hz
      exact hz
    rw [← htokens] at htext
    generalize hlast : ((p :: ps).getLast (List.cons_ne_nil p ps)).token = z at *
    obtain ⟨s, hs, hstart, -⟩ : p.token.StandsAt before.length := by
      rw [htokens, List.map_cons] at hplaced
      exact hplaced.head hread
    obtain ⟨e, he, -, hstop⟩ : z.StandsAt (before.length + (tokensText us).length) := by
      rw [hus] at hplaced
      exact hplaced.right.head hread'
    -- The last token ends where the text does.
    have hlen := congrArg List.length htext
    rw [hus, tokensText_append] at hlen
    simp only [tokensText_cons, tokensText_nil, List.append_nil, List.length_append,
      Token.fullText] at hlen
    refine ⟨s.cover e, before.length + (Trivia.fullText p.token.leading).length,
      before.length + (Trivia.fullText p.token.leading).length + inner.length,
      span?_eq ha hz hs he, hstart, hstop.trans ?_, Nat.le_add_right _ _, ?_, ?_⟩
    · congr 2
      omega
    · rw [hsource, htext]
      simp only [List.length_append]
      omega
    · have hslice := Text.slice_append (before ++ Trivia.fullText p.token.leading) inner
        (Trivia.fullText z.trailing ++ after)
      rw [text?, hps, hinner, hsource, htext]
      simp only [List.append_assoc, List.length_append] at hslice ⊢
      rw [hslice]

end Value

/-! ### Nodes of a tree -/

namespace Grammar

/-- What holds of every node of the grammar whose leaves are a stretch of some tokens holds of all
nodes in a value whose leaves are one. -/
theorem all_of_part {Q : NodeClass → List Value → Prop} {ts : List Token}
    (hQ : ∀ c vs, (Value.node c vs).All Grows → Value.leavesList vs <:+: ts → Q c vs) (v : Value)
    (hv : v.Plain) (hgrown : v.All Grows) (hleaves : v.leaves <:+: ts) : v.All Q := by
  induction v using Value.induction with
  | h v ih =>
    have hbelow : ∀ w ∈ v.children, w.All Q := fun w hw =>
      ih w hw (plain_children hv hgrown hw) (hgrown.children w hw) ((leaves_part hv hw).trans hleaves)
    cases v with
    | framed => exact hv.elim
    | array => exact hv.elim
    | tokens vs => exact Value.allList_iff.2 hbelow
    | nodes vs => exact Value.allList_iff.2 hbelow
    | separated vs => exact Value.allList_iff.2 hbelow
    | node c vs => exact Value.all_node.2 ⟨hQ c vs hgrown hleaves, hbelow⟩
    | _ => trivial

end Grammar

/-- **Spans slice the source.**  For every node of what is read whose first and last token are not
missing, the span is there and lies in the source, and the text of the node is the slice of the
source that the span names, whatever was inserted or skipped inside. -/
theorem parsePure?_slices {source : Text} {c : Context} {file : Option Text} {p : Parsed}
    (h : parsePure? source c file = some p) :
    p.root.isNodeOf c.type = true ∧ p.root.All fun d vs => ∀ a z : Token,
      (Value.node d vs).nodeTokens.head? = some a → (Value.node d vs).nodeTokens.getLast? = some z →
      a.missing = false → z.missing = false → (Value.node d vs).Slices source := by
  obtain ⟨htype, hgrown, hdressed, htext⟩ := parsePure?_readFrom h
  refine ⟨htype, all_of_part ?_ p.root (isItem_of_isNodeOf htype).plain hgrown (List.infix_refl _)⟩
  intro d vs hnode hleaves a z ha hz hread hread'
  obtain ⟨before, after, hsplit⟩ := hleaves
  have hplaced : Placed 0 (before ++ (Value.leavesList vs ++ after)) := by
    rw [← List.append_assoc, hsplit]
    exact parsePure?_placed h
  have hplaced' := hplaced.right.left
  rw [Nat.zero_add, ← Value.nodeTokens_node d vs] at hplaced'
  have hsource : source
      = Value.tokensText before ++ (Value.tokensText (Value.node d vs).nodeTokens
        ++ Value.tokensText after) := by
    rw [← htext, ← hsplit, Value.nodeTokens_node, Value.tokensText_append, Value.tokensText_append,
      List.append_assoc]
  have hplain : (Value.node d vs).Plain := trivial
  have hheld : Value.HoldsDressed (Value.node d vs).places := by
    intro q hq
    refine ⟨Value.placesIn_held hplain hnode d 0 q hq, hdressed _ ?_⟩
    have hmem : q.token ∈ (Value.node d vs).nodeTokens := List.mem_map_of_mem hq
    rw [Value.nodeTokens_node] at hmem
    rw [← hsplit]
    simp [hmem]
  exact Value.slices_of_places hheld hplaced' hsource ha hz hread hread'

end TreeQuote
