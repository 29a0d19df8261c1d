/-
TreeQuote/Proofs/Parse/Acceptance.lean

Texts that need no repair.  A derivation from the start rule is followed by the machine
lexeme by lexeme, so nothing is inserted or skipped and nothing is reported.  The other way
round, a run that reports nothing fed exactly the lexemes of the text, and the machine only
accepts what the start symbol derives.

Main statement: `parsePure?_clean_iff`, a text is read without a diagnostic exactly when its kinds
match the start rule.
-/
import TreeQuote.Proofs.Grammar.Completeness
import TreeQuote.Proofs.Grammar.Rules
import TreeQuote.Proofs.Parse.Fidelity

namespace TreeQuote

open Grammar Dressing

/-! ### Runs without repair -/

namespace Repair

variable {c : Context} {stack stack' : Stack} {xs : List Symbol} {ts : List Token}

/-- An offer that is not rejected needs no insertion. -/
theorem attempt_of_taken {offer : Stack → Outcome} {next : Stack} (tries : Nat)
    (h : offer stack = .shifted next) :
    attempt c offer (tries + 1) stack = some ([], .shifted next) := by
  rw [attempt, h]

theorem attempt_of_accepted {offer : Stack → Outcome} {vs : List Value} (tries : Nat)
    (h : offer stack = .accepted vs) :
    attempt c offer (tries + 1) stack = some ([], .accepted vs) := by
  rw [attempt, h]

/-- Lexemes that the machine has moves for are taken one after the other. -/
theorem feedAll_of_moves {ls : List Lexeme} (hstack : Stacked c stack xs ts)
    (h : Moves c stack (ls.map plain) stack' []) :
    ∃ final xs' ts', feedAll c stack ls = (ls.map (.taken []), final) ∧ Stacked c final xs' ts'
      ∧ Moves c final [] stack' [] := by
  induction ls generalizing stack xs ts with
  | nil => exact ⟨stack, xs, ts, rfl, hstack, h⟩
  | cons l ls ih =>
    obtain ⟨next, hfeeds, hmoves⟩ := h.feed
    have hfeed : feed c (plain l) stack = .shifted next := hfeeds.bounded hstack
    obtain ⟨ys, hnext⟩ := feed_shifted hstack hfeed
    obtain ⟨final, zs, us, hall, hfinal, hend⟩ := ih hnext hmoves
    refine ⟨final, zs, us, ?_, hfinal, hend⟩
    rw [feedAll, attempt_of_taken maxInsertions hfeed]
    simp only [hall, List.map_cons]

theorem startState_goto (c : Context) :
    (row c.startState).gotos.lookup c.start = some c.endState := by
  cases c <;> decide +kernel

theorem endOfFile_mem_ahead (c : Context) : Kind.endOfFileToken ∈ ahead c.endState := by
  rw [ahead]
  refine List.mem_append_right _ ?_
  rw [if_pos (List.any_eq_true.2 ⟨c, c.mem_contexts, by simp⟩)]
  exact List.mem_singleton.2 rfl

/-- Lexemes from which the start symbol derives a tree run through without repair, to that tree. -/
theorem run?_yielded {ls : List Lexeme} {tree : Value}
    (h : Yields (.nonterminal c.start) [tree] (ls.map plain)) :
    run? c ls = some ⟨ls.map (.taken []), [], tree⟩ := by
  obtain ⟨p, parts, hp, hlhs, hrhs, hvs⟩ := h.exists_production
  -- the machine reads the right-hand side of a production of the start symbol
  have hgoto : (row (top (initial c))).gotos.lookup p.lhs = some c.endState := by
    rw [hlhs]
    exact startState_goto c
  obtain ⟨e, he, happ⟩ := exists_path hp hgoto
  obtain ⟨hshift, hred⟩ := happ _ (endOfFile_mem_ahead c)
  have hlast : firstKind [] .endOfFileToken ∈ ahead e := mem_ahead_of_reduction hred
  obtain ⟨frames, htop, hlen, hparts, hmoves⟩ := hrhs.moves (rhs_ne_start c hp) he hlast
  rw [List.append_nil] at hmoves
  obtain ⟨final, xs, ts, hall, hfinal, hend⟩ := feedAll_of_moves .initial hmoves
  -- and applies the production at the end of the text
  have hreduce := reduce_frames hlen hgoto
  rw [hparts, ← hvs] at hreduce
  have haccept : Feeds c .endOfFileToken .none (frames ++ initial c) (.accepted [tree]) :=
    .accept (by rw [htop]; exact hshift) (by rw [htop]; exact hred) hreduce
  have hfinish : finish c final = .accepted [tree] := (hend.finish rfl haccept).bounded hfinal
  rw [run?, hall]
  simp only [attempt_of_accepted maxFinalInsertions hfinish]

/-- Lexemes that the start symbol derives run through without repair. -/
theorem run?_of_yields {ls : List Lexeme} {vs : List Value}
    (h : Yields (.nonterminal c.start) vs (ls.map plain)) :
    ∃ tree, run? c ls = some ⟨ls.map (.taken []), [], tree⟩ := by
  obtain ⟨htakes, -, -⟩ := h.grown
  rw [c.start_form] at htakes
  obtain ⟨tree, rfl, -⟩ := htakes
  exact ⟨tree, run?_yielded h⟩

/-- A run that reports nothing took every lexeme as it is. -/
theorem steps_of_report {file : Option Text} {steps : List Step}
    (h : Parsed.report file steps = []) : steps = (steps.map Step.lexeme).map (.taken []) := by
  induction steps with
  | nil => rfl
  | cons s steps ih =>
    cases s with
    | taken ks l =>
      obtain ⟨hks, hrest⟩ := List.append_eq_nil_iff.1 h
      obtain rfl := List.map_eq_nil_iff.1 hks
      exact congrArg (Step.taken [] l :: ·) (ih hrest)
    | skipped l => cases h

theorem fed_taken (ls : List Lexeme) : fed (ls.map (.taken [])) = ls.map .read := by
  induction ls with
  | nil => rfl
  | cons l ls ih => simp [fed, ih]

theorem report_taken (file : Option Text) (ls : List Lexeme) :
    Parsed.report file (ls.map (.taken [])) = [] := by
  induction ls with
  | nil => rfl
  | cons l ls ih => simpa [Parsed.report] using ih

end Repair

/-! ### Literals -/

/-- A lexeme that is no literal, or one that has a value. -/
def Lexeme.Decodes (l : Lexeme) : Prop :=
  (l.kind = .numericLiteralToken → ∃ v, Literal.parseNumber? l.text = some v)
    ∧ (l.kind = .stringLiteralToken → ∃ s, Literal.decodeString l.text = .ok s)

/-- Such a lexeme has a token. -/
theorem token?_of_decodes (file : Option Text) {l : Lexeme} (hl : Lexeme.Spells l.kind l.text)
    (h : l.Decodes) : ∃ t, token? file l = some t := by
  unfold Dressing.token?
  simp only
  split
  · exact ⟨_, rfl⟩
  rename_i hid
  split
  · rename_i hk
    obtain ⟨v, hv⟩ := h.1 hk
    simp [hv, Token.literal?, parseNumber?_kind hv]
  rename_i hnum
  split
  · rename_i hk
    obtain ⟨s, hs⟩ := h.2 hk
    simp [hs]
  rename_i hstr
  have hfixed : l.kind.fixedText? = some l.text := by
    rcases hl with (hk | hk | hk) | hk
    · exact absurd hk hid
    · exact absurd hk hnum
    · exact absurd hk hstr
    · exact hk
  have hne : l.kind ≠ .none := by
    intro hk
    rw [hk] at hfixed
    cases hfixed
  simp [Token.fixed?, hne, hfixed]

/-- Lexemes that have tokens can be dressed. -/
theorem dressAfter_of_tokens {file : Option Text} (c : Context) (gaps : Gaps) (stop : Nat)
    {ls : List Lexeme} (h : ∀ l ∈ ls, ∃ t, token? file l = some t) (pos : Nat) :
    ∃ r, dressAfter file c gaps stop pos (ls.map .read) = some r := by
  induction ls generalizing pos with
  | nil => exact ⟨_, rfl⟩
  | cons l ls ih =>
    obtain ⟨⟨t, ht⟩, hls⟩ := List.forall_mem_cons.1 h
    obtain ⟨r, hr⟩ := ih hls l.stop.offset
    simp [dressAfter, ht, hr]

theorem dress_of_tokens {file : Option Text} (c : Context) (gaps : Gaps) (stop : Nat)
    {ls : List Lexeme} (h : ∀ l ∈ ls, ∃ t, token? file l = some t) :
    ∃ r, dress file c gaps stop (ls.map .read) = some r := by
  cases ls with
  | nil => exact ⟨_, rfl⟩
  | cons l ls =>
    obtain ⟨⟨t, ht⟩, hls⟩ := List.forall_mem_cons.1 h
    obtain ⟨r, hr⟩ := dressAfter_of_tokens c gaps stop hls l.stop.offset
    simp [dress, ht, hr]

/-! ### Texts -/

theorem Grammar.Context.isRule_start (c : Context) : isRule c.start = true := by
  cases c <;> decide

/-- The diagnostics of a text are those of the run of its lexemes. -/
theorem parsePure?_reports {source : Text} {ls : List Lexeme} {c : Context} {file : Option Text}
    {p : Parsed} (hls : Lexeme.scan? source = some ls) (hp : parsePure? source c file = some p)
    (hclean : p.diagnostics = []) :
    ∃ r, Repair.run? c ls = some r ∧ Parsed.report file r.steps = [] ∧ r.final = [] := by
  simp only [parsePure?, hls, Option.bind_eq_bind, Option.bind_some, Option.bind_eq_some_iff] at hp
  obtain ⟨r, hr, dressed, -, hp⟩ := hp
  cases hp
  obtain ⟨hreport, hfinal⟩ := List.append_eq_nil_iff.1 hclean
  exact ⟨r, hr, hreport, List.map_eq_nil_iff.1 hfinal⟩

/-- A text is read without a diagnostic exactly when the kinds of its lexemes match the start
rule of the context. -/
theorem parsePure?_clean_iff {source : Text} {ls : List Lexeme} (c : Context) (file : Option Text)
    (hls : Lexeme.scan? source = some ls) (hdec : ∀ l ∈ ls, l.Decodes) :
    (∃ p, parsePure? source c file = some p ∧ p.diagnostics = [])
      ↔ Matches (.rule c.start) (ls.map (·.kind)) := by
  have hkinds : (ls.map Repair.plain).map (·.kind) = ls.map (·.kind) := by
    simp [Repair.plain, Function.comp_def]
  rw [matches_iff_derives c.isRule_start, ← hkinds, derives_iff_yieldsAll]
  constructor
  · rintro ⟨p, hp, hclean⟩
    obtain ⟨r, hr, hreport, hfinal⟩ := parsePure?_reports hls hp hclean
    have hsteps := Repair.steps_of_report hreport
    rw [Repair.run?_steps hr] at hsteps
    have hfed : r.fed.map Fed.plain = ls.map Repair.plain := by
      rw [Repair.Run.fed, hsteps, hfinal, Repair.fed_taken]
      simp [Fed.plain, Function.comp_def]
    exact ⟨[[r.tree]], hfed ▸ Repair.run?_yields hr⟩
  · rintro ⟨parts, h⟩
    obtain ⟨vs, hvs⟩ := h.exists_yields
    obtain ⟨tree, hrun⟩ := Repair.run?_of_yields hvs
    have htokens : ∀ l ∈ ls, ∃ t, token? file l = some t := fun l hl =>
      token?_of_decodes file (Lexeme.scan?_spelled hls l hl) (hdec l hl)
    obtain ⟨r, hr⟩ := dress_of_tokens c
      (Gap.scan source (skipped (ls.map (.taken [])))) source.length htokens
    rw [← Repair.fed_taken] at hr
    simp [parsePure?, hls, hrun, hr, Repair.report_taken]

end TreeQuote
