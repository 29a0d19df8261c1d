/-
TreeQuote/Proofs/Parse/Report.lean

What a parse reports, and what is in its tree.  Every lexeme has one step of the run: it was taken,
and then it is a token of the tree, or it was skipped, and then the report says so.  Every token
that was inserted has its report too.  The steps are the link: the tree is made of what they fed,
and the report is read off them.

    lexemes    = steps, each about its own
    tree       = tokens of what was fed, in order
    report     = inserted kinds and skipped lexemes, in order

Main statement: `parsePure?_accounts`.
-/
import Mathlib.Data.List.Nodup
import TreeQuote.Proofs.Parse.Fidelity

namespace TreeQuote

open Grammar Dressing

/-! ### Lexemes are told apart by where they start -/

namespace Lexeme

theorem Lies.le_start {pos : Nat} {t : Text} {ls : List Lexeme} (h : Lies pos t ls) :
    ∀ l ∈ ls, pos ≤ l.start.offset := by
  intro l hl
  obtain ⟨before, after, -, hstart⟩ := h.split l hl
  omega

/-- Lexemes start one behind the other. -/
theorem Lies.pairwise {pos : Nat} {t : Text} {ls : List Lexeme} (h : Lies pos t ls) :
    ls.Pairwise fun l m => l.start.offset < m.start.offset := by
  induction h with
  | nil => exact .nil
  | @cons pos gap rest l ls hstart hstop hne hrest ih =>
    refine .cons (fun m hm => ?_) ih
    have hle := hrest.le_start m hm
    have hpos : 0 < l.text.length := List.length_pos_of_ne_nil hne
    omega

theorem scan?_starts {t : Text} {ls : List Lexeme} (h : scan? t = some ls) :
    (ls.map (·.start.offset)).Nodup :=
  List.pairwise_map.2 ((scan?_lies h).pairwise.imp Nat.ne_of_lt)

/-- Two lexemes of a text that start at one place are the same. -/
theorem scan?_unique {t : Text} {ls : List Lexeme} (h : scan? t = some ls) {l m : Lexeme}
    (hl : l ∈ ls) (hm : m ∈ ls) (hstart : l.start.offset = m.start.offset) : l = m :=
  List.inj_on_of_nodup_map (scan?_starts h) hl hm hstart

end Lexeme

/-! ### What was fed and what was skipped -/

namespace Dressing

/-- The kinds of the inserted tokens. -/
def insertions : List Fed → List Kind
  | [] => []
  | .inserted k :: fs => k :: insertions fs
  | .read _ :: fs => insertions fs

theorem insertions_append (fs gs : List Fed) :
    insertions (fs ++ gs) = insertions fs ++ insertions gs := by
  induction fs with
  | nil => rfl
  | cons f fs ih => cases f <;> simp [insertions, ih]

theorem insertions_inserted (ks : List Kind) : insertions (ks.map .inserted) = ks := by
  induction ks with
  | nil => rfl
  | cons k ks ih => simp [insertions, ih]

/-- What was read is what was not skipped. -/
theorem reads_fed {steps : List Repair.Step} (h : (steps.map Repair.Step.lexeme).Nodup) :
    reads (fed steps)
      = (steps.map Repair.Step.lexeme).filter fun l => l ∉ skipped steps := by
  induction steps with
  | nil => rfl
  | cons s steps ih =>
    obtain ⟨hs, hsteps⟩ := List.nodup_cons.1 h
    have hrest := ih hsteps
    cases s with
    | taken ks l =>
      have hl : l ∉ skipped steps := fun hl => hs (skipped_subset _ l hl)
      rw [fed, skipped, reads_append, reads_inserted_all, List.nil_append, reads_read, hrest,
        List.map_cons, Repair.Step.lexeme, List.filter_cons_of_pos (by simpa using hl)]
    | skipped l =>
      rw [fed, hrest, List.map_cons, Repair.Step.lexeme, List.filter_cons_of_neg (by simp [skipped])]
      refine List.filter_congr fun m hm => ?_
      have hml : m ≠ l := fun heq => hs (heq ▸ hm)
      simp [skipped, hml]

/-- The token that was fed, with its trivia and with the place of its lexeme. -/
inductive Wears (file : Option Text) : Fed → Token → Prop where
  | inserted {k : Kind} {t : Token} (h : t.core = .missingOf k) : Wears file (.inserted k) t
  | read {l : Lexeme} {t s : Token} (hs : token? file l = some s) (h : t.core = s.core)
    (hspan : t.span = s.span) : Wears file (.read l) t

variable {file : Option Text} {c : Context} {gaps : Gaps} {stop : Nat}

theorem dressAfter_wears {pos : Nat} {fs : List Fed} {trail : List Trivia} {ts : List Token}
    {eof : List Trivia} (h : dressAfter file c gaps stop pos fs = some (trail, ts, eof)) :
    List.Forall₂ (Wears file) fs ts := by
  induction fs generalizing pos trail ts eof with
  | nil =>
    cases h
    exact .nil
  | cons f fs ih =>
    cases f with
    | inserted k =>
      obtain ⟨⟨trail', ts', eof'⟩, hrest, heq⟩ := Option.map_eq_some_iff.1 h
      cases heq
      exact .cons (.inserted rfl) (ih hrest)
    | read l =>
      simp only [dressAfter, Option.bind_eq_bind, Option.bind_eq_some_iff, Prod.exists] at h
      obtain ⟨t, ht, trailing, us, eof', hrest, heq⟩ := h
      cases heq
      exact .cons (.read ht rfl rfl) (ih hrest)

/-- Dressing gives a token for each that was fed. -/
theorem dress_wears {fs : List Fed} {ts : List Token} {eof : List Trivia}
    (h : dress file c gaps stop fs = some (ts, eof)) : List.Forall₂ (Wears file) fs ts := by
  induction fs generalizing ts eof with
  | nil =>
    cases h
    exact .nil
  | cons f fs ih =>
    cases f with
    | inserted k =>
      cases fs with
      | nil =>
        rw [dress] at h
        split at h <;> cases h <;> exact .cons (.inserted rfl) .nil
      | cons g fs =>
        obtain ⟨⟨ts', eof'⟩, hrest, heq⟩ := Option.map_eq_some_iff.1 h
        cases heq
        exact .cons (.inserted rfl) (ih hrest)
    | read l =>
      simp only [dress, Option.bind_eq_bind, Option.bind_eq_some_iff, Prod.exists] at h
      obtain ⟨t, ht, trailing, us, eof', hrest, heq⟩ := h
      cases heq
      exact .cons (.read ht rfl rfl) (dressAfter_wears hrest)

/-- A token has the span of its lexeme. -/
theorem token?_span {l : Lexeme} {t : Token} (h : token? file l = some t) :
    t.span = some (l.span file) := by
  unfold token? at h
  simp only at h
  split at h
  · cases h
    rfl
  split at h
  · obtain ⟨v, -, u, -, rfl⟩ :
        ∃ v, Literal.parseNumber? l.text = some v ∧ ∃ u, Token.literal? l.text v = some u
          ∧ { u with span := some (l.span file) } = t := by
      simpa [Option.bind_eq_some_iff] using h
    rfl
  split at h
  · split at h
    · cases h
      rfl
    · cases h
  · obtain ⟨u, -, rfl⟩ := Option.map_eq_some_iff.1 h
    rfl

end Dressing

/-! ### Tokens and lexemes side by side -/

/-- The token was read from the source. -/
def Token.isRead (t : Token) : Bool := !t.missing && t.kind ≠ .endOfFileToken

/-- The token is that of the lexeme. -/
structure Lexeme.ReadAs (file : Option Text) (l : Lexeme) (t : Token) : Prop where
  kind : t.kind = l.kind
  text : t.text = l.text
  span : t.span = some (l.span file)

namespace Dressing

variable {file : Option Text} {fs : List Fed} {ts : List Token}

/-- The tokens that were read are those of their lexemes. -/
theorem reads_tokens (h : List.Forall₂ (Wears file) fs ts)
    (hspells : ∀ l ∈ reads fs, Lexeme.Spells l.kind l.text)
    (hend : ∀ t ∈ ts, t.kind ≠ .endOfFileToken) :
    List.Forall₂ (Lexeme.ReadAs file) (reads fs) (ts.filter Token.isRead) := by
  induction h with
  | nil => exact .nil
  | @cons f t fs ts hf _ ih =>
    obtain ⟨ht, hts⟩ := List.forall_mem_cons.1 hend
    cases hf with
    | @inserted k _ h =>
      have hmissing : t.missing = true := congrArg Token.missing h
      rw [reads_inserted, List.filter_cons_of_neg (by simp [Token.isRead, hmissing])]
      exact ih hspells hts
    | @read l _ s hs h hspan =>
      rw [reads_read] at hspells ⊢
      obtain ⟨hl, hrest⟩ := List.forall_mem_cons.1 hspells
      have hbares := token?_bares hl hs
      have hmissing : t.missing = false := (congrArg Token.missing h).trans hbares.missing
      rw [List.filter_cons_of_pos (by simpa [Token.isRead, hmissing] using ht)]
      refine .cons ⟨?_, ?_, hspan.trans (token?_span hs)⟩ (ih hrest hts)
      · exact (congrArg Token.kind h).trans hbares.kind
      · exact (congrArg Token.text h).trans hbares.text

/-- The missing tokens are those that were inserted. -/
theorem insertions_tokens (h : List.Forall₂ (Wears file) fs ts)
    (hspells : ∀ l ∈ reads fs, Lexeme.Spells l.kind l.text) :
    (ts.filter (·.missing)).map (·.kind) = insertions fs := by
  induction h with
  | nil => rfl
  | @cons f t fs ts hf _ ih =>
    cases hf with
    | @inserted k _ h =>
      have hmissing : t.missing = true := congrArg Token.missing h
      have hkind : t.kind = k := congrArg Token.kind h
      rw [List.filter_cons_of_pos hmissing, List.map_cons, hkind, insertions, ih hspells]
    | @read l _ s hs h hspan =>
      rw [reads_read] at hspells
      obtain ⟨hl, hrest⟩ := List.forall_mem_cons.1 hspells
      have hmissing : t.missing = false := (congrArg Token.missing h).trans (token?_bares hl hs).missing
      rw [List.filter_cons_of_neg (by simp [hmissing]), insertions, ih hrest]

end Dressing

/-! ### Reports -/

namespace Diagnostic

/-- A token is reported to be missing. -/
def isMissing (d : Diagnostic) : Bool := d.code = some (Text.of "missing-token")

/-- A lexeme is reported to be skipped. -/
def isSkipped (d : Diagnostic) : Bool := d.code = some (Text.of "skipped-token")

/-- A token of the kind is reported to be missing somewhere. -/
def Misses (file : Option Text) (k : Kind) (d : Diagnostic) : Prop :=
  ∃ pos, d = Parsed.missing file pos k

end Diagnostic

/-- What a kind is shown as, by its characters. -/
def Parsed.shownLetters (k : Kind) : List Char :=
  match k.fixedLetters.val with
  | some (c :: cs) => c :: cs
  | _ => k.letters.val

theorem Parsed.shownKind_eq (k : Kind) :
    Parsed.missing.shownKind k = (shownLetters k).map CodePoint.ofChar := by
  obtain ⟨cs, hcs, htext⟩ : ∃ cs, k.fixedLetters.val = cs
      ∧ k.fixedText? = cs.map (·.map CodePoint.ofChar) := ⟨_, rfl, k.fixedLetters.property⟩
  unfold Parsed.missing.shownKind shownLetters
  rw [hcs, htext]
  rcases cs with _ | _ | ⟨c, cs⟩
  · exact k.letters.property
  · exact k.letters.property
  · rfl

/-- No two kinds are shown alike. -/
theorem Parsed.shownKind_nodup : (Kind.all.map Parsed.missing.shownKind).Nodup :=
  Text.nodup_of_letters Parsed.shownKind_eq (by decide +kernel)

/-- A report names one kind. -/
theorem Diagnostic.Misses.unique {file : Option Text} {j k : Kind} {d : Diagnostic}
    (hj : d.Misses file j) (hk : d.Misses file k) : j = k := by
  obtain ⟨p, rfl⟩ := hj
  obtain ⟨q, hq⟩ := hk
  have hmessage : Parsed.missing.shownKind j = Parsed.missing.shownKind k := by
    simpa [Parsed.missing] using congrArg Diagnostic.message hq
  exact List.inj_on_of_nodup_map Parsed.shownKind_nodup j.mem_all k.mem_all hmessage

namespace Parsed

/-- The lexeme is reported to be skipped. -/
def skips (p : Parsed) (file : Option Text) (l : Lexeme) : Bool :=
  p.diagnostics.any fun d => d.isSkipped && d.span = l.span file

variable {file : Option Text}

theorem isMissing_missing (pos : Cursor) (k : Kind) : (missing file pos k).isMissing = true := by
  simp [missing, Diagnostic.isMissing]

theorem isMissing_unexpected (l : Lexeme) : (unexpected file l).isMissing = false := by
  have hne : Text.of "skipped-token" ≠ Text.of "missing-token" := by decide
  simp [unexpected, Diagnostic.isMissing, hne]

theorem isSkipped_missing (pos : Cursor) (k : Kind) : (missing file pos k).isSkipped = false := by
  have hne : Text.of "missing-token" ≠ Text.of "skipped-token" := by decide
  simp [missing, Diagnostic.isSkipped, hne]

theorem isSkipped_unexpected (l : Lexeme) : (unexpected file l).isSkipped = true := by
  simp [unexpected, Diagnostic.isSkipped]

/-- Tokens that are missing at one place, each with its report. -/
theorem misses_map (pos : Cursor) (ks : List Kind) :
    List.Forall₂ (Diagnostic.Misses file) ks (ks.map (missing file pos)) := by
  induction ks with
  | nil => exact .nil
  | cons k ks ih => exact .cons ⟨pos, rfl⟩ ih

theorem filter_missing (pos : Cursor) (ks : List Kind) :
    (ks.map (missing file pos)).filter Diagnostic.isMissing = ks.map (missing file pos)
      ∧ (ks.map (missing file pos)).filter Diagnostic.isSkipped = [] := by
  refine ⟨List.filter_eq_self.2 ?_, List.filter_eq_nil_iff.2 ?_⟩
  · exact List.forall_mem_map.2 fun k _ => isMissing_missing pos k
  · exact List.forall_mem_map.2 fun k _ => by simp [isSkipped_missing]

/-- The steps report the tokens that they inserted. -/
theorem report_missing (steps : List Repair.Step) :
    List.Forall₂ (Diagnostic.Misses file) (insertions (fed steps))
      ((report file steps).filter Diagnostic.isMissing) := by
  induction steps with
  | nil => exact .nil
  | cons s steps ih =>
    cases s with
    | taken ks l =>
      rw [fed, insertions_append, insertions_inserted, insertions, report, List.filter_append,
        (filter_missing _ ks).1]
      exact List.rel_append (misses_map _ ks) ih
    | skipped l =>
      rw [fed, report, List.filter_cons_of_neg (by simp [isMissing_unexpected])]
      exact ih

/-- The steps report the lexemes that they skipped. -/
theorem report_skipped (steps : List Repair.Step) :
    (report file steps).filter Diagnostic.isSkipped = (skipped steps).map (unexpected file) := by
  induction steps with
  | nil => rfl
  | cons s steps ih =>
    cases s with
    | taken ks l =>
      rw [report, List.filter_append, (filter_missing _ ks).2, ih, skipped, List.nil_append]
    | skipped l =>
      rw [report, List.filter_cons_of_pos (isSkipped_unexpected l), ih, skipped, List.map_cons]

/-- A lexeme of the text is reported to be skipped if and only if it was. -/
theorem skips_iff {source : Text} {ls : List Lexeme} (hls : Lexeme.scan? source = some ls)
    {p : Parsed} {sk : List Lexeme} (hsk : sk ⊆ ls)
    (hp : p.diagnostics.filter Diagnostic.isSkipped = sk.map (unexpected file)) {l : Lexeme}
    (hl : l ∈ ls) : p.skips file l = true ↔ l ∈ sk := by
  have hany : p.skips file l = (sk.map (unexpected file)).any fun d => d.span = l.span file := by
    rw [skips, ← hp, List.any_filter]
  rw [hany, List.any_map, List.any_eq_true]
  constructor
  · rintro ⟨m, hm, hspan⟩
    have hspan : m.span file = l.span file := of_decide_eq_true hspan
    have hstart : m.start.offset = l.start.offset :=
      Int.ofNat.inj (Option.some.inj (congrArg Span.start hspan))
    exact Lexeme.scan?_unique hls (hsk hm) hl hstart ▸ hm
  · exact fun hm => ⟨l, hm, decide_eq_true rfl⟩

end Parsed

/-! ### Trees and reports -/

/-- The tokens of a root are its leaves. -/
theorem nodeTokens_root {c : Context} {v : Value} (h : v.isNodeOf c.type = true) :
    v.nodeTokens = v.leaves := by
  cases v with
  | node d vs => rw [Value.nodeTokens_node, Value.leaves]
  | _ => exact absurd h Bool.false_ne_true

/-- What a parse is made of, with its report. -/
theorem parsePure?_report {source : Text} {c : Context} {file : Option Text} {p : Parsed}
    (h : parsePure? source c file = some p) :
    ∃ ls r tokens eof, Lexeme.scan? source = some ls ∧ Repair.run? c ls = some r
      ∧ dress file c (Gap.scan source (skipped r.steps)) source.length r.fed = some (tokens, eof)
      ∧ (p.root.leaves = tokens ∧ c ≠ .unit
        ∨ p.root.leaves = tokens ++ [Parsed.endOfFile file source eof] ∧ c = .unit)
      ∧ p.diagnostics = Parsed.report file r.steps
        ++ r.final.map (Parsed.missing file (Parsed.endCursor source ls)) := by
  simp only [parsePure?, Option.bind_eq_bind, Option.bind_eq_some_iff] at h
  obtain ⟨ls, hls, r, hr, ⟨tokens, eof⟩, hdress, hp⟩ := h
  cases hp
  refine ⟨ls, r, tokens, eof, hls, hr, hdress, ?_, rfl⟩
  have hkinds := (dress_run hls hr hdress).kinds
  obtain ⟨htype, hgrown, hleaves⟩ := refill_run hr hkinds
  by_cases hc : c = .unit
  · subst hc
    have hend : ∀ t ∈ (r.tree.refill tokens).1.leaves, t.kind ≠ .endOfFileToken := by
      rw [hleaves]
      exact kind_ne_end hr hkinds
    have heof : (Parsed.endOfFile file source eof).kind = .endOfFileToken := rfl
    obtain ⟨-, -, hclosed⟩ := close_unit htype hgrown hend heof
    exact .inr ⟨hclosed.trans (congrArg (· ++ _) hleaves), rfl⟩
  · exact .inl ⟨by rw [close_of_ne_unit hc, hleaves], hc⟩

/-- **Every token and every repair is accounted for.**  The tokens of the tree that were read are
the lexemes without a report, in order and with their kinds, texts and places; the tokens that are
missing are those that are reported to be, in order and by kind. -/
theorem parsePure?_accounts {source : Text} {c : Context} {file : Option Text} {p : Parsed}
    (h : parsePure? source c file = some p) :
    ∃ ls, Lexeme.scan? source = some ls
      ∧ List.Forall₂ (Lexeme.ReadAs file) (ls.filter fun l => !p.skips file l)
          (p.root.nodeTokens.filter Token.isRead)
      ∧ List.Forall₂ (fun (t : Token) d => ∀ k, Diagnostic.Misses file k d ↔ k = t.kind)
          (p.root.nodeTokens.filter (·.missing)) (p.diagnostics.filter Diagnostic.isMissing) := by
  obtain ⟨ls, r, tokens, eof, hls, hr, hdress, hleaves, hreport⟩ := parsePure?_report h
  have hsteps := Repair.run?_steps hr
  have hwears := dress_wears hdress
  have hend := kind_ne_end hr (dress_run hls hr hdress).kinds
  have hspells : ∀ l ∈ reads r.fed, Lexeme.Spells l.kind l.text := fun l hl =>
    Lexeme.scan?_spelled hls l ((reads_sublist hr).subset hl)
  -- The end of the file is neither read nor missing.
  have htokens : p.root.nodeTokens.filter Token.isRead = tokens.filter Token.isRead
      ∧ p.root.nodeTokens.filter (·.missing) = tokens.filter (·.missing) := by
    rw [nodeTokens_root (parsePure?_readFrom h).type]
    rcases hleaves with ⟨hleaves, -⟩ | ⟨hleaves, -⟩
    · simp [hleaves]
    · simp [hleaves, Parsed.endOfFile, Token.isRead]
  have hskipped : p.diagnostics.filter Diagnostic.isSkipped
      = (skipped r.steps).map (Parsed.unexpected file) := by
    rw [hreport, List.filter_append, Parsed.report_skipped, (Parsed.filter_missing _ _).2,
      List.append_nil]
  have hmissing : List.Forall₂ (Diagnostic.Misses file) (insertions r.fed)
      (p.diagnostics.filter Diagnostic.isMissing) := by
    rw [hreport, Repair.Run.fed, insertions_append, insertions_inserted, List.filter_append,
      (Parsed.filter_missing _ _).1]
    exact List.rel_append (Parsed.report_missing _) (Parsed.misses_map _ _)
  have hreads : ls.filter (fun l => !p.skips file l) = reads r.fed := by
    rw [Repair.Run.fed, reads_append, reads_inserted_all, List.append_nil,
      reads_fed (hsteps ▸ (Lexeme.scan?_starts hls).of_map), hsteps]
    refine List.filter_congr fun l hl => ?_
    have hskips := Parsed.skips_iff hls (fun m hm => hsteps ▸ skipped_subset _ m hm) hskipped hl
    by_cases hsk : l ∈ skipped r.steps
    · simp [hsk, hskips.2 hsk]
    · simp [hsk, mt hskips.1 hsk]
  refine ⟨ls, hls, ?_, ?_⟩
  · rw [hreads, htokens.1]
    exact reads_tokens hwears hspells hend
  · rw [← insertions_tokens hwears hspells, List.forall₂_map_left_iff] at hmissing
    rw [htokens.2]
    exact hmissing.imp fun t d hd k => ⟨fun hk => hk.unique hd, fun hk => hk ▸ hd⟩

end TreeQuote
