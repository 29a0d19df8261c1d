/-
TreeQuote/Proofs/Parse/Respacing.lean

Texts that differ in what stands between their lexemes.  The machine sees of a lexeme its kind and
its text only, so two such texts are repaired alike, step by step (`Repair.Step.Like`): the same
kinds are inserted and lexemes of the same kind and text are skipped.  What was fed is alike then
(`Fed.Like`), and so are the tokens but for their trivia and their spans.

In a text without comments nothing but blanks stands between the lexemes; if none of them is
skipped, then all trivia of the tree are blank.

Main statements: `parsePure?_respaced` and `parsePure?_blank`.
-/
import TreeQuote.Proofs.Parse.Report
import TreeQuote.Proofs.Parse.Totality
import TreeQuote.Proofs.Source.Scan
import TreeQuote.Proofs.Tree.Retoken

namespace TreeQuote

open Grammar Dressing

/-! ### What stands between lexemes -/

namespace Lexeme

/-- No step of the lexer through the text takes a comment. -/
inductive Commentless : Text → Prop where
  | nil : Commentless []
  | step {t : Text} {k : Option Kind} {n : Nat} (hmatch : match? t = some (k, n))
    (hcomment : comment? t = none) (hrest : Commentless (t.drop n)) : Commentless t

/-- `P` holds of each gap: from `pos` to the first lexeme, from each lexeme to the next, and from
the last to the end. -/
def Between (P : Nat → Nat → Prop) (stop : Nat) : Nat → List Lexeme → Prop
  | pos, [] => P pos stop
  | pos, l :: ls => P pos l.start.offset ∧ Between P stop l.stop.offset ls

theorem Between.imp {P Q : Nat → Nat → Prop} (hPQ : ∀ a b, P a b → Q a b) {stop pos : Nat}
    {ls : List Lexeme} (h : Between P stop pos ls) : Between Q stop pos ls := by
  induction ls generalizing pos with
  | nil => exact hPQ _ _ h
  | cons l ls ih => exact ⟨hPQ _ _ h.1, ih h.2⟩

/-- The part of the text between two offsets is blank. -/
def BlankAt (source : Text) (start stop : Nat) : Prop := (source.slice start stop).all isGap = true

theorem blankAt_append {before gap after : Text} (h : gap.all isGap = true) :
    BlankAt (before ++ (gap ++ after)) before.length (before.length + gap.length) := by
  rw [BlankAt, Text.slice_append]
  exact h

/-- The blank `gap` has been passed since the last lexeme, and no comment follows. -/
theorem Commentless.between {t : Text} (h : Commentless t) {source before gap : Text} {p : Cursor}
    {fuel : Nat} {ls : List Lexeme} (hsource : source = before ++ (gap ++ t))
    (hgap : gap.all isGap = true) (hp : p.offset = before.length + gap.length)
    (hscan : scanFrom fuel p t = some ls) :
    Between (BlankAt source) source.length before.length ls := by
  induction h generalizing before gap p fuel ls with
  | nil =>
    obtain rfl : ls = [] := by cases fuel <;> exact (Option.some.inj hscan).symm
    have hblank : BlankAt (before ++ (gap ++ [])) before.length (before.length + gap.length) :=
      blankAt_append hgap
    rw [← hsource] at hblank
    rw [Between, hsource, List.append_nil, List.length_append]
    rw [hsource, List.append_nil] at hblank
    exact hblank
  | @step t k n hmatch hcomment hrest ih =>
    cases t with
    | nil => cases hmatch
    | cons c t =>
    cases fuel with
    | zero => cases hscan
    | succ fuel =>
    have hsplit : (c :: t).take n ++ (c :: t).drop n = c :: t := List.take_append_drop n _
    simp only [scanFrom, hmatch] at hscan
    cases k with
    | none =>
      have hpiece : ((c :: t).take n).all isGap = true := by
        refine (match?_none hmatch).2.resolve_right fun hc => ?_
        rw [hcomment] at hc
        cases hc
      split at hscan
      · rename_i heq _
        cases heq
      · rename_i ls' _ hrest'
        obtain rfl : ls' = ls := Option.some.inj hscan
        have hlonger : (gap ++ (c :: t).take n).all isGap = true := by
          rw [List.all_append, hgap, hpiece]
          rfl
        refine ih ?_ hlonger ?_ hrest'
        · rw [hsource, List.append_assoc gap, hsplit]
        · rw [Cursor.after_offset, hp, List.length_append, Nat.add_assoc]
      · cases hscan
    | some k =>
      split at hscan
      · rename_i ls' heq hrest'
        cases heq
        obtain rfl := Option.some.inj hscan
        refine ⟨?_, ?_⟩
        · show BlankAt source before.length p.offset
          rw [hsource, hp]
          exact blankAt_append hgap
        · have hoffset : (p.after ((c :: t).take n)).offset
              = (before ++ (gap ++ (c :: t).take n)).length := by
            rw [Cursor.after_offset, hp, List.length_append, List.length_append, Nat.add_assoc]
          show Between _ _ (p.after ((c :: t).take n)).offset ls'
          rw [hoffset]
          refine ih ?_ (rfl : ([] : Text).all isGap = true) (by rw [hoffset]; rfl) hrest'
          rw [hsource, List.nil_append, List.append_assoc, List.append_assoc, hsplit]
      · rename_i heq _
        cases heq
      · cases hscan

/-- Between the lexemes of a text without comments there are blanks only. -/
theorem scan?_between {source : Text} {ls : List Lexeme} (h : Commentless source)
    (hls : scan? source = some ls) : Between (BlankAt source) source.length 0 ls :=
  @Commentless.between _ h source [] [] _ _ _ rfl rfl rfl hls

end Lexeme

/-! ### The trivia of dressed tokens -/

/-- All trivia of the token satisfy `Q`. -/
def Token.Carries (Q : Trivia → Prop) (t : Token) : Prop :=
  (∀ p ∈ t.leading, Q p) ∧ ∀ p ∈ t.trailing, Q p

/-- The trivia is white space. -/
def Trivia.Blank (p : Trivia) : Prop := p.isWhitespace = true ∧ p.flaw = none

namespace Dressing

variable {source : Text} {gaps : Gaps} {file file' : Option Text} {c : Context} {Q : Trivia → Prop}

theorem missingOf_carries (k : Kind) : (Token.missingOf k).Carries Q :=
  ⟨List.forall_mem_nil _, List.forall_mem_nil _⟩

theorem lastGap_carries {gap : List Trivia} (h : ∀ p ∈ gap, Q p) :
    (∀ p ∈ (lastGap c gap).trailing, Q p) ∧ ∀ p ∈ (lastGap c gap).endOfFile, Q p := by
  unfold lastGap
  split
  · exact ⟨fun p hp => h p (mem_of_mem_split (.inl hp)), fun p hp => h p (mem_of_mem_split (.inr hp))⟩
  · exact ⟨h, List.forall_mem_nil _⟩

/-- What holds of the trivia in each gap behind a token that was read holds of all trivia there. -/
theorem dressAfter_carries {stop pos : Nat} {fs : List Fed} {trail : List Trivia} {ts : List Token}
    {eof : List Trivia} (h : dressAfter file c gaps stop pos fs = some (trail, ts, eof))
    (hgaps : Lexeme.Between (fun a b => ∀ p ∈ gaps a b, Q p) stop pos (reads fs)) :
    (∀ p ∈ trail, Q p) ∧ (∀ t ∈ ts, t.Carries Q) ∧ ∀ p ∈ eof, Q p := by
  induction fs generalizing pos trail ts eof with
  | nil =>
    cases h
    exact ⟨(lastGap_carries hgaps).1, List.forall_mem_nil _, (lastGap_carries hgaps).2⟩
  | cons f fs ih =>
    cases f with
    | inserted k =>
      obtain ⟨⟨trail', ts', eof'⟩, hrest, heq⟩ := Option.map_eq_some_iff.1 h
      cases heq
      obtain ⟨htrail, hts, heof⟩ := ih hrest hgaps
      exact ⟨htrail, List.forall_mem_cons.2 ⟨missingOf_carries k, hts⟩, heof⟩
    | read l =>
      simp only [dressAfter, Option.bind_eq_bind, Option.bind_eq_some_iff, Prod.exists] at h
      obtain ⟨u, -, trailing, us, eof', hrest, heq⟩ := h
      cases heq
      obtain ⟨htrail, hts, heof⟩ := ih hrest hgaps.2
      have hlead := fun p hp => hgaps.1 p (mem_of_mem_split (.inr hp))
      exact ⟨fun p hp => hgaps.1 p (mem_of_mem_split (.inl hp)),
        List.forall_mem_cons.2 ⟨⟨hlead, htrail⟩, hts⟩, heof⟩

/-- What holds of the trivia in each gap holds of all trivia. -/
theorem dress_carries {stop : Nat} {fs : List Fed} {ts : List Token} {eof : List Trivia}
    (h : dress file c gaps stop fs = some (ts, eof))
    (hgaps : Lexeme.Between (fun a b => ∀ p ∈ gaps a b, Q p) stop 0 (reads fs)) :
    (∀ t ∈ ts, t.Carries Q) ∧ ∀ p ∈ eof, Q p := by
  induction fs generalizing ts eof with
  | nil =>
    cases h
    refine ⟨List.forall_mem_nil _, ?_⟩
    split
    · exact hgaps
    · exact List.forall_mem_nil _
  | cons f fs ih =>
    cases f with
    | inserted k =>
      cases fs with
      | nil =>
        rw [dress] at h
        split at h
        · cases h
          exact ⟨List.forall_mem_singleton.2 (missingOf_carries k), hgaps⟩
        · cases h
          exact ⟨List.forall_mem_singleton.2 ⟨List.forall_mem_nil _, hgaps⟩, List.forall_mem_nil _⟩
      | cons g fs =>
        obtain ⟨⟨ts', eof'⟩, hrest, heq⟩ := Option.map_eq_some_iff.1 h
        cases heq
        obtain ⟨hts, heof⟩ := ih hrest hgaps
        exact ⟨List.forall_mem_cons.2 ⟨missingOf_carries k, hts⟩, heof⟩
    | read l =>
      simp only [dress, Option.bind_eq_bind, Option.bind_eq_some_iff, Prod.exists] at h
      obtain ⟨u, -, trailing, us, eof', hrest, heq⟩ := h
      cases heq
      obtain ⟨htrail, hts, heof⟩ := dressAfter_carries hrest hgaps.2
      exact ⟨List.forall_mem_cons.2 ⟨⟨hgaps.1, htrail⟩, hts⟩, heof⟩

/-- The trivia of a blank part of the source are blank. -/
theorem Spelling.blank (h : Spelling source gaps) {start stop : Nat}
    (hblank : Lexeme.BlankAt source start stop) : ∀ p ∈ gaps start stop, p.Blank := by
  obtain ⟨htext, hscanned⟩ := h start stop
  intro p hp
  obtain ⟨d, rest, hd, hgap⟩ := (hscanned p hp).head
  have hmem : d ∈ source.slice start stop := by
    rw [← htext, Trivia.fullText]
    exact List.mem_flatMap.2 ⟨p, hp, by rw [hd]; exact List.mem_cons_self⟩
  refine ⟨?_, (hscanned p hp).built.flaw⟩
  rw [← hgap]
  exact List.all_eq_true.1 hblank d hmem

/-- If no lexeme was skipped, all were read. -/
theorem reads_of_skipped {steps : List Repair.Step} (h : skipped steps = []) :
    reads (fed steps) = steps.map Repair.Step.lexeme := by
  induction steps with
  | nil => rfl
  | cons s steps ih =>
    cases s with
    | taken ks l =>
      rw [fed, reads_append, reads_inserted_all, List.nil_append, reads_read, ih h]
      rfl
    | skipped l => cases h

end Dressing

/-- A text without comments that is read without skipping anything has blank trivia only. -/
theorem parsePure?_blank {source : Text} {c : Context} {file : Option Text} {p : Parsed}
    (hsource : Lexeme.Commentless source) (h : parsePure? source c file = some p)
    (hskipped : ∀ d ∈ p.diagnostics, d.isSkipped = false) :
    ∀ t ∈ p.root.leaves, t.Carries Trivia.Blank := by
  obtain ⟨ls, r, tokens, eof, hls, hr, hdress, hleaves, hreport⟩ := parsePure?_report h
  have hnone : skipped r.steps = [] := by
    have hfilter : p.diagnostics.filter Diagnostic.isSkipped = [] :=
      List.filter_eq_nil_iff.2 fun d hd => by simp [hskipped d hd]
    rw [hreport, List.filter_append, Parsed.report_skipped] at hfilter
    exact List.map_eq_nil_iff.1 (List.append_eq_nil_iff.1 hfilter).1
  have hreads : reads r.fed = ls := by
    rw [Repair.Run.fed, reads_append, reads_inserted_all, List.append_nil, reads_of_skipped hnone,
      Repair.run?_steps hr]
  have hspelling := scan_spelling hls hr
  have hgaps := (Lexeme.scan?_between hsource hls).imp fun _ _ => hspelling.blank
  rw [← hreads] at hgaps
  obtain ⟨htokens, heof⟩ := dress_carries hdress hgaps
  rcases hleaves with ⟨hleaves, -⟩ | ⟨hleaves, -⟩
  · rw [hleaves]
    exact htokens
  · rw [hleaves]
    exact List.forall_mem_append.2 ⟨htokens, List.forall_mem_singleton.2 ⟨heof, List.forall_mem_nil _⟩⟩

/-! ### Runs that are alike -/

namespace Repair

/-- The same was done with two lexemes that the machine does not tell apart. -/
inductive Step.Like : Step → Step → Prop where
  | taken {ks : List Kind} {l l' : Lexeme} (h : plain l = plain l') : Like (.taken ks l) (.taken ks l')
  | skipped {l l' : Lexeme} (h : plain l = plain l') : Like (.skipped l) (.skipped l')

variable {c : Context} {ls ls' : List Lexeme}

/-- Lexemes that the machine does not tell apart have the same steps. -/
theorem feedAll_like (h : List.Forall₂ (fun l l' => plain l = plain l') ls ls') (stack : Stack) :
    List.Forall₂ Step.Like (feedAll c stack ls).1 (feedAll c stack ls').1
      ∧ (feedAll c stack ls).2 = (feedAll c stack ls').2 := by
  induction h generalizing stack with
  | nil => exact ⟨.nil, rfl⟩
  | @cons l l' ls ls' hl _ ih =>
    rw [feedAll, feedAll, ← hl]
    split
    · rename_i ks next _
      exact ⟨.cons (.taken hl) (ih next).1, (ih next).2⟩
    · exact ⟨.cons (.skipped hl) (ih stack).1, (ih stack).2⟩

/-- And the same run, with the same tokens inserted at the end and the same tree. -/
theorem run?_like (h : List.Forall₂ (fun l l' => plain l = plain l') ls ls') {r : Run}
    (hr : run? c ls = some r) : ∃ r', run? c ls' = some r' ∧ List.Forall₂ Step.Like r.steps r'.steps
      ∧ r'.final = r.final ∧ r'.tree = r.tree := by
  obtain ⟨hsteps, hstack⟩ := feedAll_like (c := c) h (initial c)
  simp only [run?, ← hstack] at hr ⊢
  split at hr
  · rename_i ks tree hattempt
    cases hr
    exact ⟨_, rfl, hsteps, rfl, rfl⟩
  · cases hr

end Repair

namespace Dressing

/-- Fed alike: tokens of one kind were inserted, or lexemes were read that the machine does not tell
apart. -/
inductive Fed.Like : Fed → Fed → Prop where
  | inserted (k : Kind) : Like (.inserted k) (.inserted k)
  | read {l l' : Lexeme} (h : Repair.plain l = Repair.plain l') : Like (.read l) (.read l')

theorem inserted_like (ks : List Kind) :
    List.Forall₂ Fed.Like (ks.map .inserted) (ks.map .inserted) := by
  induction ks with
  | nil => exact .nil
  | cons k ks ih => exact .cons (.inserted k) ih

theorem fed_like {steps steps' : List Repair.Step}
    (h : List.Forall₂ Repair.Step.Like steps steps') : List.Forall₂ Fed.Like (fed steps) (fed steps') := by
  induction h with
  | nil => exact .nil
  | cons hs _ ih =>
    cases hs with
    | @taken ks l l' hl => exact List.rel_append (inserted_like ks) (.cons (.read hl) ih)
    | skipped => exact ih

variable {file file' : Option Text} {c : Context} {fs fs' : List Fed} {ts ts' : List Token}

/-- The token of a lexeme depends on its kind and its text, but for the span. -/
theorem token?_like {l l' : Lexeme} (h : Repair.plain l = Repair.plain l') :
    (token? file l).map Token.core = (token? file' l').map Token.core := by
  have hkind : l.kind = l'.kind := congrArg Token.kind h
  have htext : l.text = l'.text := congrArg Token.text h
  unfold token?
  rw [hkind, htext]
  split
  · rfl
  split
  · cases Literal.parseNumber? l'.text with
    | none => rfl
    | some v => cases hliteral : Token.literal? l'.text v <;> simp [hliteral, Token.core]
  split
  · split <;> rfl
  · simp only [Option.map_map]
    rfl

/-- Tokens of what was fed alike are the same but for trivia and spans. -/
theorem Wears.core_eq {f f' : Fed} {t t' : Token} (h : Wears file f t) (h' : Wears file' f' t')
    (hf : Fed.Like f f') : t.core = t'.core := by
  cases hf with
  | inserted k =>
    cases h with
    | inserted ht =>
    cases h' with
    | inserted ht' => rw [ht, ht']
  | read hl =>
    cases h with
    | read hs ht =>
    cases h' with
    | read hs' ht' =>
      have hcore : (token? file _).map Token.core = (token? file' _).map Token.core := token?_like hl
      rw [hs, hs'] at hcore
      rw [ht, ht']
      exact Option.some.inj hcore

theorem wears_cores (hfs : List.Forall₂ Fed.Like fs fs') (h : List.Forall₂ (Wears file) fs ts)
    (h' : List.Forall₂ (Wears file') fs' ts') : ts.map Token.core = ts'.map Token.core := by
  induction hfs generalizing ts ts' with
  | nil =>
    cases h
    cases h'
    rfl
  | cons hf _ ih =>
    cases h with
    | cons ht hts =>
    cases h' with
    | cons ht' hts' => rw [List.map_cons, List.map_cons, ht.core_eq ht' hf, ih hts hts']

/-- What was fed alike has tokens alike. -/
theorem reads_isSome (hfs : List.Forall₂ Fed.Like fs fs') :
    ((reads fs).all fun l => (token? file l).isSome)
      = (reads fs').all fun l => (token? file' l).isSome := by
  induction hfs with
  | nil => rfl
  | cons hf _ ih =>
    cases hf with
    | inserted k => exact ih
    | read hl =>
      have hcore : ((token? file _).map Token.core).isSome = ((token? file' _).map Token.core).isSome :=
        congrArg Option.isSome (token?_like hl)
      rw [Option.isSome_map, Option.isSome_map] at hcore
      rw [reads_read, reads_read, List.all_cons, List.all_cons, ih, hcore]

end Dressing

/-! ### Trees that are alike -/

section Trees

variable {g : Token → Token}

theorem Value.refillToken_retoken {ts ts' : List Token} (h : ts.map g = ts'.map g) (v : Value)
    (t : Token) : (v.refillToken t ts).1.retoken g = (v.refillToken t ts').1.retoken g
      ∧ (v.refillToken t ts).2.map g = (v.refillToken t ts').2.map g := by
  unfold Value.refillToken
  split
  · exact ⟨rfl, h⟩
  cases ts with
  | nil =>
    obtain rfl := List.map_eq_nil_iff.1 h.symm
    exact ⟨rfl, rfl⟩
  | cons u us =>
    cases ts' with
    | nil => cases h
    | cons u' us' =>
      obtain ⟨hu, hus⟩ := List.cons.inj h
      exact ⟨congrArg Value.token hu, hus⟩

mutual

/-- A tree refilled with tokens that `g` makes equal is made equal by `g`. -/
theorem Value.refill_retoken (ts ts' : List Token) (h : ts.map g = ts'.map g) : ∀ v : Value,
    (v.refill ts).1.retoken g = (v.refill ts').1.retoken g
      ∧ (v.refill ts).2.map g = (v.refill ts').2.map g
  | .token t => Value.refillToken_retoken h (.token t) t
  | .framed t l r => Value.refillToken_retoken h (.framed t l r) t
  | .tokens vs => (refillList_retoken ts ts' h vs).imp_left (congrArg Value.tokens)
  | .node c vs => (refillList_retoken ts ts' h vs).imp_left (congrArg (Value.node c))
  | .nodes vs => (refillList_retoken ts ts' h vs).imp_left (congrArg Value.nodes)
  | .separated vs => (refillList_retoken ts ts' h vs).imp_left (congrArg Value.separated)
  | .scalar _ => ⟨rfl, h⟩
  | .kind _ => ⟨rfl, h⟩
  | .trivia _ => ⟨rfl, h⟩
  | .triviaList _ => ⟨rfl, h⟩
  | .array _ => ⟨rfl, h⟩

theorem Value.refillList_retoken (ts ts' : List Token) (h : ts.map g = ts'.map g) :
    ∀ vs : List Value, Value.retokenList g (Value.refillList vs ts).1
        = Value.retokenList g (Value.refillList vs ts').1
      ∧ (Value.refillList vs ts).2.map g = (Value.refillList vs ts').2.map g
  | [] => ⟨rfl, h⟩
  | v :: vs => by
    obtain ⟨hv, hrest⟩ := Value.refill_retoken ts ts' h v
    obtain ⟨hvs, hrest'⟩ := Value.refillList_retoken _ _ hrest vs
    exact ⟨congrArg₂ List.cons hv hvs, hrest'⟩

end

/-- Closing a tree with ends that `g` makes equal. -/
theorem Parsed.close_retoken {c : Context} {e e' : Token} {v v' : Value} (he : g e = g e')
    (hv : v.retoken g = v'.retoken g) :
    (Parsed.close c e v).retoken g = (Parsed.close c e' v').retoken g := by
  have hclose : ∀ (e : Token) (v : Value),
      (Parsed.close c e v).retoken g = Parsed.close c (g e) (v.retoken g) := by
    intro e v
    cases v with
    | node d vs =>
      rw [Value.retoken_node]
      cases d <;> try exact Value.retoken_node _ _
      simp only [Parsed.close]
      split
      · rw [Value.retoken_node, List.map_set, Value.retoken]
      · exact Value.retoken_node _ _
    | _ => rfl
  rw [hclose, hclose, he, hv]

end Trees

/-! ### Reports that are alike -/

/-- The diagnostic without its place. -/
def Diagnostic.unplaced (d : Diagnostic) : Diagnostic := { d with span := {} }

/-- Steps that are alike have the same report, but for places. -/
theorem Parsed.report_like {file file' : Option Text} {steps steps' : List Repair.Step}
    (h : List.Forall₂ Repair.Step.Like steps steps') :
    (Parsed.report file steps).map Diagnostic.unplaced
      = (Parsed.report file' steps').map Diagnostic.unplaced := by
  induction h with
  | nil => rfl
  | cons hs _ ih =>
    cases hs with
    | @taken ks l l' hl =>
      rw [Parsed.report, Parsed.report, List.map_append, List.map_append, ih, List.map_map,
        List.map_map]
      rfl
    | @skipped l l' hl =>
      have htext : l.text = l'.text := congrArg Token.text hl
      rw [Parsed.report, Parsed.report, List.map_cons, List.map_cons, ih]
      simp only [Parsed.unexpected, Diagnostic.unplaced, htext]

/-! ### Parsing -/

/-- A lexeme without its place. -/
def Lexeme.sketch (l : Lexeme) : Kind × Text := (l.kind, l.text)

theorem Lexeme.plain_eq {ls ls' : List Lexeme} (h : ls.map Lexeme.sketch = ls'.map Lexeme.sketch) :
    List.Forall₂ (fun l l' => Repair.plain l = Repair.plain l') ls ls' := by
  induction ls generalizing ls' with
  | nil =>
    obtain rfl := List.map_eq_nil_iff.1 h.symm
    exact .nil
  | cons l ls ih =>
    cases ls' with
    | nil => cases h
    | cons l' ls' =>
      obtain ⟨hl, hls⟩ := List.cons.inj h
      have hkind : l.kind = l'.kind := congrArg Prod.fst hl
      have htext : l.text = l'.text := congrArg Prod.snd hl
      exact .cons (by rw [Repair.plain, Repair.plain, hkind, htext]) (ih hls)

/-- **Parsing is blind to spacing.**  Texts with the same kinds and texts of lexemes are read alike:
the trees are the same but for trivia and spans, missing tokens included, and the reports are the
same but for their places. -/
theorem parsePure?_respaced {source source' : Text} {ls ls' : List Lexeme} {c : Context}
    {file : Option Text} {p : Parsed} (hls : Lexeme.scan? source = some ls)
    (hls' : Lexeme.scan? source' = some ls') (hsame : ls.map Lexeme.sketch = ls'.map Lexeme.sketch)
    (h : parsePure? source c file = some p) (file' : Option Text) :
    ∃ p', parsePure? source' c file' = some p'
      ∧ p'.root.retoken Token.core = p.root.retoken Token.core
      ∧ p'.diagnostics.map Diagnostic.unplaced = p.diagnostics.map Diagnostic.unplaced := by
  simp only [parsePure?, hls, hls', Option.bind_eq_bind, Option.bind_some, Option.bind_eq_some_iff] at h ⊢
  obtain ⟨r, hr, ⟨tokens, eof⟩, hdress, hp⟩ := h
  cases hp
  obtain ⟨r', hr', hsteps, hfinal, htree⟩ := Repair.run?_like (Lexeme.plain_eq hsame) hr
  have hfed : List.Forall₂ Fed.Like (fed r.steps ++ r.final.map .inserted)
      (fed r'.steps ++ r'.final.map .inserted) := by
    rw [hfinal]
    exact List.rel_append (fed_like hsteps) (inserted_like _)
  obtain ⟨⟨tokens', eof'⟩, hdress'⟩ : ∃ d, dress file' c (Gap.scan source' (skipped r'.steps))
      source'.length (fed r'.steps ++ r'.final.map .inserted) = some d := by
    have hreads : ((reads _).all fun l => (token? file l).isSome) = (reads _).all fun l =>
        (token? file' l).isSome := reads_isSome hfed
    rw [← Option.isSome_iff_exists, dress_isSome, ← hreads, ← dress_isSome, hdress]
    rfl
  have hcores := wears_cores hfed (dress_wears hdress) (dress_wears hdress')
  refine ⟨_, ⟨r', hr', _, hdress', rfl⟩, ?_, ?_⟩
  · refine Parsed.close_retoken rfl ?_
    rw [htree]
    exact (Value.refill_retoken _ _ hcores.symm r.tree).1
  · show List.map _ (_ ++ _) = List.map _ (_ ++ _)
    rw [List.map_append, List.map_append, Parsed.report_like hsteps, hfinal, List.map_map,
      List.map_map]
    rfl

end TreeQuote
