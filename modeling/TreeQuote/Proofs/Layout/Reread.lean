/-
TreeQuote/Proofs/Layout/Reread.lean

The text of laid-out tokens is read back.  A gap that is laid out and a token that ends at what
follows are read as that gap and that token; so, one token after the other, are all tokens of a list
of places in which each is followed by what the grammar puts behind it.

Main statements: `reread_cons`, one more token in front, and `tokens_reread`, all tokens of a unit.
-/
import TreeQuote.Proofs.Layout.Settled
import TreeQuote.Proofs.Layout.Touching
import TreeQuote.Proofs.Parse.Dressing

namespace TreeQuote

open Dressing Trivia

/-! ### Gaps -/

/-- Between two texts, trivia that are laid out are scanned as they are. -/
theorem Gap.scan_laid {gap : List Trivia} {rest : Text} (h : Laid gap rest) (before : Text) :
    Gap.scan (before ++ (fullText gap ++ rest)) [] before.length
      (before.length + (fullText gap).length) = gap := by
  rw [Gap.scan, Text.slice_append, Nat.add_sub_cancel_left]
  exact h.scanFrom _ (Nat.le_refl _)

/-! ### Tokens -/

/-- One token of a dressing. -/
theorem dressAfter_read {file : Option Text} {c : Grammar.Context} {gaps : Gaps} {stop pos : Nat}
    {l : Lexeme} {fs : List Fed} {gap trailing eof : List Trivia} {u : Token} {us : List Token}
    (hgap : gaps pos l.start.offset = gap) (hu : token? file l = some u)
    (hrest : dressAfter file c gaps stop l.stop.offset fs = some (trailing, us, eof)) :
    dressAfter file c gaps stop pos (.read l :: fs)
      = some ((Gap.splitTrailing gap).1,
        u.withTrivia (Gap.splitTrailing gap).2 trailing :: us, eof) := by
  simp only [dressAfter, hgap, hu, hrest, Option.bind_eq_bind, Option.bind_some]
  rfl

/-- The first token of a dressing. -/
theorem dress_read {file : Option Text} {c : Grammar.Context} {gaps : Gaps} {stop : Nat}
    {l : Lexeme} {fs : List Fed} {gap trailing eof : List Trivia} {u : Token} {us : List Token}
    (hgap : gaps 0 l.start.offset = gap) (hu : token? file l = some u)
    (hrest : dressAfter file c gaps stop l.stop.offset fs = some (trailing, us, eof)) :
    dress file c gaps stop (.read l :: fs) = some (u.withTrivia gap trailing :: us, eof) := by
  simp only [dress, hgap, hu, hrest, Option.bind_eq_bind, Option.bind_some]
  rfl

/-- A token that is read back, between comments. -/
structure Token.Readable (file : Option Text) (t : Token) : Prop where
  lexeme : Lexeme.IsLexeme t.kind t.text
  present : t.missing = false
  leading : ∀ c ∈ Layout.kept t.leading, c.Comment
  trailing : ∀ c ∈ Layout.kept t.trailing, c.Comment
  read : ∀ l : Lexeme, l.kind = t.kind → l.text = t.text
    → ∃ u, token? file l = some u ∧ u.SameCore t

/-- Tokens are read back from the cursor on, with the trivia that trail the token in front of them
and those in front of the end of the file. -/
structure Reread (file : Option Text) (start : Cursor) (trail : List Trivia) (ts : List Token)
    (lead : List Trivia) (ls : List Lexeme) : Prop where
  lexes : Lexeme.Lexes start (fullText trail ++ (Value.tokensText ts ++ fullText lead)) ls
  kinds : ls.map (·.kind) = Value.kinds ts
  dressed : ∀ before : Text, before.length = start.offset → ∃ us,
    dressAfter file .unit
        (Gap.scan (before ++ (fullText trail ++ (Value.tokensText ts ++ fullText lead))) [])
        (before ++ (fullText trail ++ (Value.tokensText ts ++ fullText lead))).length
        start.offset (ls.map .read)
      = some (trail, us, lead) ∧ Value.EqvTokens us ts

variable {file : Option Text} {start : Cursor} {gap trail lead : List Trivia} {t : Token}
  {ts : List Token} {ls : List Lexeme}

/-- Without tokens there is one gap. -/
theorem reread_nil (h : Laid gap []) :
    Reread file start (Gap.splitTrailing gap).1 [] (Gap.splitTrailing gap).2 [] := by
  have htext : fullText (Gap.splitTrailing gap).1
      ++ (Value.tokensText [] ++ fullText (Gap.splitTrailing gap).2) = fullText gap := by
    rw [Value.tokensText_nil, List.nil_append, fullText_split]
  refine ⟨?_, rfl, fun before hbefore => ⟨[], ?_, .nil⟩⟩
  · rw [htext]
    exact .done h.passes
  · have hscan := Gap.scan_laid h before
    rw [List.append_nil, ← List.length_append] at hscan
    rw [htext, ← hbefore]
    simp only [List.map_nil, dressAfter, lastGap, if_true, hscan]

/-- The text of one more token in front. -/
theorem fullText_reread :
    fullText (Gap.splitTrailing gap).1
        ++ (Value.tokensText (t.withTrivia (Gap.splitTrailing gap).2 trail :: ts) ++ fullText lead)
      = fullText gap
        ++ (t.text ++ (fullText trail ++ (Value.tokensText ts ++ fullText lead))) := by
  rw [← fullText_split gap]
  simp [Value.tokensText_cons, Token.fullText, Token.withTrivia]

/-- One more token in front. -/
theorem reread_cons (ht : t.Readable file)
    (hgap : Laid gap (t.text ++ (fullText trail ++ (Value.tokensText ts ++ fullText lead))))
    (hend : Lexeme.EndsAt t.kind (fullText trail ++ (Value.tokensText ts ++ fullText lead)))
    (h : Reread file ((start.after (fullText gap)).after t.text) trail ts lead ls) :
    Reread file start (Gap.splitTrailing gap).1
      (t.withTrivia (Gap.splitTrailing gap).2 trail :: ts) lead
      (⟨t.kind, t.text, start.after (fullText gap),
        (start.after (fullText gap)).after t.text⟩ :: ls) := by
  refine ⟨?_, congrArg (t.kind :: ·) h.kinds, fun before hbefore => ?_⟩
  · rw [fullText_reread]
    exact .lexeme hgap.passes (ht.lexeme.munch hend) h.lexes
  · rw [fullText_reread]
    have hstart : (start.after (fullText gap)).offset = before.length + (fullText gap).length := by
      rw [Cursor.after_offset, hbefore]
    have hscan := Gap.scan_laid hgap before
    obtain ⟨u, hu, hcore⟩ := ht.read ⟨t.kind, t.text, start.after (fullText gap),
      (start.after (fullText gap)).after t.text⟩ rfl rfl
    have hlen : (before ++ (fullText gap ++ t.text)).length
        = ((start.after (fullText gap)).after t.text).offset := by
      rw [Cursor.after_offset, hstart, List.length_append, List.length_append, Nat.add_assoc]
    obtain ⟨us, hus, heqv⟩ := h.dressed _ hlen
    rw [List.append_assoc, List.append_assoc] at hus
    refine ⟨u.withTrivia (Gap.splitTrailing gap).2 trail :: us, ?_, .cons hcore.eqv heqv⟩
    refine dressAfter_read ?_ hu hus
    rw [← hbefore]
    exact (congrArg _ hstart).trans hscan

/-! ### All tokens -/

/-- The end of a file, behind comments. -/
structure Token.Ending (t : Token) : Prop where
  kind : t.kind = .endOfFileToken
  text : t.text = []
  leading : ∀ c ∈ Layout.kept t.leading, c.Comment
  trailing : t.trailing = []

/-- A token starts with no space. -/
theorem Token.Readable.flush (h : t.Readable file) (rest : Text) :
    Layout.Flush (t.text ++ rest) := by
  obtain ⟨c, more, htext, hgap, -⟩ := h.lexeme.starts
  intro d hd
  rw [htext] at hd
  cases hd
  simp only [Lexeme.isGap, Bool.or_eq_false_iff] at hgap
  simp [Gap.isSpace, hgap]

namespace Layout

theorem separator_of_separatorAfter {before : Text} {p q : Place}
    (h : separatorAfter before p q = .nothing) : separator p q = .nothing := by
  unfold separatorAfter at h
  split at h
  · assumption
  · exact h

variable {ps : List Place} {e : Place}

/-- What stands behind the end of a file. -/
theorem behind_ending (he : e.token.Ending) (depth : Nat) (before : Text) :
    behind {} e depth before [] = ([], []) := by
  rw [behind, layoutAfter_nil, he.trailing]
  rfl

/-- The text of the tokens behind a place is read back, and the token at the place ends at it. -/
theorem layoutAfter_reread
    (hps : ∀ p ∈ ps, p.token.Readable file ∧ p.token.kind ≠ .endOfFileToken)
    (he : e.token.Ending) {prev : Place} (depth : Nat) (before : Text)
    (hprev : ∀ c ∈ kept prev.token.trailing, c.Comment)
    (hled : Grammar.Led (prev :: (ps ++ [e]))) :
    ∃ trail ts lead,
      layoutAfter {} prev depth before (ps ++ [e]) = (trail, ts ++ [e.token.withTrivia lead []])
      ∧ Lexeme.EndsAt prev.token.kind
        (fullText trail ++ (Value.tokensText ts ++ fullText lead))
      ∧ ∀ start, ∃ ls, Reread file start trail ts lead ls := by
  induction ps generalizing prev depth before with
  | nil =>
    have hpending : ∀ c ∈ kept prev.token.trailing ++ kept e.token.leading, c.Comment :=
      List.forall_mem_append.2 ⟨hprev, he.leading⟩
    have hflush : Flush [] := fun c hc => by cases hc
    have hgap : Laid (gap {} prev depth before e) [] := by
      exact laid_between hpending _ hflush fun _ => rfl
    have hends : Lexeme.EndsAt prev.token.kind (fullText (gap {} prev depth before e) ++ []) :=
      endsAt_between _ (fun hk => absurd he.kind hk) fun _ => rfl
    refine ⟨_, [], _, ?_, ?_, fun start => ⟨[], reread_nil hgap⟩⟩
    · rw [List.nil_append, layoutAfter_cons, behind_ending he]
      rfl
    · rw [List.append_nil] at hends
      rw [Value.tokensText_nil, List.nil_append, fullText_split]
      exact hends
  | cons q qs ih =>
    obtain ⟨⟨hq, hkind⟩, hqs⟩ := List.forall_mem_cons.1 hps
    obtain ⟨trail, ts, lead, hbehind, hendq, hreread⟩ :=
      ih hqs (depthAfter q.token.kind depth) (lastText before q.token.text) hq.trailing hled.2
    have hpending : ∀ c ∈ kept prev.token.trailing ++ kept q.token.leading, c.Comment :=
      List.forall_mem_append.2 ⟨hprev, hq.leading⟩
    have hgap : Laid (gap {} prev depth before q)
        (q.token.text ++ (fullText trail ++ (Value.tokensText ts ++ fullText lead))) :=
      laid_between hpending _ (hq.flush _) fun hk => absurd hk hkind
    have hends : Lexeme.EndsAt prev.token.kind (fullText (gap {} prev depth before q)
        ++ (q.token.text ++ (fullText trail ++ (Value.tokensText ts ++ fullText lead)))) := by
      refine endsAt_between _ (fun hk hsep => ?_) fun hk => absurd hk hkind
      exact hq.lexeme.endsAt (clashes_eq_false hled.1 hq.present hkind
        (separator_of_separatorAfter hsep)) hendq
    refine ⟨(Gap.splitTrailing (gap {} prev depth before q)).1,
      q.token.withTrivia (Gap.splitTrailing (gap {} prev depth before q)).2 trail :: ts, lead,
      ?_, ?_, fun start => ?_⟩
    · rw [List.cons_append, layoutAfter_cons, behind, hbehind]
      rfl
    · rw [fullText_reread]
      exact hends
    · obtain ⟨ls, hls⟩ := hreread
        ((start.after (fullText (gap {} prev depth before q))).after q.token.text)
      exact ⟨_, reread_cons hq hgap hendq hls⟩

/-- The text of all tokens of a unit is read back: what was laid out is scanned into lexemes of the
same kinds, and they are dressed as the tokens that were laid out. -/
theorem tokens_reread
    (hps : ∀ p ∈ ps, p.token.Readable file ∧ p.token.kind ≠ .endOfFileToken)
    (he : e.token.Ending) (hled : Grammar.Led (ps ++ [e])) :
    ∃ ts lead ls us, tokens {} (ps ++ [e]) = ts ++ [e.token.withTrivia lead []]
      ∧ Lexeme.scan? (Value.tokensText ts ++ fullText lead) = some ls
      ∧ ls.map (·.kind) = Value.kinds ts
      ∧ dress file .unit (Gap.scan (Value.tokensText ts ++ fullText lead) [])
          (Value.tokensText ts ++ fullText lead).length (ls.map .read) = some (us, lead)
      ∧ Value.EqvTokens us ts := by
  cases ps with
  | nil =>
    obtain ⟨lead, hlead⟩ : ∃ lead, between {} none (kept e.token.leading) e.token.kind
      (depthAt e.token.kind 0) = lead := ⟨_, rfl⟩
    have hflush : Flush [] := fun c hc => by cases hc
    have hgap : Laid lead [] := hlead ▸ laid_between he.leading _ hflush fun _ => rfl
    have hscan := Gap.scan_laid hgap []
    rw [List.append_nil, List.nil_append, List.length_nil, Nat.zero_add] at hscan
    refine ⟨[], lead, [], [], ?_, ?_, rfl, ?_, .nil⟩
    · rw [List.nil_append, tokens_cons, behind_ending he, hlead]
      rfl
    · exact Lexeme.scan?_iff.2 (.done hgap.passes)
    · rw [Value.tokensText_nil, List.nil_append, List.map_nil, dress, if_pos rfl, hscan]
  | cons p ps =>
    obtain ⟨⟨hp, hkind⟩, hps⟩ := List.forall_mem_cons.1 hps
    obtain ⟨trail, ts, lead, hbehind, hends, hreread⟩ :=
      layoutAfter_reread hps he (depthAfter p.token.kind 0) (lastText [] p.token.text) hp.trailing
        hled
    obtain ⟨first, hfirst⟩ : ∃ first, between {} none (kept p.token.leading) p.token.kind
      (depthAt p.token.kind 0) = first := ⟨_, rfl⟩
    have hgap : Laid first
        (p.token.text ++ (fullText trail ++ (Value.tokensText ts ++ fullText lead))) :=
      hfirst ▸ laid_between hp.leading _ (hp.flush _) fun hk => absurd hk hkind
    obtain ⟨ls, hls⟩ := hreread ((Cursor.start.after (fullText first)).after p.token.text)
    have htext : Value.tokensText (p.token.withTrivia first trail :: ts) ++ fullText lead
        = fullText first ++ (p.token.text
          ++ (fullText trail ++ (Value.tokensText ts ++ fullText lead))) := by
      simp [Token.fullText, Token.withTrivia]
    have hscan := Gap.scan_laid hgap []
    rw [List.nil_append, List.length_nil, Nat.zero_add] at hscan
    have hstart : (Cursor.start.after (fullText first)).offset = (fullText first).length := by
      rw [Cursor.after_offset]
      exact Nat.zero_add _
    obtain ⟨u, hu, hcore⟩ := hp.read ⟨p.token.kind, p.token.text,
      Cursor.start.after (fullText first),
      (Cursor.start.after (fullText first)).after p.token.text⟩ rfl rfl
    have hlen : (fullText first ++ p.token.text).length
        = ((Cursor.start.after (fullText first)).after p.token.text).offset := by
      rw [Cursor.after_offset, hstart, List.length_append]
    obtain ⟨us, hus, heqv⟩ := hls.dressed _ hlen
    rw [List.append_assoc] at hus
    refine ⟨p.token.withTrivia first trail :: ts, lead,
      ⟨p.token.kind, p.token.text, Cursor.start.after (fullText first),
        (Cursor.start.after (fullText first)).after p.token.text⟩ :: ls,
      u.withTrivia first trail :: us, ?_, ?_, congrArg (p.token.kind :: ·) hls.kinds, ?_,
      .cons hcore.eqv heqv⟩
    · rw [List.cons_append, tokens_cons, behind, hbehind, hfirst]
      rfl
    · rw [htext]
      exact Lexeme.scan?_iff.2 (.lexeme hgap.passes (hp.lexeme.munch hends) hls.lexes)
    · rw [htext]
      refine dress_read ?_ hu hus
      exact (congrArg _ hstart).trans hscan

end Layout

end TreeQuote
