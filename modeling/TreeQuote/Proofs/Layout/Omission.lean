/-
TreeQuote/Proofs/Layout/Omission.lean

What can be left out of a layout.  A missing token without trivia writes nothing, but the token
behind it is laid out as the one behind a token of its kind.  So whether missing tokens can be left
out depends on what is around them.

* Brackets around missing tokens that write no more than empty ones can be exchanged for empty ones.
* A missing type annotation can be left out if no comment stands in front of it.
* So can a missing semicolon behind a closing brace, if neither a semicolon nor `else` follows.
* Missing members can be left out in front of the end of the file.

In each case the text of one node shows that no comment is in the way.

Main statements: `Exchanges.brackets`, `Exchanges.annotation`, `Exchanges.semicolon` and
`Exchanges.members`.
-/
import TreeQuote.Proofs.Layout.Front
import TreeQuote.Proofs.Source.Gap

namespace TreeQuote

open Layout

/-! ### Ink -/

/-- Two texts that are cut at a character that is no blank, behind the same ink, are cut at the same
place. -/
theorem Text.split_ink {s s' t t' : Text} {c c' : CodePoint} (hc : Lexeme.isGap c = false)
    (hc' : Lexeme.isGap c' = false) (h : s ++ c :: t = s' ++ c' :: t') (hink : s.ink = s'.ink) :
    s = s' ∧ c = c' ∧ t = t' := by
  have hcons : ∀ (d : CodePoint) (u : Text),
      Text.ink (d :: u) = if Lexeme.isGap d then u.ink else d :: u.ink := by
    intro d u
    cases hd : Lexeme.isGap d <;> simp [Text.ink, hd]
  induction s generalizing s' with
  | nil =>
    cases s' with
    | nil =>
      obtain ⟨hhead, htail⟩ := List.cons.inj h
      exact ⟨rfl, hhead, htail⟩
    | cons d s' =>
      obtain ⟨rfl, -⟩ := List.cons.inj h
      rw [hcons, hc] at hink
      cases hink
  | cons d s ih =>
    cases s' with
    | nil =>
      obtain ⟨rfl, -⟩ := List.cons.inj h
      rw [hcons, hc'] at hink
      cases hink
    | cons d' s' =>
      obtain ⟨rfl, htail⟩ := List.cons.inj h
      have hrest : Text.ink s = Text.ink s' := by
        rw [hcons, hcons] at hink
        split at hink
        · exact hink
        · exact (List.cons.inj hink).2
      obtain ⟨rfl, hcc, htt⟩ := ih htail hrest
      exact ⟨rfl, hcc, htt⟩

/-- A blank text ends with a blank. -/
theorem Text.concat_of_blank {t : Text} (hne : t ≠ []) (hink : t.ink = []) :
    ∃ s c, t = s ++ [c] ∧ Lexeme.isGap c = true := by
  obtain ⟨s, c, rfl⟩ := (List.eq_nil_or_concat' t).resolve_left hne
  refine ⟨s, c, rfl, ?_⟩
  rw [Text.ink_append] at hink
  simpa [Text.ink] using (List.append_eq_nil_iff.mp hink).2

/-- A missing token with nothing in front of it. -/
structure Token.Unseen (t : Token) : Prop where
  missing : t.missing = true
  text : t.text = []
  leading : t.leading = []

/-- A missing token without trivia. -/
structure Token.Hollow (t : Token) : Prop extends t.Unseen where
  trailing : t.trailing = []

/-- A token that is there, between trivia of a source. -/
structure Token.Solid (t : Token) : Prop where
  present : t.missing = false
  head : ∃ c rest, t.text = c :: rest ∧ Lexeme.isGap c = false
  leading : ∀ c ∈ t.leading, c.Scanned
  trailing : ∀ c ∈ t.trailing, c.Scanned
  kind : t.kind ≠ .endOfFileToken

theorem Token.Hollow.ink {t : Token} (h : t.Hollow) : t.ink = [] := by
  rw [Token.ink, h.text, h.leading, h.trailing]
  rfl

theorem Token.inks_hollow {ts : List Token} (h : ∀ t ∈ ts, t.Hollow) : Token.inks ts = [] :=
  List.flatMap_eq_nil_iff.mpr fun t ht => (h t ht).ink

/-- Trivia of a source without ink are blank. -/
theorem Trivia.kept_eq_nil {ts : List Trivia} (hts : ∀ c ∈ ts, c.Scanned)
    (h : (Trivia.fullText (kept ts)).ink = []) : kept ts = [] := by
  cases hkept : kept ts with
  | nil => rfl
  | cons c cs =>
    have hc : c ∈ kept ts := hkept ▸ List.mem_cons_self
    obtain ⟨d, rest, htext, hd⟩ := (hts c (List.mem_of_mem_filter hc)).head
    have hblank : c.isWhitespace = false := by simpa [kept] using List.of_mem_filter hc
    rw [hkept, Trivia.fullText_cons, Text.ink_append] at h
    exact absurd (List.append_eq_nil_iff.mp h).1 (Text.ink_ne_nil htext (hd.trans hblank))

theorem Token.Solid.ink_ne_nil {t : Token} (h : t.Solid) : t.ink ≠ [] := by
  obtain ⟨c, rest, htext, hc⟩ := h.head
  rw [Token.ink]
  simp [Text.ink_ne_nil htext hc]

namespace Layout

/-! ### Gaps -/

/-- In front of a token stands nothing, or first a blank. -/
theorem between_head (sep : Separator) (ts : List Trivia) (k : Kind) (depth : Nat) :
    (Trivia.fullText (between {} (some sep) ts k depth) = [] ∧ ts = []
        ∧ (k = .endOfFileToken ∨ sep = .nothing))
      ∨ ∃ c rest, Trivia.fullText (between {} (some sep) ts k depth) = c :: rest
        ∧ Lexeme.isGap c = true := by
  have hline : Lexeme.isGap (CodePoint.ofChar '\n') = true := by decide
  have hspace : Lexeme.isGap (CodePoint.ofChar ' ') = true := by decide
  unfold between
  split
  · next hk =>
    cases ts with
    | nil => exact .inl ⟨rfl, rfl, .inl hk⟩
    | cons t ts => exact .inr ⟨_, _, rfl, hline⟩
  split
  · next hk hnil =>
    obtain rfl := List.isEmpty_iff.mp hnil
    cases sep with
    | nothing => exact .inl ⟨rfl, rfl, .inr rfl⟩
    | space => exact .inr ⟨_, _, rfl, hspace⟩
    | line => exact .inr ⟨_, _, rfl, hline⟩
  · cases sep with
    | nothing => exact .inr ⟨_, _, rfl, hspace⟩
    | space => exact .inr ⟨_, _, rfl, hspace⟩
    | line => exact .inr ⟨_, _, rfl, hline⟩

theorem between_nothing (k : Kind) (depth : Nat) : between {} (some .nothing) [] k depth = [] := by
  unfold between
  split <;> rfl

/-- Behind comments stands a blank. -/
theorem comments_last {ts : List Trivia} (hts : ts ≠ []) (ownLine : Bool) (inner depth : Nat) :
    ∃ s c, Trivia.fullText (comments {} ownLine inner depth ts) = s ++ [c] ∧ Lexeme.isGap c = true := by
  have hblank : ∀ (b : Bool) (d : Nat), ∃ s c,
      Trivia.fullText (if b then lineBreak {} d else [space]) = s ++ [c] ∧ Lexeme.isGap c = true := by
    intro b d
    cases b with
    | true => exact Text.concat_of_blank (List.cons_ne_nil _ _) (ink_lineBreak isBlank_default d)
    | false => exact ⟨[], _, rfl, by decide⟩
  induction ts using comments.induct with
  | case1 => exact absurd rfl hts
  | case2 t =>
    obtain ⟨s, c, hs, hc⟩ := hblank (isLineComment t || ownLine) depth
    refine ⟨t.text ++ s, c, ?_, hc⟩
    rw [comments, Trivia.fullText_cons, hs, List.append_assoc]
  | case3 t u ts ih =>
    obtain ⟨s, c, hs, hc⟩ := ih (List.cons_ne_nil _ _)
    refine ⟨Trivia.fullText (t :: if isLineComment t then lineBreak {} inner else [space]) ++ s, c, ?_, hc⟩
    rw [comments, Trivia.fullText_append, hs, List.append_assoc]

theorem between_last {ts : List Trivia} (hts : ts ≠ []) (sep : Separator) {k : Kind}
    (hk : k ≠ .endOfFileToken) (depth : Nat) :
    ∃ s c, Trivia.fullText (between {} (some sep) ts k depth) = s ++ [c] ∧ Lexeme.isGap c = true := by
  unfold between
  rw [if_neg hk, if_neg (by simpa using hts)]
  obtain ⟨s, c, hs, hc⟩ := comments_last hts (some sep = some .line)
    (if k = .closeBraceToken then depth + 1 else depth) depth
  cases sep <;> exact ⟨_, c, by rw [Trivia.fullText_append, hs, ← List.append_assoc], hc⟩

/-! ### Missing tokens -/

theorem separatorAfter_unseen {p : Place} (h : p.token.Unseen) (before : Text) (prev : Place) :
    separatorAfter before prev p = .nothing := by
  have hseparator : separator prev p = .nothing := by simp [separator, h.missing]
  have hmerge : wouldMerge before p.token.text = false := by
    rw [h.text, wouldMerge]
    cases before.getLast? <;> rfl
  rw [separatorAfter, hseparator, hmerge]
  rfl

/-- In front of a missing token stand the comments behind the last one. -/
theorem gapFrom_unseen {p : Place} (h : p.token.Unseen) (s : Option Front) :
    gapFrom s p = between {} (s.map fun _ => .nothing) (pendingOf s) p.token.kind
      (depthAt p.token.kind (depthOf s)) := by
  have hleading : kept p.token.leading = [] := by rw [h.leading]; rfl
  rw [gapFrom, hleading, List.append_nil]
  cases s with
  | none => rfl
  | some f =>
    show between {} (some (separatorAfter f.before f.prev p)) _ _ _ = _
    rw [separatorAfter_unseen h]
    rfl

theorem between_none (k : Kind) (depth : Nat) : between {} none [] k depth = [] := by
  unfold between
  split <;> rfl

theorem gapFrom_eq_nil {p : Place} (h : p.token.Unseen) {s : Option Front} (hs : pendingOf s = []) :
    gapFrom s p = [] := by
  rw [gapFrom_unseen h, hs]
  cases s with
  | none => exact between_none _ _
  | some f => exact between_nothing _ _

theorem pendingOf_step {p : Place} (h : p.token.Hollow) (s : Option Front) :
    pendingOf (some (step s p)) = [] := by
  show kept p.token.trailing = []
  rw [h.trailing]
  rfl

/-- Missing tokens behind which no comments are pending write nothing. -/
theorem written_hollow {ps : List Place} (h : ∀ p ∈ ps, p.token.Hollow) {s : Option Front}
    (hs : pendingOf s = []) : written s ps = [] ∧ pendingOf (along s ps) = [] := by
  induction ps generalizing s with
  | nil => exact ⟨rfl, hs⟩
  | cons p ps ih =>
    obtain ⟨hp, hps⟩ := List.forall_mem_cons.mp h
    obtain ⟨hrest, hpending⟩ := ih hps (pendingOf_step hp s)
    refine ⟨?_, hpending⟩
    rw [written, gapFrom_eq_nil hp.toUnseen hs, hp.text, hrest]
    rfl

/-- Behind missing tokens layout goes on from the last of them. -/
theorem textFrom_hollow {ps : List Place} (h : ∀ p ∈ ps, p.token.Hollow) {s : Option Front}
    (hs : pendingOf s = []) (rest : List Place) :
    textFrom s (ps ++ rest) = textFrom (along s ps) rest := by
  rw [textFrom_append, (written_hollow h hs).1, List.nil_append]

/-- Pending comments are written in front of the first missing token. -/
theorem textFrom_hollow_cons {p : Place} {ps : List Place} (h : ∀ q ∈ p :: ps, q.token.Hollow)
    (s : Option Front) (rest : List Place) :
    textFrom s (p :: ps ++ rest) = Trivia.fullText (gapFrom s p) ++ textFrom (along s (p :: ps)) rest := by
  obtain ⟨hp, hps⟩ := List.forall_mem_cons.mp h
  rw [List.cons_append, textFrom, textFrom_hollow hps (pendingOf_step hp s), hp.text, List.append_nil]
  rfl

/-- The last token of a front is the last one passed. -/
theorem along_cons (s : Option Front) (p : Place) (ps : List Place) :
    along s (p :: ps) = some ⟨(p :: ps).getLast (List.cons_ne_nil _ _),
      depthOf (along s (p :: ps)), beforeOf (along s (p :: ps))⟩ := by
  obtain ⟨qs, q, hq⟩ := (List.eq_nil_or_concat' (p :: ps)).resolve_left (List.cons_ne_nil _ _)
  simp only [hq, along_concat, List.getLast_concat]
  rfl

/-- The first token that is there, behind missing ones. -/
theorem exists_solid {ps : List Place} (h : ∀ p ∈ ps, p.token.Hollow ∨ p.token.Solid)
    (hink : Token.inks (ps.map (·.token)) ≠ []) :
    ∃ ms p rest, ps = ms ++ p :: rest ∧ (∀ m ∈ ms, m.token.Hollow) ∧ p.token.Solid := by
  induction ps with
  | nil => exact absurd rfl hink
  | cons p ps ih =>
    obtain ⟨hp, hps⟩ := List.forall_mem_cons.mp h
    rcases hp with hp | hp
    · rw [List.map_cons, Token.inks_cons, hp.ink, List.nil_append] at hink
      obtain ⟨ms, q, rest, rfl, hms, hq⟩ := ih hps hink
      exact ⟨p :: ms, q, rest, rfl, List.forall_mem_cons.mpr ⟨hp, hms⟩, hq⟩
    · exact ⟨[], p, ps, rfl, List.forall_mem_nil _, hp⟩

theorem hollow_of_inks {ps : List Place} (h : ∀ p ∈ ps, p.token.Hollow ∨ p.token.Solid)
    (hink : Token.inks (ps.map (·.token)) = []) : ∀ p ∈ ps, p.token.Hollow := by
  intro p hp
  refine (h p hp).resolve_right fun hsolid => hsolid.ink_ne_nil ?_
  exact List.flatMap_eq_nil_iff.mp hink _ (List.mem_map_of_mem hp)

/-- Behind comments, a token does not stand right behind a character. -/
theorem not_flush {s : Option Front} {ps rest : List Place} {p : Place} {t u : Text} {a b : CodePoint}
    (hps : ps ≠ []) (hp : p.token.Solid) (hleading : kept p.token.leading ≠ [])
    (ha : Lexeme.isGap a = false) (hb : Lexeme.isGap b = false)
    (htext : textFrom s (ps ++ p :: rest) = t ++ [a] ++ b :: u)
    (hink : (written s ps).ink ++ (Trivia.fullText (gapFrom (along s ps) p)).ink = t.ink ++ [a]) :
    False := by
  obtain ⟨c, more, hc, hgap⟩ := hp.head
  have hcut : (written s ps ++ Trivia.fullText (gapFrom (along s ps) p))
      ++ c :: (more ++ textFrom (some (step (along s ps) p)) rest) = (t ++ [a]) ++ b :: u := by
    rw [← htext, textFrom_append, textFrom, hc]
    simp
  obtain ⟨hsame, -, -⟩ := Text.split_ink hgap hb hcut (by
    rw [Text.ink_append, Text.ink_append, hink]
    simp [Text.ink, ha])
  obtain ⟨q, qs, rfl⟩ := List.exists_cons_of_ne_nil hps
  rw [along_cons] at hsame
  have hpending : pendingOf (along s (q :: qs)) ++ kept p.token.leading ≠ [] := by simp [hleading]
  obtain ⟨v, d, hv, hd⟩ := between_last hpending
    (separatorAfter (beforeOf (along s (q :: qs))) ((q :: qs).getLast (List.cons_ne_nil _ _)) p)
    hp.kind (depthAt p.token.kind (depthOf (along s (q :: qs))))
  have hlast : (written s (q :: qs) ++ v) ++ [d] = t ++ [a] := by
    rw [List.append_assoc, ← hv, ← hsame, along_cons]
    rfl
  obtain ⟨-, hda⟩ := List.append_inj' hlast rfl
  cases hda
  rw [hd] at ha
  cases ha

/-! ### Brackets -/

/-- Two tokens of one character each, the second right behind the first. -/
structure Closed (a b : CodePoint) (p q : Place) : Prop where
  opens : p.token.text = [a]
  closes : q.token.text = [b]
  present : p.token.missing = false
  ink : p.token.ink = [a]
  ink' : q.token.ink = [b]
  leading : kept p.token.leading = []
  trailing : kept p.token.trailing = []
  leading' : kept q.token.leading = []
  trailing' : kept q.token.trailing = []
  separator : separatorAfter [a] p q = .nothing
  ne : a ≠ b
  head : Lexeme.isGap a = false
  head' : Lexeme.isGap b = false

/-- Tokens of which only two are there: the first, and one that stands right behind it. -/
structure Tight (a b : CodePoint) (p : Place) (ms : List Place) (q : Place) (rest : List Place) :
    Prop where
  opens : p.token.text = [a]
  present : p.token.missing = false
  leading : kept p.token.leading = []
  trailing : kept p.token.trailing = []
  hollow : ∀ m ∈ ms, m.token.Hollow
  closes : q.token.text = [b]
  leading' : kept q.token.leading = []
  trailing' : kept q.token.trailing = []
  separator : separatorAfter [a] ((p :: ms).getLast (List.cons_ne_nil _ _)) q = .nothing
  hollow' : ∀ m ∈ rest, m.token.Hollow

section Brackets

variable {a b : CodePoint} {o p c q : Place} {ms ps rest base : List Place} {s : Option Front}
  {ks : List Kind}

/-- Tight tokens are written like two tokens, from every front. -/
theorem Tight.textFrom (h : Tight a b p ms q rest) (s : Option Front) (base : List Place) :
    textFrom s (p :: ms ++ q :: rest ++ base) = Trivia.fullText (gapFrom s p) ++ [a] ++ [b]
      ++ Layout.textFrom (along s (p :: ms ++ q :: rest)) base := by
  have hfront : beforeOf (along s (p :: ms)) = [a] := by
    show beforeOf (along (some (step s p)) ms) = _
    rw [beforeOf_along fun m hm => (h.hollow m hm).text]
    show lastText _ p.token.text = _
    rw [h.opens]
    rfl
  have hpending : pendingOf (along s (p :: ms)) = [] :=
    (written_hollow (s := some (step s p)) h.hollow h.trailing).2
  have hgap : gapFrom (along s (p :: ms)) q = [] := by
    rw [gapFrom, hpending, h.leading', along_cons, hfront]
    show between {} (some (separatorAfter [a] _ q)) _ _ _ = _
    rw [h.separator]
    exact between_nothing _ _
  have hrest : Layout.textFrom (some (step (along s (p :: ms)) q)) (rest ++ base)
      = Layout.textFrom (along s (p :: ms ++ q :: rest)) base := by
    rw [textFrom_hollow (s := some (step _ q)) h.hollow' h.trailing', along_append]
    rfl
  have hms : Layout.textFrom (some (step s p)) (ms ++ q :: (rest ++ base))
      = Layout.textFrom (along s (p :: ms)) (q :: (rest ++ base)) :=
    textFrom_hollow (s := some (step s p)) h.hollow h.trailing _
  rw [List.append_assoc, List.cons_append, List.cons_append, Layout.textFrom, h.opens, hms,
    Layout.textFrom, hgap, hrest, h.closes, Trivia.fullText_nil]
  simp only [List.append_assoc, List.nil_append]

/-- Two closed tokens are tight. -/
theorem Closed.tight (h : Closed a b p q) : Tight a b p [] q [] where
  opens := h.opens
  present := h.present
  leading := h.leading
  trailing := h.trailing
  hollow := List.forall_mem_nil _
  closes := h.closes
  leading' := h.leading'
  trailing' := h.trailing'
  separator := h.separator
  hollow' := List.forall_mem_nil _

/-- The front behind tight tokens. -/
theorem Tight.along (h : Tight a b p ms q rest) (s : Option Front) :
    along s (p :: ms ++ q :: rest) = some ⟨(q :: rest).getLast (List.cons_ne_nil _ _),
      depthOf (Layout.along s (p :: ms ++ q :: rest)), [b]⟩ := by
  have hbefore : beforeOf (Layout.along s (p :: ms ++ q :: rest)) = [b] := by
    rw [along_append]
    show beforeOf (Layout.along (some (step _ q)) rest) = _
    rw [beforeOf_along fun m hm => (h.hollow' m hm).text]
    show lastText _ q.token.text = _
    rw [h.closes]
    rfl
  have hlast : (p :: (ms ++ q :: rest)).getLast (List.cons_ne_nil _ _)
      = (q :: rest).getLast (List.cons_ne_nil _ _) :=
    List.getLast_append_of_ne_nil (l := p :: ms) _ (List.cons_ne_nil _ _)
  rw [← hbefore, ← hlast]
  exact along_cons s p (ms ++ q :: rest)

/-- Tight tokens can be exchanged for two tokens in the same properties. -/
theorem Tight.exchanges (h : Tight a b o ms p rest) (hc : Closed a b c q) (ho : Seats o c)
    (hlast : Seats ((p :: rest).getLast (List.cons_ne_nil _ _)) q)
    (hdepth : ∀ d, (o :: ms ++ p :: rest).foldl (fun d p => depthAfter p.token.kind d) d
      = [c, q].foldl (fun d p => depthAfter p.token.kind d) d) :
    Exchanges ks (o :: ms ++ p :: rest) [c, q] := by
  intro s base _
  have hgap : gapFrom s o = gapFrom s c := by
    have hseparator : ∀ f : Front, separatorAfter f.before f.prev o = separatorAfter f.before f.prev c := by
      intro f
      unfold separatorAfter Layout.separator
      rw [ho.kind, ho.parent, h.present, hc.present, h.opens, hc.opens]
    rw [gapFrom, gapFrom, h.leading, hc.leading, ho.kind, funext hseparator]
  have htrailing : kept ((p :: rest).getLast (List.cons_ne_nil _ _)).token.trailing = [] := by
    rcases List.mem_cons.mp (List.getLast_mem (List.cons_ne_nil p rest)) with heq | hmem
    · rw [heq]
      exact h.trailing'
    · rw [(h.hollow' _ hmem).trailing]
      rfl
  have htext := hc.tight.textFrom s base
  rw [h.textFrom, show [c, q] ++ base = c :: [] ++ q :: [] ++ base from rfl, htext, hgap, h.along,
    hc.tight.along, depthOf_along, depthOf_along, hdepth]
  congr 1
  exact textFrom_congr (htrailing.trans hc.trailing'.symm) fun r _ => hlast.separatorAfter _ r

/-- What is known of brackets in a source: of each token whose text is a part of the brackets. -/
structure Bracketing (a b : CodePoint) (o : Place) (ps : List Place) : Prop where
  tokens : ∀ p ∈ o :: ps, p.token.Hollow ∨ p.token.Solid
  opens : o.token.Solid → o.token.text = [a]
  closes : ∀ p ∈ ps, p.token.Solid → p.token.text.ink = [b] → p.token.text = [b]
  /-- A missing bracket is not followed by one. -/
  apart : o.token.Hollow → ∀ ms p rest, ps = ms ++ p :: rest → (∀ m ∈ ms, m.token.Hollow)
    → p.token.Solid → p.token.text.head? = some a → ¬ p.token.text.ink <+: [a, b]
  ink : Token.inks ((o :: ps).map (·.token)) = [a, b]

/-- The opening bracket is there. -/
theorem Bracketing.solid (h : Bracketing a b o ps) (hc : Closed a b c q)
    (htext : textFrom s (o :: ps ++ base) = textFrom s (c :: q :: base)) : o.token.Solid := by
  refine (h.tokens o List.mem_cons_self).resolve_left fun ho => ?_
  have hink := h.ink
  rw [List.map_cons, Token.inks_cons, ho.ink, List.nil_append] at hink
  obtain ⟨ms, p, rest, rfl, hms, hp⟩ := exists_solid (fun p hp => h.tokens p (List.mem_cons_of_mem _ hp))
    (by rw [hink]; exact List.cons_ne_nil _ _)
  obtain ⟨x, more, hx, hgap⟩ := hp.head
  have hxink : p.token.text.ink = x :: Text.ink more := by simp [hx, Text.ink, hgap]
  rw [List.map_append, Token.inks_append, Token.inks_hollow (List.forall_mem_map.mpr hms),
    List.nil_append, List.map_cons, Token.inks_cons, Token.ink, hxink] at hink
  cases hlead : (Trivia.fullText (kept p.token.leading)).ink with
  | nil =>
    -- The first token that is there starts with the bracket that is missing.
    rw [hlead, List.nil_append, List.cons_append, List.cons_append] at hink
    obtain ⟨rfl, hmore⟩ := List.cons.inj hink
    refine h.apart ho ms p rest rfl hms hp (by rw [hx]; rfl) ?_
    rw [hxink, ← hmore, List.append_assoc]
    exact List.prefix_append _ _
  | cons y ys =>
    -- The bracket was skipped, so a blank stands between it and the token.
    rw [hlead, List.cons_append, List.cons_append, List.cons_append] at hink
    obtain ⟨rfl, hys⟩ := List.cons.inj hink
    have hnil : ys = [] ∧ x = b := by
      cases ys with
      | nil => exact ⟨rfl, (List.cons.inj hys).1⟩
      | cons z ys =>
        have := congrArg List.length hys
        simp at this
    obtain ⟨rfl, rfl⟩ := hnil
    have hpending : pendingOf (along s (o :: ms)) = [] :=
      (written_hollow (s := some (step s o)) hms (pendingOf_step ho s)).2
    have hbefore := ink_written s (o :: ms)
    rw [hpending, Token.inks_hollow (List.forall_mem_map.mpr (List.forall_mem_cons.mpr ⟨ho, hms⟩))]
      at hbefore
    have hright : textFrom s ((o :: ms) ++ p :: (rest ++ base))
        = Trivia.fullText (gapFrom s c) ++ [y] ++ x :: textFrom (along s ([c] ++ [q])) base := by
      have htight := hc.tight.textFrom s base
      rw [show c :: [] ++ q :: [] ++ base = c :: q :: base from rfl, ← htext,
        List.append_assoc _ [x]] at htight
      simpa using htight
    refine not_flush (List.cons_ne_nil o ms) hp ?_ hc.head hc.head' hright ?_
    · intro hnil
      rw [hnil] at hlead
      cases hlead
    · rw [ink_gapFrom, ink_gapFrom, hpending, hlead, hc.leading]
      simpa using hbefore

/-- Brackets with the text of two closed tokens are tight. -/
theorem Bracketing.tight (h : Bracketing a b o ps) (hc : Closed a b c q) (hseats : Seats o c)
    (hps : ps ≠ []) (htext : textFrom s (o :: ps ++ base) = textFrom s (c :: q :: base)) :
    ∃ ms p rest, ps = ms ++ p :: rest ∧ Tight a b o ms p rest := by
  have ho := h.solid hc htext
  have hopens := h.opens ho
  have hink := h.ink
  rw [List.map_cons, Token.inks_cons, Token.ink, hopens] at hink
  have hone : Text.ink [a] = [a] := by simp [Text.ink, hc.head]
  rw [hone] at hink
  have hlead : (Trivia.fullText (kept o.token.leading)).ink = [] := by
    cases hlead : (Trivia.fullText (kept o.token.leading)).ink with
    | nil => rfl
    | cons y ys =>
      rw [hlead, List.cons_append, List.cons_append, List.cons_append] at hink
      obtain ⟨-, hrest⟩ := List.cons.inj hink
      cases ys with
      | nil => exact absurd (List.cons.inj hrest).1 hc.ne
      | cons z ys => simpa using congrArg List.length hrest
  have hleading := Trivia.kept_eq_nil ho.leading hlead
  rw [hlead, List.nil_append, List.append_assoc] at hink
  have hbehindInk : (Trivia.fullText (kept o.token.trailing)).ink ++ Token.inks (ps.map (·.token)) = [b] :=
    (List.cons.inj hink).2
  -- What is behind the first bracket is written like the second one.
  have hgap : gapFrom s o = gapFrom s c := by
    have hseparator : ∀ f : Front, separatorAfter f.before f.prev o = separatorAfter f.before f.prev c := by
      intro f
      unfold separatorAfter separator
      rw [hseats.kind, hseats.parent, ho.present, hc.present, hopens, hc.opens]
    rw [gapFrom, gapFrom, hleading, hc.leading, hseats.kind, funext hseparator]
  have hbehind : textFrom (some (step s o)) (ps ++ base)
      = b :: textFrom (along s [c, q]) base := by
    have hright := hc.tight.textFrom s base
    rw [show c :: [] ++ q :: [] ++ base = c :: q :: base from rfl, ← htext, List.cons_append,
      textFrom, hgap, hopens, List.append_assoc _ [b]] at hright
    exact List.append_cancel_left hright
  have hblank : ∀ {t u : Text} {d : CodePoint}, Lexeme.isGap d = true → d :: t ≠ b :: u := by
    intro t u d hd heq
    obtain ⟨rfl, -⟩ := List.cons.inj heq
    rw [hc.head'] at hd
    cases hd
  have htrailing : kept o.token.trailing = [] := by
    obtain ⟨r, rs, rfl⟩ := List.exists_cons_of_ne_nil hps
    rw [List.cons_append, textFrom] at hbehind
    rcases between_head (separatorAfter (step s o).before o r)
      (kept o.token.trailing ++ kept r.token.leading) r.token.kind
      (depthAt r.token.kind (step s o).depth) with ⟨-, hnil, -⟩ | ⟨d, t, ht, hd⟩
    · exact (List.append_eq_nil_iff.mp hnil).1
    · rw [show Trivia.fullText (gapFrom (some (step s o)) r) = d :: t from ht] at hbehind
      exact absurd hbehind (hblank hd)
  rw [htrailing, Trivia.fullText_nil, Text.ink_nil, List.nil_append] at hbehindInk
  obtain ⟨ms, p, rest, rfl, hms, hp⟩ := exists_solid (fun p hp => h.tokens p (List.mem_cons_of_mem _ hp))
    (by rw [hbehindInk]; exact List.cons_ne_nil _ _)
  obtain ⟨x, more, hx, hgapx⟩ := hp.head
  have hxink : p.token.text.ink = x :: Text.ink more := by simp [hx, Text.ink, hgapx]
  rw [List.map_append, Token.inks_append, Token.inks_hollow (List.forall_mem_map.mpr hms),
    List.nil_append, List.map_cons, Token.inks_cons, Token.ink, hxink] at hbehindInk
  have hlengths := congrArg List.length hbehindInk
  simp only [List.length_append, List.length_cons, List.length_nil] at hlengths
  have hnil : ∀ {t : Text}, t.length = 0 → t = [] := List.length_eq_zero_iff.mp
  have hleadInk := hnil (t := (Trivia.fullText (kept p.token.leading)).ink) (by omega)
  have hmoreInk := hnil (t := Text.ink more) (by omega)
  have htrailInk := hnil (t := (Trivia.fullText (kept p.token.trailing)).ink) (by omega)
  have hrestInk := hnil (t := Token.inks (rest.map (·.token))) (by omega)
  have hpleading := Trivia.kept_eq_nil hp.leading hleadInk
  have hrest := hollow_of_inks (fun r hr => h.tokens r (List.mem_cons_of_mem _
    (List.mem_append_right _ (List.mem_cons_of_mem _ hr)))) hrestInk
  have hxb : x = b := by
    rw [hleadInk, hmoreInk, htrailInk, hrestInk] at hbehindInk
    exact (List.cons.inj hbehindInk).1
  have hcloses : p.token.text = [b] :=
    h.closes p (List.mem_append_right _ List.mem_cons_self) hp (by rw [hxink, hmoreInk, hxb])
  -- Nothing stands in front of the second bracket.
  have hseparator : separatorAfter [a] ((o :: ms).getLast (List.cons_ne_nil _ _)) p = .nothing := by
    rw [List.append_assoc, textFrom_hollow (s := some (step s o)) hms htrailing, List.cons_append,
      textFrom] at hbehind
    have hpending : pendingOf (along s (o :: ms)) = [] :=
      (written_hollow (s := some (step s o)) hms htrailing).2
    have hbefore : beforeOf (along s (o :: ms)) = [a] := by
      show beforeOf (along (some (step s o)) ms) = _
      rw [beforeOf_along fun m hm => (hms m hm).text]
      show lastText _ o.token.text = _
      rw [hopens]
      rfl
    have hgapFrom : gapFrom (along s (o :: ms)) p
        = between {} (some (separatorAfter [a] ((o :: ms).getLast (List.cons_ne_nil _ _)) p)) []
          p.token.kind (depthAt p.token.kind (depthOf (along s (o :: ms)))) := by
      rw [gapFrom, hpending, hpleading, along_cons, hbefore]
      rfl
    rcases between_head (separatorAfter [a] ((o :: ms).getLast (List.cons_ne_nil _ _)) p) []
      p.token.kind (depthAt p.token.kind (depthOf (along s (o :: ms)))) with ⟨-, -, hk | hk⟩ | ⟨d, t, ht, hd⟩
    · exact absurd hk hp.kind
    · exact hk
    · rw [show along (some (step s o)) ms = along s (o :: ms) from rfl, hgapFrom, ht] at hbehind
      exact absurd hbehind (hblank hd)
  exact ⟨ms, p, rest, rfl, hopens, ho.present, hleading, htrailing, hms, hcloses, hpleading,
    Trivia.kept_eq_nil hp.trailing htrailInk, hseparator, hrest⟩

/-- **Brackets without contents.**  Brackets with the text of empty ones, in one node, can be
exchanged for empty ones wherever they stand. -/
theorem Exchanges.brackets (h : Bracketing a b o (ms ++ [p])) (hc : Closed a b c q)
    (ho : Seats o c) (hp : Seats p q) (hlevel : Level ms)
    (htext : textFrom s (o :: (ms ++ [p]) ++ base) = textFrom s (c :: q :: base)) :
    Exchanges ks (o :: (ms ++ [p])) [c, q] := by
  have hdepth : ∀ d, (o :: (ms ++ [p])).foldl (fun d p => depthAfter p.token.kind d) d
      = [c, q].foldl (fun d p => depthAfter p.token.kind d) d := by
    intro d
    rw [List.foldl_cons, List.foldl_append, hlevel, ho.kind, List.foldl_cons, List.foldl_nil, hp.kind]
    rfl
  obtain ⟨ns, r, rest, hps, htight⟩ := h.tight hc ho (by simp) htext
  have hlast : (r :: rest).getLast (List.cons_ne_nil _ _) = p := by
    have := congrArg List.getLast? hps
    rw [List.getLast?_concat, List.getLast?_append_of_ne_nil _ (List.cons_ne_nil _ _),
      List.getLast?_eq_getLast_of_ne_nil (List.cons_ne_nil _ _)] at this
    exact (Option.some.inj this).symm
  rw [hps] at hdepth ⊢
  exact htight.exchanges hc ho (hlast ▸ hp) hdepth

end Brackets

/-! ### Comments -/

theorem length_lineBreak (depth : Nat) : (Trivia.fullText (lineBreak {} depth)).length = depth + 1 := by
  have htabs : ∀ n, (Text.copies n (Text.of "\t")).length = n := by
    intro n
    induction n with
    | zero => rfl
    | succ n ih =>
      rw [Text.copies, List.length_append, ih]
      exact Nat.add_comm 1 n
  have htab : (Text.of "\t").isEmpty = false := rfl
  unfold lineBreak indent
  split
  · next h =>
    obtain rfl : depth = 0 := by simpa [htab] using h
    rfl
  · simp only [Trivia.fullText_cons, Trivia.fullText_nil, newLine, htabs, List.length_append,
      List.append_nil]
    exact Nat.add_comm 1 depth

/-- Comments on one line behind others. -/
theorem comments_append {ts us : List Trivia} (hts : ts ≠ []) (hus : us ≠ []) (depth : Nat) :
    comments {} false depth depth (ts ++ us)
      = comments {} false depth depth ts ++ comments {} false depth depth us := by
  induction ts using comments.induct with
  | case1 => exact absurd rfl hts
  | case2 t =>
    obtain ⟨u, us, rfl⟩ := List.exists_cons_of_ne_nil hus
    rw [List.singleton_append, comments, comments, Bool.or_false]
  | case3 t u ts ih =>
    rw [List.cons_append, List.cons_append, comments, comments, List.append_assoc,
      ← ih (List.cons_ne_nil _ _)]
    rfl

/-- Comments in front of a token that stands further to the right. -/
theorem length_comments_le (inner : Nat) {depth depth' : Nat} (h : depth ≤ depth') (ts : List Trivia) :
    (Trivia.fullText (comments {} false inner depth ts)).length
      ≤ (Trivia.fullText (comments {} false inner depth' ts)).length := by
  induction ts using comments.induct with
  | case1 => exact Nat.le_refl _
  | case2 t =>
    rw [comments, comments]
    cases isLineComment t with
    | false => exact Nat.le_refl _
    | true =>
      simp only [Bool.true_or, if_true, Trivia.fullText_cons, List.length_append, length_lineBreak]
      omega
  | case3 t u ts ih =>
    rw [comments, comments]
    simp only [Trivia.fullText_append, List.length_append]
    exact Nat.add_le_add_left ih _

/-- Comments with a blank in front of each are no longer than with one behind each. -/
theorem length_flatMap_le (inner depth : Nat) (ts : List Trivia) :
    (Trivia.fullText (ts.flatMap fun c => [space, c])).length
      ≤ (Trivia.fullText (comments {} false inner depth ts)).length := by
  have hblank : ∀ (b : Bool) (d : Nat),
      1 ≤ (Trivia.fullText (if b then lineBreak {} d else [space])).length := by
    intro b d
    cases b with
    | false => exact Nat.le_refl _
    | true =>
      rw [if_pos rfl, length_lineBreak]
      omega
  have hspace : (space.text).length = 1 := rfl
  induction ts using comments.induct with
  | case1 => exact Nat.le_refl _
  | case2 t =>
    have := hblank (isLineComment t || false) depth
    simp only [comments, List.flatMap_cons, List.flatMap_nil, List.append_nil, Trivia.fullText_cons,
      Trivia.fullText_nil, List.length_append, hspace]
    omega
  | case3 t u ts ih =>
    have := hblank (isLineComment t) inner
    rw [comments, List.flatMap_cons]
    simp only [Trivia.fullText_append, Trivia.fullText_cons, Trivia.fullText_nil, List.length_append,
      List.length_nil, hspace] at ih ⊢
    omega

theorem between_space {k : Kind} (hk : k ≠ .endOfFileToken) (depth : Nat) :
    between {} (some .space) [] k depth = [space] := by
  unfold between
  rw [if_neg hk]
  rfl

/-- Comments on the line of the token in front. -/
theorem between_comments (sep : Separator) (hsep : sep ≠ .line) {ts : List Trivia} (hts : ts ≠ [])
    {k : Kind} (hk : k ≠ .endOfFileToken) (depth : Nat) :
    between {} (some sep) ts k depth
      = space :: comments {} false (if k = .closeBraceToken then depth + 1 else depth) depth ts := by
  unfold between
  rw [if_neg hk, if_neg (by simpa using hts)]
  cases sep with
  | line => exact absurd rfl hsep
  | nothing => rfl
  | space => rfl

/-! ### Missing tokens in front of others -/

/-- Missing tokens that stand at one depth. -/
structure Gone (ms : List Place) : Prop where
  ne : ms ≠ []
  hollow : ∀ m ∈ ms, m.token.Hollow
  level : Level ms
  head : ∀ m ∈ ms.head?, m.token.kind ≠ .endOfFileToken ∧ m.token.kind ≠ .closeBraceToken

namespace Gone

variable {ms : List Place} {f : Front}

/-- Only the last token changes. -/
theorem along (h : Gone ms) (s : Option Front) :
    Layout.along s ms = some ⟨ms.getLast h.ne, depthOf s, beforeOf s⟩ := by
  obtain ⟨m, ns, rfl⟩ := List.exists_cons_of_ne_nil h.ne
  rw [along_cons, h.level.depthOf, beforeOf_along fun m hm => (h.hollow m hm).text]

/-- If no comments are pending, the next token follows the last of the missing ones. -/
theorem textFrom_eq (h : Gone ms) {s : Option Front} (hs : pendingOf s = []) (rest : List Place) :
    textFrom s (ms ++ rest) = textFrom (some ⟨ms.getLast h.ne, depthOf s, beforeOf s⟩) rest := by
  rw [textFrom_hollow h.hollow hs, h.along]

/-- Pending comments are written on the line of the missing tokens. -/
theorem textFrom_pending (h : Gone ms) (hf : pendingOf (some f) ≠ []) (rest : List Place) :
    textFrom (some f) (ms ++ rest)
      = Trivia.fullText (space :: comments {} false f.depth f.depth (pendingOf (some f)))
        ++ textFrom (some ⟨ms.getLast h.ne, f.depth, f.before⟩) rest := by
  obtain ⟨m, ns, rfl⟩ := List.exists_cons_of_ne_nil h.ne
  obtain ⟨hend, hclose⟩ := h.head m rfl
  have hgap : gapFrom (some f) m
      = space :: comments {} false f.depth f.depth (pendingOf (some f)) := by
    rw [gapFrom_unseen (h.hollow m List.mem_cons_self).toUnseen, depthAt, if_neg hclose]
    show between {} (some .nothing) _ _ _ = _
    rw [between_comments .nothing (by decide) hf hend, if_neg hclose]
    rfl
  rw [textFrom_hollow_cons h.hollow, h.along, hgap]
  rfl

/-- Missing tokens behind which layout goes on as without them can be left out. -/
theorem textFrom_omit (h : Gone ms) (hf : pendingOf (some f) = []) {rest : List Place}
    (hrest : ∀ r ∈ rest.head?,
      separatorAfter f.before (ms.getLast h.ne) r = separatorAfter f.before f.prev r) :
    textFrom (some f) (ms ++ rest) = textFrom (some f) rest := by
  have hlast : kept (ms.getLast h.ne).token.trailing = [] := by
    rw [(h.hollow _ (List.getLast_mem h.ne)).trailing]
    rfl
  rw [h.textFrom_eq hf]
  exact textFrom_congr (hlast.trans hf.symm) hrest

/-- In front of another missing token they can always be left out. -/
theorem textFrom_hollow (h : Gone ms) {q : Place} (hq : Gone [q]) (rest : List Place) :
    textFrom (some f) (ms ++ q :: rest) = textFrom (some f) (q :: rest) := by
  have hhollow := hq.hollow q List.mem_cons_self
  by_cases hf : pendingOf (some f) = []
  · refine h.textFrom_omit hf fun r hr => ?_
    obtain rfl : q = r := Option.some.inj hr
    rw [separatorAfter_unseen hhollow.toUnseen, separatorAfter_unseen hhollow.toUnseen]
  · have hall : Gone (ms ++ [q]) :=
      ⟨by simp, List.forall_mem_append.mpr ⟨h.hollow, hq.hollow⟩, h.level.append hq.level,
        fun m hm => h.head m (by simpa [List.head?_append_of_ne_nil _ h.ne] using hm)⟩
    rw [List.append_cons, hall.textFrom_pending hf, List.getLast_concat]
    exact (hq.textFrom_pending hf rest).symm

end Gone

/-! ### Type annotations -/

section Annotation

variable {ms : List Place} {q x : Place} {f : Front} {s : Option Front} {base qs : List Place}
  {ks : List Kind}

/-- A comment in front of a missing annotation shows it. -/
theorem Gone.pending_eq_nil (h : Gone ms) (hend : q.token.kind ≠ .endOfFileToken)
    (hclose : q.token.kind ≠ .closeBraceToken) (hprev : separator f.prev q = .space)
    (hlast : separator (ms.getLast h.ne) q = .space)
    (htext : textFrom (some f) (ms ++ q :: base) = textFrom (some f) (q :: base)) :
    pendingOf (some f) = [] := by
  by_contra hf
  have hspace : ∀ {p : Place} (before : Text), separator p q = .space
      → separatorAfter before p q = .space := by
    intro p before hp
    rw [separatorAfter, hp]
  have hgap : ∀ g : Front, separator g.prev q = .space → gapFrom (some g) q
      = between {} (some .space) (pendingOf (some g) ++ kept q.token.leading) q.token.kind g.depth := by
    intro g hg
    rw [gapFrom, depthAt, if_neg hclose]
    show between {} (some (separatorAfter _ _ _)) _ _ _ = _
    rw [hspace _ hg]
    rfl
  have hnone : pendingOf (some ⟨ms.getLast h.ne, f.depth, f.before⟩) = [] := by
    show kept (ms.getLast h.ne).token.trailing = []
    rw [(h.hollow _ (List.getLast_mem h.ne)).trailing]
    rfl
  rw [h.textFrom_pending hf, textFrom, textFrom, hgap f hprev,
    hgap ⟨ms.getLast h.ne, f.depth, f.before⟩ hlast, hnone, List.nil_append] at htext
  have hlength := congrArg List.length htext
  have hbehind : step (some ⟨ms.getLast h.ne, f.depth, f.before⟩) q = step (some f) q := rfl
  have hcons : ∀ ts : List Trivia,
      (Trivia.fullText (space :: ts)).length = 1 + (Trivia.fullText ts).length := by
    intro ts
    rw [Trivia.fullText_cons, List.length_append]
    rfl
  by_cases hlead : kept q.token.leading = []
  · rw [hbehind, hlead, List.append_nil, between_space hend,
      between_comments .space (by decide) hf hend, if_neg hclose] at hlength
    simp only [List.length_append, hcons] at hlength
    omega
  · rw [hbehind, between_comments .space (by decide) hlead hend,
      between_comments .space (by decide) (by simp [hlead]) hend, if_neg hclose,
      comments_append hf hlead] at hlength
    simp only [List.length_append, hcons, Trivia.fullText_append] at hlength
    omega

/-- **Missing annotations.**  A missing annotation that does not show can be left out. -/
theorem Exchanges.annotation (h : Gone ms)
    (hq : q.token.kind ≠ .endOfFileToken ∧ q.token.kind ≠ .closeBraceToken)
    (hcases : Gone [q] ∨ separator x q = .space ∧ separator (ms.getLast h.ne) q = .space)
    (htext : textFrom (some (step s x)) (ms ++ q :: base) = textFrom (some (step s x)) (q :: base)) :
    Exchanges ks (x :: (ms ++ q :: qs)) (x :: q :: qs) := by
  intro t rest _
  rw [List.cons_append, List.cons_append, textFrom, textFrom, List.append_assoc ms, List.cons_append]
  refine congrArg _ ?_
  rcases hcases with hgone | ⟨hx, hlast⟩
  · exact h.textFrom_hollow hgone _
  · have hpending : pendingOf (some (step t x)) = [] :=
      h.pending_eq_nil (f := step s x) hq.1 hq.2 hx hlast htext
    refine h.textFrom_omit hpending fun r hr => ?_
    obtain rfl : q = r := Option.some.inj hr
    rw [separatorAfter, separatorAfter, hlast, show separator (step t x).prev q = .space from hx]

end Annotation

/-! ### Semicolons -/

/-- What may not follow a struct whose semicolon is left out. -/
def afterStruct : List Kind := [.elseKeyword, .semicolonToken]

/-- **Missing semicolons.**  A missing semicolon behind a struct that does not show can be left
out. -/
theorem Exchanges.semicolon {x m : Place} {s : Option Front} (hx : x.token.kind = .closeBraceToken)
    (hm : m.token.Hollow) (hkind : m.token.kind = .semicolonToken)
    (htext : textFrom (some (step s x)) [m] = textFrom (some (step s x)) []) :
    Exchanges afterStruct [x, m] [x] := by
  have hgone : Gone [m] := by
    refine ⟨List.cons_ne_nil _ _, List.forall_mem_singleton.mpr hm, .of_kinds ?_, ?_⟩
    · rw [List.forall_mem_singleton, hkind]
      exact ⟨nofun, nofun⟩
    · intro n hn
      obtain rfl : m = n := Option.some.inj hn
      rw [hkind]
      exact ⟨nofun, nofun⟩
  have hpending : pendingOf (some (step s x)) = [] := by
    by_contra hf
    have hlength := congrArg List.length htext
    rw [← List.append_nil [m], hgone.textFrom_pending hf, textFrom, textFrom, Trivia.fullText_cons,
      List.length_append, List.length_append] at hlength
    have hle := length_flatMap_le (step s x).depth (step s x).depth (pendingOf (some (step s x)))
    have hone : space.text.length = 1 := rfl
    omega
  intro t rest hrest
  have hleft : [x, m] ++ rest = x :: ([m] ++ rest) := rfl
  have hright : [x] ++ rest = x :: rest := rfl
  have hfront : pendingOf (some (step t x)) = [] := hpending
  rw [hleft, hright, textFrom, textFrom]
  refine congrArg _ (hgone.textFrom_omit hfront fun r hr => ?_)
  have hr' := hrest r hr
  have hsame : separator m r = separator x r := by
    simp only [afterStruct, List.mem_cons, List.not_mem_nil, or_false, not_or] at hr'
    unfold separator
    simp only [hkind, hx, hr'.1, hr'.2, reduceCtorEq, if_false, if_true]
  rw [separatorAfter, separatorAfter, List.getLast_singleton, hsame]
  rfl

/-! ### Members -/

/-- **Missing members.**  Missing members behind imports that do not show can be left out. -/
theorem Exchanges.members {ms : List Place} {x d e : Place} {s : Option Front} {ks : List Kind}
    (h : Gone ms) (he : e.token.kind = .endOfFileToken) (hd : d.token.kind = .endOfFileToken)
    (hleading : d.token.leading = [])
    (htext : textFrom (some (step s x)) (ms ++ [d]) = textFrom (some (step s x)) [d]) :
    Exchanges ks (x :: (ms ++ [e])) [x, e] := by
  have hpending : pendingOf (some (step s x)) = [] := by
    cases hf : pendingOf (some (step s x)) with
    | nil => rfl
    | cons c cs =>
      have hgap : gapFrom (some (step s x)) d = newLine {} :: c :: finalComments {} false cs := by
        rw [gapFrom, hf, hleading]
        unfold between
        rw [if_pos hd]
        show finalComments {} false (c :: (cs ++ [])) = _
        rw [List.append_nil]
        rfl
      rw [h.textFrom_pending (by rw [hf]; exact List.cons_ne_nil _ _),
        textFrom.eq_2 (some (step s x)), hgap] at htext
      have hhead := congrArg List.head? htext
      exact absurd (Option.some.inj hhead) (by decide)
  intro t rest _
  have hright : [x, e] ++ rest = x :: e :: rest := rfl
  have hleft : x :: (ms ++ [e]) ++ rest = x :: (ms ++ e :: rest) := by simp
  have hfront : pendingOf (some (step t x)) = [] := hpending
  rw [hleft, hright, textFrom, textFrom.eq_2 t]
  refine congrArg _ (h.textFrom_omit hfront fun r hr => ?_)
  obtain rfl : e = r := Option.some.inj hr
  have hnothing : ∀ p : Place, separator p e = .nothing := fun p => by simp [separator, he]
  rw [separatorAfter, separatorAfter, hnothing, hnothing]

/-! ### What shows -/

/-- Missing fields show between braces. -/
theorem fields_show {ms base : List Place} {x e : Place} {s : Option Front} (h : Gone ms)
    (hx : x.token.kind = .openBraceToken) (hlast : (ms.getLast h.ne).token.kind ≠ .openBraceToken)
    (he : e.token = { kind := .closeBraceToken, text := Text.of "\x7d", value := .str (Text.of "\x7d") }) :
    textFrom (some (step s x)) (ms ++ e :: base) ≠ textFrom (some (step s x)) (e :: base) := by
  intro htext
  have hline : ∀ before, separatorAfter before (ms.getLast h.ne) e = .line := by
    intro before
    simp [separatorAfter, separator, he, hlast]
  have hnothing : ∀ before, separatorAfter before x e = .nothing := by
    intro before
    have hword : wouldMerge before (Text.of "\x7d") = false := by
      have hbrace : (Text.of "\x7d").head? = some (CodePoint.ofChar '\x7d') := by decide
      have hpart : CodePoint.isWordPart (CodePoint.ofChar '\x7d') = false := by decide
      rw [wouldMerge, hbrace]
      cases before.getLast? with
      | none => rfl
      | some c => simp only [hpart, Bool.and_false]
    simp [separatorAfter, separator, he, hx, hword]
  have hdepth : (step s x).depth = depthOf s + 1 := by
    show depthAfter x.token.kind _ = _
    rw [depthAfter, if_pos hx, depthAt, hx]
    rfl
  have hleft : ∀ depth before, gapFrom (some ⟨ms.getLast h.ne, depth, before⟩) e
      = lineBreak {} (depth - 1) := by
    intro depth before
    rw [gapFrom, he]
    show between {} (some (separatorAfter _ _ e)) (kept (ms.getLast h.ne).token.trailing ++ []) _ _ = _
    rw [hline, (h.hollow _ (List.getLast_mem h.ne)).trailing]
    rfl
  have hright : gapFrom (some (step s x)) e = between {} (some .nothing) (pendingOf (some (step s x)))
      .closeBraceToken (depthOf s) := by
    rw [gapFrom, he]
    show between {} (some (separatorAfter _ x e)) (_ ++ []) _ (depthAt _ (step s x).depth) = _
    rw [hnothing, List.append_nil, hdepth]
    rfl
  by_cases hf : pendingOf (some (step s x)) = []
  · rw [h.textFrom_eq hf, textFrom, textFrom, hleft, hright, hf, between_nothing, he] at htext
    have hhead := congrArg List.head? htext
    exact absurd (Option.some.inj hhead) (by decide)
  · rw [h.textFrom_pending hf, textFrom, textFrom, hleft, hright,
      between_comments .nothing (by decide) hf (by decide), if_pos rfl, hdepth] at htext
    have hlength := congrArg List.length htext
    have hbehind : step (some ⟨ms.getLast h.ne, depthOf s + 1, (step s x).before⟩) e
        = step (some (step s x)) e := by
      rw [← hdepth]
      rfl
    have hle := length_comments_le (depthOf s + 1) (Nat.le_add_right (depthOf s) 1)
      (pendingOf (some (step s x)))
    rw [hbehind] at hlength
    simp only [Trivia.fullText_cons, List.length_append, length_lineBreak] at hlength
    omega

/-- Missing modifiers show in front of a keyword. -/
theorem modifiers_show {ms base : List Place} {q : Place} (h : Gone ms)
    (hsep : separator (ms.getLast h.ne) q = .space) (hleading : q.token.leading = [])
    (hkind : q.token.kind ≠ .endOfFileToken) {c : CodePoint} {more : Text}
    (hq : q.token.text = c :: more) (hc : Lexeme.isGap c = false) :
    textFrom none (ms ++ q :: base) ≠ textFrom none (q :: base) := by
  intro htext
  have hleft : gapFrom (some ⟨ms.getLast h.ne, 0, []⟩) q = [space] := by
    rw [gapFrom, hleading]
    show between {} (some (separatorAfter _ _ q)) (kept (ms.getLast h.ne).token.trailing ++ []) _ _ = _
    rw [separatorAfter, hsep, (h.hollow _ (List.getLast_mem h.ne)).trailing, between, if_neg hkind]
    rfl
  have hright : gapFrom none q = [] := by
    rw [gapFrom, hleading]
    exact between_none _ _
  rw [h.textFrom_eq (s := none) rfl, textFrom, textFrom, hright, hq,
    show gapFrom (some ⟨ms.getLast h.ne, depthOf none, beforeOf none⟩) q = [space] from hleft] at htext
  obtain ⟨rfl, -⟩ := List.cons.inj htext
  exact absurd hc (by decide)

end Layout

end TreeQuote
