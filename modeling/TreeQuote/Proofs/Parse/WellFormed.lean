/-
TreeQuote/Proofs/Parse/WellFormed.lean

Trees that are read are well formed.  Each property holds what its form says, and the forms have
the shapes of the properties; each token is that of a lexeme, or one that was inserted.

A text is `Quotable` if it has no surrogates and its literals can be written again.

Main statements:
* `parsePure?_origin`: where the tokens of a tree come from;
* `parsePure?_wellFormed`: what is read from a quotable text is well formed.
-/
import TreeQuote.Proofs.Grammar.Shape
import TreeQuote.Proofs.Parse.Fidelity
import TreeQuote.Proofs.Source.Literal

namespace TreeQuote

open Grammar Dressing

/-! ### Texts that can be quoted -/

/-- The value of a literal can be written again: a string does not mix surrogates with code points
beyond `0xFFFF`, and an integer has no more digits than can be written. -/
structure Lexeme.Writable (l : Lexeme) : Prop where
  string : l.kind = .stringLiteralToken → ∀ s, Literal.decodeString l.text = .ok s → s.Unmixed
  integer : l.kind = .numericLiteralToken
    → ∀ n, Literal.parseNumber? l.text = some (.int n) → n.natAbs < Integer.decimalBound

/-- A source without surrogates, whose literals can be written again. -/
structure Quotable (source : Text) : Prop where
  plain : source.any CodePoint.isSurrogate = false
  literals : ∀ ls, Lexeme.scan? source = some ls → ∀ l ∈ ls, l.Writable

/-- A source without surrogates and literals. -/
theorem Quotable.of_kinds {source : Text} {ks : List Kind}
    (hplain : source.any CodePoint.isSurrogate = false)
    (hks : (Lexeme.scan? source).map (List.map (·.kind)) = some ks)
    (hstring : .stringLiteralToken ∉ ks) (hnumber : .numericLiteralToken ∉ ks) :
    Quotable source where
  plain := hplain
  literals ls hls l hl := by
    rw [hls, Option.map_some, Option.some.injEq] at hks
    have hk : l.kind ∈ ks := hks ▸ List.mem_map_of_mem hl
    exact ⟨fun h => absurd (h ▸ hk) hstring, fun h => absurd (h ▸ hk) hnumber⟩

/-! ### Where tokens come from -/

namespace Dressing

/-- Where a dressed token comes from.  An inserted token carries no trivia, but the last one carries
all there is if nothing was read. -/
inductive Origin (file : Option Text) (fs : List Fed) (u : Token) : Prop where
  | inserted {k : Kind} (hk : .inserted k ∈ fs) (hu : u.core = .missingOf k) (hlead : u.leading = [])
    (htrail : u.trailing = [] ∨ reads fs = [])
  | read {l : Lexeme} {t : Token} (hl : l ∈ reads fs) (ht : token? file l = some t)
    (hu : u.core = t.core)

variable {file : Option Text} {c : Context} {gaps : Gaps} {stop : Nat}

theorem Origin.missing {fs : List Fed} {k : Kind} (hk : .inserted k ∈ fs) :
    Origin file fs (.missingOf k) :=
  .inserted hk rfl rfl (.inl rfl)

/-- One more inserted token in front changes nothing. -/
theorem Origin.cons_inserted {fs : List Fed} {u : Token} (h : Origin file fs u) (k : Kind) :
    Origin file (.inserted k :: fs) u := by
  cases h with
  | inserted hk hu hlead htrail => exact .inserted (List.mem_cons_of_mem _ hk) hu hlead htrail
  | read hl ht hu => exact .read hl ht hu

/-- Behind a token that was read, no inserted token carries trivia. -/
theorem dressAfter_origin {pos : Nat} {fs : List Fed} {trail : List Trivia} {ts : List Token}
    {eof : List Trivia} (h : dressAfter file c gaps stop pos fs = some (trail, ts, eof)) :
    ∀ u ∈ ts, (∃ k, .inserted k ∈ fs ∧ u = .missingOf k)
      ∨ ∃ l t, l ∈ reads fs ∧ token? file l = some t ∧ u.core = t.core := by
  induction fs generalizing pos trail ts eof with
  | nil =>
    cases h
    exact List.forall_mem_nil _
  | cons f fs ih =>
    cases f with
    | inserted k =>
      obtain ⟨⟨trail', ts', eof'⟩, hrest, heq⟩ := Option.map_eq_some_iff.1 h
      cases heq
      refine List.forall_mem_cons.mpr ⟨.inl ⟨k, List.mem_cons_self, rfl⟩, fun u hu => ?_⟩
      exact (ih hrest u hu).imp_left (Exists.imp fun j hj => hj.imp_left (List.mem_cons_of_mem _))
    | read l =>
      simp only [dressAfter, Option.bind_eq_bind, Option.bind_eq_some_iff, Prod.exists] at h
      obtain ⟨t, ht, trailing, us, eof', hrest, heq⟩ := h
      cases heq
      refine List.forall_mem_cons.mpr ⟨.inr ⟨l, t, List.mem_cons_self, ht, rfl⟩, fun u hu => ?_⟩
      exact (ih hrest u hu).imp (Exists.imp fun j hj => hj.imp_left (List.mem_cons_of_mem _))
        (Exists.imp fun m => Exists.imp fun s hm => hm.imp_left (List.mem_cons_of_mem _))

theorem dress_origin {fs : List Fed} {ts : List Token} {eof : List Trivia}
    (h : dress file c gaps stop fs = some (ts, eof)) : ∀ u ∈ ts, Origin file fs u := by
  induction fs generalizing ts eof with
  | nil =>
    cases h
    exact List.forall_mem_nil _
  | cons f fs ih =>
    cases f with
    | inserted k =>
      cases fs with
      | nil =>
        rw [dress] at h
        split at h
        · cases h
          exact List.forall_mem_singleton.mpr (.missing List.mem_cons_self)
        · cases h
          exact List.forall_mem_singleton.mpr (.inserted List.mem_cons_self rfl rfl (.inr rfl))
      | cons g fs =>
        obtain ⟨⟨ts', eof'⟩, hrest, heq⟩ := Option.map_eq_some_iff.1 h
        cases heq
        exact List.forall_mem_cons.mpr ⟨.missing List.mem_cons_self,
          fun u hu => (ih hrest u hu).cons_inserted k⟩
    | read l =>
      simp only [dress, Option.bind_eq_bind, Option.bind_eq_some_iff, Prod.exists] at h
      obtain ⟨t, ht, trailing, us, eof', hrest, heq⟩ := h
      cases heq
      refine List.forall_mem_cons.mpr ⟨.read List.mem_cons_self ht rfl, fun u hu => ?_⟩
      rcases dressAfter_origin hrest u hu with ⟨k, hk, rfl⟩ | ⟨m, s, hm, hs, hus⟩
      · exact .missing (List.mem_cons_of_mem _ hk)
      · exact .read (List.mem_cons_of_mem _ hm) hs hus

end Dressing

/-- A tree is made of the tokens that were fed and, for a unit, the end of the file. -/
theorem parsePure?_origin {source : Text} {c : Context} {file : Option Text} {p : Parsed}
    (h : parsePure? source c file = some p) :
    ∃ ls r, Lexeme.scan? source = some ls ∧ Repair.run? c ls = some r
      ∧ ∀ t ∈ p.root.leaves, Origin file r.fed t
        ∨ ∃ eof, t = Parsed.endOfFile file source eof := by
  obtain ⟨ls, r, tokens, eof, hls, hr, hdress, hroot⟩ := parsePure?_steps h
  refine ⟨ls, r, hls, hr, fun t ht => ?_⟩
  have horigin := dress_origin hdress
  obtain ⟨htype, hgrown, hleaves⟩ := refill_run hr (dress_run hls hr hdress).kinds
  rw [hroot] at ht
  by_cases hc : c = .unit
  · subst hc
    have hend : ∀ t ∈ (r.tree.refill tokens).1.leaves, t.kind ≠ .endOfFileToken := by
      rw [hleaves]
      exact kind_ne_end hr (dress_run hls hr hdress).kinds
    have heof : (Parsed.endOfFile file source eof).kind = .endOfFileToken := rfl
    obtain ⟨-, -, hleaves'⟩ := close_unit htype hgrown hend heof
    rw [hleaves', hleaves] at ht
    rcases List.mem_append.1 ht with ht | ht
    · exact .inl (horigin t ht)
    · exact .inr ⟨eof, List.mem_singleton.1 ht⟩
  · rw [close_of_ne_unit hc, hleaves] at ht
    exact .inl (horigin t ht)

/-! ### Tokens -/

/-- A part of a text without surrogates has none. -/
theorem Text.unmixed_of_infix {s t : Text} (ht : t.any CodePoint.isSurrogate = false)
    (h : s <:+: t) : s.Unmixed :=
  Text.unmixed_of_plain (List.any_eq_false.mpr fun c hc => List.any_eq_false.mp ht c (h.subset hc))

theorem Trivia.text_infix {t : Trivia} {ts : List Trivia} (h : t ∈ ts) :
    t.text <:+: Trivia.fullText ts := by
  obtain ⟨as, bs, rfl⟩ := List.append_of_mem h
  rw [Trivia.fullText_append, Trivia.fullText_cons]
  exact List.infix_append' _ _ _

theorem Token.fullText_infix {t : Token} {ts : List Token} (h : t ∈ ts) :
    t.fullText <:+: Value.tokensText ts := by
  obtain ⟨as, bs, rfl⟩ := List.append_of_mem h
  rw [Value.tokensText_append, Value.tokensText_cons]
  exact List.infix_append' _ _ _

/-- The value of a lexeme that can be written again. -/
theorem token?_writable {source : Text} {file : Option Text} {ls : List Lexeme}
    (hls : Lexeme.scan? source = some ls) {l : Lexeme} (hl : l ∈ ls) (hwritable : l.Writable)
    (hplain : l.text.Unmixed) {t : Token} (h : Dressing.token? file l = some t) : t.value.Writable := by
  unfold Dressing.token? at h
  simp only at h
  split at h
  · cases h
    exact hplain
  split at h
  · rename_i hk
    obtain ⟨v, hv, u, hu, rfl⟩ :
        ∃ v, Literal.parseNumber? l.text = some v ∧ ∃ u, Token.literal? l.text v = some u
          ∧ { u with span := some (l.span file) } = t := by
      simpa [Option.bind_eq_some_iff] using h
    obtain ⟨k, hkind, rfl⟩ := Option.map_eq_some_iff.1 hu
    show v.Writable
    have hnumber := parseNumber?_kind hv
    cases v with
    | int n => exact hwritable.integer hk n hv
    | float x =>
      obtain ⟨d, rest, htext, hd⟩ := Lexeme.scan?_digit hls hl hk
      rw [htext] at hv
      exact Literal.parseNumber?_canonical hd hv
    | _ => cases hnumber
  split at h
  · rename_i hk
    split at h
    · cases h
      exact hwritable.string hk _ ‹_›
    · cases h
  · obtain ⟨u, hu, rfl⟩ := Option.map_eq_some_iff.1 h
    rw [Token.fixed?] at hu
    split at hu
    · cases hu
      trivial
    · obtain ⟨s, hs, rfl⟩ := Option.map_eq_some_iff.1 hu
      exact Kind.fixedText_unmixed hs

/-- The tokens of a tree that is read from a quotable text are well formed. -/
theorem leaves_wellFormed {source : Text} {c : Context} {file : Option Text} {p : Parsed}
    (hsource : Quotable source) (h : parsePure? source c file = some p) :
    ∀ t ∈ p.root.leaves, t.WellFormed := by
  intro t ht
  obtain ⟨-, -, hdressed, htext⟩ := parsePure?_readFrom h
  obtain ⟨ls, r, hls, hr, horigin⟩ := parsePure?_origin h
  have hfull : t.fullText <:+: source := htext ▸ Token.fullText_infix ht
  have htrivia : ∀ {ts : List Trivia}, (∀ s ∈ ts, s.Scanned) → Trivia.fullText ts <:+: t.fullText
      → ∀ s ∈ ts, s.WellFormed := fun hscanned hts s hs =>
    ⟨(hscanned s hs).built, Text.unmixed_of_infix hsource.plain (((Trivia.text_infix hs).trans hts).trans hfull)⟩
  have hpresent : t.kind ≠ .none := by
    have := Value.leaves_present _ t ht
    simpa [Token.isAbsent] using this
  refine ⟨(hdressed t ht).built, hpresent, ?_, ?_, ?_, ?_⟩
  · refine htrivia (hdressed t ht).leading ?_
    rw [Token.fullText, List.append_assoc]
    exact (List.prefix_append _ _).isInfix
  · exact htrivia (hdressed t ht).trailing (List.suffix_append _ _).isInfix
  · exact Text.unmixed_of_infix hsource.plain ((List.infix_append _ _ _).trans hfull)
  · rcases horigin t ht with (⟨hk, hu, -, -⟩ | ⟨hl, hs, hu⟩) | ⟨eof, rfl⟩
    · have hvalue : t.value = .none := congrArg Token.value hu
      rw [hvalue]
      trivial
    · rename_i l s
      have hmem := (reads_sublist hr).subset hl
      have hspells := Lexeme.scan?_spelled hls l hmem
      have hsame : t.value = s.value ∧ t.text = l.text :=
        ⟨congrArg (·.value) hu, (congrArg (·.text) hu).trans (token?_bares hspells hs).text⟩
      rw [hsame.1]
      refine token?_writable hls hmem (hsource.literals ls hls l hmem) ?_ hs
      rw [← hsame.2]
      exact Text.unmixed_of_infix hsource.plain ((List.infix_append _ _ _).trans hfull)
    · exact Text.unmixed_of_plain rfl

/-! ### Roots -/

/-- The third property of a unit that was closed is its end. -/
theorem Parsed.close_closed {eof : Token} (heof : eof.kind ≠ .none) {v : Value}
    (hgrown : (Parsed.close .unit eof v).All Grows) {vs : List Value}
    (hroot : Parsed.close .unit eof v = .node .compilationUnit vs) : .token .absent ∉ vs := by
  rw [hroot] at hgrown
  obtain ⟨hslots, -⟩ := hgrown.1
  cases hslots with
  | @cons _ a _ _ ha hslots =>
  cases hslots with
  | @cons _ b _ _ hb hslots =>
  cases hslots with
  | @cons _ e _ _ he hnil =>
  cases hnil
  have hend : e = .token eof := by
    unfold Parsed.close at hroot
    split at hroot
    · simp only [if_true, Value.node.injEq, true_and] at hroot
      have hget := (congrArg (·[2]?) hroot).symm
      rw [List.getElem?_set] at hget
      simp only [if_true] at hget
      split at hget
      · simpa using hget
      · simp at hget
    · rename_i v hv
      exact absurd hroot (hv _)
  obtain ⟨imports, rfl, -⟩ := ha
  obtain ⟨members, rfl, -⟩ := hb
  have hne : eof ≠ .absent := by
    rintro rfl
    exact heof rfl
  simp [hend, Ne.symm hne]

/-- And so is that of a unit that is read. -/
theorem parsePure?_closed {source : Text} {file : Option Text} {p : Parsed} {vs : List Value}
    (h : parsePure? source .unit file = some p) (hroot : p.root = .node .compilationUnit vs) :
    .token .absent ∉ vs := by
  obtain ⟨-, hgrown, -, -⟩ := parsePure?_readFrom h
  obtain ⟨ls, r, tokens, eof, -, -, -, hclose⟩ := parsePure?_steps h
  rw [hclose] at hgrown hroot
  exact Parsed.close_closed (by simp [Parsed.endOfFile]) hgrown hroot

/-- What holds of each node of the grammar, if `T` holds of its leaves and if it is no unit without
an end, holds of all nodes of a tree of the grammar. -/
theorem root_all {c : Context} {v : Value} {Q : NodeClass → List Value → Prop} {T : Token → Prop}
    (htype : v.isNodeOf c.type = true) (hgrown : v.All Grows)
    (hclosed : c = .unit → ∀ vs, v = .node .compilationUnit vs → .token .absent ∉ vs)
    (hleaves : ∀ t ∈ v.leaves, T t)
    (hQ : ∀ {d vs}, Grows d vs → d ≠ .documentationComment → d ≠ .pair
      → (∀ w ∈ vs, ∀ t ∈ w.leaves, T t) → (d = .compilationUnit → .token .absent ∉ vs)
      → Q d vs) : (∃ d vs, v = .node d vs) ∧ v.All Q := by
  have hinner : ∀ {d vs}, Grows d vs → isInner d = true → (∀ w ∈ vs, ∀ t ∈ w.leaves, T t)
      → Q d vs := by
    intro d vs hg hd hvs
    simp only [isInner, Bool.and_eq_true, decide_eq_true_eq] at hd
    exact hQ hg hd.1.2 hd.2 hvs fun hu => absurd hu hd.1.1
  cases v with
  | node d vs =>
    have hd : (c = .unit ∧ d = .compilationUnit) ∨ isInner d = true := by
      cases c with
      | unit => exact .inl ⟨rfl, of_decide_eq_true htype⟩
      | member => exact .inr (isInner_of_holds (t := .category .member) (by decide) htype)
      | statement => exact .inr (isInner_of_holds (t := .category .statement) (by decide) htype)
      | expression => exact .inr (isInner_of_holds (t := .category .expression) (by decide) htype)
    have hplain : (Value.node d vs).Plain := trivial
    refine ⟨⟨d, vs, rfl⟩, ?_⟩
    rcases hd with ⟨hc, rfl⟩ | hd
    · have hbelow : ∀ w ∈ vs, InnerAll Q w ∧ ∀ u ∈ w.children, InnerAll Q u := fun w hw =>
        innerAll hinner w (plain_children hplain hgrown hw) (hgrown.children w hw)
          fun t ht => hleaves t (leaves_children hplain hw ht)
      refine Value.all_node.mpr ⟨hQ hgrown.1 (by decide) (by decide) (fun w hw t ht => ?_)
        fun _ => hclosed hc vs rfl, hgrown.1.all hbelow⟩
      exact hleaves t (leaves_children hplain hw ht)
    · exact (innerAll hinner _ hplain hgrown hleaves).1 d vs rfl hd
  | _ => exact absurd htype Bool.false_ne_true

/-- And so of all nodes of a tree that is read. -/
theorem parsePure?_all {source : Text} {c : Context} {file : Option Text} {p : Parsed}
    {Q : NodeClass → List Value → Prop} {T : Token → Prop} (h : parsePure? source c file = some p)
    (hleaves : ∀ t ∈ p.root.leaves, T t)
    (hQ : ∀ {d vs}, Grows d vs → d ≠ .documentationComment → d ≠ .pair
      → (∀ w ∈ vs, ∀ t ∈ w.leaves, T t) → (d = .compilationUnit → .token .absent ∉ vs)
      → Q d vs) : (∃ d vs, p.root = .node d vs) ∧ p.root.All Q := by
  obtain ⟨htype, hgrown, -, -⟩ := parsePure?_readFrom h
  refine root_all htype hgrown ?_ hleaves hQ
  rintro rfl vs
  exact parsePure?_closed h

end TreeQuote
