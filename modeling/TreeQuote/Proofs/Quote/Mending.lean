/-
TreeQuote/Proofs/Quote/Mending.lean

Tokens that are mended.  A token of a source need not be well formed: its texts may mix surrogates
with code points beyond `0xFFFF`, and an integer may have too many digits to be written.  The mended
token (`Token.mend`) is well formed: its texts are spread, which no literal tells apart, and an
integer that is too long gives way to another.  It has the call of the token, unless the token is
too long and has none.

The text of a string is left out of the call where it is canonical.  So a string whose text is left
out is given the canonical text of the spread string; for any other, spreading makes the text no
canonical one, since a string that is read off its text is the one it was rendered from.

Main statements: `Token.Sourced.mend`, `Quote.quoteToken_mend` and `Quote.quoteToken_long`.
-/
import TreeQuote.Proofs.Evaluate.Spread
import TreeQuote.Proofs.Quote.Token
import TreeQuote.Proofs.Source.Canonical
import TreeQuote.Proofs.Tree.Retoken

namespace TreeQuote

/-! ### Trivia whose texts are spread -/

theorem Call.ofText_spread (t : Text) : Call.ofText t.spread = Call.ofText t := by
  rw [Call.ofText, Call.ofText, Text.literalText_spread]

/-- Spreading goes past what is ASCII. -/
theorem Text.spread_append {s : Text} (h : s.all (fun c => c.val < 0x80) = true) (t : Text) :
    (s ++ t).spread = s ++ t.spread := by
  rw [List.all_eq_true] at h
  simp only [decide_eq_true_eq] at h
  have hplain : s.any CodePoint.isSurrogate = false := by
    rw [List.any_eq_false]
    intro c hc
    have := h c hc
    simp only [CodePoint.isSurrogate, CodePoint.inRange, Bool.and_eq_true, decide_eq_true_eq]
    omega
  have hunits : s.flatMap CodePoint.units = s := by
    have hsame : s.flatMap CodePoint.units = s.flatMap fun c => [c] :=
      List.flatMap_congr fun c hc => CodePoint.units_of_lt (by have := h c hc; omega)
    rw [hsame, List.flatMap_singleton']
  cases ht : t.any CodePoint.isSurrogate with
  | false => rw [spread_of_plain ht, spread_of_plain (by rw [List.any_append, hplain, ht]; rfl)]
  | true =>
    rw [spread_of_surrogate ht, spread_of_surrogate (by rw [List.any_append, ht, Bool.or_true]),
      List.flatMap_append, hunits]

/-- The trivia with its text spread. -/
def Trivia.spread (t : Trivia) : Trivia :=
  { t with text := t.text.spread, content := t.content.map Text.spread }

namespace Trivia

variable {t : Trivia}

theorem spread_documentation (content : Text) :
    (documentation content).spread = documentation content.spread := by
  have hmarks : (Text.of "///").all (fun c => c.val < 0x80) = true := by decide
  rw [spread, documentation, documentation]
  simp only [Text.spread_append hmarks, Option.map_some]

theorem Built.spread (h : t.Built) : t.spread.Built := by
  have hmark : ∀ {s u : Text}, s.all (fun c => c.val < 0x80) = true → s <+: u
      → s <+: u.spread := by
    rintro s _ hs ⟨u, rfl⟩
    rw [Text.spread_append hs]
    exact List.prefix_append _ _
  cases h with
  | whitespace t => exact .whitespace t.spread
  | endOfLine t => exact .endOfLine t.spread
  | skipped t => exact .skipped t.spread
  | documentation content =>
    rw [spread_documentation]
    exact .documentation content.spread
  | lineComment t ht => exact .lineComment t.spread (hmark (by decide) ht)
  | blockComment t ht => exact .blockComment t.spread (hmark (by decide) ht)

theorem Built.spread_wellFormed (h : t.Built) : t.spread.WellFormed :=
  ⟨h.spread, t.text.spread_unmixed⟩

/-- A trivia without surrogates stays as it is. -/
theorem Built.spread_of_plain (h : t.Built) (hplain : t.text.any CodePoint.isSurrogate = false) :
    t.spread = t := by
  have hnone : ∀ {u : Trivia}, u.content = none → u.text.any CodePoint.isSurrogate = false →
      u.spread = u := by
    rintro ⟨k, text, content, flaw⟩ rfl hu
    simp only [Trivia.spread, Text.spread_of_plain hu, Option.map_none]
  cases h with
  | documentation content =>
    have hcontent : content.any CodePoint.isSurrogate = false := by
      have happend : (Text.of "///" ++ content).any CodePoint.isSurrogate = false := hplain
      rw [List.any_append, Bool.or_eq_false_iff] at happend
      exact happend.2
    rw [spread_documentation, Text.spread_of_plain hcontent]
  | _ => exact hnone rfl hplain

end Trivia

namespace Quote

variable {o : Options}

/-- Only trivia without surrogates have a name. -/
theorem constantName?_plain {t : Trivia} {n : Text}
    (h : Registry.standard.constantName? t = some n) : t.text.any CodePoint.isSurrogate = false := by
  have hall : (Catalogue.constants.all fun p => !p.2.text.any CodePoint.isSurrogate) = true := by
    decide +kernel
  rw [Registry.constantName?, Registry.standard_constants, Option.map_eq_some_iff] at h
  obtain ⟨p, hp, rfl⟩ := h
  have ht : p.2 = t := by simpa using List.find?_some hp
  rw [← ht, ← Bool.not_eq_true']
  exact List.all_eq_true.mp hall p (List.mem_of_find?_eq_some hp)

theorem constantName?_spread {t : Trivia} (h : t.Built) :
    Registry.standard.constantName? t.spread = Registry.standard.constantName? t := by
  cases hplain : t.text.any CodePoint.isSurrogate with
  | false => rw [h.spread_of_plain hplain]
  | true =>
    have hnone : ∀ {u : Trivia}, u.text.any CodePoint.isSurrogate = true →
        Registry.standard.constantName? u = none := by
      intro u hu
      cases hn : Registry.standard.constantName? u with
      | none => rfl
      | some n =>
        rw [constantName?_plain hn] at hu
        cases hu
    rw [hnone hplain, hnone ((Text.any_spread t.text).trans hplain)]

/-- A trivia has the call of the spread one. -/
theorem quoteTrivia_spread {t : Trivia} (h : t.Built) :
    quoteTrivia .standard o t.spread = quoteTrivia .standard o t := by
  have hspace : t.spread.isWhitespace = t.isWhitespace := rfl
  have hflaw : t.spread.flaw = t.flaw := rfl
  rw [quoteTrivia, quoteTrivia, hspace, hflaw, constantName?_spread h]
  cases h with
  | documentation content =>
    rw [Trivia.spread_documentation]
    simp only [Trivia.documentation, quoteDocumentation_eq, Call.ofText_spread]
  | lineComment t ht => simp only [Trivia.spread, Option.map_none, Call.ofText_spread]
  | blockComment t ht => simp only [Trivia.spread, Option.map_none, Call.ofText_spread]
  | _ =>
    simp only [Trivia.spread, Trivia.whitespace, Trivia.endOfLine, Trivia.skipped,
      Option.map_none, Call.ofText_spread]
    rfl

theorem quoteTriviaList_spread {ts : List Trivia} (h : ∀ t ∈ ts, t.Built) :
    quoteTriviaList .standard o (ts.map Trivia.spread) = quoteTriviaList .standard o ts := by
  have heach : quoteEach (quoteTrivia .standard o) (ts.map Trivia.spread)
      = quoteEach (quoteTrivia .standard o) ts := by
    induction ts with
    | nil => rfl
    | cons t ts ih =>
      obtain ⟨ht, hts⟩ := List.forall_mem_cons.mp h
      rw [List.map_cons, quoteEach, quoteEach, quoteTrivia_spread ht, ih hts]
  rw [quoteTriviaList, quoteTriviaList, heach]

theorem keep_spread (ts : List Trivia) :
    o.keep (ts.map Trivia.spread) = (o.keep ts).map Trivia.spread := by
  rw [Options.keep, Options.keep]
  split
  · rw [Layout.kept, Layout.kept, List.filter_map]
    rfl
  · rfl

/-- Trivia of any text are quoted; what is written is nothing if and only if nothing is kept. -/
theorem quoteTriviaList_built {ts : List Trivia} (h : ∀ t ∈ ts, t.Built) :
    ∃ q, quoteTriviaList .standard o ts = .ok q ∧ (q.isSome = false ↔ o.keep ts = []) := by
  have hspread : ∀ t ∈ ts.map Trivia.spread, t.WellFormed :=
    List.forall_mem_map.mpr fun t ht => (h t ht).spread_wellFormed
  obtain ⟨q, hq, hside⟩ := eval_quoteTriviaList (o := o) hspread
  rw [quoteTriviaList_spread h] at hq
  rw [keep_spread] at hside
  refine ⟨q, hq, ?_⟩
  rcases hside with ⟨rfl, hnil⟩ | ⟨c, rfl, hne, -⟩
  · simpa using hnil
  · simpa using hne

end Quote

/-! ### Tokens that are mended -/

/-- A token of a source: the value of a string is read off its text, and a double is canonical. -/
structure Token.Sourced (t : Token) : Prop where
  built : t.Built
  leading : ∀ c ∈ t.leading, c.Built
  trailing : ∀ c ∈ t.trailing, c.Built
  string : t.kind = .stringLiteralToken → ∀ s, t.value = .str s
    → Literal.decodeString t.text = .ok s
  float : ∀ x, t.value = .float x → x.Canonical

/-- The value is no integer with too many digits. -/
def Scalar.Short (s : Scalar) : Prop := ∀ n, s = .int n → n.natAbs < Integer.decimalBound

/-- A value that can be written: a text is spread, and `n` stands for an integer that is too
long. -/
def Scalar.mend (n : Int) : Scalar → Scalar
  | .int m => if m.natAbs < Integer.decimalBound then .int m else .int n
  | s => s.spread

theorem Scalar.mend_of_short {s : Scalar} (h : s.Short) (n : Int) : s.mend n = s.spread := by
  cases s with
  | int m =>
    rw [mend, if_pos (h m rfl), spread]
    rintro t ⟨⟩
  | _ => rfl

/-- The text of a mended token.  A string whose text is left out keeps a text that is left out. -/
def Token.mendedText (o : Options) (t : Token) : Text :=
  if t.kind = .stringLiteralToken ∧ Literal.render? t.value = some t.text
      ∧ o.keep t.leading = [] ∧ o.keep t.trailing = [] then
    (Literal.render? t.value.spread).getD []
  else t.text.spread

/-- A token that is quoted like `t` and can be built from its call. -/
def Token.mend (o : Options) (n : Int) (t : Token) : Token :=
  if t.isAbsent then t
  else { t with
    text := t.mendedText o
    value := t.value.mend n
    leading := t.leading.map Trivia.spread
    trailing := t.trailing.map Trivia.spread }

namespace Literal

/-- The text of a literal that is read has no surrogates. -/
theorem plain_of_read {t : Text} {c : Constant} (h : Constant.read t = .ok c) :
    t.any CodePoint.isSurrogate = false := by
  rw [List.any_eq_false]
  intro d hd hs
  have hany : (t.any fun d => d.val = 0 || CodePoint.isSurrogate d) = true :=
    List.any_eq_true.mpr ⟨d, hd, by rw [hs, Bool.or_true]⟩
  have hparse : Constant.parse? t = none := by rw [Constant.parse?, if_pos hany]
  rw [Constant.read, hparse] at h
  cases h

theorem renderPoint_plain (c : CodePoint) :
    (renderPoint c).any CodePoint.isSurrogate = false := by
  have hhex : ∀ width n, (Text.hex width n).any CodePoint.isSurrogate = false := by
    intro width n
    rw [List.any_eq_false]
    intro d hd
    obtain ⟨m, rfl⟩ := Text.mem_hex hd
    have hvisible := CodePoint.hexDigit_visible m
    simp only [CodePoint.isSurrogate, CodePoint.inRange, Bool.and_eq_true, decide_eq_true_eq]
    omega
  rw [renderPoint]
  split_ifs with h1 h2 h3 h4 h5 h6 h7 h8
  · decide
  · decide
  · decide
  · decide
  · decide
  · decide
  · rw [List.any_append, hhex]
    decide
  · rw [List.any_append, hhex]
    decide
  · simpa using h8

/-- A canonical text has no surrogates. -/
theorem render?_plain {s : Scalar} {t : Text} (hfloat : ∀ x, s = .float x → x.Canonical)
    (h : render? s = some t) : t.any CodePoint.isSurrogate = false := by
  cases s with
  | none => cases h; decide
  | bool b => cases h; cases b <;> decide
  | int n => exact plain_of_read (Constant.read_integer h)
  | float x =>
    cases h
    have hcanonical := hfloat x rfl
    cases x with
    | nan p => exact hcanonical.elim
    | infinite negative => cases negative <;> decide
    | finite negative m e => exact plain_of_read (Constant.read_double hcanonical)
  | str v =>
    cases h
    rw [renderString, List.any_append, List.any_cons, List.any_flatMap]
    have hpoints : (v.any fun c => (renderPoint c).any CodePoint.isSurrogate) = false :=
      List.any_eq_false.mpr fun c _ => Bool.eq_false_iff.mp (renderPoint_plain c)
    rw [hpoints]
    decide

end Literal

namespace Token

variable {o : Options} {n : Int} {t : Token}

theorem mend_of_present (h : t.isAbsent = false) : t.mend o n = { t with
    text := t.mendedText o
    value := t.value.mend n
    leading := t.leading.map Trivia.spread
    trailing := t.trailing.map Trivia.spread } := by
  rw [mend, h]
  rfl

theorem mend_keepsKinds (o : Options) (n : Int) : KeepsKinds (mend o n) where
  absent h := by rw [mend, if_pos h]
  kind t := by
    rw [mend]
    split <;> rfl

theorem mendedText_of_ne (h : t.kind ≠ .stringLiteralToken) : t.mendedText o = t.text.spread :=
  if_neg fun hc => h hc.1

theorem mendedText_unmixed (h : t.Sourced) : (t.mendedText o).Unmixed := by
  rw [mendedText]
  split
  · cases hrender : Literal.render? t.value.spread with
    | none => exact Text.unmixed_of_plain rfl
    | some u =>
      refine Text.unmixed_of_plain (Literal.render?_plain (fun x hx => h.float x ?_) hrender)
      cases hv : t.value <;> rw [hv] at hx <;> cases hx
      rfl
  · exact t.text.spread_unmixed

/-- A token that is mended is well formed. -/
theorem Sourced.mend (h : t.Sourced) (hpresent : t.isAbsent = false)
    (hn : n.natAbs < Integer.decimalBound) : (t.mend o n).WellFormed := by
  rw [mend_of_present hpresent]
  refine ⟨?_, by simpa [isAbsent] using hpresent, ?_, ?_, mendedText_unmixed h, ?_⟩
  · have hbuilt := h.built
    cases hbuilt with
    | fixed hb =>
      refine .fixed ?_
      have hne : t.kind ≠ .none := by simpa [isAbsent] using hpresent
      rw [fixed?, if_neg hne, Option.map_eq_some_iff] at hb
      obtain ⟨s, hs, hcore⟩ := hb
      have hspread : s.spread = s := Text.spread_eq_self_iff.mpr (Kind.fixedText_unmixed hs)
      have htext : t.text = s := (congrArg Token.text hcore).symm
      have hvalue : t.value = .str s := (congrArg Token.value hcore).symm
      have hmissing : t.missing = false := (congrArg Token.missing hcore).symm
      have hkind : t.kind ≠ .stringLiteralToken := by
        intro hk
        rw [hk] at hs
        cases hs
      rw [fixed?, if_neg hne, hs]
      simp [core, mendedText_of_ne hkind, htext, hvalue, hmissing, hspread, Scalar.mend, Scalar.spread]
    | identifier hb =>
      refine .identifier ?_
      have hkind : t.kind = .identifierToken := congrArg Token.kind hb
      have hvalue : t.value = .str t.text := congrArg Token.value hb
      have hmissing : t.missing = false := congrArg Token.missing hb
      have hne : t.kind ≠ .stringLiteralToken := by
        rw [hkind]
        decide
      simp [core, identifier, mendedText_of_ne hne, hkind, hvalue, hmissing, Scalar.mend,
        Scalar.spread]
    | literal hb =>
      refine .literal ?_
      obtain ⟨k, hk, hcore⟩ := Option.map_eq_some_iff.mp hb
      have hkind : t.kind = k := (congrArg Token.kind hcore).symm
      have hmissing : t.missing = false := (congrArg Token.missing hcore).symm
      have hmend : literalKind? (t.value.mend n) = some k := by
        rw [← hk]
        cases t.value with
        | int m => rw [Scalar.mend]; split <;> rfl
        | _ => rfl
      simp [literal?, hmend, core, hkind, hmissing]
    | missing hb =>
      refine .missing ?_
      have htext : t.text = [] := congrArg Token.text hb
      have hvalue : t.value = .none := congrArg Token.value hb
      have hmissing : t.missing = true := congrArg Token.missing hb
      have hmended : t.mendedText o = [] := by
        rw [mendedText, if_neg, htext]
        · rfl
        · rintro ⟨-, hrender, -⟩
          rw [hvalue, htext] at hrender
          cases hrender
      simp [core, missingOf, hmended, hvalue, hmissing, Scalar.mend, Scalar.spread]
  · exact List.forall_mem_map.mpr fun c hc => (h.leading c hc).spread_wellFormed
  · exact List.forall_mem_map.mpr fun c hc => (h.trailing c hc).spread_wellFormed
  · show (t.value.mend n).Writable
    cases hv : t.value with
    | int m =>
      rw [Scalar.mend]
      split
      · assumption
      · exact hn
    | float x => exact h.float x hv
    | str s => exact s.spread_unmixed
    | _ => trivial

end Token

/-! ### Quoting a mended token -/

namespace Quote

variable {o : Options} {n : Int} {t : Token}

theorem quoteScalar_spread (s : Scalar) : quoteScalar s.spread = quoteScalar s := by
  cases s with
  | str t =>
    have hcall : Call.ofScalar (.str t.spread) = Call.ofScalar (.str t) :=
      congrArg Except.ok (Call.ofText_spread t)
    rw [Scalar.spread, quoteScalar, hcall, quoteScalar]
  | _ => rfl

theorem render?_of_short {s : Scalar} (h : s.Short) : ∃ text, Literal.render? s = some text := by
  cases s with
  | int m => exact ⟨Text.decimalInt m, by rw [Literal.render?, Integer.text?, if_pos (h m rfl)]⟩
  | _ => exact ⟨_, rfl⟩

/-- The text of a bare literal is left out if and only if that of the mended literal is. -/
theorem canonical_mend (h : t.Sourced) (hb : Token.literal? t.text t.value = some t.core)
    (hleading : o.keep t.leading = []) (htrailing : o.keep t.trailing = []) :
    Literal.render? t.value.spread = some (t.mendedText o)
      ↔ Literal.render? t.value = some t.text := by
  obtain ⟨k, hk, hcore⟩ := Option.map_eq_some_iff.mp hb
  have hkind : t.kind = k := (congrArg Token.kind hcore).symm
  by_cases hstring : t.kind = .stringLiteralToken
  · obtain ⟨s, hs⟩ : ∃ s, t.value = .str s := by
      cases hv : t.value with
      | str s => exact ⟨s, rfl⟩
      | int m => rw [hv] at hk; cases hk; rw [hstring] at hkind; cases hkind
      | float x => rw [hv] at hk; cases hk; rw [hstring] at hkind; cases hkind
      | _ => rw [hv] at hk; cases hk
    rw [Token.mendedText]
    by_cases hcanonical : Literal.render? t.value = some t.text
    · rw [if_pos ⟨hstring, hcanonical, hleading, htrailing⟩, hs]
      exact ⟨fun _ => hs ▸ hcanonical, fun _ => rfl⟩
    · rw [if_neg fun hc => hcanonical hc.2.1]
      refine ⟨fun hmended => absurd ?_ hcanonical, fun hc => absurd hc hcanonical⟩
      rw [hs] at hmended ⊢
      -- The text would be that of the spread string, but it is decoded to the string itself.
      have hwritten : (Literal.renderString s.spread).any CodePoint.isSurrogate = false :=
        Literal.render?_plain (s := .str s.spread) (by rintro x ⟨⟩) rfl
      have htext : t.text = Literal.renderString s.spread :=
        Text.eq_of_spread hwritten (Option.some.inj hmended).symm
      have hdecode := h.string hstring s hs
      rw [htext, Literal.decodeString_renderString, Except.ok.injEq] at hdecode
      rw [htext, hdecode]
      rfl
  · have hspread : t.value.spread = t.value := by
      cases hv : t.value with
      | str s => rw [hv] at hk; cases hk; exact absurd hkind hstring
      | _ => rfl
    rw [Token.mendedText_of_ne hstring, hspread]
    refine ⟨fun hc => ?_, fun hc => ?_⟩
    · rw [hc, ← Text.eq_of_spread (Literal.render?_plain h.float hc) rfl]
    · rw [hc, Text.spread_of_plain (Literal.render?_plain h.float hc)]

/-- A literal has the arguments of the mended literal. -/
theorem literalArguments_mend (h : t.Sourced) (hb : Token.literal? t.text t.value = some t.core)
    (hshort : t.value.Short) (hpresent : t.isAbsent = false) {hasTrivia : Bool}
    (hnone : hasTrivia = false ↔ o.keep t.leading = [] ∧ o.keep t.trailing = []) :
    literalArguments (t.mend o n) hasTrivia = literalArguments t hasTrivia := by
  have hscalar : quoteScalar (t.mend o n).value = quoteScalar t.value := by
    rw [Token.mend_of_present hpresent]
    show quoteScalar (t.value.mend n) = _
    rw [Scalar.mend_of_short hshort, quoteScalar_spread]
  have hvalue : (t.mend o n).value = t.value.spread := by
    rw [Token.mend_of_present hpresent]
    exact Scalar.mend_of_short hshort n
  have htext : (t.mend o n).text = t.mendedText o := by rw [Token.mend_of_present hpresent]
  rw [literalArguments, literalArguments, hscalar, hvalue, htext]
  congr 1
  funext v
  cases hasTrivia with
  | true =>
    have hkept : ¬(t.kind = .stringLiteralToken ∧ Literal.render? t.value = some t.text
        ∧ o.keep t.leading = [] ∧ o.keep t.trailing = []) := fun hc =>
      Bool.noConfusion (hnone.mpr hc.2.2)
    rw [Token.mendedText, if_neg hkept, Call.ofText_spread]
    rfl
  | false =>
    obtain ⟨hleading, htrailing⟩ := hnone.mp rfl
    have hiff := canonical_mend h hb hleading htrailing
    obtain ⟨a, ha⟩ := render?_of_short hshort
    have hspreadShort : t.value.spread.Short := by
      cases hv : t.value with
      | int m => rwa [hv] at hshort
      | _ => rintro n ⟨⟩
    obtain ⟨b, hb'⟩ := render?_of_short hspreadShort
    rw [ha, hb'] at hiff ⊢
    simp only [Option.some.injEq] at hiff
    simp only [Bool.false_eq_true, if_false, hiff]
    split
    · rfl
    · next hne =>
      rw [Token.mendedText, if_neg, Call.ofText_spread]
      rintro ⟨-, hc, -⟩
      rw [ha] at hc
      exact hne (Option.some.inj hc)

/-- What has the kind of a literal and is there is a literal. -/
theorem literal_of_kind (h : t.Sourced) (hmissing : ¬t.missing = true)
    (hk : t.kind = .numericLiteralToken ∨ t.kind = .stringLiteralToken) :
    Token.literal? t.text t.value = some t.core := by
  cases h.built with
  | fixed hb =>
    have hne : t.kind ≠ .none := by rcases hk with hk | hk <;> rw [hk] <;> decide
    obtain ⟨-, hnumber, hstring, -⟩ := fixed?_kind hb hne
    exact (hk.elim hnumber hstring).elim
  | identifier hb =>
    have hkind : t.kind = .identifierToken := congrArg Token.kind hb
    rw [hkind] at hk
    exact absurd hk (by decide)
  | literal hb => exact hb
  | missing hb => exact absurd (congrArg Token.missing hb) hmissing

/-- A token whose value is short has the call of the mended token. -/
theorem quoteToken_mend (h : t.Sourced) (hpresent : t.isAbsent = false) (hshort : t.value.Short) :
    quoteToken .standard o t = quoteToken .standard o (t.mend o n) := by
  obtain ⟨l, hl, hlnone⟩ := quoteTriviaList_built (o := o) h.leading
  obtain ⟨r, hr, hrnone⟩ := quoteTriviaList_built (o := o) h.trailing
  have hne : t.kind ≠ .none := by simpa [Token.isAbsent] using hpresent
  have hmended := Token.mend_of_present (o := o) (n := n) hpresent
  have hl' : quoteTriviaList .standard o (t.mend o n).leading = .ok l := by
    rw [hmended]
    exact (quoteTriviaList_spread h.leading).trans hl
  have hr' : quoteTriviaList .standard o (t.mend o n).trailing = .ok r := by
    rw [hmended]
    exact (quoteTriviaList_spread h.trailing).trans hr
  have hkind : (t.mend o n).kind = t.kind := (Token.mend_keepsKinds o n).kind t
  have hmissing : (t.mend o n).missing = t.missing := by rw [hmended]
  have htext : (t.mend o n).text = t.mendedText o := by rw [hmended]
  have hnone : (l.isSome || r.isSome) = false ↔ o.keep t.leading = [] ∧ o.keep t.trailing = [] := by
    rw [Bool.or_eq_false_iff, hlnone, hrnone]
  rw [quoteToken_eq hne hl hr, quoteToken_eq (hkind ▸ hne) hl' hr', hmissing, hkind, htext]
  split
  · rfl
  · next hpresent' =>
    split
    · next hk => rw [Token.mendedText_of_ne (by rw [hk]; decide), Call.ofText_spread]
    · next hk =>
      rw [literalArguments_mend h (literal_of_kind h hpresent' (.inl hk)) hshort hpresent hnone]
    · next hk =>
      rw [literalArguments_mend h (literal_of_kind h hpresent' (.inr hk)) hshort hpresent hnone]
    · rfl

/-- A token whose value is an integer is a numeric literal. -/
theorem kind_of_int (h : t.Sourced) {m : Int} (hvalue : t.value = .int m) :
    t.kind = .numericLiteralToken ∧ t.missing = false := by
  cases h.built with
  | fixed hb =>
    rw [Token.fixed?] at hb
    split at hb
    · have hnone : Scalar.none = t.value := congrArg Token.value (Option.some.inj hb)
      rw [hvalue] at hnone
      cases hnone
    · obtain ⟨s, -, hcore⟩ := Option.map_eq_some_iff.mp hb
      have hstring : Scalar.str s = t.value := congrArg Token.value hcore
      rw [hvalue] at hstring
      cases hstring
  | identifier hb =>
    have hstring : t.value = .str t.text := congrArg Token.value hb
    rw [hvalue] at hstring
    cases hstring
  | literal hb =>
    rw [hvalue] at hb
    obtain ⟨k, hk, hcore⟩ := Option.map_eq_some_iff.mp hb
    cases hk
    exact ⟨(congrArg Token.kind hcore).symm, (congrArg Token.missing hcore).symm⟩
  | missing hb =>
    have hnone : t.value = .none := congrArg Token.value hb
    rw [hvalue] at hnone
    cases hnone

/-- A token whose value is too long has no call. -/
theorem quoteToken_long (h : t.Sourced) {m : Int} (hvalue : t.value = .int m)
    (hlong : Integer.decimalBound ≤ m.natAbs) :
    quoteToken .standard o t = .error (.literal .tooManyDigits) := by
  obtain ⟨hkind, hmissing⟩ := kind_of_int h hvalue
  obtain ⟨l, hl, -⟩ := quoteTriviaList_built (o := o) h.leading
  obtain ⟨r, hr, -⟩ := quoteTriviaList_built (o := o) h.trailing
  have hscalar : quoteScalar t.value = .error (.literal .tooManyDigits) := by
    have htext : Integer.text? m = none := if_neg (Nat.not_lt.mpr hlong)
    rw [hvalue, quoteScalar]
    show ((Call.scalarText (.int m)).map Call.literal).mapError Error.literal = _
    rw [Call.scalarText, htext]
    rfl
  rw [quoteToken_eq (by rw [hkind]; decide) hl hr, hmissing, hkind, literalArguments, hscalar]
  rfl

end Quote

end TreeQuote
