/-
TreeQuote/Proofs/Source/Canonical.lean

The canonical text of a string or an integer reads back.  A string is written one code point at a
time, each in one of four ways (`Literal.Escape`): as it is, as a backslash and a mark, or by its
number in two or four hexadecimal digits.  The lexer steps over each of them whole and the decoder
undoes it, whatever follows; so the quote that closes the text is the first one that closes it.

An integer is written in decimal digits.  They are one number for the lexer, since no mark of a
base, point or exponent is among them, and `Integer.maxDigits` bounds how many can be read.

Main statement: `Literal.canonical_reads`.
-/
import TreeQuote.Proofs.Evaluate.Numeral
import TreeQuote.Proofs.Source.Scan
import TreeQuote.Source.Literal

namespace TreeQuote

/-! ### Texts of one lexeme -/

namespace Lexeme

/-- The lexeme that a text is as a whole. -/
def whole (k : Kind) (t : Text) : Lexeme := ⟨k, t, .start, Cursor.start.after t⟩

/-- A text that is one match gives one lexeme. -/
theorem scan?_whole {k : Kind} {t : Text} (h : Munch t k t.length) : scan? t = some [whole k t] := by
  have hmunch : Munch (t ++ []) k t.length := by rwa [List.append_nil]
  have hlexes := Lexes.lexeme (p := .start) (.nil (t ++ [])) hmunch (.done (.nil []))
  rw [List.nil_append, List.append_nil] at hlexes
  exact scan?_iff.2 hlexes

end Lexeme

namespace Literal

/-! ### Escapes -/

/-- The ways to write a code point in a string. -/
inductive Escape (c : CodePoint) : Text → Prop where
  | plain (hq : c ≠ '"') (hb : c ≠ '\\') (hn : c ≠ '\n') : Escape c [c]
  | mark (m : CodePoint) (h : (m, c) ∈ escapes) : Escape c ['\\', m]
  | byte (h : c.val ≤ 0xFF) : Escape c ('\\' :: 'x' :: Text.hex 2 c.val)
  | unit (h : c.val ≤ 0xFFFF) : Escape c ('\\' :: 'u' :: Text.hex 4 c.val)

/-- The canonical text of a code point is one of its escapes. -/
theorem renderPoint_escape (c : CodePoint) : Escape c (renderPoint c) := by
  have hmark : ∀ m d : CodePoint, (m, d) ∈ escapes → c = d → Escape c ['\\', m] :=
    fun m d hm hc => .mark m (hc ▸ hm)
  rw [renderPoint]
  split_ifs with h1 h2 h3 h4 h5 h6 h7 h8
  · exact hmark '\\' '\\' (by decide) h1
  · exact hmark '"' '"' (by decide) h2
  · exact hmark 'n' '\n' (by decide) h3
  · exact hmark 't' '\t' (by decide) h4
  · exact hmark 'r' '\r' (by decide) h5
  · exact hmark '0' '\x00' (by decide) (Fin.ext h6)
  · simp only [Bool.or_eq_true, decide_eq_true_eq] at h7
    exact .byte (by omega)
  · simp only [CodePoint.isSurrogate, CodePoint.inRange, Bool.and_eq_true, decide_eq_true_eq] at h8
    exact .unit (by omega)
  · exact .plain h2 h1 h3

/-- The digits of an escape name the code point. -/
theorem hexPoint?_hex {c : CodePoint} {width : Nat} (h : c.val < 16 ^ width) :
    hexPoint? (Text.hex width c.val) = some c := by
  have hall : (Text.hex width c.val).all CodePoint.isHexDigit = true := by
    rw [List.all_eq_true]
    intro d hd
    obtain ⟨m, rfl⟩ := Text.mem_hex hd
    exact CodePoint.isHexDigit_hexDigit m
  have hnumber : Integer.ofDigits 16 ((Text.hex width c.val).map Decimal.digitOr0) = c.val :=
    (Constant.number_hex width c.val).trans (Nat.mod_eq_of_lt h)
  rw [hexPoint?, if_pos hall, hnumber, CodePoint.ofNat?, dif_pos c.isLt]

/-- The marks of escapes are not those of numbers, no mark ends the line, and each is looked up. -/
theorem escapes_marks : (escapes.all fun p => p.1 ≠ CodePoint.ofChar 'x'
    && p.1 ≠ CodePoint.ofChar 'u' && p.1 ≠ CodePoint.ofChar '\n'
    && escapes.lookup p.1 = some p.2) = true := by
  decide

/-- Decoding an escape gives its code point. -/
theorem Escape.decodeBody {c : CodePoint} {t : Text} (h : Escape c t) (rest : Text) :
    decodeBody (t ++ rest) = (Literal.decodeBody rest).map (c :: ·) := by
  cases h with
  | plain hq hb hn =>
    rw [List.singleton_append, decodeBody.eq_def]
    simp only [ne_eq, hb, not_false_eq_true, if_true]
  | mark m hm =>
    have h := List.all_eq_true.1 escapes_marks _ hm
    simp only [Bool.and_eq_true, decide_eq_true_eq] at h
    obtain ⟨⟨⟨hx, hu⟩, -⟩, hlookup⟩ := h
    show Literal.decodeBody (CodePoint.ofChar '\\' :: m :: rest) = _
    rw [decodeBody.eq_def]
    simp only [ne_eq, not_true, if_false, hx, hu, hlookup]
  | byte hc =>
    have hpoint : hexPoint? (Text.hex 2 c.val) = some c :=
      hexPoint?_hex (Nat.lt_of_le_of_lt hc (by decide))
    have hhex : Text.hex 2 c.val = [CodePoint.hexDigit (c.val / 16), CodePoint.hexDigit c.val] := rfl
    rw [hhex] at hpoint ⊢
    rw [List.cons_append, List.cons_append, decodeBody.eq_def]
    simp only [List.cons_append, List.nil_append, ne_eq, not_true, if_false, if_true, hpoint]
  | unit hc =>
    have hpoint : hexPoint? (Text.hex 4 c.val) = some c :=
      hexPoint?_hex (Nat.lt_of_le_of_lt hc (by decide))
    have hmark : CodePoint.ofChar 'u' ≠ CodePoint.ofChar 'x' := by decide
    rw [Constant.hex_four] at hpoint ⊢
    rw [List.cons_append, List.cons_append, decodeBody.eq_def]
    simp only [List.cons_append, List.nil_append, ne_eq, not_true, if_false, hmark, if_true, hpoint]

/-- The string goes on behind an escape. -/
theorem Escape.stringEnd? {c : CodePoint} {t : Text} (h : Escape c t) (rest : Text) :
    Lexeme.stringEnd? (t ++ rest) = (Lexeme.stringEnd? rest).map (· + t.length) := by
  have hpass : ∀ (d : CodePoint) (rest : Text), d ≠ '"' → d ≠ '\n' → d ≠ '\\' →
      Lexeme.stringEnd? (d :: rest) = (Lexeme.stringEnd? rest).map (· + 1) := by
    intro d rest hq hn hb
    rw [Lexeme.stringEnd?.eq_def]
    simp only [hq, hn, hb, if_false]
  have hskip : ∀ (m : CodePoint) (rest : Text), m ≠ '\n' →
      Lexeme.stringEnd? (CodePoint.ofChar '\\' :: m :: rest)
        = (Lexeme.stringEnd? rest).map (· + 2) := by
    intro m rest hm
    rw [Lexeme.stringEnd?.eq_def]
    simp only [show CodePoint.ofChar '\\' ≠ CodePoint.ofChar '"' by decide,
      show CodePoint.ofChar '\\' ≠ CodePoint.ofChar '\n' by decide, hm, if_false, if_true]
  have hdigit : ∀ (n : Nat) (rest : Text), Lexeme.stringEnd? (CodePoint.hexDigit n :: rest)
      = (Lexeme.stringEnd? rest).map (· + 1) := by
    intro n rest
    -- The backslash lies between the digits and the letters, so it is told apart by its class.
    refine hpass _ _ (Constant.hexDigit_ne (by decide)) (Constant.hexDigit_ne (by decide)) ?_
    intro he
    have hhex := CodePoint.isHexDigit_hexDigit n
    rw [he] at hhex
    exact absurd hhex (by decide)
  cases h with
  | plain hq hb hn => exact hpass c rest hq hn hb
  | mark m hm =>
    have h := List.all_eq_true.1 escapes_marks _ hm
    simp only [Bool.and_eq_true, decide_eq_true_eq] at h
    exact hskip m rest h.1.2
  | byte hc =>
    have hhex : Text.hex 2 c.val = [CodePoint.hexDigit (c.val / 16), CodePoint.hexDigit c.val] := rfl
    rw [hhex, List.cons_append, List.cons_append, hskip _ _ (by decide)]
    simp only [List.cons_append, List.nil_append, hdigit, Option.map_map]
    rfl
  | unit hc =>
    rw [Constant.hex_four, List.cons_append, List.cons_append, hskip _ _ (by decide)]
    simp only [List.cons_append, List.nil_append, hdigit, Option.map_map]
    rfl

/-! ### Strings -/

theorem decodeBody_flatMap (v : Text) : decodeBody (v.flatMap renderPoint) = .ok v := by
  induction v with
  | nil => rfl
  | cons c v ih =>
    rw [List.flatMap_cons, (renderPoint_escape c).decodeBody, ih]
    rfl

/-- The string ends at the quote behind its code points. -/
theorem stringEnd?_flatMap (v rest : Text) :
    Lexeme.stringEnd? (v.flatMap renderPoint ++ CodePoint.ofChar '"' :: rest)
      = some ((v.flatMap renderPoint).length + 1) := by
  induction v with
  | nil =>
    rw [List.flatMap_nil, List.nil_append, Lexeme.stringEnd?.eq_def]
    simp only [if_true, List.length_nil, Nat.zero_add]
  | cons c v ih =>
    rw [List.flatMap_cons, List.append_assoc, (renderPoint_escape c).stringEnd?, ih,
      List.length_append, Option.map_some]
    congr 1
    omega

theorem decodeString_renderString (v : Text) : decodeString (renderString v) = .ok v := by
  rw [decodeString, renderString, List.cons_append, List.drop_succ_cons, List.drop_zero,
    List.dropLast_concat]
  exact decodeBody_flatMap v

theorem munch_renderString (v : Text) :
    Lexeme.Munch (renderString v) .stringLiteralToken (renderString v).length := by
  have hlength : (renderString v).length = (v.flatMap renderPoint).length + 1 + 1 := by
    simp [renderString]
  rw [hlength]
  exact .string rfl (stringEnd?_flatMap v [])

end Literal

/-! ### Digits -/

namespace Text.IsDigits

variable {t : Text}

/-- A predicate of code points that no digit satisfies. -/
theorem all_false {p : CodePoint → Bool} (h : t.IsDigits)
    (hp : ∀ c : CodePoint, 0x30 ≤ c.val → c.val ≤ 0x39 → p c = false) : ∀ c ∈ t, p c = false := by
  intro c hc
  have hval := h c hc
  simp only [CodePoint.isDigit, CodePoint.inRange, Bool.and_eq_true, decide_eq_true_eq] at hval
  exact hp c hval.1 hval.2

theorem not_mem (h : t.IsDigits) {d : CodePoint} (hd : d.isDigit = false) : d ∉ t := by
  intro hmem
  rw [h d hmem] at hd
  cases hd

theorem lower (h : t.IsDigits) : Text.lower t = t := by
  have hsmall := h.all_false (p := fun c => decide (0x39 < c.val)) fun c _ hc => by simpa using hc
  conv_rhs => rw [← List.map_id t]
  rw [Text.lower]
  apply List.map_congr_left
  intro c hc
  have hval : c.val ≤ 0x39 := by simpa using hsmall c hc
  rw [dif_neg (by omega), if_neg (by omega)]
  rfl

theorem plainDigits (h : t.IsDigits) : Text.plainDigits t = t := by
  conv_rhs => rw [← List.map_id t]
  rw [Text.plainDigits]
  apply List.map_congr_left
  intro c hc
  have hdigit := h c hc
  have hval := hdigit
  simp only [CodePoint.isDigit, CodePoint.inRange, Bool.and_eq_true, decide_eq_true_eq] at hval
  simp only [CodePoint.decimalValue?, hdigit, if_true]
  apply Fin.ext
  have hmod : (c.val - 0x30) % 16 < 10 := by omega
  simp only [CodePoint.hexDigit, if_pos hmod, id_eq]
  omega

/-- No blank stands around digits. -/
theorem trim (h : t.IsDigits) : Text.trim CodePoint.isPadding t = t := by
  have hpadding : ∀ c ∈ t, CodePoint.isPadding c = false := h.all_false fun c h0 h9 => by
    have hblank : c.isBlank = false := by
      simp only [CodePoint.isBlank, CodePoint.blankRanges, List.any_cons, List.any_nil,
        CodePoint.inRange, Bool.or_false, Bool.or_eq_false_iff, Bool.and_eq_false_iff,
        decide_eq_false_iff_not]
      omega
    rw [CodePoint.isPadding, hblank, Bool.false_and]
  have hstop : ∀ u : Text, (∀ c ∈ u, c ∈ t) → u.dropWhile CodePoint.isPadding = u := by
    intro u hu
    cases u with
    | nil => rfl
    | cons c u =>
      rw [List.dropWhile_cons_of_neg]
      simp [hpadding c (hu c List.mem_cons_self)]
  rw [Text.trim, hstop t fun _ hc => hc, Text.trimRight, hstop _ fun _ hc => List.mem_reverse.1 hc,
    List.reverse_reverse]

theorem digits? (h : t.IsDigits) (hne : t ≠ []) :
    Integer.digits? 10 t = some (t.map Decimal.digitOr0) := by
  induction t with
  | nil => exact absurd rfl hne
  | cons c t ih =>
    have hdigit := h c List.mem_cons_self
    have hval := hdigit
    simp only [CodePoint.isDigit, CodePoint.inRange, Bool.and_eq_true, decide_eq_true_eq] at hval
    have hvalue : CodePoint.digitValue? c = some (c.val - 0x30) := by
      simp only [CodePoint.digitValue?, hdigit, if_true]
    have hsmall : ¬ 10 ≤ c.val - 0x30 := by omega
    have hor : Decimal.digitOr0 c = c.val - 0x30 := by rw [Decimal.digitOr0, hvalue, Option.getD_some]
    cases t with
    | nil => simp only [Integer.digits?, hvalue, hsmall, if_false, List.map_cons, List.map_nil, hor]
    | cons d t =>
      have hmark : d ≠ CodePoint.ofChar '_' := by
        rintro rfl
        exact h.not_mem (by decide) (List.mem_cons_of_mem c List.mem_cons_self)
      have hrest := ih (fun e he => h e (List.mem_cons_of_mem c he)) (List.cons_ne_nil d t)
      rw [Integer.digits?]
      simp only [hvalue, hsmall, hmark, if_false, hrest, Option.map_some]
      exact congrArg (fun v => some (v :: (d :: t).map Decimal.digitOr0)) hor.symm

/-- The lexer takes digits whole. -/
theorem numberLength (h : t.IsDigits) (hne : t ≠ []) : Lexeme.numberLength t = t.length := by
  have hrun : Lexeme.run Lexeme.continuesNumber t = t.length := by
    have hgoes : ∀ c ∈ t, Lexeme.continuesNumber c = true := by
      intro c hc
      rw [Lexeme.continuesNumber, h c hc, Bool.true_or]
    have htake : (t ++ []).takeWhile Lexeme.continuesNumber = t :=
      Lexeme.takeWhile_append_stop hgoes (by simp)
    rw [List.append_nil] at htake
    rw [Lexeme.run, htake]
  have hdecimal : Lexeme.decimalLength t = t.length := by
    have happend : Lexeme.decimalLength (t ++ ([] ++ [])) = t.length + 0 + 0 :=
      Lexeme.decimalLength_append (by simpa using hrun) rfl
    simpa using happend
  cases t with
  | nil => exact absurd rfl hne
  | cons z t =>
    rw [Lexeme.numberLength_decimal, hdecimal]
    intro _ m hm
    have hdigit := h m (List.mem_cons_of_mem z (List.mem_of_mem_head? hm))
    by_contra hradix
    rw [Bool.not_eq_false] at hradix
    simp only [Lexeme.isRadix, Bool.or_eq_true, decide_eq_true_eq, or_assoc] at hradix
    rcases hradix with rfl | rfl | rfl | rfl <;> exact absurd hdigit (by decide)

/-- Digits have no mark of a base behind the first one. -/
theorem baseMark? (h : t.IsDigits) : Integer.baseMark? t = none := by
  rcases t with - | ⟨z, - | ⟨m, t⟩⟩
  · rfl
  · rfl
  · have hne : ∀ d : CodePoint, d.isDigit = false → m ≠ d := by
      rintro d hd rfl
      exact h.not_mem hd (List.mem_cons_of_mem z List.mem_cons_self)
    have hx := hne (CodePoint.ofChar 'x') (by decide)
    have hX := hne (CodePoint.ofChar 'X') (by decide)
    have ho := hne (CodePoint.ofChar 'o') (by decide)
    have hO := hne (CodePoint.ofChar 'O') (by decide)
    have hb := hne (CodePoint.ofChar 'b') (by decide)
    have hB := hne (CodePoint.ofChar 'B') (by decide)
    simp only [Integer.baseMark?, hx, hX, ho, hO, hb, hB, decide_false, Bool.or_self,
      Bool.false_eq_true, if_false, ite_self]

/-- Not too many digits are read as the number they denote. -/
theorem read? (h : t.IsDigits) (hne : t ≠ []) (hlen : t.length ≤ Integer.maxDigits) :
    Integer.read? 10 t = some (Int.ofNat (Constant.number 10 t)) := by
  have hradix : Integer.radix 10 t = (10, t, false) := by
    rw [Integer.radix, h.baseMark?]
    rfl
  have hmany : ¬ Integer.maxDigits < (t.map Decimal.digitOr0).length := by
    rw [List.length_map]
    exact Nat.not_lt.2 hlen
  have hunsigned : Integer.readUnsigned? 10 t = some (Constant.number 10 t) := by
    simp only [Integer.readUnsigned?, hradix, h.digits? hne, Option.bind_eq_bind, Option.bind_some,
      hmany, decide_false, Bool.and_false, Bool.false_and, Bool.false_eq_true, if_false]
    rfl
  have hminus := h.not_mem (d := CodePoint.ofChar '-') (by decide)
  have hplus := h.not_mem (d := CodePoint.ofChar '+') (by decide)
  cases t with
  | nil => exact absurd rfl hne
  | cons c t =>
    have hminus : c ≠ CodePoint.ofChar '-' := fun he => hminus (he ▸ List.mem_cons_self)
    have hplus : c ≠ CodePoint.ofChar '+' := fun he => hplus (he ▸ List.mem_cons_self)
    have hbase : (decide (10 = 0) || (decide (2 ≤ 10) && decide (10 ≤ 36))) = true := by decide
    simp only [Integer.read?, hbase, if_true, h.trim, h.plainDigits, hminus, hplus, if_false,
      hunsigned, Option.map_some]

/-- A number of digits only is an integer in base ten. -/
theorem parseNumber? (h : t.IsDigits) :
    Literal.parseNumber? t = (Integer.read? 10 t).map Scalar.int := by
  have hfilter : (t.filter fun c => c ≠ CodePoint.ofChar '_') = t := by
    apply List.filter_eq_self.2
    intro c hc
    have hne : c ≠ CodePoint.ofChar '_' := by
      rintro rfl
      exact h.not_mem (by decide) hc
    simpa using hne
  have hpoint : t.contains (CodePoint.ofChar '.') = false := by
    simpa using h.not_mem (d := CodePoint.ofChar '.') (by decide)
  have hexponent : t.contains (CodePoint.ofChar 'e') = false := by
    simpa using h.not_mem (d := CodePoint.ofChar 'e') (by decide)
  have hplain : Literal.parseNumber?.plain t t = (Integer.read? 10 t).map Scalar.int := by
    simp only [Literal.parseNumber?.plain, hpoint, hexponent, Bool.or_self, Bool.false_eq_true,
      if_false]
  unfold Literal.parseNumber?
  simp only [hfilter, h.lower]
  split
  · rename_i z m rest
    have hmem : m ∈ z :: m :: rest := List.mem_cons_of_mem z List.mem_cons_self
    have hx : m ≠ CodePoint.ofChar 'x' := by
      rintro rfl
      exact h.not_mem (by decide) hmem
    have hb : m ≠ CodePoint.ofChar 'b' := by
      rintro rfl
      exact h.not_mem (by decide) hmem
    simp only [hx, hb, decide_false, Bool.and_false, Bool.false_eq_true, if_false, hplain]
  · exact hplain

end Text.IsDigits

namespace Literal

/-! ### Integers -/

theorem munch_decimal (n : Nat) :
    Lexeme.Munch (Text.decimal n) .numericLiteralToken (Text.decimal n).length := by
  have hdigits := Text.IsDigits.decimal n
  have hne := Text.decimal_ne_nil n
  rw [← hdigits.numberLength hne]
  obtain ⟨z, t, ht⟩ := List.exists_cons_of_ne_nil hne
  exact .number ht (hdigits z (by simp [ht]))

theorem parseNumber?_decimal {n : Nat} (h : n < Integer.decimalBound) :
    parseNumber? (Text.decimal n) = some (.int n) := by
  have hdigits := Text.IsDigits.decimal n
  have hlen : (Text.decimal n).length ≤ Integer.maxDigits := by
    delta Integer.decimalBound at h
    exact Constant.length_decimal_le (by decide) h
  rw [hdigits.parseNumber?, hdigits.read? (Text.decimal_ne_nil n) hlen, Constant.number_decimal]
  rfl

/-! ### What is written reads back -/

/-- The canonical text of a string is one string for the lexer and decodes to the string.  The
canonical text of an integer from zero up to the bound `10 ^ 4300` is one number for the lexer and
reads as the integer. -/
theorem canonical_reads :
    (∀ v : Text,
      Lexeme.scan? (renderString v) = some [Lexeme.whole .stringLiteralToken (renderString v)]
        ∧ decodeString (renderString v) = .ok v)
      ∧ ∀ n : Int, 0 ≤ n → n < Integer.decimalBound → ∃ t, render? (.int n) = some t
        ∧ Lexeme.scan? t = some [Lexeme.whole .numericLiteralToken t]
        ∧ parseNumber? t = some (.int n) := by
  refine ⟨fun v => ⟨Lexeme.scan?_whole (munch_renderString v), decodeString_renderString v⟩, ?_⟩
  intro n hn hbound
  obtain ⟨n, rfl⟩ := Int.eq_ofNat_of_zero_le hn
  have hnat : n < Integer.decimalBound := Int.ofNat_lt.1 hbound
  have hrender : render? (.int n) = some (Text.decimal n) := by
    rw [render?, Integer.text?, Int.natAbs_natCast, if_pos hnat]
    rfl
  exact ⟨Text.decimal n, hrender, Lexeme.scan?_whole (munch_decimal n), parseNumber?_decimal hnat⟩

/-- A thousand has a text that reads back. -/
theorem canonical_reads_thousand : (0 : Int) ≤ 1000 ∧ (1000 : Int) < Integer.decimalBound
    ∧ ∃ t, render? (.int 1000) = some t
      ∧ Lexeme.scan? t = some [Lexeme.whole .numericLiteralToken t]
      ∧ parseNumber? t = some (.int 1000) := by
  have hbound : 1000 < Integer.decimalBound := by
    have hpow : ∀ k, 4 ≤ k → 1000 < Nat.pow 10 k := fun k hk =>
      Nat.lt_of_lt_of_le (by decide : 1000 < 10 ^ 4) (Nat.pow_le_pow_right (by decide) hk)
    delta Integer.decimalBound
    exact hpow Integer.maxDigits (by decide)
  have hint : (1000 : Int) < Integer.decimalBound := Int.ofNat_lt.2 hbound
  exact ⟨by decide, hint, canonical_reads.2 1000 (by decide) hint⟩

end Literal

end TreeQuote
