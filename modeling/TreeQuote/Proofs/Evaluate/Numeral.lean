/-
TreeQuote/Proofs/Evaluate/Numeral.lean

The text of a number is a literal that stands for the number.  A `Numeral` is read as its
parts (`decimal?_text`), and a minus in front of it makes an expression with a sign.

Main statements: `Constant.read_integer` and `Constant.read_double`.
-/
import TreeQuote.Proofs.Evaluate.Quoted
import TreeQuote.Proofs.Number.Numeral

namespace TreeQuote

/-! ### The characters of a number -/

namespace Numeral

variable {n : Numeral}

/-- The characters of a number: digits, the point, the mark of the exponent and its sign. -/
def isPart (c : CodePoint) : Bool :=
  CodePoint.isDigit c || [CodePoint.ofChar '.', 'e', '+', '-'].contains c

theorem isPart_of_isDigits {t : Text} (h : t.IsDigits) {c : CodePoint} (hc : c ∈ t) :
    isPart c = true := by
  rw [isPart, h c hc, Bool.true_or]

/-- What stands behind the sign of an exponent. -/
theorem exponentText_eq (x : Int) : ∃ ds : Text, ds.IsDigits ∧ ds ≠ []
    ∧ Constant.number 10 ds = x.natAbs
    ∧ Double.exponentText x = (if x < 0 then CodePoint.ofChar '-' else '+') :: ds := by
  have hzero : Text.of "0" = List.replicate 1 (CodePoint.ofChar '0') := rfl
  have hsign : Text.of (if x < 0 then "-" else "+")
      = [if x < 0 then CodePoint.ofChar '-' else '+'] := by
    split <;> rfl
  by_cases hlen : (Text.decimal x.natAbs).length < 2
  · refine ⟨Text.of "0" ++ Text.decimal x.natAbs, ?_, by simp [hzero], ?_, ?_⟩
    · rw [hzero]
      exact (Text.IsDigits.replicate_zero 1).append (.decimal _)
    · rw [hzero, Constant.number_zeros_append, Constant.number_decimal]
    · rw [Double.exponentText, hsign, if_pos hlen]
      rfl
  · refine ⟨Text.decimal x.natAbs, .decimal _, Text.decimal_ne_nil _, Constant.number_decimal _, ?_⟩
    rw [Double.exponentText, hsign, if_neg hlen]
    rfl

theorem mem_text (h : n.Digits) {c : CodePoint} (hc : c ∈ n.text) : isPart c = true := by
  obtain ⟨whole, fraction, exponent⟩ := n
  rw [text, List.mem_append, List.mem_append] at hc
  rcases hc with (hc | hc) | hc
  · exact isPart_of_isDigits h.whole hc
  · cases fraction with
    | none => simp [fractionText] at hc
    | some f =>
      rcases List.mem_cons.mp hc with rfl | hc
      · rfl
      · exact isPart_of_isDigits (h.fraction f rfl) hc
  · cases exponent with
    | none => simp [exponentText] at hc
    | some x =>
      obtain ⟨ds, hds, -, -, htext⟩ := exponentText_eq x
      simp only [exponentText, htext, List.mem_cons] at hc
      rcases hc with rfl | rfl | hc
      · rfl
      · split <;> rfl
      · exact isPart_of_isDigits hds hc

/-- A number starts with a digit. -/
theorem text_head (h : n.Digits) : ∃ c t, n.text = c :: t ∧ CodePoint.isDigit c = true := by
  obtain ⟨c, ds, hds⟩ := List.exists_cons_of_ne_nil h.whole_ne_nil
  refine ⟨c, ds ++ n.fractionText ++ n.exponentText, ?_, h.whole c (hds ▸ List.mem_cons_self)⟩
  rw [text, hds]
  rfl

/-- What stands behind the digits in front of the point starts with no digit. -/
theorem tail_head (n : Numeral) :
    ∀ c ∈ (n.fractionText ++ n.exponentText).head?, CodePoint.isDigit c = false ∧ c ≠ '_' := by
  obtain ⟨whole, _ | f, _ | x⟩ := n
  · nofun
  · rintro c ⟨⟩
    decide
  · rintro c ⟨⟩
    decide
  · rintro c ⟨⟩
    decide

theorem exponentText_head (n : Numeral) :
    ∀ c ∈ n.exponentText.head?, CodePoint.isDigit c = false ∧ c ≠ '_' := by
  obtain ⟨whole, fraction, _ | x⟩ := n
  · nofun
  · rintro c ⟨⟩
    decide

/-- The characters of a number can stand in the text of a literal. -/
theorem isPart_visible {c : CodePoint} (h : isPart c = true) :
    0x20 ≤ c.val ∧ CodePoint.isSurrogate c = false := by
  rw [isPart, Bool.or_eq_true] at h
  rcases h with h | h
  · simp only [CodePoint.isDigit, CodePoint.inRange, Bool.and_eq_true, decide_eq_true_eq] at h
    simp only [CodePoint.isSurrogate, CodePoint.inRange, Bool.and_eq_false_iff,
      decide_eq_false_iff_not]
    omega
  · rw [List.contains_iff_mem] at h
    have key : ([CodePoint.ofChar '.', 'e', '+', '-'].all fun c =>
        decide (0x20 ≤ c.val) && !CodePoint.isSurrogate c) = true := by decide
    simpa using List.all_eq_true.mp key c h

end Numeral

namespace Constant

/-! ### Reading the parts -/

theorem digitRun_digits {ds rest : Text} (hds : ds.IsDigits)
    (hrest : ∀ c ∈ rest.head?, CodePoint.isDigit c = false ∧ c ≠ '_') (inside : Bool) :
    digitRun CodePoint.isDigit inside (ds ++ rest) = (ds, rest) := by
  induction ds generalizing inside with
  | nil =>
    rw [List.nil_append]
    rcases rest with _ | ⟨c, _ | ⟨d, more⟩⟩
    · rfl
    · have hc := hrest c rfl
      simp only [digitRun, hc.1, Bool.false_eq_true, if_false]
    · have hc := hrest c rfl
      simp [digitRun, hc.1, hc.2]
  | cons c ds ih =>
    have hc := hds c List.mem_cons_self
    have hds' : Text.IsDigits ds := fun d hd => hds d (List.mem_cons_of_mem c hd)
    rw [List.cons_append]
    cases hne : ds ++ rest with
    | nil =>
      rw [List.append_eq_nil_iff] at hne
      simp only [digitRun, hc, if_true, hne.1, hne.2]
    | cons d more =>
      have hrec := ih hds' true
      rw [hne] at hrec
      simp only [digitRun, hc, if_true, hrec]

theorem exponent?_text (n : Numeral) :
    exponent? n.exponentText = n.exponent.map fun x => (x, []) := by
  obtain ⟨whole, fraction, _ | x⟩ := n
  · rfl
  · obtain ⟨ds, hds, hne, hnumber, htext⟩ := Numeral.exponentText_eq x
    have hrun := @digitRun_digits ds [] hds nofun false
    rw [List.append_nil] at hrun
    have hempty : ds.isEmpty = false := by
      rw [List.isEmpty_eq_false_iff]
      exact hne
    show exponent? ('e' :: Double.exponentText x) = some (x, [])
    rw [htext, exponent?]
    by_cases hx : x < 0
    · simp only [hx, if_true, Bool.true_or, decide_true, hrun, hempty, Bool.false_eq_true, if_false,
        hnumber]
      congr 2
      rw [Int.ofNat_eq_natCast]
      omega
    · simp only [hx, if_true, Bool.true_or, decide_true, if_false,
        show CodePoint.ofChar '+' ≠ CodePoint.ofChar '-' by decide, hrun, hempty, Bool.false_eq_true,
        hnumber]
      congr 2
      rw [Int.ofNat_eq_natCast]
      omega

/-- A number is read as its parts. -/
theorem decimal?_text {n : Numeral} (h : n.Digits) : decimal? n.text
    = decimal?.finish n.whole (n.fraction.getD []) (n.exponent.getD 0) n.isDecimal [] := by
  have hwhole := digitRun_digits h.whole n.tail_head false
  have hexponent := exponent?_text n
  have hfraction : fraction? (n.fractionText ++ n.exponentText)
      = n.fraction.map fun f => (f, n.exponentText) := by
    cases hf : n.fraction with
    | none =>
      rw [Numeral.fractionText, hf, List.nil_append, Numeral.exponentText]
      cases n.exponent <;> rfl
    | some f =>
      rw [Numeral.fractionText, hf, List.cons_append, fraction?]
      simp only [if_true, digitRun_digits (h.fraction f hf) n.exponentText_head false,
        Option.map_some]
  rw [Numeral.text, List.append_assoc]
  unfold decimal?
  rw [hwhole]
  obtain ⟨whole, _ | f, _ | x⟩ := n
  · rfl
  · have hnil : Numeral.fractionText ⟨whole, none, some x⟩ = [] := rfl
    rw [hnil, List.nil_append] at hfraction ⊢
    simp only [hfraction, Option.map_none, hexponent]
    rfl
  · simp only [hfraction, Option.map_some, hexponent, Option.map_none]
    rfl
  · simp only [hfraction, Option.map_some, hexponent]
    rfl

/-- A number has no mark of a base. -/
theorem number?_text {n : Numeral} (h : n.Digits) : number? n.text = decimal? n.text := by
  rcases htext : n.text with _ | ⟨z, _ | ⟨m, rest⟩⟩
  · rfl
  · rfl
  · have hm : Numeral.isPart m = true := Numeral.mem_text h (by rw [htext]; simp)
    have key : ([CodePoint.ofChar 'x', 'X', 'o', 'O', 'b', 'B'].any Numeral.isPart) = false := by
      decide
    have hne : ∀ c ∈ [CodePoint.ofChar 'x', 'X', 'o', 'O', 'b', 'B'], m ≠ c := by
      rintro c hc rfl
      exact List.any_eq_false.mp key m hc hm
    simp [number?, hne]

/-! ### Whole texts -/

section Whole

variable {n : Numeral} {c : Constant}

/-- The parts of a number stand for a constant. -/
def StandsFor (n : Numeral) (c : Constant) : Prop :=
  decimal?.finish n.whole (n.fraction.getD []) (n.exponent.getD 0) n.isDecimal [] = some (c, [])

/-- A digit starts a number. -/
theorem first?_digit {d : CodePoint} {t : Text} (h : CodePoint.isDigit d = true) :
    first? 0 d t = (number? (d :: t)).map fun p => (some (.number p.1), p.2) := by
  have hrange : 0x30 ≤ d.val ∧ d.val ≤ 0x39 := by
    simpa only [CodePoint.isDigit, CodePoint.inRange, Bool.and_eq_true, decide_eq_true_eq] using h
  have hne : ∀ c ∈ [CodePoint.ofChar ' ', '\t', '#', '\n', '\\', '"', '\''], d ≠ c := by
    have key : ([CodePoint.ofChar ' ', '\t', '#', '\n', '\\', '"', '\''].all fun c =>
        decide (c.val < 0x30) || decide (0x39 < c.val)) = true := by decide
    rintro c hc rfl
    have hout := List.all_eq_true.mp key d hc
    simp only [Bool.or_eq_true, decide_eq_true_eq] at hout
    omega
  have hff : d.val ≠ 0x0C := by omega
  simp [first?, hne, hff, h]

theorem pieces?_text (h : n.Digits) (hc : StandsFor n c) (fuel : Nat) :
    pieces? (fuel + 1) 0 n.text = some [.number c] := by
  obtain ⟨d, t, htext, hd⟩ := Numeral.text_head h
  have hnumber : number? (d :: t) = some (c, []) := by
    rw [← htext, number?_text h, decimal?_text h]
    exact hc
  rw [htext]
  refine pieces?_cons ?_ rfl (pieces?_nil fuel 0)
  rw [first?_digit hd, hnumber]
  rfl

/-- A minus in front of a digit is a symbol of its own. -/
theorem first?_minus {d : CodePoint} {t : Text} (h : CodePoint.isDigit d = true) :
    first? 0 '-' (d :: t) = some (some (.symbol (Text.of "-")), d :: t) := by
  have hrange : 0x30 ≤ d.val ∧ d.val ≤ 0x39 := by
    simpa only [CodePoint.isDigit, CodePoint.inRange, Bool.and_eq_true, decide_eq_true_eq] using h
  have hsymbol : symbol? ('-' :: d :: t) = some (.symbol (Text.of "-"), d :: t) := by
    -- Only the two longer symbols that start with a minus need the digit.
    have heq : ∀ c : Char, c.toNat < 0x30 ∨ 0x39 < c.toNat → (CodePoint.ofChar c == d) = false := by
      intro c hc
      rw [beq_eq_false_iff_ne]
      rintro rfl
      have hv : (CodePoint.ofChar c).val = c.toNat := rfl
      omega
    have hfind : symbols.find? (·.isPrefixOf (CodePoint.ofChar '-' :: d :: t)) = some (Text.of "-") := by
      simp [symbols, Text.of, List.find?, List.isPrefixOf, heq]
      rfl
    rw [symbol?, hfind]
    rfl
  have hdot : ¬ (CodePoint.isDigit '-' || (CodePoint.ofChar '-' = '.'
      && ((d :: t).head?.any CodePoint.isDigit))) = true := by
    rw [show decide (CodePoint.ofChar '-' = '.') = false by decide, Bool.false_and, Bool.or_false]
    decide
  rw [first?.eq_def, if_neg (by decide), if_neg (by decide), if_neg (by decide), if_neg (by decide),
    if_neg (by decide), if_neg hdot, if_neg (by decide), hsymbol]
  rfl

theorem pieces?_minus (h : n.Digits) (hc : StandsFor n c) (fuel : Nat) :
    pieces? (fuel + 2) 0 ('-' :: n.text) = some [.symbol (Text.of "-"), .number c] := by
  obtain ⟨d, t, htext, hd⟩ := Numeral.text_head h
  have hpieces := pieces?_text h hc fuel
  rw [htext] at hpieces ⊢
  exact pieces?_cons (first?_minus hd) rfl hpieces

theorem factor?_number (c : Constant) (fuel : Nat) :
    factor? (fuel + 2) [.number c] = some (.constant c, []) :=
  factor?_of_atom (fun _ => by simp) (fun _ => by simp) (fun _ => rfl) fuel

theorem whole?_number (c : Constant) : whole? [.number c] = some (.constant c) :=
  whole?_of_factor rfl rfl rfl fun fuel => factor?_number c (fuel + 6)

theorem whole?_minus (c : Constant) :
    whole? [.symbol (Text.of "-"), .number c] = some (.signed true (.constant c)) := by
  refine whole?_of_factor rfl rfl rfl fun fuel => ?_
  have hafter : after? "-" [.symbol (Text.of "-"), .number c] = some [.number c] := rfl
  rw [factor?, hafter]
  simp only [factor?_number c (fuel + 5)]
  rfl

/-- A number stands for its constant. -/
theorem read_text (h : n.Digits) (hc : StandsFor n c) : read n.text = .ok c := by
  obtain ⟨d, t, htext, hd⟩ := Numeral.text_head h
  have hvisible : ∀ a ∈ d :: t, 0x20 ≤ a.val ∧ CodePoint.isSurrogate a = false := by
    rw [← htext]
    exact fun a ha => Numeral.isPart_visible (Numeral.mem_text h ha)
  have hstart : d ≠ ' ' ∧ d ≠ '#' ∧ d ≠ '\\' := by
    refine ⟨?_, ?_, ?_⟩ <;> rintro rfl <;> exact absurd hd (by decide)
  have hpieces := pieces?_text h hc t.length
  rw [htext] at hpieces ⊢
  rw [read, parse?_of_pieces hvisible hstart hpieces (whole?_number c)]
  rfl

/-- A number with a minus stands for its constant with the other sign. -/
theorem read_minus (h : n.Digits) (hc : StandsFor n c) (hn : c.isNumber = true) :
    read ('-' :: n.text) = .ok c.negated := by
  have hvisible : ∀ a ∈ CodePoint.ofChar '-' :: n.text,
      0x20 ≤ a.val ∧ CodePoint.isSurrogate a = false := by
    intro a ha
    rcases List.mem_cons.mp ha with rfl | ha
    · decide
    · exact Numeral.isPart_visible (Numeral.mem_text h ha)
  obtain ⟨d, t, htext, hd⟩ := Numeral.text_head h
  have hpieces := pieces?_minus h hc t.length
  have hlen : n.text.length + 1 = t.length + 2 := by rw [htext]; rfl
  rw [read, parse?_of_pieces hvisible (by decide) (hlen ▸ hpieces) (whole?_minus c)]
  simp only [evaluate, signedNumber?, hn, if_true]
  rfl

end Whole

/-! ### Integers -/

theorem length_decimal_le {n k : Nat} (hk : 0 < k) (h : n < Nat.pow 10 k) : (Text.decimal n).length ≤ k := by
  induction k generalizing n with
  | zero => exact absurd hk (Nat.lt_irrefl 0)
  | succ k ih =>
    rw [Text.decimal]
    split
    · exact Nat.le_add_left 1 k
    · next hn =>
      rw [List.length_append, List.length_singleton]
      have hk' : 0 < k := by
        rcases Nat.eq_zero_or_pos k with rfl | hk'
        · exact absurd h hn
        · exact hk'
      have hdiv : n / 10 < 10 ^ k := by
        rw [Nat.pow_eq, Nat.pow_succ] at h
        exact Nat.div_lt_of_lt_mul (by rwa [Nat.mul_comm] at h)
      exact Nat.succ_le_succ (ih hk' hdiv)

/-- Only zero starts with a zero. -/
theorem decimal_head {n : Nat} (h : (Text.decimal n).head? = some (CodePoint.ofChar '0')) : n = 0 := by
  induction n using Text.decimal.induct with
  | case1 n hn =>
    rw [Text.decimal, if_pos hn, List.head?_cons, Option.some.injEq] at h
    have hv := congrArg Decimal.digitOr0 h
    rw [CodePoint.digitOr0_hexDigit, show Decimal.digitOr0 (CodePoint.ofChar '0') = 0 from rfl] at hv
    omega
  | case2 n hn ih =>
    rw [Text.decimal, if_neg hn, List.head?_append_of_ne_nil _ (Text.decimal_ne_nil _)] at h
    have h0 := ih h
    omega

theorem standsFor_decimal {n : Nat} (h : n < Integer.decimalBound) :
    StandsFor ⟨Text.decimal n, none, none⟩ (.scalar (.int n)) := by
  have hlen : ¬ Integer.maxDigits < (Text.decimal n).length := by
    delta Integer.decimalBound at h
    exact Nat.not_lt.mpr (length_decimal_le (by decide) h)
  have hhead : ¬ ((Text.decimal n).head? = some (CodePoint.ofChar '0') && n ≠ 0) = true := by
    simp only [Bool.and_eq_true, decide_eq_true_eq, not_and, not_not]
    exact decimal_head
  have hends : ends [] = true := rfl
  simp only [StandsFor, decimal?.finish, Numeral.isDecimal, Option.isSome_none, Bool.or_self, hends,
    Bool.not_true, Bool.false_eq_true, if_false, number_decimal, hlen, hhead]

theorem digits_decimal (n : Nat) : Numeral.Digits ⟨Text.decimal n, none, none⟩ :=
  ⟨Text.decimal_ne_nil n, .decimal n, nofun⟩

theorem text_decimal (n : Nat) : Numeral.text ⟨Text.decimal n, none, none⟩ = Text.decimal n := by
  simp [Numeral.text, Numeral.fractionText, Numeral.exponentText]

/-- The text of an integer stands for the integer. -/
theorem read_integer {n : Int} {t : Text} (h : Integer.text? n = some t) :
    read t = .ok (.scalar (.int n)) := by
  rw [Integer.text?] at h
  split at h
  · next hn =>
    rw [Option.some.injEq] at h
    subst h
    cases n with
    | ofNat n =>
      have hread := read_text (digits_decimal n) (standsFor_decimal hn)
      rw [text_decimal] at hread
      exact hread
    | negSucc n =>
      have hread := read_minus (digits_decimal (n + 1)) (standsFor_decimal hn) rfl
      rw [text_decimal] at hread
      exact hread
  · cases h

/-! ### Doubles -/

theorem standsFor_double {n : Numeral} (h : n.isDecimal = true) :
    StandsFor n (.scalar (.float (Double.ofDecimal false n.digits n.power))) := by
  have hends : ends [] = true := rfl
  simp only [StandsFor, decimal?.finish, h, hends, Bool.not_true, Bool.false_eq_true, if_false, if_true]
  rfl

/-- The text of a finite double stands for the double. -/
theorem read_double {negative : Bool} {m : Nat} {e : Int}
    (hc : (Double.finite negative m e).Canonical) :
    read (Double.finite negative m e).text = .ok (.scalar (.float (.finite negative m e))) := by
  rcases Nat.eq_zero_or_pos m with rfl | hm
  · have he : e = Double.minExponent := hc.2.2.2.resolve_right (by decide)
    subst he
    cases negative <;> decide +kernel
  · obtain ⟨n, htext, hdigits, hdecimal, hback⟩ := Double.text_numeral hc hm
    have hstands := standsFor_double hdecimal
    rw [hback] at hstands
    rw [htext]
    cases negative with
    | false => exact read_text hdigits hstands
    | true => exact read_minus hdigits hstands rfl

end Constant

end TreeQuote
