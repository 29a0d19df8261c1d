/-
TreeQuote/Proofs/Text/Digit.lean

Digits and the numbers they denote: what `Text.decimal` and `Text.hex` write is read back
by `Integer.ofDigits`.

Main statements: `Constant.number_decimal` and `Constant.number_hex`.
-/
import TreeQuote.Evaluate.Constant.Quoted

namespace TreeQuote

/-! ### Single digits -/

namespace CodePoint

/-- A digit below sixteen has its own value. -/
theorem digitValue?_hexDigit (n : Nat) : digitValue? (hexDigit n) = some (n % 16) := by
  have h : n % 16 < 16 := Nat.mod_lt n (by decide)
  by_cases hd : n % 16 < 10
  · have hin : isDigit (hexDigit n) = true := by
      simp only [isDigit, inRange, hexDigit, if_pos hd, Bool.and_eq_true, decide_eq_true_eq]
      omega
    simp only [digitValue?, hin, if_true]
    simp only [hexDigit, if_pos hd]
    congr 1
    omega
  · have hin : isDigit (hexDigit n) = false := by
      simp only [isDigit, inRange, hexDigit, if_neg hd, Bool.and_eq_false_iff, decide_eq_false_iff_not]
      omega
    have hlow : isLower (hexDigit n) = true := by
      simp only [isLower, inRange, hexDigit, if_neg hd, Bool.and_eq_true, decide_eq_true_eq]
      omega
    simp only [digitValue?, hin, hlow, if_true, Bool.false_eq_true, if_false]
    simp only [hexDigit, if_neg hd]
    congr 1
    omega

theorem digitOr0_hexDigit (n : Nat) : Decimal.digitOr0 (hexDigit n) = n % 16 := by
  rw [Decimal.digitOr0, digitValue?_hexDigit, Option.getD_some]

theorem isHexDigit_hexDigit (n : Nat) : isHexDigit (hexDigit n) = true := by
  have h : n % 16 < 16 := Nat.mod_lt n (by decide)
  simp only [isHexDigit, digitValue?_hexDigit, h, decide_true]

/-- The digit of a number below ten is a decimal one. -/
theorem isDigit_hexDigit {n : Nat} (h : n < 10) : isDigit (hexDigit n) = true := by
  have hd : n % 16 < 10 := by omega
  simp only [isDigit, inRange, hexDigit, if_pos hd, Bool.and_eq_true, decide_eq_true_eq]
  omega

/-- Digits of numbers below sixteen are ASCII and visible. -/
theorem hexDigit_visible (n : Nat) : 0x30 ≤ (hexDigit n).val ∧ (hexDigit n).val ≤ 0x66 := by
  have h : n % 16 < 16 := Nat.mod_lt n (by decide)
  by_cases hd : n % 16 < 10
  · simp only [hexDigit, if_pos hd]
    omega
  · simp only [hexDigit, if_neg hd]
    omega

end CodePoint

/-! ### Numbers -/

theorem Integer.ofDigits_append_singleton (base : Nat) (ds : List Nat) (d : Nat) :
    Integer.ofDigits base (ds ++ [d]) = Integer.ofDigits base ds * base + d := by
  simp only [Integer.ofDigits, List.foldl_append, List.foldl_cons, List.foldl_nil]

namespace Constant

theorem number_append_singleton (base : Nat) (t : Text) (c : CodePoint) :
    number base (t ++ [c]) = number base t * base + Decimal.digitOr0 c := by
  simp only [number, List.map_append, List.map_cons, List.map_nil,
    Integer.ofDigits_append_singleton]

/-- The decimal text of a number denotes it. -/
theorem number_decimal (n : Nat) : number 10 (Text.decimal n) = n := by
  induction n using Text.decimal.induct with
  | case1 n h =>
    rw [Text.decimal, if_pos h]
    simp only [number, List.map_cons, List.map_nil, Integer.ofDigits, List.foldl_cons,
      List.foldl_nil, CodePoint.digitOr0_hexDigit]
    omega
  | case2 n h ih =>
    rw [Text.decimal, if_neg h, number_append_singleton, ih, CodePoint.digitOr0_hexDigit]
    omega

/-- The lowest hexadecimal digits of a number denote its remainder. -/
theorem number_hex (width n : Nat) : number 16 (Text.hex width n) = n % Nat.pow 16 width := by
  induction width generalizing n with
  | zero =>
    simp only [Text.hex, number, List.map_nil, Integer.ofDigits, List.foldl_nil]
    exact (Nat.mod_one n).symm
  | succ width ih =>
    rw [Text.hex, number_append_singleton, ih, CodePoint.digitOr0_hexDigit]
    have hpow : Nat.pow 16 (width + 1) = 16 * Nat.pow 16 width := by
      rw [Nat.pow_eq, Nat.pow_succ, Nat.mul_comm, Nat.pow_eq]
    rw [hpow, Nat.mod_mul]
    omega

end Constant

namespace Text

/-- Every digit that `hex` writes is that of a number. -/
theorem mem_hex {width n : Nat} {c : CodePoint} (h : c ∈ hex width n) :
    ∃ m, c = CodePoint.hexDigit m := by
  induction width generalizing n with
  | zero => simp [hex] at h
  | succ width ih =>
    simp only [hex, List.mem_append, List.mem_singleton] at h
    rcases h with h | h
    · exact ih h
    · exact ⟨n, h⟩

/-- Every digit of a decimal text is a decimal one. -/
theorem mem_decimal {n : Nat} {c : CodePoint} (h : c ∈ decimal n) : CodePoint.isDigit c = true := by
  induction n using decimal.induct with
  | case1 n hn =>
    rw [decimal, if_pos hn, List.mem_singleton] at h
    rw [h]
    exact CodePoint.isDigit_hexDigit hn
  | case2 n hn ih =>
    rw [decimal, if_neg hn, List.mem_append, List.mem_singleton] at h
    rcases h with h | h
    · exact ih h
    · rw [h]
      exact CodePoint.isDigit_hexDigit (Nat.mod_lt n (by decide))

theorem decimal_ne_nil (n : Nat) : decimal n ≠ [] := by
  rw [decimal]
  split
  · simp
  · simp

end Text

end TreeQuote
