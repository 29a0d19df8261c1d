/-
TreeQuote/Proofs/Number/Rounding.lean

Rounding looks only at the value of a fraction.  `Double.round` estimates the exponent from
the lengths of the numerator and the denominator, which differ from one fraction to another;
but the estimate is corrected to the one exponent at which the whole part has 53 bits, and
that depends on the value alone (`exponentFor_eq`).

A canonical double rounds to itself, and so does every fraction of its value.

Main statements: `Double.round_congr`, `Double.round_canonical`, `Double.round_exact` and
`Double.round_bounds`.
-/
import Mathlib.Algebra.Order.Field.Power
import Mathlib.Data.Rat.Cast.Order
import Mathlib.Tactic.FieldSimp
import Mathlib.Tactic.Linarith
import Mathlib.Tactic.NormNum
import Mathlib.Tactic.Positivity
import Mathlib.Tactic.Ring
import TreeQuote.Proofs.Tree.WellFormed

namespace TreeQuote.Double

/-! ### Quotients -/

/-- The nearest integer does not change with the fraction. -/
theorem roundDiv_mul {num den c : Nat} (hc : 0 < c) :
    roundDiv (c * num) (c * den) = roundDiv num den := by
  have hq : c * num / (c * den) = num / den := Nat.mul_div_mul_left num den hc
  have hr : c * num % (c * den) = c * (num % den) := Nat.mul_mod_mul_left c num den
  have hlt : c * den < 2 * (c * (num % den)) ↔ den < 2 * (num % den) := by
    rw [Nat.mul_left_comm, Nat.mul_lt_mul_left hc]
  have heq : 2 * (c * (num % den)) = c * den ↔ 2 * (num % den) = den := by
    rw [Nat.mul_left_comm, Nat.mul_right_inj hc.ne']
  simp only [roundDiv, hq, hr, hlt, beq_iff_eq, heq, Bool.or_eq_true, decide_eq_true_eq,
    Bool.and_eq_true]

theorem roundDiv_congr {n d n' d' : Nat} (hd : 0 < d) (hd' : 0 < d') (h : n * d' = n' * d) :
    roundDiv n d = roundDiv n' d' := by
  calc roundDiv n d = roundDiv (d' * n) (d' * d) := (roundDiv_mul hd').symm
    _ = roundDiv (d * n') (d * d') := by rw [Nat.mul_comm d' n, h, Nat.mul_comm d' d, Nat.mul_comm d n']
    _ = roundDiv n' d' := roundDiv_mul hd

/-- A quotient without a remainder is its own nearest integer. -/
theorem roundDiv_exact {m d : Nat} (hd : 0 < d) : roundDiv (m * d) d = m := by
  have hq : m * d / d = m := Nat.mul_div_cancel m hd
  have hr : m * d % d = 0 := Nat.mul_mod_left m d
  simp only [roundDiv, hq, hr]
  rw [if_neg]
  simp only [Nat.mul_zero, Bool.or_eq_true, decide_eq_true_eq, Bool.and_eq_true, beq_iff_eq]
  omega

/-- The nearest integer lies within one half. -/
theorem roundDiv_bounds {n d : Nat} (hd : 0 < d) :
    2 * n ≤ (2 * roundDiv n d + 1) * d ∧ 2 * roundDiv n d * d ≤ 2 * n + d := by
  have hdiv := Nat.div_add_mod n d
  have hlt := Nat.mod_lt n hd
  simp only [roundDiv]
  split
  · next h =>
    simp only [Bool.or_eq_true, decide_eq_true_eq, Bool.and_eq_true, beq_iff_eq] at h
    have hhalf : d ≤ 2 * (n % d) := by omega
    constructor <;> nlinarith
  · next h =>
    simp only [Bool.or_eq_true, decide_eq_true_eq, not_or, not_lt] at h
    have hle : 2 * (n / d) * d ≤ 2 * n := by
      rw [Nat.mul_assoc]
      exact Nat.mul_le_mul_left 2 (Nat.div_mul_le_self n d)
    exact ⟨by nlinarith [h.1], by omega⟩

/-- The nearest integer is at least as large as an integer below the quotient. -/
theorem le_roundDiv {n d a : Nat} (hd : 0 < d) (h : a * d ≤ n) : a ≤ roundDiv n d := by
  have hq : a ≤ n / d := (Nat.le_div_iff_mul_le hd).mpr h
  simp only [roundDiv]
  split <;> omega

/-- The nearest integer is at most as large as an integer above the quotient. -/
theorem roundDiv_le {n d a : Nat} (h : n < a * d) : roundDiv n d ≤ a := by
  have hq : n / d < a := Nat.div_lt_of_lt_mul (by rwa [Nat.mul_comm] at h)
  simp only [roundDiv]
  split <;> omega

/-! ### Scaling -/

section Scale

variable {num den : Nat}

theorem scale_pos (hden : 0 < den) (e : Int) : 0 < (scale num den e).2 := by
  cases e with
  | ofNat k =>
    show 0 < den * Nat.pow 2 k
    exact Nat.mul_pos hden (Nat.pow_pos (by decide))
  | negSucc k => exact hden

/-- Scaling divides by a power of two. -/
theorem scale_value (e : Int) :
    ((scale num den e).1 : ℚ) / (scale num den e).2 = (num : ℚ) / den / (2 : ℚ) ^ e := by
  cases e with
  | ofNat k =>
    have h : (scale num den (.ofNat k)).2 = den * 2 ^ k := rfl
    rw [h, Int.ofNat_eq_natCast, zpow_natCast, Nat.cast_mul, Nat.cast_pow, div_div]
    rfl
  | negSucc k =>
    have h : (scale num den (.negSucc k)).1 = num * 2 ^ (k + 1) := rfl
    rw [h, zpow_negSucc, div_inv_eq_mul, Nat.cast_mul, Nat.cast_pow, mul_div_right_comm]
    rfl

/-! ### Exponents -/

/-- The exponent at which the whole part of a value has 53 bits. -/
def Fills (q : ℚ) (e : Int) : Prop := (2 : ℚ) ^ (52 : Int) * 2 ^ e ≤ q ∧ q < (2 : ℚ) ^ (53 : Int) * 2 ^ e

theorem Fills.unique {q : ℚ} {e e' : Int} (h : Fills q e) (h' : Fills q e') : e = e' := by
  have key : ∀ {a b : Int}, Fills q a → Fills q b → a ≤ b := by
    intro a b ha hb
    have hlt : (2 : ℚ) ^ (52 + a) < 2 ^ (53 + b) := by
      rw [zpow_add₀ two_ne_zero, zpow_add₀ two_ne_zero]
      exact lt_of_le_of_lt ha.1 hb.2
    have hab := (zpow_lt_zpow_iff_right₀ one_lt_two).mp hlt
    omega
  exact le_antisymm (key h h') (key h' h)

/-- The lengths of the numerator and the denominator give the exponent but for one. -/
theorem log2_bounds (hnum : 0 < num) (hden : 0 < den) :
    (2 : ℚ) ^ ((Nat.log2 num : Int) - Nat.log2 den - 1) < (num : ℚ) / den
      ∧ (num : ℚ) / den < 2 ^ ((Nat.log2 num : Int) - Nat.log2 den + 1) := by
  have hn1 : ((2 : ℚ) ^ Nat.log2 num) ≤ num := by
    exact_mod_cast Nat.log2_self_le hnum.ne'
  have hn2 : (num : ℚ) < 2 ^ (Nat.log2 num + 1) := by
    exact_mod_cast Nat.lt_log2_self
  have hd1 : ((2 : ℚ) ^ Nat.log2 den) ≤ den := by
    exact_mod_cast Nat.log2_self_le hden.ne'
  have hd2 : (den : ℚ) < 2 ^ (Nat.log2 den + 1) := by
    exact_mod_cast Nat.lt_log2_self
  have hdpos : (0 : ℚ) < den := by exact_mod_cast hden
  constructor
  · have hexp : ((Nat.log2 num : Int) - Nat.log2 den - 1)
        = (Nat.log2 num : Int) - ((Nat.log2 den + 1 : Nat) : Int) := by push_cast; ring
    rw [hexp, zpow_sub₀ two_ne_zero, zpow_natCast, zpow_natCast, div_lt_div_iff₀ (by positivity) hdpos]
    calc (2 : ℚ) ^ Nat.log2 num * den < 2 ^ Nat.log2 num * 2 ^ (Nat.log2 den + 1) := by gcongr
      _ ≤ num * 2 ^ (Nat.log2 den + 1) := by gcongr
  · have hexp : ((Nat.log2 num : Int) - Nat.log2 den + 1)
        = ((Nat.log2 num + 1 : Nat) : Int) - (Nat.log2 den : Int) := by push_cast; ring
    rw [hexp, zpow_sub₀ two_ne_zero, zpow_natCast, zpow_natCast, div_lt_div_iff₀ hdpos (by positivity)]
    calc (num : ℚ) * 2 ^ Nat.log2 den ≤ num * den := by gcongr
      _ < 2 ^ (Nat.log2 num + 1) * den := by gcongr

/-- The exponent depends on the value alone. -/
theorem exponentFor_eq (hnum : 0 < num) (hden : 0 < den) :
    ∃ e, Fills ((num : ℚ) / den) e ∧ exponentFor num den = max minExponent e := by
  obtain ⟨hlow, hhigh⟩ := log2_bounds hnum hden
  set e₀ : Int := (Nat.log2 num : Int) - Nat.log2 den - 53 with he₀
  have hlow' : (2 : ℚ) ^ (52 : Int) * 2 ^ e₀ < (num : ℚ) / den := by
    rw [← zpow_add₀ two_ne_zero]
    convert hlow using 2
    omega
  have hhigh' : (num : ℚ) / den < (2 : ℚ) ^ (54 : Int) * 2 ^ e₀ := by
    rw [← zpow_add₀ two_ne_zero]
    convert hhigh using 2
    omega
  have hscale := @scale_value num den e₀
  have hpos : 0 < (scale num den e₀).2 := scale_pos hden e₀
  have hposq : (0 : ℚ) < (scale num den e₀).2 := by exact_mod_cast hpos
  have hpow : (0 : ℚ) < 2 ^ e₀ := by positivity
  -- The whole part is below the bound exactly if the value is.
  have hwhole : (scale num den e₀).1 / (scale num den e₀).2 < Nat.pow 2 53
      ↔ (num : ℚ) / den < 2 ^ (53 : Int) * 2 ^ e₀ := by
    rw [Nat.div_lt_iff_lt_mul hpos, ← div_lt_iff₀ hpow, ← hscale, div_lt_iff₀ hposq]
    constructor
    · intro h
      exact_mod_cast h
    · intro h
      exact_mod_cast h
  unfold exponentFor
  by_cases h : (num : ℚ) / den < 2 ^ (53 : Int) * 2 ^ e₀
  · refine ⟨e₀, ⟨hlow'.le, h⟩, ?_⟩
    simp only [← he₀, if_pos (hwhole.mpr h)]
  · refine ⟨e₀ + 1, ⟨?_, ?_⟩, ?_⟩
    · rw [zpow_add_one₀ two_ne_zero]
      calc (2 : ℚ) ^ (52 : Int) * (2 ^ e₀ * 2) = 2 ^ (53 : Int) * 2 ^ e₀ := by norm_num; ring
        _ ≤ (num : ℚ) / den := not_lt.mp h
    · rw [zpow_add_one₀ two_ne_zero]
      calc (num : ℚ) / den < 2 ^ (54 : Int) * 2 ^ e₀ := hhigh'
        _ = 2 ^ (53 : Int) * (2 ^ e₀ * 2) := by norm_num; ring
    · simp only [← he₀, if_neg (mt hwhole.mp h)]

theorem scale_congr {num' den' : Nat} (h : num * den' = num' * den) (e : Int) :
    (scale num den e).1 * (scale num' den' e).2 = (scale num' den' e).1 * (scale num den e).2 := by
  cases e with
  | ofNat k =>
    show num * (den' * Nat.pow 2 k) = num' * (den * Nat.pow 2 k)
    rw [← Nat.mul_assoc, h, Nat.mul_assoc]
  | negSucc k =>
    show num * Nat.pow 2 (k + 1) * den' = num' * Nat.pow 2 (k + 1) * den
    rw [Nat.mul_right_comm, h, Nat.mul_right_comm]

end Scale

/-! ### Rounding -/

/-- The double at an exponent, after the carry that rounding up may give. -/
def settled (negative : Bool) (m : Nat) (e : Int) : Double :=
  let (m, e) := if m = Nat.pow 2 53 then (Nat.pow 2 52, e + 1) else (m, e)
  if maxExponent < e then .infinite negative else .finite negative m e

theorem round_eq_settled {negative : Bool} {num den : Nat} (hnum : 0 < num) :
    round negative num den = settled negative
      (roundDiv (scale num den (exponentFor num den)).1 (scale num den (exponentFor num den)).2)
      (exponentFor num den) := by
  rw [round, if_neg hnum.ne']
  rfl

/-- Equal fractions round to the same number. -/
theorem round_congr {negative : Bool} {num den num' den' : Nat} (hden : 0 < den) (hden' : 0 < den')
    (h : num * den' = num' * den) : round negative num den = round negative num' den' := by
  rcases Nat.eq_zero_or_pos num with rfl | hnum
  · have hnum' : num' = 0 := by
      rw [Nat.zero_mul] at h
      exact (Nat.mul_eq_zero.mp h.symm).resolve_right hden.ne'
    rw [hnum', round, round]
    simp only [if_true]
  · have hnum' : 0 < num' := by
      have hpos : 0 < num' * den := h ▸ Nat.mul_pos hnum hden'
      exact Nat.pos_of_mul_pos_right hpos
    have hvalue : (num : ℚ) / den = (num' : ℚ) / den' := by
      rw [div_eq_div_iff (by exact_mod_cast hden.ne') (by exact_mod_cast hden'.ne')]
      exact_mod_cast h
    obtain ⟨e, hfills, he⟩ := exponentFor_eq hnum hden
    obtain ⟨e', hfills', he'⟩ := exponentFor_eq hnum' hden'
    rw [hvalue] at hfills
    have hexponent : exponentFor num den = exponentFor num' den' := by
      rw [he, he', hfills.unique hfills']
    rw [round_eq_settled hnum, round_eq_settled hnum', hexponent,
      roundDiv_congr (scale_pos hden _) (scale_pos hden' _) (scale_congr h _)]

theorem zero_canonical (negative : Bool) : (zero negative).Canonical :=
  ⟨by decide, by decide, by decide, .inl rfl⟩

/-- Rounding gives a canonical number. -/
theorem round_canonical (negative : Bool) {num den : Nat} (hden : 0 < den) :
    (round negative num den).Canonical := by
  rcases Nat.eq_zero_or_pos num with rfl | hnum
  · rw [round, if_pos rfl]
    exact zero_canonical negative
  obtain ⟨e', hfills, he'⟩ := exponentFor_eq hnum hden
  rw [round_eq_settled hnum]
  set E := exponentFor num den with hE
  have hpos := @scale_pos num den hden E
  have hposq : (0 : ℚ) < (scale num den E).2 := by exact_mod_cast hpos
  have hpow : (0 : ℚ) < 2 ^ E := by positivity
  have hmin : minExponent ≤ E := he' ▸ le_max_left _ _
  -- The quotient at this exponent is below the bound, and fills it unless the exponent is the least.
  have hbelow : (scale num den E).1 < Nat.pow 2 53 * (scale num den E).2 := by
    have hlt : (num : ℚ) / den < 2 ^ (53 : Int) * 2 ^ E := by
      refine lt_of_lt_of_le hfills.2 ?_
      have hle : e' ≤ E := he' ▸ le_max_right _ _
      have := zpow_le_zpow_right₀ (one_le_two (α := ℚ)) hle
      gcongr
    rw [← div_lt_iff₀ hpow, ← scale_value, div_lt_iff₀ hposq] at hlt
    exact_mod_cast hlt
  have hfull : E = minExponent ∨ Nat.pow 2 52 * (scale num den E).2 ≤ (scale num den E).1 := by
    rcases le_total e' minExponent with hle | hle
    · exact .inl (he'.trans (max_eq_left hle))
    · right
      obtain rfl : E = e' := he'.trans (max_eq_right hle)
      have hge := hfills.1
      rw [← le_div_iff₀ hpow, ← scale_value, le_div_iff₀ hposq] at hge
      exact_mod_cast hge
  have hle := roundDiv_le hbelow
  rw [settled]
  by_cases hcarry : roundDiv (scale num den E).1 (scale num den E).2 = Nat.pow 2 53
  · rw [if_pos hcarry]
    simp only
    split
    · trivial
    · exact ⟨by decide, by omega, by omega, .inr (Nat.le_refl _)⟩
  · rw [if_neg hcarry]
    simp only
    split
    · trivial
    · refine ⟨by omega, hmin, by omega, hfull.imp_right fun h => ?_⟩
      exact le_roundDiv hpos h

section Canonical

variable {negative : Bool} {m : Nat} {e : Int} {num den : Nat}

/-- The exponent of a canonical number is the one that rounding finds. -/
theorem exponentFor_canonical (hc : (Double.finite negative m e).Canonical) (hnum : 0 < num)
    (hden : 0 < den) (hvalue : (num : ℚ) / den = m * 2 ^ e) : exponentFor num den = e := by
  obtain ⟨hm, hmin, -, hbits⟩ := hc
  obtain ⟨e', hfills, he'⟩ := exponentFor_eq hnum hden
  have hpow : (0 : ℚ) < 2 ^ e := by positivity
  have hm' : (m : ℚ) < 2 ^ (53 : Int) := by exact_mod_cast hm
  by_cases hfull : Nat.pow 2 52 ≤ m
  · -- All bits are used: the value fills this very exponent.
    have hfull' : (2 : ℚ) ^ (52 : Int) ≤ m := by exact_mod_cast hfull
    have hhere : Fills ((num : ℚ) / den) e := by
      rw [hvalue]
      exact ⟨by gcongr, by gcongr⟩
    rw [he', hfills.unique hhere]
    exact max_eq_right hmin
  · -- Otherwise the exponent is the least, and the value fills only smaller ones.
    have heq : e = minExponent := hbits.resolve_right hfull
    have hsmall : (m : ℚ) < 2 ^ (52 : Int) := by
      exact_mod_cast Nat.lt_of_not_le hfull
    have hlt : (2 : ℚ) ^ (52 + e') < 2 ^ (52 + e) := by
      rw [zpow_add₀ two_ne_zero, zpow_add₀ two_ne_zero]
      calc (2 : ℚ) ^ (52 : Int) * 2 ^ e' ≤ (num : ℚ) / den := hfills.1
        _ = m * 2 ^ e := hvalue
        _ < 2 ^ (52 : Int) * 2 ^ e := by gcongr
    have hle : e' ≤ e := by
      have h := (zpow_lt_zpow_iff_right₀ one_lt_two).mp hlt
      omega
    rw [he', ← heq]
    exact max_eq_left hle

/-- A fraction with the value of a canonical number rounds to it. -/
theorem round_exact (hc : (Double.finite negative m e).Canonical) (hm : 0 < m) (hden : 0 < den)
    (hvalue : (num : ℚ) / den = m * 2 ^ e) : round negative num den = .finite negative m e := by
  have hdenq : (0 : ℚ) < den := by exact_mod_cast hden
  have hnum : 0 < num := by
    have hpos : (0 : ℚ) < (num : ℚ) / den := by
      rw [hvalue]
      positivity
    exact_mod_cast (div_pos_iff_of_pos_right hdenq).mp hpos
  have hexponent := exponentFor_canonical hc hnum hden hvalue
  have hpos := @scale_pos num den hden e
  have hposq : ((scale num den e).2 : ℚ) ≠ 0 := by exact_mod_cast hpos.ne'
  have hexact : (scale num den e).1 = m * (scale num den e).2 := by
    have h := @scale_value num den e
    rw [hvalue, mul_div_assoc, div_self (by positivity), mul_one, div_eq_iff hposq] at h
    exact_mod_cast h
  obtain ⟨hlt, -, hmax, -⟩ := hc
  rw [round_eq_settled hnum, hexponent, hexact, roundDiv_exact hpos, settled, if_neg hlt.ne]
  exact if_neg (not_lt.mpr hmax)

/-- Only values in range round to a finite number other than zero. -/
theorem round_bounds (hm : 0 < m) (hden : 0 < den) (h : round false num den = .finite false m e) :
    (2 : ℚ) ^ (-1075 : Int) ≤ (num : ℚ) / den ∧ (num : ℚ) / den < 2 ^ (1024 : Int) := by
  have hnum : 0 < num := by
    rcases Nat.eq_zero_or_pos num with rfl | hnum
    · rw [round, if_pos rfl, zero, Double.finite.injEq] at h
      omega
    · exact hnum
  obtain ⟨e', hfills, he'⟩ := exponentFor_eq hnum hden
  set E := exponentFor num den with hE
  have hpos := @scale_pos num den hden E
  have hposq : (0 : ℚ) < (scale num den E).2 := by exact_mod_cast hpos
  have hpow : (0 : ℚ) < 2 ^ E := by positivity
  rw [round_eq_settled hnum, ← hE, settled] at h
  set r := roundDiv (scale num den E).1 (scale num den E).2 with hr
  have hrange : 0 < r ∧ E ≤ maxExponent := by
    by_cases hcarry : r = Nat.pow 2 53
    · rw [if_pos hcarry] at h
      simp only at h
      split at h
      · cases h
      · next hmax => exact ⟨hcarry ▸ by decide, by omega⟩
    · rw [if_neg hcarry] at h
      simp only at h
      split at h
      · cases h
      · next hmax =>
        rw [Double.finite.injEq] at h
        exact ⟨h.2.1 ▸ hm, by omega⟩
  constructor
  · -- Half a unit at the least exponent is what rounds up to one.
    have hhalf : (scale num den E).2 ≤ 2 * (scale num den E).1 := by
      have hb := (roundDiv_bounds (n := (scale num den E).1) hpos).2
      rw [← hr] at hb
      nlinarith [hrange.1]
    have hquot : (1 : ℚ) / 2 ≤ (num : ℚ) / den / 2 ^ E := by
      rw [← scale_value, div_le_div_iff₀ two_pos hposq]
      exact_mod_cast (by omega : 1 * (scale num den E).2 ≤ (scale num den E).1 * 2)
    have hmin : minExponent ≤ E := he' ▸ le_max_left _ _
    calc (2 : ℚ) ^ (-1075 : Int) ≤ 2 ^ (E - 1) := by
          apply zpow_le_zpow_right₀ one_le_two
          simp only [minExponent] at hmin
          omega
      _ = 1 / 2 * 2 ^ E := by rw [zpow_sub_one₀ two_ne_zero]; ring
      _ ≤ (num : ℚ) / den := by rwa [le_div_iff₀ hpow] at hquot
  · have hle : e' ≤ E := he' ▸ le_max_right _ _
    have hmax : E ≤ 971 := hrange.2
    calc (num : ℚ) / den < 2 ^ (53 : Int) * 2 ^ e' := hfills.2
      _ = 2 ^ (53 + e') := (zpow_add₀ two_ne_zero _ _).symm
      _ ≤ 2 ^ (1024 : Int) := by
          apply zpow_le_zpow_right₀ one_le_two
          omega

end Canonical

end TreeQuote.Double
