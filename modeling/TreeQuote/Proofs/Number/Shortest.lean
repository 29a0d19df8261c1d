/-
TreeQuote/Proofs/Number/Shortest.lean

The digits of a double read back as the double.  `Double.shortest` tries short digits first
and keeps only what reads back; its last resort is the exact expansion, which rounds to the
number because it has its value.

`Double.ofDecimal` gives up far beyond the range, by an estimate of the number of places.  The
estimate is never wrong about a value in range (`places_range`), so digits of one value read as
one number however the point is placed among them (`ofDecimal_congr`).

Main statements: `Double.shortest_readsBack` and `Double.ofDecimal_congr`.
-/
import TreeQuote.Number.Shortest
import TreeQuote.Proofs.Number.Rounding

namespace TreeQuote.Double

/-! ### The estimate of the number of places -/

/-- The estimate of the number of digits in front of the point. -/
def places (d : Nat) (k : Int) : Int := (Nat.log2 d * 30103 / 100000 : Nat) + k

/-- If `2 ^ a ≤ 10 ^ b`, then every power of two has at most its share of places. -/
theorem pow_two_le_share {a b : Nat} (ha : a ≠ 0) (hab : 2 ^ a ≤ 10 ^ b) (l : Nat) :
    2 ^ l ≤ 10 ^ (b * l / a + 1) := by
  have hexp : b * l ≤ (b * l / a + 1) * a := by
    rw [Nat.mul_comm _ a]
    exact (Nat.lt_mul_div_succ (b * l) (Nat.pos_of_ne_zero ha)).le
  refine (Nat.pow_le_pow_iff_left ha).mp ?_
  calc (2 ^ l) ^ a = (2 ^ a) ^ l := by rw [← Nat.pow_mul, ← Nat.pow_mul, Nat.mul_comm]
    _ ≤ (10 ^ b) ^ l := Nat.pow_le_pow_left hab l
    _ = 10 ^ (b * l) := (Nat.pow_mul 10 b l).symm
    _ ≤ 10 ^ ((b * l / a + 1) * a) := Nat.pow_le_pow_right (by decide) hexp
    _ = (10 ^ (b * l / a + 1)) ^ a := Nat.pow_mul 10 _ _

/-- If `10 ^ b ≤ 2 ^ a`, then every power of two has at least its share of places. -/
theorem share_le_pow_two {a b : Nat} (ha : a ≠ 0) (hab : 10 ^ b ≤ 2 ^ a) (l : Nat) :
    10 ^ (b * l / a) ≤ 2 ^ l := by
  refine (Nat.pow_le_pow_iff_left ha).mp ?_
  calc (10 ^ (b * l / a)) ^ a = 10 ^ (b * l / a * a) := (Nat.pow_mul 10 _ _).symm
    _ ≤ 10 ^ (b * l) := Nat.pow_le_pow_right (by decide) (Nat.div_mul_le_self _ _)
    _ = (10 ^ b) ^ l := Nat.pow_mul 10 b l
    _ ≤ (2 ^ a) ^ l := Nat.pow_le_pow_left hab l
    _ = (2 ^ l) ^ a := by rw [← Nat.pow_mul, ← Nat.pow_mul, Nat.mul_comm]

/-- The estimate is at most two too small for a power of two that is not enormous. -/
theorem pow_two_le {l : Nat} (h : l ≤ 10000) : 2 ^ l ≤ 10 ^ (l * 30103 / 100000 + 2) := by
  have hshare := pow_two_le_share (a := 93) (b := 28) (by decide) (by decide) l
  exact hshare.trans (Nat.pow_le_pow_right (by decide) (by omega))

/-- The estimate is at most two too large for a power of two that is not enormous. -/
theorem le_pow_two {l : Nat} (h : l ≤ 10000) : 10 ^ (l * 30103 / 100000) ≤ 100 * 2 ^ l := by
  have hshare := share_le_pow_two (a := 196) (b := 59) (by decide) (by decide) l
  calc 10 ^ (l * 30103 / 100000) ≤ 10 ^ (59 * l / 196 + 2) :=
        Nat.pow_le_pow_right (by decide) (by omega)
    _ = 100 * 10 ^ (59 * l / 196) := by rw [Nat.pow_add, Nat.mul_comm]
    _ ≤ 100 * 2 ^ l := Nat.mul_le_mul_left 100 hshare

/-- The value of digits in range. -/
structure InRange (q : ℚ) : Prop where
  low : (2 : ℚ) ^ (-1075 : Int) ≤ q
  high : q < 2 ^ (1024 : Int)

theorem log2_le_of_le {d a b : Nat} (hd : 0 < d) (h : d ≤ 2 ^ a * 10 ^ b) :
    Nat.log2 d ≤ a + 4 * b := by
  refine Nat.le_of_lt_succ ((Nat.log2_lt hd.ne').mpr ?_)
  calc d ≤ 2 ^ a * 10 ^ b := h
    _ ≤ 2 ^ a * (2 ^ 4) ^ b := Nat.mul_le_mul_left _ (Nat.pow_le_pow_left (by decide) b)
    _ = 2 ^ (a + 4 * b) := by rw [← Nat.pow_mul, ← Nat.pow_add]
    _ < 2 ^ (a + 4 * b + 1) := Nat.pow_lt_pow_right (by decide) (Nat.lt_succ_self _)

theorem log2_le_of_inRange {d : Nat} {k : Int} (hd : 0 < d) (hk : -1100 ≤ k)
    (h : InRange ((d : ℚ) * 10 ^ k)) : Nat.log2 d < 10000 := by
  have hle : (d : ℚ) ≤ 2 ^ (1024 : Int) * 10 ^ (1100 : Int) := by
    have hten : (0 : ℚ) < 10 ^ k := by positivity
    have hcancel : (d : ℚ) = d * 10 ^ k * 10 ^ (-k) := by
      rw [mul_assoc, ← zpow_add₀ (by norm_num), add_neg_cancel, zpow_zero, mul_one]
    rw [hcancel]
    exact mul_le_mul h.high.le (zpow_le_zpow_right₀ (by norm_num) (by omega)) (by positivity)
      (by positivity)
  have hnat : d ≤ 2 ^ 1024 * 10 ^ 1100 := by exact_mod_cast hle
  have hlog := log2_le_of_le hd hnat
  omega

/-- The bounds of the range in powers of ten. -/
theorem range_ten : (10 : ℚ) ^ (-332 : Int) ≤ 2 ^ (-1075 : Int)
    ∧ (2 : ℚ) ^ (1024 : Int) ≤ 10 ^ (316 : Int) := by
  have hpow : ∀ n : Nat, (2 : ℚ) ^ (13 * n : Int) ≤ 10 ^ (4 * n : Int) := by
    intro n
    rw [zpow_mul, zpow_mul, zpow_natCast, zpow_natCast]
    exact pow_le_pow_left₀ (by positivity) (by norm_num) n
  constructor
  · rw [zpow_neg, zpow_neg]
    apply inv_anti₀ (by positivity)
    calc (2 : ℚ) ^ (1075 : Int) ≤ 2 ^ (13 * (83 : Nat) : Int) :=
          zpow_le_zpow_right₀ one_le_two (by decide)
      _ ≤ 10 ^ (4 * (83 : Nat) : Int) := hpow 83
      _ ≤ 10 ^ (332 : Int) := zpow_le_zpow_right₀ (by norm_num) (by decide)
  · calc (2 : ℚ) ^ (1024 : Int) ≤ 2 ^ (13 * (79 : Nat) : Int) :=
          zpow_le_zpow_right₀ one_le_two (by decide)
      _ ≤ 10 ^ (4 * (79 : Nat) : Int) := hpow 79
      _ ≤ 10 ^ (316 : Int) := zpow_le_zpow_right₀ (by norm_num) (by decide)

/-- Digits of a value in range are not beyond the guards. -/
theorem places_range {d : Nat} {k : Int} (hd : 0 < d) (hk : -1100 ≤ k)
    (h : InRange ((d : ℚ) * 10 ^ k)) : -340 ≤ places d k ∧ places d k ≤ 320 := by
  have hl := log2_le_of_inRange hd hk h
  set x := Nat.log2 d * 30103 / 100000 with hx
  have hten : (0 : ℚ) < 10 ^ k := by positivity
  have hplaces : places d k = (x : Int) + k := rfl
  rw [hplaces]
  constructor
  · -- The value is below ten to the estimate and three more places.
    have hup : (d : ℚ) < 10 ^ (x + 3) := by
      have hlog : d < 2 ^ (Nat.log2 d + 1) := Nat.lt_log2_self
      have hpow : 2 ^ (Nat.log2 d + 1) ≤ 10 ^ (x + 3) := by
        have h1 := pow_two_le hl.le
        rw [← hx] at h1
        rw [Nat.pow_succ, Nat.pow_succ 10 (x + 2)]
        omega
      exact_mod_cast Nat.lt_of_lt_of_le hlog hpow
    have hlt : (10 : ℚ) ^ (-332 : Int) < 10 ^ ((x : Int) + 3 + k) := by
      calc (10 : ℚ) ^ (-332 : Int) ≤ 2 ^ (-1075 : Int) := range_ten.1
        _ ≤ d * 10 ^ k := h.low
        _ < 10 ^ (x + 3) * 10 ^ k := by gcongr
        _ = 10 ^ ((x : Int) + 3 + k) := by
            rw [zpow_add₀ (by norm_num) ((x : Int) + 3) k]
            norm_cast
    have h2 := (zpow_lt_zpow_iff_right₀ (by norm_num)).mp hlt
    omega
  · -- The value is at least ten to the estimate less two places.
    have hlow : (10 : ℚ) ^ x ≤ 100 * d := by
      have hlog : 2 ^ Nat.log2 d ≤ d := Nat.log2_self_le hd.ne'
      have hpow := le_pow_two hl.le
      exact_mod_cast hpow.trans (Nat.mul_le_mul_left 100 hlog)
    have hlt : (10 : ℚ) ^ ((x : Int) + k) < 10 ^ (318 : Int) := by
      calc (10 : ℚ) ^ ((x : Int) + k) = 10 ^ x * 10 ^ k := by
            rw [zpow_add₀ (by norm_num), zpow_natCast]
        _ ≤ 100 * d * 10 ^ k := by gcongr
        _ = 100 * (d * 10 ^ k) := by ring
        _ < 100 * 10 ^ (316 : Int) := by
            have hhigh := h.high.trans_le range_ten.2
            gcongr
        _ = 10 ^ (318 : Int) := by
            rw [show (318 : Int) = 2 + 316 by norm_num, zpow_add₀ (by norm_num)]
            norm_num
    have h2 := (zpow_lt_zpow_iff_right₀ (by norm_num)).mp hlt
    omega

/-! ### Decimal digits -/

/-- The fraction `d * 10 ^ k`. -/
def decimalFraction (d : Nat) (k : Int) : Nat × Nat :=
  match k with
  | .ofNat k => (d * Nat.pow 10 k, 1)
  | .negSucc k => (d, Nat.pow 10 (k + 1))

theorem decimalFraction_pos (d : Nat) (k : Int) : 0 < (decimalFraction d k).2 := by
  cases k with
  | ofNat k => exact Nat.one_pos
  | negSucc k => exact Nat.pow_pos (by decide)

theorem decimalFraction_value (d : Nat) (k : Int) :
    ((decimalFraction d k).1 : ℚ) / (decimalFraction d k).2 = d * 10 ^ k := by
  cases k with
  | ofNat k =>
    show ((d * 10 ^ k : Nat) : ℚ) / ((1 : Nat) : ℚ) = d * 10 ^ (Int.ofNat k)
    rw [Int.ofNat_eq_natCast, zpow_natCast]
    push_cast
    rw [div_one]
  | negSucc k =>
    show (d : ℚ) / ((10 ^ (k + 1) : Nat) : ℚ) = d * 10 ^ (Int.negSucc k)
    rw [zpow_negSucc, div_eq_mul_inv]
    push_cast
    rfl

/-- Within the guards, reading digits is rounding their value. -/
theorem ofDecimal_eq_round {d : Nat} {k : Int} (negative : Bool) (hd : 0 < d)
    (h : -340 ≤ places d k ∧ places d k ≤ 320) :
    ofDecimal negative d k = round negative (decimalFraction d k).1 (decimalFraction d k).2 := by
  have hhigh : ¬ 320 < ((Nat.log2 d * 30103 / 100000 : Nat) : Int) + k := not_lt.mpr h.2
  have hlow : ¬ ((Nat.log2 d * 30103 / 100000 : Nat) : Int) + k < -340 := not_lt.mpr h.1
  unfold ofDecimal
  simp only [hd.ne', if_false, hhigh, hlow]
  cases k <;> rfl

/-- Reading digits gives a canonical number. -/
theorem ofDecimal_canonical (negative : Bool) (d : Nat) (k : Int) :
    (ofDecimal negative d k).Canonical := by
  unfold ofDecimal
  split
  · exact zero_canonical negative
  · simp only
    split
    · trivial
    · split
      · exact zero_canonical negative
      · cases k with
        | ofNat k => exact round_canonical negative Nat.one_pos
        | negSucc k => exact round_canonical negative (Nat.pow_pos (by decide))

section Finite

variable {m : Nat} {e : Int} {d : Nat} {k : Int}

/-- Digits that read as a finite number other than zero are in range, and round to it. -/
theorem ofDecimal_finite (hm : 0 < m) (h : ofDecimal false d k = .finite false m e) :
    0 < d ∧ InRange ((d : ℚ) * 10 ^ k)
      ∧ round false (decimalFraction d k).1 (decimalFraction d k).2 = .finite false m e := by
  have hd : 0 < d := by
    rcases Nat.eq_zero_or_pos d with rfl | hd
    · rw [ofDecimal.eq_def, if_pos rfl, zero, Double.finite.injEq] at h
      omega
    · exact hd
  have hguards : -340 ≤ places d k ∧ places d k ≤ 320 := by
    by_contra hout
    unfold ofDecimal at h
    simp only [hd.ne', if_false] at h
    split at h
    · cases h
    · next hhigh =>
      split at h
      · rw [zero, Double.finite.injEq] at h
        omega
      · next hlow => exact hout ⟨not_lt.mp hlow, not_lt.mp hhigh⟩
  rw [ofDecimal_eq_round false hd hguards] at h
  obtain ⟨hlow, hhigh⟩ := round_bounds hm (decimalFraction_pos d k) h
  rw [decimalFraction_value] at hlow hhigh
  exact ⟨hd, ⟨hlow, hhigh⟩, h⟩

/-- Digits of one value read as one number. -/
theorem ofDecimal_congr {d' : Nat} {k' : Int} (hm : 0 < m)
    (h : ofDecimal false d k = .finite false m e) (hvalue : (d' : ℚ) * 10 ^ k' = d * 10 ^ k)
    (hk' : -1100 ≤ k') : ofDecimal false d' k' = .finite false m e := by
  obtain ⟨hd, hrange, hround⟩ := ofDecimal_finite hm h
  have hd' : 0 < d' := by
    have hpos : (0 : ℚ) < d' * 10 ^ k' := by
      rw [hvalue]
      positivity
    exact_mod_cast (pos_iff_pos_of_mul_pos hpos).mpr (by positivity)
  have hguards := places_range hd' hk' (hvalue ▸ hrange)
  rw [ofDecimal_eq_round false hd' hguards, ← hround]
  apply round_congr (decimalFraction_pos d' k') (decimalFraction_pos d k)
  have hq : ((decimalFraction d' k').1 : ℚ) / (decimalFraction d' k').2
      = ((decimalFraction d k).1 : ℚ) / (decimalFraction d k).2 := by
    rw [decimalFraction_value, decimalFraction_value, hvalue]
  have hne : ((decimalFraction d' k').2 : ℚ) ≠ 0 := by exact_mod_cast (decimalFraction_pos d' k').ne'
  have hne' : ((decimalFraction d k).2 : ℚ) ≠ 0 := by exact_mod_cast (decimalFraction_pos d k).ne'
  rw [div_eq_div_iff hne hne'] at hq
  exact_mod_cast hq

/-- A canonical number is in range. -/
theorem inRange_canonical (hc : (Double.finite false m e).Canonical) (hm : 0 < m) :
    InRange ((m : ℚ) * 2 ^ e) := by
  obtain ⟨hlt, hmin, hmax, -⟩ := hc
  have hm1 : (1 : ℚ) ≤ m := by exact_mod_cast hm
  have hm2 : (m : ℚ) < 2 ^ (53 : Int) := by exact_mod_cast hlt
  simp only [minExponent, maxExponent] at hmin hmax
  constructor
  · calc (2 : ℚ) ^ (-1075 : Int) ≤ 2 ^ e := zpow_le_zpow_right₀ one_le_two (by omega)
      _ = 1 * 2 ^ e := (one_mul _).symm
      _ ≤ m * 2 ^ e := by gcongr
  · calc (m : ℚ) * 2 ^ e < 2 ^ (53 : Int) * 2 ^ e := by gcongr
      _ = 2 ^ (53 + e) := (zpow_add₀ two_ne_zero _ _).symm
      _ ≤ 2 ^ (1024 : Int) := zpow_le_zpow_right₀ one_le_two (by omega)

/-- Digits with the value of a canonical number read as it. -/
theorem ofDecimal_exact (hc : (Double.finite false m e).Canonical) (hm : 0 < m)
    (hvalue : (d : ℚ) * 10 ^ k = m * 2 ^ e) (hk : -1100 ≤ k) :
    ofDecimal false d k = .finite false m e := by
  have hrange := inRange_canonical hc hm
  have hd : 0 < d := by
    have hpos : (0 : ℚ) < d * 10 ^ k := by
      rw [hvalue]
      positivity
    exact_mod_cast (pos_iff_pos_of_mul_pos hpos).mpr (by positivity)
  rw [ofDecimal_eq_round false hd (places_range hd hk (hvalue ▸ hrange))]
  apply round_exact hc hm (decimalFraction_pos d k)
  rw [decimalFraction_value, hvalue]

end Finite

/-! ### The digits of a number -/

section Shortest

variable {m : Nat} {e : Int}

/-- The estimate of the magnitude is near the one that the lengths give. -/
theorem magnitude_ge (num den : Nat) :
    Int.fdiv (((Nat.log2 num : Int) - Nat.log2 den) * 30103) 100000 - 1 ≤ magnitude num den := by
  simp only [magnitude]
  generalize Int.fdiv (((Nat.log2 num : Int) - Nat.log2 den) * 30103) 100000 = guess
  cases h : [guess - 1, guess, guess + 1].find? (belowTen num den) with
  | none =>
    rw [Option.getD_none]
    omega
  | some p =>
    have hmem := List.mem_of_find?_eq_some h
    simp only [List.mem_cons, List.not_mem_nil, or_false] at hmem
    rw [Option.getD_some]
    omega

/-- No number is so small that its digits have more than a thousand places. -/
theorem magnitude_fraction_ge (m : Nat) (he : minExponent ≤ e) :
    -325 ≤ magnitude (fraction m e).1 (fraction m e).2 := by
  have hmag := magnitude_ge (fraction m e).1 (fraction m e).2
  have hlog : -1074 ≤ (Nat.log2 (fraction m e).1 : Int) - Nat.log2 (fraction m e).2 := by
    cases e with
    | ofNat k =>
      have hden : Nat.log2 (fraction m (.ofNat k)).2 = 0 := rfl
      rw [hden]
      omega
    | negSucc k =>
      have hden : Nat.log2 (fraction m (.negSucc k)).2 = k + 1 := Nat.log2_two_pow
      rw [hden]
      simp only [minExponent] at he
      omega
  have hdiv : -324 ≤ Int.fdiv (((Nat.log2 (fraction m e).1 : Int) - Nat.log2 (fraction m e).2) * 30103)
      100000 := by
    rw [Int.fdiv_eq_ediv_of_nonneg _ (by decide)]
    omega
  omega

theorem gridNeighbour?_readsBack {d : Nat} {k : Int} (h : gridNeighbour? m e k = some d) :
    ofDecimal false d k = .finite false m e := by
  simp only [gridNeighbour?] at h
  have hfound := List.find?_some h
  simpa only [readsBack, decide_eq_true_eq] using hfound

/-- The exact expansion of a number. -/
def expansion (m : Nat) (e : Int) : Nat × Int :=
  match e with
  | .ofNat j => (m * Nat.pow 2 j, 0)
  | .negSucc j => (m * Nat.pow 5 (j + 1), .negSucc j)

/-- The digits are found on one of seventeen grids, or they are the exact expansion. -/
theorem shortest_cases (m : Nat) (e : Int) :
    (∃ d k, shortest m e = (d, k) ∧ gridNeighbour? m e k = some d
      ∧ magnitude (fraction m e).1 (fraction m e).2 - 17 ≤ k) ∨ shortest m e = expansion m e := by
  unfold shortest
  generalize fraction m e = q
  obtain ⟨num, den⟩ := q
  simp only
  generalize magnitude num den = p
  cases h : ((List.range 17).map fun (i : Nat) => p - ((i : Int) + 1)).findSome?
      fun k => (gridNeighbour? m e k).map (·, k) with
  | none =>
    right
    cases e <;> rfl
  | some r =>
    obtain ⟨k, hk, hr⟩ := List.exists_of_findSome?_eq_some h
    obtain ⟨d, hd, rfl⟩ := Option.map_eq_some_iff.mp hr
    obtain ⟨i, hi, rfl⟩ := List.mem_map.mp hk
    rw [List.mem_range] at hi
    exact .inl ⟨d, p - ((i : Int) + 1), rfl, hd, by omega⟩

/-- The expansion has the value of the number. -/
theorem expansion_value (m : Nat) (e : Int) :
    ((expansion m e).1 : ℚ) * 10 ^ (expansion m e).2 = m * 2 ^ e := by
  cases e with
  | ofNat j =>
    show ((m * 2 ^ j : Nat) : ℚ) * 10 ^ (0 : Int) = m * 2 ^ (Int.ofNat j)
    rw [zpow_zero, mul_one, Int.ofNat_eq_natCast, zpow_natCast]
    push_cast
    rfl
  | negSucc j =>
    show ((m * 5 ^ (j + 1) : Nat) : ℚ) * 10 ^ (Int.negSucc j) = m * 2 ^ (Int.negSucc j)
    rw [zpow_negSucc, zpow_negSucc, show (10 : ℚ) = 5 * 2 by norm_num, mul_pow]
    push_cast
    field_simp

/-- The shortest digits read back, and do not reach further behind the point than the least
number. -/
theorem shortest_readsBack (hc : (Double.finite false m e).Canonical) (hm : 0 < m) :
    ofDecimal false (shortest m e).1 (shortest m e).2 = .finite false m e
      ∧ -1100 ≤ (shortest m e).2 := by
  rcases shortest_cases m e with ⟨d, k, heq, hd, hk⟩ | heq
  · have hmag := magnitude_fraction_ge m hc.2.1
    rw [heq]
    exact ⟨gridNeighbour?_readsBack hd, by show -1100 ≤ k; omega⟩
  · have hk : -1100 ≤ (expansion m e).2 := by
      have hmin := hc.2.1
      cases e with
      | ofNat j => exact (by decide : (-1100 : Int) ≤ 0)
      | negSucc j =>
        show (-1100 : Int) ≤ Int.negSucc j
        simp only [minExponent] at hmin
        omega
    rw [heq]
    exact ⟨ofDecimal_exact hc hm (expansion_value m e) hk, hk⟩

end Shortest

end TreeQuote.Double
