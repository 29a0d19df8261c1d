/-
TreeQuote/Proofs/Number/Numeral.lean

Numbers as they are written.  A `Numeral` is an unsigned number in its parts: digits, a
fraction behind a point, and an exponent; `Numeral.text` puts them together.  The text of a
double other than zero is one, with a sign in front, whatever layout was chosen for it; its
digits and its exponent denote the shortest digits of the double.

Main statements: `Double.layout_numeral` and `Double.text_numeral`.
-/
import TreeQuote.Proofs.Number.Shortest
import TreeQuote.Proofs.Text.Digit

namespace TreeQuote

/-! ### Digits -/

/-- The text has decimal digits only. -/
def Text.IsDigits (t : Text) : Prop := ∀ c ∈ t, CodePoint.isDigit c = true

namespace Text.IsDigits

theorem append {s t : Text} (hs : s.IsDigits) (ht : t.IsDigits) : IsDigits (s ++ t) := by
  intro c hc
  rcases List.mem_append.mp hc with h | h
  · exact hs c h
  · exact ht c h

theorem of_sublist {s t : Text} (h : s.Sublist t) (ht : t.IsDigits) : s.IsDigits :=
  fun c hc => ht c (h.subset hc)

theorem decimal (n : Nat) : IsDigits (Text.decimal n) := fun _ hc => Text.mem_decimal hc

theorem replicate_zero (n : Nat) : IsDigits (List.replicate n (CodePoint.ofChar '0')) := by
  intro c hc
  rw [List.eq_of_mem_replicate hc]
  rfl

end Text.IsDigits

theorem Text.copies_zero (n : Nat) :
    Text.copies n (Text.of "0") = List.replicate n (CodePoint.ofChar '0') := by
  induction n with
  | zero => rfl
  | succ n ih => rw [Text.copies, ih, List.replicate_succ]; rfl

namespace Constant

theorem number_append (base : Nat) (s t : Text) :
    number base (s ++ t) = number base s * base ^ t.length + number base t := by
  induction t using List.reverseRecOn with
  | nil => simp [number, Integer.ofDigits]
  | append_singleton t c ih =>
    rw [← List.append_assoc, number_append_singleton, ih, number_append_singleton,
      List.length_append, List.length_singleton, Nat.pow_succ]
    ring

theorem number_zeros (n : Nat) : number 10 (List.replicate n (CodePoint.ofChar '0')) = 0 := by
  induction n with
  | zero => rfl
  | succ n ih =>
    rw [List.replicate_succ', number_append_singleton, ih]
    rfl

/-- Zeros in front of digits do not count. -/
theorem number_zeros_append (n : Nat) (t : Text) :
    number 10 (List.replicate n (CodePoint.ofChar '0') ++ t) = number 10 t := by
  rw [number_append, number_zeros, Nat.zero_mul, Nat.zero_add]

end Constant

/-- A text is its trimmed form and zeros behind it. -/
theorem Text.trimRight_zeros (t : Text) :
    ∃ n, t = Text.trimRight (· = CodePoint.ofChar '0') t
      ++ List.replicate n (CodePoint.ofChar '0') := by
  have hzeros : ∀ c ∈ t.reverse.takeWhile (· = CodePoint.ofChar '0'), c = CodePoint.ofChar '0' := by
    intro c hc
    simpa using List.all_eq_true.mp (List.all_takeWhile (l := t.reverse)) c hc
  refine ⟨(t.reverse.takeWhile (· = CodePoint.ofChar '0')).length, ?_⟩
  have hsplit := List.takeWhile_append_dropWhile (p := (· = CodePoint.ofChar '0')) (l := t.reverse)
  rw [List.eq_replicate_of_mem hzeros] at hsplit
  have hreverse := congrArg List.reverse hsplit
  rw [List.reverse_append, List.reverse_replicate, List.reverse_reverse] at hreverse
  exact hreverse.symm

/-! ### Numerals -/

/-- An unsigned number as it is written. -/
structure Numeral where
  whole : Text
  fraction : Option Text
  exponent : Option Int

namespace Numeral

variable (n : Numeral)

/-- The point and the digits behind it. -/
def fractionText : Text :=
  match n.fraction with
  | some f => CodePoint.ofChar '.' :: f
  | none => []

/-- The mark of the exponent, its sign and its digits. -/
def exponentText : Text :=
  match n.exponent with
  | some x => CodePoint.ofChar 'e' :: Double.exponentText x
  | none => []

/-- The text of a number. -/
def text : Text := n.whole ++ n.fractionText ++ n.exponentText

/-- A digit stands in front of the point, and only digits stand on both sides of it. -/
structure Digits : Prop where
  whole_ne_nil : n.whole ≠ []
  whole : n.whole.IsDigits
  fraction : ∀ f ∈ n.fraction, f.IsDigits

/-- Not an integer. -/
def isDecimal : Bool := n.fraction.isSome || n.exponent.isSome

/-- The digits on both sides of the point. -/
def digits : Nat := Constant.number 10 (n.whole ++ n.fraction.getD [])

/-- The power of ten that the digits are scaled by. -/
def power : Int := n.exponent.getD 0 - (n.fraction.getD []).length

end Numeral

/-- The number denotes the digits `ds` with the point after the first `point` of them. -/
structure Numeral.Denotes (n : Numeral) (ds : Text) (point : Int) : Prop where
  digits : n.Digits
  decimal : n.isDecimal = true
  shift : ∃ z : Nat, n.digits = Constant.number 10 ds * 10 ^ z ∧ n.power + z = point - ds.length
  low : -1100 ≤ point - ds.length → -1100 ≤ n.power

theorem Numeral.Denotes.value {n : Numeral} {ds : Text} {point : Int} (h : n.Denotes ds point) :
    (n.digits : ℚ) * 10 ^ n.power = (Constant.number 10 ds : ℚ) * 10 ^ (point - ds.length) := by
  obtain ⟨z, hdigits, hpower⟩ := h.shift
  rw [hdigits, ← hpower, zpow_add₀ (by norm_num), zpow_natCast]
  push_cast
  ring

namespace Double

/-! ### Layouts -/

section Layout

variable {ds : Text} (hne : ds ≠ []) (hds : ds.IsDigits)

include hds in
/-- All digits behind the point, with zeros in front of them. -/
theorem denotes_fraction (k : Nat) :
    Numeral.Denotes ⟨Text.of "0", some (List.replicate k (CodePoint.ofChar '0') ++ ds), none⟩ ds
      (-k) := by
  have hzero : Text.of "0" = List.replicate 1 (CodePoint.ofChar '0') := rfl
  have hpower : Numeral.power ⟨Text.of "0",
      some (List.replicate k (CodePoint.ofChar '0') ++ ds), none⟩ = -k - ds.length := by
    simp only [Numeral.power, Option.getD_none, Option.getD_some, List.length_append,
      List.length_replicate]
    omega
  refine ⟨⟨by simp [hzero], hzero ▸ Text.IsDigits.replicate_zero 1, ?_⟩, rfl, ⟨0, ?_, ?_⟩, ?_⟩
  · rintro f ⟨⟩
    exact (Text.IsDigits.replicate_zero k).append hds
  · rw [Numeral.digits, Option.getD_some, hzero, Constant.number_zeros_append,
      Constant.number_zeros_append, Nat.pow_zero, Nat.mul_one]
  · rw [hpower]
    omega
  · rw [hpower]
    exact id

include hne hds in
/-- All digits in front of the point, with zeros behind them. -/
theorem denotes_padded (z : Nat) :
    Numeral.Denotes ⟨ds ++ List.replicate z (CodePoint.ofChar '0'), some (Text.of "0"), none⟩ ds
      (ds.length + z) := by
  have hzero : Text.of "0" = List.replicate 1 (CodePoint.ofChar '0') := rfl
  have hpower : Numeral.power ⟨ds ++ List.replicate z (CodePoint.ofChar '0'),
      some (Text.of "0"), none⟩ = -1 := rfl
  refine ⟨⟨by simp [hne], hds.append (Text.IsDigits.replicate_zero z), ?_⟩, rfl, ⟨z + 1, ?_, ?_⟩, ?_⟩
  · rintro f ⟨⟩
    exact hzero ▸ Text.IsDigits.replicate_zero 1
  · rw [Numeral.digits, Option.getD_some, hzero, List.append_assoc,
      List.replicate_append_replicate, Constant.number_append, Constant.number_zeros,
      List.length_replicate, Nat.add_zero]
  · rw [hpower]
    push_cast
    omega
  · intro _
    rw [hpower]
    decide

include hds in
/-- The point among the digits. -/
theorem denotes_split {k : Nat} (hk : 0 < k) (hlt : k < ds.length) :
    Numeral.Denotes ⟨ds.take k, some (ds.drop k), none⟩ ds k := by
  have hpower : Numeral.power ⟨ds.take k, some (ds.drop k), none⟩ = k - ds.length := by
    simp only [Numeral.power, Option.getD_none, Option.getD_some, List.length_drop]
    omega
  refine ⟨⟨?_, .of_sublist (List.take_sublist k ds) hds, ?_⟩, rfl, ⟨0, ?_, ?_⟩, ?_⟩
  · intro h
    have hlen := congrArg List.length h
    rw [List.length_take, List.length_nil] at hlen
    omega
  · rintro f ⟨⟩
    exact .of_sublist (List.drop_sublist k ds) hds
  · rw [Numeral.digits, Option.getD_some, List.take_append_drop, Nat.pow_zero, Nat.mul_one]
  · rw [hpower]
    omega
  · rw [hpower]
    exact id

include hne hds in
/-- One digit in front of the point, and an exponent. -/
theorem denotes_scaled (point : Int) :
    Numeral.Denotes ⟨ds.take 1, if ds.length ≤ 1 then none else some (ds.drop 1), some (point - 1)⟩
      ds point := by
  have hlen : 0 < ds.length := List.length_pos_iff.mpr hne
  have hfraction : (if ds.length ≤ 1 then none else some (ds.drop 1) : Option Text).getD []
      = ds.drop 1 := by
    split
    · next h => rw [List.drop_eq_nil_of_le h, Option.getD_none]
    · rfl
  have hpower : Numeral.power ⟨ds.take 1,
      if ds.length ≤ 1 then none else some (ds.drop 1), some (point - 1)⟩ = point - ds.length := by
    simp only [Numeral.power, hfraction, Option.getD_some, List.length_drop]
    omega
  refine ⟨⟨?_, .of_sublist (List.take_sublist 1 ds) hds, ?_⟩, ?_, ⟨0, ?_, ?_⟩, ?_⟩
  · intro h
    have hlen' := congrArg List.length h
    rw [List.length_take, List.length_nil] at hlen'
    omega
  · intro f hf
    have hsome : (if ds.length ≤ 1 then none else some (ds.drop 1) : Option Text) = some f := hf
    have hf' : f = ds.drop 1 := by rw [← hfraction, hsome, Option.getD_some]
    exact hf' ▸ .of_sublist (List.drop_sublist 1 ds) hds
  · simp [Numeral.isDecimal]
  · rw [Numeral.digits, hfraction, List.take_append_drop, Nat.pow_zero, Nat.mul_one]
  · rw [hpower]
    omega
  · rw [hpower]
    exact id

include hne hds in
/-- The layout of digits is a number that denotes them. -/
theorem layout_numeral (point : Int) :
    ∃ n : Numeral, layout ds point = n.text ∧ n.Denotes ds point := by
  by_cases hrange : -4 < point ∧ point ≤ 16
  · unfold layout
    rw [if_pos hrange]
    rcases point with (_ | k) | k
    · refine ⟨_, ?_, denotes_fraction hds 0⟩
      show Text.of "0." ++ ds = _
      simp [Numeral.text, Numeral.fractionText, Numeral.exponentText, Text.of]
    · show ∃ n : Numeral, (if ds.length ≤ k + 1 then _ else _) = n.text ∧ _
      by_cases hlen : ds.length ≤ k + 1
      · have hpoint : (Int.ofNat (k + 1)) = ds.length + ((k + 1 - ds.length : Nat) : Int) := by
          rw [Int.ofNat_eq_natCast]
          omega
        rw [hpoint, if_pos hlen, Text.copies_zero]
        refine ⟨_, ?_, denotes_padded hne hds (k + 1 - ds.length)⟩
        simp [Numeral.text, Numeral.fractionText, Numeral.exponentText, Text.of]
      · rw [if_neg hlen]
        refine ⟨_, ?_, denotes_split hds (Nat.succ_pos k) (Nat.lt_of_not_le hlen)⟩
        simp [Numeral.text, Numeral.fractionText, Numeral.exponentText, Text.of]
    · refine ⟨_, ?_, denotes_fraction hds (k + 1)⟩
      show Text.of "0." ++ Text.copies (k + 1) (Text.of "0") ++ ds = _
      rw [Text.copies_zero]
      simp [Numeral.text, Numeral.fractionText, Numeral.exponentText, Text.of]
  · unfold layout
    rw [if_neg hrange]
    refine ⟨_, ?_, denotes_scaled hne hds point⟩
    by_cases hlen : ds.length ≤ 1
    · simp [Numeral.text, Numeral.fractionText, Numeral.exponentText, Text.of, hlen]
    · simp [Numeral.text, Numeral.fractionText, Numeral.exponentText, Text.of, hlen]

end Layout

/-! ### The text of a number -/

/-- Digits without the zeros behind them denote the same number. -/
theorem decimal_trimRight (d : Nat) (k : Int) : ∃ z : Nat,
    d = Constant.number 10 (Text.trimRight (· = CodePoint.ofChar '0') (Text.decimal d)) * 10 ^ z
      ∧ ((Text.decimal d).length : Int) + k
          - (Text.trimRight (· = CodePoint.ofChar '0') (Text.decimal d)).length = k + z := by
  obtain ⟨z, hz⟩ := Text.trimRight_zeros (Text.decimal d)
  refine ⟨z, ?_, ?_⟩
  · conv_lhs => rw [← Constant.number_decimal d, hz, Constant.number_append, Constant.number_zeros,
      List.length_replicate, Nat.add_zero]
  · have hlen := congrArg List.length hz
    rw [List.length_append, List.length_replicate] at hlen
    omega

/-- The text of a finite number other than zero is a sign and a number that reads as it. -/
theorem text_numeral {negative : Bool} {m : Nat} {e : Int}
    (hc : (Double.finite negative m e).Canonical) (hm : 0 < m) :
    ∃ n : Numeral, (Double.finite negative m e).text = Text.of (if negative then "-" else "") ++ n.text
      ∧ n.Digits ∧ n.isDecimal = true ∧ ofDecimal false n.digits n.power = .finite false m e := by
  obtain ⟨hback, hlow⟩ := shortest_readsBack (m := m) (e := e) hc hm
  obtain ⟨z, hdigits, hpower⟩ := decimal_trimRight (shortest m e).1 (shortest m e).2
  set ds := Text.trimRight (· = CodePoint.ofChar '0') (Text.decimal (shortest m e).1) with hds
  have hne : ds ≠ [] := by
    intro hnil
    have hzero : (shortest m e).1 = 0 := by
      rw [hdigits, hnil]
      exact Nat.zero_mul _
    have hpos := (ofDecimal_finite hm hback).1
    omega
  have hisDigits : ds.IsDigits := by
    obtain ⟨z', hz'⟩ := Text.trimRight_zeros (Text.decimal (shortest m e).1)
    refine .of_sublist ?_ (.decimal (shortest m e).1)
    rw [hz']
    exact List.sublist_append_left ds _
  obtain ⟨n, htext, hn⟩ := layout_numeral hne hisDigits
    (((Text.decimal (shortest m e).1).length : Int) + (shortest m e).2)
  refine ⟨n, ?_, hn.digits, hn.decimal, ofDecimal_congr hm hback ?_ (hn.low (by omega))⟩
  · rw [text, if_neg hm.ne', ← htext]
  · rw [hn.value, hpower]
    conv_rhs => rw [hdigits]
    rw [zpow_add₀ (by norm_num), zpow_natCast]
    push_cast
    ring

end Double

end TreeQuote
