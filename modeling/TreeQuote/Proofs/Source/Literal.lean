/-
TreeQuote/Proofs/Source/Literal.lean

The numbers of a source.  A number starts with a digit, so none of the words for the infinite and
the undefined number is read, and the double that is read comes from rounding.

Main statement: `Literal.parseNumber?_canonical`.
-/
import TreeQuote.Proofs.Number.Shortest
import TreeQuote.Source.Literal

namespace TreeQuote

namespace Decimal

/-- A number that starts with a digit reads as a canonical double. -/
theorem readUnsigned?_canonical {c : CodePoint} {t : Text} {x : Double} (hc : c.isDigit = true)
    (h : readUnsigned? false (c :: t) = some x) : x.Canonical := by
  have hval : 0x30 ≤ c.val ∧ c.val ≤ 0x39 := by
    simpa [CodePoint.isDigit, CodePoint.inRange] using hc
  have hlower : Text.lower (c :: t) = c :: Text.lower t := by
    have hcapital : ¬ (0x41 ≤ c.val ∧ c.val ≤ 0x5A) := by omega
    have hkelvin : ¬ c.val = 0x212A := by omega
    simp only [Text.lower, List.map_cons, dif_neg hcapital, if_neg hkelvin]
  have hword : ∀ {d : Char} {w : Text}, 0x3A ≤ d.toNat → Text.lower (c :: t) ≠ CodePoint.ofChar d :: w := by
    intro d w hd he
    rw [hlower] at he
    have hcd : c.val = d.toNat := congrArg Fin.val (List.cons.inj he).1
    omega
  have hinf : Text.lower (c :: t) ≠ Text.of "inf" := hword (d := 'i') (by decide)
  have hinfinity : Text.lower (c :: t) ≠ Text.of "infinity" := hword (d := 'i') (by decide)
  have hnan : Text.lower (c :: t) ≠ Text.of "nan" := hword (d := 'n') (by decide)
  simp only [readUnsigned?, hinf, hinfinity, hnan, decide_false, Bool.or_false, Bool.false_eq_true,
    if_false, Option.bind_eq_bind, Option.bind_eq_some_iff] at h
  obtain ⟨u, -, parts, -, hx⟩ := h
  cases hx
  exact Double.ofDecimal_canonical _ _ _

theorem readDouble?_canonical {c : CodePoint} {t : Text} {x : Double} (hc : c.isDigit = true)
    (h : readDouble? (c :: t) = some x) : x.Canonical := by
  have hval : 0x30 ≤ c.val ∧ c.val ≤ 0x39 := by
    simpa [CodePoint.isDigit, CodePoint.inRange] using hc
  have hpadding : c.isPadding = false := by
    have hblank : c.isBlank = false := by
      simp only [CodePoint.isBlank, CodePoint.blankRanges, List.any_cons, List.any_nil,
        CodePoint.inRange, Bool.or_false, Bool.or_eq_false_iff, Bool.and_eq_false_iff,
        decide_eq_false_iff_not]
      omega
    rw [CodePoint.isPadding, hblank, Bool.false_and]
  have htrim : ∃ u, Text.trim CodePoint.isPadding (c :: t) = c :: u := by
    rw [Text.trim, List.dropWhile_cons_of_neg (by simp [hpadding]), Text.trimRight,
      List.reverse_cons, List.dropWhile_append]
    split
    · exact ⟨[], by simp [hpadding]⟩
    · exact ⟨(t.reverse.dropWhile CodePoint.isPadding).reverse, by simp⟩
  obtain ⟨u, hu⟩ := htrim
  have hplain : Text.plainDigits (c :: u) = c :: Text.plainDigits u := by
    have hdigit : CodePoint.hexDigit (c.val - 0x30) = c := by
      apply Fin.ext
      have hmod : (c.val - 0x30) % 16 = c.val - 0x30 := by omega
      simp only [CodePoint.hexDigit, hmod]
      rw [if_pos (by omega)]
      simp only
      omega
    simp only [Text.plainDigits, List.map_cons, CodePoint.decimalValue?, hc, if_true, hdigit]
  have hminus : c ≠ CodePoint.ofChar '-' := by rintro rfl; revert hc; decide
  have hplus : c ≠ CodePoint.ofChar '+' := by rintro rfl; revert hc; decide
  simp only [readDouble?, hu, hplain, hminus, hplus, if_false] at h
  exact readUnsigned?_canonical hc h

end Decimal

namespace Literal

/-- A number that starts with a digit is canonical. -/
theorem parseNumber?_canonical {c : CodePoint} {t : Text} {x : Double} (hc : c.isDigit = true)
    (h : parseNumber? (c :: t) = some (.float x)) : x.Canonical := by
  have hint : ∀ {base : Nat} {d : Text}, (Integer.read? base d).map Scalar.int ≠ some (.float x) := by
    intro base d hd
    obtain ⟨n, -, hn⟩ := Option.map_eq_some_iff.1 hd
    cases hn
  have hfilter : (c :: t).filter (fun c => c ≠ CodePoint.ofChar '_')
      = c :: t.filter fun c => c ≠ CodePoint.ofChar '_' := by
    rw [List.filter_cons_of_pos]
    have hne : c ≠ CodePoint.ofChar '_' := by rintro rfl; revert hc; decide
    simpa using hne
  have hplain : ∀ {lowered : Text}, parseNumber?.plain
      (c :: t.filter fun c => c ≠ CodePoint.ofChar '_') lowered = some (.float x) → x.Canonical := by
    intro lowered hd
    unfold parseNumber?.plain at hd
    split at hd
    · obtain ⟨y, hy, hx⟩ := Option.map_eq_some_iff.1 hd
      cases hx
      exact Decimal.readDouble?_canonical hc hy
    · exact (hint hd).elim
  unfold parseNumber? at h
  simp only [hfilter] at h
  split at h
  · split at h
    · exact (hint h).elim
    · split at h
      · exact (hint h).elim
      · exact hplain h
  · exact hplain h

end Literal
end TreeQuote
