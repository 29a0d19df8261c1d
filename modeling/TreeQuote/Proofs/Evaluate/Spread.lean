/-
TreeQuote/Proofs/Evaluate/Spread.lean

What the literal of any text stands for.  A text with a surrogate is escaped throughout, and a code
point beyond `0xFFFF` is then written as the escapes of its two surrogates.  So the literal is also
that of the text where each such code point is spread over two (`Text.spread`), and this text is
unmixed:

    literalText t = literalText t.spread        read (literalText t) = t.spread

A literal is therefore faithful exactly if the text does not mix the two.

Main statement: `Evaluate.eval_scalarText`.
-/
import TreeQuote.Proofs.Evaluate.Call

namespace TreeQuote

/-! ### Surrogate pairs -/

namespace CodePoint

/-- The code points that the escapes of a code point name: the code point itself, or the two
surrogates of one beyond `0xFFFF`. -/
def units (c : CodePoint) : Text :=
  if c.val < 0x10000 then [c]
  else [⟨0xD800 + (c.val - 0x10000) / 0x400, by omega⟩,
    ⟨0xDC00 + (c.val - 0x10000) % 0x400, by omega⟩]

variable {c d : CodePoint}

theorem units_of_lt (h : c.val < 0x10000) : c.units = [c] := if_pos h

/-- A unit is no greater than `0xFFFF`, and a new one is a surrogate. -/
theorem mem_units (h : d ∈ c.units) :
    d.val < 0x10000 ∧ (c.val < 0x10000 ∧ d = c ∨ 0x10000 ≤ c.val ∧ isSurrogate d = true) := by
  have hlt := c.isLt
  unfold units at h
  split at h
  · next hc =>
    obtain rfl := List.mem_singleton.mp h
    exact ⟨hc, .inl ⟨hc, rfl⟩⟩
  · next hc =>
    simp only [List.mem_cons, List.not_mem_nil, or_false] at h
    rcases h with rfl | rfl
    · simp only [isSurrogate, inRange, Bool.and_eq_true, decide_eq_true_eq]
      omega
    · simp only [isSurrogate, inRange, Bool.and_eq_true, decide_eq_true_eq]
      omega

/-- The escapes of a code point are those of its units. -/
theorem doubleQuotedPoint_units (c : CodePoint) :
    c.units.flatMap (Text.doubleQuotedPoint .ascii) = Text.doubleQuotedPoint .ascii c := by
  -- What is beyond ASCII is always written by its number.
  have hwide : ∀ {d : CodePoint}, 0x7E < d.val →
      Text.doubleQuotedPoint .ascii d = Text.unitEscapes d := by
    intro d hd
    have hne : ∀ {m : Char}, m.toNat ≤ 0x7E → d ≠ CodePoint.ofChar m := by
      rintro m hm rfl
      exact absurd hd (Nat.not_lt.mpr hm)
    rw [Text.doubleQuotedPoint, if_neg (hne (by decide)), if_neg (hne (by decide)),
      if_neg (hne (by decide)), if_neg (hne (by decide)), if_neg (hne (by decide)),
      if_neg (by omega), if_neg (by omega), if_neg (by omega), if_pos (by simpa using hd)]
  by_cases hc : c.val < 0x10000
  · rw [units_of_lt hc, List.flatMap_singleton]
  · have hlt := c.isLt
    have hhigh : 0xD800 + (c.val - 0x10000) / 0x400 < 0x10000 := by omega
    have hlow : 0xDC00 + (c.val - 0x10000) % 0x400 < 0x10000 := by omega
    rw [units, if_neg hc, List.flatMap_cons, List.flatMap_singleton, hwide (by simp only; omega),
      hwide (by simp only; omega), hwide (by omega), Text.unitEscapes, Text.unitEscapes,
      Text.unitEscapes, if_pos hhigh, if_pos hlow, if_neg hc]

end CodePoint

namespace Text

variable {t : Text}

/-- The text where code points beyond `0xFFFF` are two surrogates, if it has surrogates at all. -/
def spread (t : Text) : Text := if t.any CodePoint.isSurrogate then t.flatMap CodePoint.units else t

theorem spread_of_plain (h : t.any CodePoint.isSurrogate = false) : t.spread = t := by
  rw [spread, h]
  rfl

theorem spread_of_surrogate (h : t.any CodePoint.isSurrogate = true) :
    t.spread = t.flatMap CodePoint.units := if_pos h

/-- Spreading keeps surrogates, and makes none where there are none. -/
theorem any_spread (t : Text) :
    t.spread.any CodePoint.isSurrogate = t.any CodePoint.isSurrogate := by
  cases h : t.any CodePoint.isSurrogate with
  | false => rw [spread_of_plain h, h]
  | true =>
    obtain ⟨c, hc, hs⟩ := List.any_eq_true.mp h
    have hsmall : c.val < 0x10000 := by
      simp only [CodePoint.isSurrogate, CodePoint.inRange, Bool.and_eq_true, decide_eq_true_eq] at hs
      omega
    rw [spread_of_surrogate h]
    refine List.any_eq_true.mpr ⟨c, List.mem_flatMap.mpr ⟨c, hc, ?_⟩, hs⟩
    rw [CodePoint.units_of_lt hsmall]
    exact List.mem_singleton_self c

theorem spread_unmixed (t : Text) : t.spread.Unmixed := by
  intro h d hd
  rw [any_spread] at h
  rw [spread_of_surrogate h] at hd
  obtain ⟨c, -, hc⟩ := List.mem_flatMap.mp hd
  exact Nat.le_of_lt_succ (CodePoint.mem_units hc).1

/-- Exactly the unmixed texts stay as they are. -/
theorem spread_eq_self_iff : t.spread = t ↔ t.Unmixed := by
  refine ⟨fun h => h ▸ spread_unmixed t, fun h => ?_⟩
  cases hs : t.any CodePoint.isSurrogate with
  | false => exact spread_of_plain hs
  | true =>
    have hunits : t.flatMap CodePoint.units = t.flatMap fun c => [c] :=
      List.flatMap_congr fun c hc => CodePoint.units_of_lt (Nat.lt_succ_of_le (h hs c hc))
    rw [spread_of_surrogate hs, hunits, List.flatMap_singleton']

/-- A text without surrogates is spread from no other text. -/
theorem eq_of_spread {u : Text} (hu : u.any CodePoint.isSurrogate = false) (h : t.spread = u) :
    t = u := by
  have hany := any_spread t
  rw [h, hu] at hany
  rw [← h, spread_of_plain hany.symm]

/-- A text is written as the text where it is spread. -/
theorem literalText_spread (t : Text) : t.spread.literalText = t.literalText := by
  rw [literalText, literalText, any_spread]
  cases h : t.any CodePoint.isSurrogate with
  | false => rw [spread_of_plain h]
  | true =>
    have hpoints : (t.flatMap CodePoint.units).flatMap (doubleQuotedPoint .ascii)
        = t.flatMap (doubleQuotedPoint .ascii) := by
      rw [List.flatMap_assoc]
      exact List.flatMap_congr fun c _ => c.doubleQuotedPoint_units
    rw [spread_of_surrogate h, if_pos rfl, doubleQuoted, doubleQuoted, hpoints]

end Text

/-! ### Literals -/

/-- The value that the literal of a value stands for. -/
def Scalar.spread : Scalar → Scalar
  | .str t => .str t.spread
  | s => s

theorem Scalar.spread_eq_self_iff {s : Scalar} :
    s.spread = s ↔ ∀ t, s = .str t → t.Unmixed := by
  cases s with
  | str t => simp [spread, Text.spread_eq_self_iff]
  | _ => simp [spread]

namespace Evaluate

/-- The literal of a text stands for the text as it is spread. -/
theorem eval_ofText_spread (r : Registry) (t : Text) :
    eval r (Call.ofText t) = .ok (.str t.spread) := by
  have hcall : Call.ofText t = Call.ofText t.spread := by
    rw [Call.ofText, Call.ofText, Text.literalText_spread]
  rw [hcall, eval_ofText (Text.spread_unmixed t)]

/-- **What the literal of a value stands for.**  Nothing, truth values, integers that are not too
long and all texts have a literal.  It evaluates to the value, but for a text with surrogates: there
each code point beyond `0xFFFF` has become two.  So the literal is faithful unless the text has
both. -/
theorem eval_scalarText {s : Scalar} (hfloat : ∀ x, s ≠ .float x)
    (hint : ∀ n, s = .int n → n.natAbs < Integer.decimalBound) (r : Registry) :
    ∃ t, Call.scalarText s = .ok t ∧ eval r (.literal t) = .ok (.scalar s.spread)
      ∧ (s.spread = s ↔ ∀ u, s = .str u → u.Unmixed) := by
  have hvalue : ∃ t, Call.scalarText s = .ok t ∧ eval r (.literal t) = .ok (.scalar s.spread) := by
    cases s with
    | none => exact ⟨_, rfl, rfl⟩
    | bool b => cases b <;> exact ⟨_, rfl, rfl⟩
    | int n =>
      have htext : Integer.text? n = some (Text.decimalInt n) := by
        rw [Integer.text?, if_pos (hint n rfl)]
      refine ⟨Text.decimalInt n, ?_, ?_⟩
      · rw [Call.scalarText, htext]
      · rw [eval, literal, Constant.read_integer htext]
        rfl
    | float x => exact absurd rfl (hfloat x)
    | str t => exact ⟨t.literalText, rfl, eval_ofText_spread r t⟩
  obtain ⟨t, ht, heval⟩ := hvalue
  exact ⟨t, ht, heval, Scalar.spread_eq_self_iff⟩

/-- A surrogate and a code point beyond `0xFFFF`: three code points come back. -/
def mixedText : Text := [⟨0xD800, by decide⟩, ⟨0x1F600, by decide⟩]

theorem eval_scalarText_mixed : (∀ x, Scalar.str mixedText ≠ .float x)
    ∧ (∀ n, Scalar.str mixedText = .int n → n.natAbs < Integer.decimalBound)
    ∧ ∃ t, Call.scalarText (.str mixedText) = .ok t
      ∧ eval .standard (.literal t) = .ok (.scalar (Scalar.str mixedText).spread)
      ∧ ((Scalar.str mixedText).spread = .str mixedText
        ↔ ∀ u, Scalar.str mixedText = .str u → u.Unmixed) := by
  have hfloat : ∀ x, Scalar.str mixedText ≠ .float x := by rintro x ⟨⟩
  have hint : ∀ n, Scalar.str mixedText = .int n → n.natAbs < Integer.decimalBound := by
    rintro n ⟨⟩
  exact ⟨hfloat, hint, eval_scalarText hfloat hint .standard⟩

/-- The literal of this text does not stand for it. -/
theorem eval_scalarText_unfaithful :
    ∃ t, Call.scalarText (.str mixedText) = .ok t
      ∧ eval .standard (.literal t) ≠ .ok (.scalar (.str mixedText)) := by
  have hmixed : mixedText.spread ≠ mixedText := by decide
  refine ⟨mixedText.literalText, rfl, ?_⟩
  show eval .standard (Call.ofText mixedText) ≠ .ok (.str mixedText)
  rw [eval_ofText_spread]
  intro h
  exact hmixed (Scalar.str.inj (Value.scalar.inj (Except.ok.inj h)))

end Evaluate

end TreeQuote
