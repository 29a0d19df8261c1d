/-
TreeQuote/Proofs/Source/Munch.lean

One match of the lexer, and what it depends on.  `Munch t k n` says that a lexeme of kind `k` and
length `n` starts the text `t`; it is what `match?` finds.

A match looks a little beyond its end: a word ends where no part of a word follows, a number where
no fraction follows either, and some punctuation goes on with a second character.  `EndsAt k rest`
says that nothing of this kind stands at the start of `rest`, and then a lexeme of kind `k` is
matched in front of `rest` as it was where it came from.

Main statements:
* `match?_iff`: `Munch` is what `match?` finds;
* `IsLexeme.munch`: a lexeme starts every text at which it ends;
* `IsLexeme.endsAt`: it ends at every lexeme that does not clash with it.
-/
import TreeQuote.Proofs.Source.Lexeme

namespace TreeQuote.Lexeme

/-! ### Characters -/

theorem eq_ofChar_iff (c : CodePoint) (d : Char) : c = CodePoint.ofChar d ↔ c.val = d.toNat :=
  Fin.ext_iff

theorem ofChar_inj {a b : Char} : CodePoint.ofChar a = CodePoint.ofChar b ↔ a = b :=
  ⟨Text.ofChar_injective, congrArg CodePoint.ofChar⟩

/-- What starts a word starts nothing else. -/
theorem startsWord_plain {c : CodePoint} (h : startsWord c = true) :
    isGap c = false ∧ c.isDigit = false ∧ c ≠ CodePoint.ofChar '/' ∧ c ≠ CodePoint.ofChar '"' := by
  simp only [startsWord, isGap, CodePoint.isLetter, CodePoint.isUpper, CodePoint.isLower,
    CodePoint.isDigit, CodePoint.inRange, Bool.or_eq_true, Bool.and_eq_true, decide_eq_true_eq,
    Bool.or_eq_false_iff, Bool.and_eq_false_iff, decide_eq_false_iff_not, ne_eq, eq_ofChar_iff,
    Char.reduceToNat] at h ⊢
  omega

/-- What starts a number starts nothing else. -/
theorem isDigit_plain {c : CodePoint} (h : c.isDigit = true) :
    isGap c = false ∧ startsWord c = false ∧ c ≠ CodePoint.ofChar '/'
      ∧ c ≠ CodePoint.ofChar '"' := by
  simp only [startsWord, isGap, CodePoint.isLetter, CodePoint.isUpper, CodePoint.isLower,
    CodePoint.isDigit, CodePoint.inRange, Bool.and_eq_true, decide_eq_true_eq,
    Bool.or_eq_false_iff, Bool.and_eq_false_iff, decide_eq_false_iff_not, ne_eq, eq_ofChar_iff,
    Char.reduceToNat] at h ⊢
  omega

/-- What cannot stand in a word cannot stand in a number, and is no mark of an exponent. -/
theorem continuesWord_eq_false {c : CodePoint} (h : continuesWord c = false) :
    c.isDigit = false ∧ continuesNumber c = false ∧ c.isHexDigit = false ∧ c ≠ CodePoint.ofChar '_'
      ∧ c ≠ CodePoint.ofChar 'e' ∧ c ≠ CodePoint.ofChar 'E' := by
  simp only [continuesWord, startsWord, CodePoint.isLetter, Bool.or_eq_false_iff,
    decide_eq_false_iff_not] at h
  obtain ⟨⟨⟨hupper, hlower⟩, hline⟩, hdigit⟩ := h
  have hhex : c.isHexDigit = false := by
    simp [CodePoint.isHexDigit, CodePoint.digitValue?, hupper, hlower, hdigit]
  refine ⟨hdigit, by simp [continuesNumber, hdigit, hline], hhex, hline, ?_, ?_⟩
  · rintro rfl
    revert hlower
    decide
  · rintro rfl
    revert hupper
    decide

/-! ### Ends of runs -/

section Ends

variable {rest : Text}

theorem run_le (p : CodePoint → Bool) (t : Text) : run p t ≤ t.length :=
  (List.takeWhile_prefix p).length_le

/-- What all satisfies the predicate is taken whole in front of a text that does not go on with
it. -/
theorem takeWhile_append_stop {p : CodePoint → Bool} {t : Text} (ht : ∀ c ∈ t, p c = true)
    (hrest : ∀ c ∈ rest.head?, p c = false) : (t ++ rest).takeWhile p = t := by
  have hstop : rest.takeWhile p = [] := by
    cases rest with
    | nil => rfl
    | cons c rest => rw [List.takeWhile_cons_of_neg (by simp [hrest c rfl])]
  rw [List.takeWhile_append_of_pos ht, hstop, List.append_nil]

theorem take_run (p : CodePoint → Bool) (t : Text) : t.take (run p t) = t.takeWhile p :=
  (List.prefix_iff_eq_take.1 (List.takeWhile_prefix p)).symm

theorem drop_run (p : CodePoint → Bool) (t : Text) : t.drop (run p t) = t.dropWhile p := by
  have hdrop : (t.takeWhile p ++ t.dropWhile p).drop (run p t) = t.dropWhile p := List.drop_left
  rwa [List.takeWhile_append_dropWhile] at hdrop

/-- A run ends again where it ended, if the text behind it does not go on with it. -/
theorem run_take {p : CodePoint → Bool} (t : Text) (hrest : ∀ c ∈ rest.head?, p c = false) :
    run p (t.take (run p t) ++ rest) = run p t := by
  rw [take_run, run, takeWhile_append_stop (List.all_eq_true.1 List.all_takeWhile) hrest, run]

theorem fractionLength_take (t : Text) (hrest : ∀ c ∈ rest.head?, continuesNumber c = false)
    (hpoint : fractionLength rest = 0) :
    fractionLength (t.take (fractionLength t) ++ rest) = fractionLength t := by
  match t with
  | [] => exact hpoint
  | [_] => exact hpoint
  | p :: d :: more =>
    by_cases h : (p = CodePoint.ofChar '.' && d.isDigit) = true
    · simp only [fractionLength, h, if_true, Nat.add_comm 2, List.take_succ_cons, List.cons_append,
        run_take more hrest]
    · simp only [fractionLength, h, Bool.false_eq_true, if_false]
      exact hpoint

/-- The mark of an exponent is a letter. -/
theorem exponentLength_head {t : Text} (h : exponentLength t ≠ 0) :
    ∃ m rest, t = m :: rest ∧ (m = CodePoint.ofChar 'e' ∨ m = CodePoint.ofChar 'E') := by
  cases t with
  | nil => exact absurd rfl h
  | cons m rest =>
    by_cases hm : m = CodePoint.ofChar 'e' ∨ m = CodePoint.ofChar 'E'
    · exact ⟨m, rest, rfl, hm⟩
    · exact absurd (by simp [exponentLength, hm]) h

theorem exponentLength_signed {m d : CodePoint} (more : Text)
    (hm : m = CodePoint.ofChar 'e' ∨ m = CodePoint.ofChar 'E')
    (hd : d = CodePoint.ofChar '+' ∨ d = CodePoint.ofChar '-') :
    exponentLength (m :: d :: more)
      = if run CodePoint.isDigit more = 0 then 0 else run CodePoint.isDigit more + 2 := by
  simp [exponentLength, hm, hd]

theorem exponentLength_unsigned {m d : CodePoint} (more : Text)
    (hm : m = CodePoint.ofChar 'e' ∨ m = CodePoint.ofChar 'E')
    (hd : ¬(d = CodePoint.ofChar '+' ∨ d = CodePoint.ofChar '-')) :
    exponentLength (m :: d :: more)
      = if run CodePoint.isDigit (d :: more) = 0 then 0
        else run CodePoint.isDigit (d :: more) + 1 := by
  simp [exponentLength, hm, hd]

theorem exponentLength_take (t : Text) (hrest : ∀ c ∈ rest.head?, continuesWord c = false) :
    exponentLength (t.take (exponentLength t) ++ rest) = exponentLength t := by
  have hdigit : ∀ c ∈ rest.head?, c.isDigit = false := fun c hc =>
    (continuesWord_eq_false (hrest c hc)).1
  have hzero : exponentLength rest = 0 := by
    by_cases h : exponentLength rest = 0
    · exact h
    · obtain ⟨m, more, rfl, hm⟩ := exponentLength_head h
      obtain ⟨-, -, -, -, he, hE⟩ := continuesWord_eq_false (hrest m rfl)
      exact absurd hm (by simp [he, hE])
  by_cases ht : exponentLength t = 0
  · rw [ht]
    exact hzero
  obtain ⟨m, more, rfl, hm⟩ := exponentLength_head ht
  match more with
  | [] => exact absurd (by simp [exponentLength]) ht
  | d :: more =>
    by_cases hd : d = CodePoint.ofChar '+' ∨ d = CodePoint.ofChar '-'
    · by_cases hrun : run CodePoint.isDigit more = 0
      · exact absurd (by rw [exponentLength_signed more hm hd, if_pos hrun]) ht
      · have hlen : exponentLength (m :: d :: more) = run CodePoint.isDigit more + 2 := by
          rw [exponentLength_signed more hm hd, if_neg hrun]
        rw [hlen, List.take_succ_cons, List.take_succ_cons, List.cons_append, List.cons_append,
          exponentLength_signed _ hm hd, run_take more hdigit, if_neg hrun]
    · by_cases hrun : run CodePoint.isDigit (d :: more) = 0
      · exact absurd (by rw [exponentLength_unsigned more hm hd, if_pos hrun]) ht
      · have hlen : exponentLength (m :: d :: more) = run CodePoint.isDigit (d :: more) + 1 := by
          rw [exponentLength_unsigned more hm hd, if_neg hrun]
        -- The digits are not empty, so what is taken starts with the first of them.
        obtain ⟨n, hn⟩ := Nat.exists_eq_succ_of_ne_zero hrun
        have hagain := run_take (p := CodePoint.isDigit) (d :: more) hdigit
        rw [hn, List.take_succ_cons, List.cons_append] at hagain
        rw [hlen, hn, List.take_succ_cons, List.take_succ_cons, List.cons_append, List.cons_append,
          exponentLength_unsigned _ hm hd, hagain, if_neg (Nat.succ_ne_zero n)]

/-- The head of what is taken and a text behind it. -/
theorem head?_take_append {t : Text} {n : Nat} {c : CodePoint}
    (h : c ∈ (t.take n ++ rest).head?) : n ≠ 0 ∧ c ∈ t.head? ∨ t.take n = [] ∧ c ∈ rest.head? := by
  cases n with
  | zero => exact .inr ⟨rfl, h⟩
  | succ n =>
    cases t with
    | nil => exact .inr ⟨rfl, h⟩
    | cons d t => exact .inl ⟨Nat.succ_ne_zero n, h⟩

/-- A point starts a fraction. -/
theorem fractionLength_head {t : Text} (h : fractionLength t ≠ 0) :
    t.head? = some (CodePoint.ofChar '.') := by
  match t with
  | [] => exact absurd rfl h
  | [_] => exact absurd rfl h
  | p :: d :: more =>
    by_cases hp : p = CodePoint.ofChar '.'
    · rw [hp, List.head?_cons]
    · exact absurd (by simp [fractionLength, hp]) h

theorem fractionLength_le (t : Text) : fractionLength t ≤ t.length := by
  match t with
  | [] => exact Nat.le_refl 0
  | [_] => exact Nat.zero_le 1
  | p :: d :: more =>
    have hrun := run_le continuesNumber more
    simp only [fractionLength]
    split
    · rw [List.length_cons, List.length_cons]
      omega
    · exact Nat.zero_le _

theorem exponentLength_le (t : Text) : exponentLength t ≤ t.length := by
  by_cases h : exponentLength t = 0
  · rw [h]
    exact Nat.zero_le _
  obtain ⟨m, more, rfl, hm⟩ := exponentLength_head h
  match more with
  | [] => exact absurd (by simp [exponentLength]) h
  | d :: more =>
    have hrun := run_le CodePoint.isDigit more
    have hrun' := run_le CodePoint.isDigit (d :: more)
    simp only [List.length_cons] at hrun' ⊢
    by_cases hd : d = CodePoint.ofChar '+' ∨ d = CodePoint.ofChar '-'
    · rw [exponentLength_signed more hm hd]
      split <;> omega
    · rw [exponentLength_unsigned more hm hd]
      split <;> omega

theorem decimalLength_le (t : Text) : decimalLength t ≤ t.length := by
  have hwhole := run_le continuesNumber t
  have hfraction := fractionLength_le (t.drop (run continuesNumber t))
  have hexponent := exponentLength_le (t.drop
    (run continuesNumber t + fractionLength (t.drop (run continuesNumber t))))
  simp only [List.length_drop] at hfraction hexponent
  simp only [decimalLength]
  omega

/-- An exponent and what follows it go on with no run of digits and with no fraction. -/
theorem exponent_stops (t : Text) (hrest : ∀ c ∈ rest.head?, continuesWord c = false)
    (hpoint : fractionLength rest = 0) :
    (∀ c ∈ (t.take (exponentLength t) ++ rest).head?, continuesNumber c = false)
      ∧ fractionLength (t.take (exponentLength t) ++ rest) = 0 := by
  refine ⟨fun c hc => ?_, ?_⟩
  · rcases head?_take_append hc with ⟨hne, hc⟩ | ⟨-, hc⟩
    · obtain ⟨m, more, rfl, hm⟩ := exponentLength_head hne
      cases hc
      rcases hm with rfl | rfl <;> decide
    · exact (continuesWord_eq_false (hrest c hc)).2.1
  · by_cases h : fractionLength (t.take (exponentLength t) ++ rest) = 0
    · exact h
    rcases head?_take_append (fractionLength_head h) with ⟨hne, hc⟩ | ⟨hnil, -⟩
    · obtain ⟨m, more, rfl, hm⟩ := exponentLength_head hne
      cases hc
      exact absurd hm (by decide)
    · rw [hnil]
      exact hpoint

/-- A fraction and what follows it go on with no run of digits. -/
theorem fraction_stops (t : Text) (hrest : ∀ c ∈ rest.head?, continuesNumber c = false) :
    ∀ c ∈ (t.take (fractionLength t) ++ rest).head?, continuesNumber c = false := by
  intro c hc
  rcases head?_take_append hc with ⟨hne, hc⟩ | ⟨-, hc⟩
  · rw [fractionLength_head hne] at hc
    cases hc
    decide
  · exact hrest c hc

/-- The length of a decimal number, part by part. -/
theorem decimalLength_append {whole fraction more : Text}
    (hwhole : run continuesNumber (whole ++ (fraction ++ more)) = whole.length)
    (hfraction : fractionLength (fraction ++ more) = fraction.length) :
    decimalLength (whole ++ (fraction ++ more))
      = whole.length + fraction.length + exponentLength more := by
  have hdrop : (whole ++ (fraction ++ more)).drop (whole.length + fraction.length) = more := by
    rw [← List.length_append, ← List.append_assoc, List.drop_left]
  simp only [decimalLength, hwhole, List.drop_left, hfraction, hdrop]

/-- A decimal number has the same parts in front of a text that goes on with none of them. -/
theorem decimalLength_take (t : Text) (hrest : ∀ c ∈ rest.head?, continuesWord c = false)
    (hpoint : fractionLength rest = 0) :
    decimalLength (t.take (decimalLength t) ++ rest) = decimalLength t := by
  obtain ⟨whole, hwhole⟩ : ∃ n, run continuesNumber t = n := ⟨_, rfl⟩
  obtain ⟨fraction, hfraction⟩ : ∃ n, fractionLength (t.drop whole) = n := ⟨_, rfl⟩
  obtain ⟨exponent, hexponent⟩ : ∃ n, exponentLength (t.drop (whole + fraction)) = n := ⟨_, rfl⟩
  have hparts : t.take (decimalLength t) ++ rest = t.take whole
      ++ ((t.drop whole).take fraction ++ ((t.drop (whole + fraction)).take exponent ++ rest)) := by
    simp only [decimalLength, hwhole, hfraction, hexponent, List.take_add, List.append_assoc]
  -- Each part is followed by something that does not go on with it.
  obtain ⟨hmark, hnone⟩ := exponent_stops (t.drop (whole + fraction)) hrest hpoint
  have hfront := fraction_stops (t.drop whole) hmark
  have hrun := run_take (p := continuesNumber) t hfront
  have hfrac := fractionLength_take (t.drop whole) hmark hnone
  have hexp := exponentLength_take (t.drop (whole + fraction)) hrest
  have hlen : (t.take whole).length = whole := List.length_take_of_le (hwhole ▸ run_le _ t)
  have hlen' : ((t.drop whole).take fraction).length = fraction :=
    List.length_take_of_le (hfraction ▸ fractionLength_le _)
  rw [hfraction, hexponent, hwhole] at hrun
  rw [hfraction, hexponent] at hfrac
  rw [hexponent] at hexp
  rw [hparts, decimalLength_append (hrun.trans hlen.symm) (hfrac.trans hlen'.symm), hexp, hlen,
    hlen']
  simp only [decimalLength, hwhole, hfraction, hexponent]

/-- Without hexadecimal or binary digits behind the prefix, a zero is the whole number. -/
theorem decimalLength_zero {m : CodePoint} (t : Text)
    (hm : m = CodePoint.ofChar 'x' ∨ m = CodePoint.ofChar 'X' ∨ m = CodePoint.ofChar 'b'
      ∨ m = CodePoint.ofChar 'B') : decimalLength (CodePoint.ofChar '0' :: m :: t) = 1 := by
  have hplain : continuesNumber m = false ∧ m ≠ CodePoint.ofChar '.' ∧ m ≠ CodePoint.ofChar 'e'
      ∧ m ≠ CodePoint.ofChar 'E' := by
    rcases hm with rfl | rfl | rfl | rfl <;> decide
  obtain ⟨hnumber, hpoint, he, hE⟩ := hplain
  have hrun : run continuesNumber (CodePoint.ofChar '0' :: m :: t) = 1 := by
    have hzero : continuesNumber (CodePoint.ofChar '0') = true := by decide
    simp [run, hzero, hnumber]
  have hfraction : fractionLength (m :: t) = 0 := by
    by_cases h : fractionLength (m :: t) = 0
    · exact h
    · exact absurd (Option.some.inj (fractionLength_head h)) hpoint
  have hexponent : exponentLength (m :: t) = 0 := by simp [exponentLength, he, hE]
  simp [decimalLength, hrun, hfraction, hexponent]

/-- The marks of hexadecimal and binary numbers. -/
def isRadix (m : CodePoint) : Bool :=
  m = CodePoint.ofChar 'x' || m = CodePoint.ofChar 'X' || m = CodePoint.ofChar 'b'
    || m = CodePoint.ofChar 'B'

theorem numberLength_decimal {z : CodePoint} {t : Text}
    (h : z = CodePoint.ofChar '0' → ∀ m ∈ t.head?, isRadix m = false) :
    numberLength (z :: t) = decimalLength (z :: t) := by
  cases t with
  | nil => rfl
  | cons m t =>
    by_cases hz : z = CodePoint.ofChar '0'
    · have hm := h hz m rfl
      simp only [isRadix, Bool.or_eq_false_iff, decide_eq_false_iff_not] at hm
      simp [numberLength, hm]
    · simp [numberLength, hz]

/-- The digits behind the mark of a hexadecimal or a binary number. -/
def radixDigit (m : CodePoint) : CodePoint → Bool :=
  if m = CodePoint.ofChar 'x' || m = CodePoint.ofChar 'X' then
    fun c => CodePoint.isHexDigit c || c = CodePoint.ofChar '_'
  else fun c => c = CodePoint.ofChar '0' || c = CodePoint.ofChar '1' || c = CodePoint.ofChar '_'

theorem numberLength_radix {m : CodePoint} (t : Text) (hm : isRadix m = true) :
    numberLength (CodePoint.ofChar '0' :: m :: t)
      = if run (radixDigit m) t = 0 then 1 else run (radixDigit m) t + 2 := by
  simp only [isRadix, Bool.or_eq_true, decide_eq_true_eq, or_assoc] at hm
  have hone := decimalLength_zero t hm
  rcases hm with rfl | rfl | rfl | rfl <;>
    simp [numberLength, radixDigit, hone, ofChar_inj]

/-- What cannot stand in a word is no digit of any number and no mark in one. -/
theorem radix_eq_false {c : CodePoint} (h : continuesWord c = false) :
    isRadix c = false ∧ ∀ m, radixDigit m c = false := by
  obtain ⟨hdigit, -, hhex, hline, -, -⟩ := continuesWord_eq_false h
  have hne : ∀ d : Char, continuesWord (CodePoint.ofChar d) = true → c ≠ CodePoint.ofChar d := by
    rintro d hd rfl
    rw [h] at hd
    cases hd
  have h0 := hne '0' (by decide)
  have h1 := hne '1' (by decide)
  refine ⟨?_, fun m => ?_⟩
  · simp [isRadix, hne 'x' (by decide), hne 'X' (by decide), hne 'b' (by decide),
      hne 'B' (by decide)]
  · unfold radixDigit
    split <;> simp [hhex, hline, h0, h1]

/-- A number has the same parts in front of a text that goes on with none of them. -/
theorem numberLength_take {z : CodePoint} (t : Text) (hz : z.isDigit = true)
    (hrest : ∀ c ∈ rest.head?, continuesWord c = false) (hpoint : fractionLength rest = 0) :
    numberLength ((z :: t).take (numberLength (z :: t)) ++ rest) = numberLength (z :: t) := by
  by_cases hradix : z = CodePoint.ofChar '0' ∧ ∃ m ∈ t.head?, isRadix m = true
  · obtain ⟨rfl, m, hhead, hm⟩ := hradix
    obtain ⟨more, rfl⟩ := List.head?_eq_some_iff.1 hhead
    rw [numberLength_radix more hm]
    by_cases hrun : run (radixDigit m) more = 0
    · -- The zero stands alone, and so it does in front of `rest`.
      rw [if_pos hrun, List.take_succ_cons, List.take_zero, List.singleton_append,
        numberLength_decimal fun _ c hc => (radix_eq_false (hrest c hc)).1]
      have hzero := decimalLength_take [CodePoint.ofChar '0'] hrest hpoint
      exact hzero
    · have hagain := run_take (p := radixDigit m) more fun c hc => (radix_eq_false (hrest c hc)).2 m
      rw [if_neg hrun, List.take_succ_cons, List.take_succ_cons, List.cons_append, List.cons_append,
        numberLength_radix _ hm, hagain, if_neg hrun]
  · have hplain : z = CodePoint.ofChar '0' → ∀ m ∈ t.head?, isRadix m = false := fun h0 m hm =>
      (Bool.not_eq_true _).mp fun hr => hradix ⟨h0, m, hm, hr⟩
    have hagain := decimalLength_take (z :: t) hrest hpoint
    have hpos : decimalLength (z :: t) ≠ 0 := by
      have := run_pos (p := continuesNumber) t (c := z) (by simp [continuesNumber, hz])
      simp only [decimalLength]
      omega
    obtain ⟨n, hn⟩ := Nat.exists_eq_succ_of_ne_zero hpos
    rw [hn, List.take_succ_cons, List.cons_append] at hagain
    rw [numberLength_decimal hplain, hn, List.take_succ_cons, List.cons_append,
      numberLength_decimal fun h0 m hm => ?_, hagain]
    rcases head?_take_append hm with ⟨-, hm⟩ | ⟨-, hm⟩
    · exact hplain h0 m hm
    · exact (radix_eq_false (hrest m hm)).1

theorem numberLength_le {z : CodePoint} (t : Text) : numberLength (z :: t) ≤ (z :: t).length := by
  by_cases hradix : z = CodePoint.ofChar '0' ∧ ∃ m ∈ t.head?, isRadix m = true
  · obtain ⟨rfl, m, hhead, hm⟩ := hradix
    obtain ⟨more, rfl⟩ := List.head?_eq_some_iff.1 hhead
    have hrun := run_le (radixDigit m) more
    rw [numberLength_radix more hm, List.length_cons, List.length_cons]
    split <;> omega
  · rw [numberLength_decimal fun h0 m hm =>
      (Bool.not_eq_true _).mp fun hr => hradix ⟨h0, m, hm, hr⟩]
    exact decimalLength_le _

/-- A string ends at its first closing quote, whatever follows. -/
theorem stringEnd?_take {t : Text} {n : Nat} (h : stringEnd? t = some n) :
    n ≤ t.length ∧ ∀ rest, stringEnd? (t.take n ++ rest) = some n := by
  fun_induction stringEnd? t generalizing n with
  | case1 => cases h
  | case2 more =>
    cases h
    refine ⟨Nat.succ_le_succ (Nat.zero_le _), fun rest => ?_⟩
    show stringEnd? (CodePoint.ofChar '"' :: rest) = some 1
    rw [stringEnd?.eq_def]
    exact if_pos rfl
  | case3 => cases h
  | case4 => cases h
  | case5 => cases h
  | case6 d more hd hquote hline ih =>
    obtain ⟨m, hm, rfl⟩ := Option.map_eq_some_iff.1 h
    obtain ⟨hle, htake⟩ := ih hm
    refine ⟨Nat.add_le_add_right hle 2, fun rest => ?_⟩
    rw [List.take_succ_cons, List.take_succ_cons, List.cons_append, List.cons_append]
    simp [stringEnd?, hquote, hline, hd, htake rest]
  | case7 c more hquote hline hslash ih =>
    obtain ⟨m, hm, rfl⟩ := Option.map_eq_some_iff.1 h
    obtain ⟨hle, htake⟩ := ih hm
    refine ⟨Nat.add_le_add_right hle 1, fun rest => ?_⟩
    rw [List.take_succ_cons, List.cons_append]
    rw [stringEnd?.eq_def]
    simp [hquote, hline, hslash, htake rest]

/-- A block comment ends at its first closing mark, whatever follows. -/
theorem blockEnd?_take {t : Text} {n : Nat} (h : blockEnd? t = some n) :
    0 < n ∧ n ≤ t.length ∧ ∀ rest, blockEnd? (t.take n ++ rest) = some n := by
  fun_induction blockEnd? t generalizing n with
  | case1 => cases h
  | case2 => cases h
  | case3 a b more hend =>
    cases h
    refine ⟨Nat.succ_pos 1, Nat.le_add_left 2 _, fun rest => ?_⟩
    simp [blockEnd?, hend]
  | case4 a b more hend ih =>
    obtain ⟨m, hm, rfl⟩ := Option.map_eq_some_iff.1 h
    obtain ⟨hpos, hle, htake⟩ := ih hm
    refine ⟨Nat.succ_pos m, Nat.succ_le_succ hle, fun rest => ?_⟩
    obtain ⟨m, rfl⟩ := Nat.exists_eq_succ_of_ne_zero (Nat.ne_of_gt hpos)
    have htake := htake rest
    rw [List.take_succ_cons, List.cons_append] at htake
    rw [List.take_succ_cons, List.take_succ_cons, List.cons_append, List.cons_append, blockEnd?,
      if_neg hend, htake, Option.map_some]

end Ends

/-! ### Punctuation -/

/-- The characters that go on with punctuation of one character. -/
def goesOn : Kind → List CodePoint
  | .equalsToken | .exclamationToken | .lessThanToken | .greaterThanToken =>
    [CodePoint.ofChar '=']
  | .slashToken => [CodePoint.ofChar '/', CodePoint.ofChar '*']
  | _ => []

/-- The first text does not start the second when none of the characters goes on with it. -/
def differs : Text → Text → List CodePoint → Bool
  | [], _, _ => false
  | c :: _, [], cs => cs.contains c
  | c :: p, d :: w, cs => c ≠ d || differs p w cs

theorem differs_sound {p w rest : Text} {cs : List CodePoint} (h : differs p w cs = true)
    (hrest : ∀ c ∈ rest.head?, c ∉ cs) : p.isPrefixOf (w ++ rest) = false := by
  induction p generalizing w with
  | nil => cases h
  | cons c p ih =>
    cases w with
    | nil =>
      have hc : c ∈ cs := List.contains_iff_mem.1 h
      cases rest with
      | nil => rfl
      | cons d rest =>
        have hne : c ≠ d := fun heq => hrest d rfl (heq ▸ hc)
        simp [List.isPrefixOf, hne]
    | cons d w =>
      simp only [differs, Bool.or_eq_true, decide_eq_true_eq] at h
      rcases h with hne | h
      · simp [List.isPrefixOf, hne]
      · simp [List.isPrefixOf, ih h]

theorem punctuation?_le {t : Text} {k : Kind} {n : Nat} (h : punctuation? t = some (k, n)) :
    n ≤ t.length := by
  obtain ⟨j, -, hk⟩ := List.exists_of_findSome?_eq_some h
  split at hk
  · split at hk
    · rename_i hpre
      cases hk
      exact (List.isPrefixOf_iff_prefix.1 hpre).length_le
    · cases hk
  · cases hk

/-- The texts that are tried before punctuation of a kind. -/
def before (k : Kind) : List Text :=
  [Text.of "//", Text.of "/*"]
    ++ (punctuation.takeWhile (· ≠ k)).map fun j => j.fixedText?.getD []

/-- Of all that is tried before some punctuation, its own text starts with nothing. -/
theorem punctuation_differs : (punctuation.all fun k =>
    (before k).all fun p => differs p (k.fixedText?.getD []) (goesOn k)) = true := by
  decide

theorem comment?_eq_none {t : Text} (hline : (Text.of "//").isPrefixOf t = false)
    (hblock : (Text.of "/*").isPrefixOf t = false) : comment? t = none := by
  match t with
  | [] => rfl
  | [_] => rfl
  | a :: b :: rest =>
    have h : ∀ d : Char,
        (CodePoint.ofChar '/' :: [CodePoint.ofChar d]).isPrefixOf (a :: b :: rest) = false
          → ¬(a = CodePoint.ofChar '/' ∧ b = CodePoint.ofChar d) := by
      rintro d hd ⟨rfl, rfl⟩
      simp [List.isPrefixOf] at hd
    have h₁ := h '/' hline
    have h₂ := h '*' hblock
    simp [comment?, h₁, h₂]

/-- Punctuation is matched in front of a text that does not go on with it. -/
theorem punctuation?_append {k : Kind} {w rest : Text} (hk : k ∈ punctuation)
    (hw : k.fixedText? = some w) (hrest : ∀ c ∈ rest.head?, c ∉ goesOn k) :
    comment? (w ++ rest) = none ∧ punctuation? (w ++ rest) = some (k, w.length) := by
  have hbefore : ∀ p ∈ before k, p.isPrefixOf (w ++ rest) = false := by
    intro p hp
    have hcheck := List.all_eq_true.1 (List.all_eq_true.1 punctuation_differs k hk) p hp
    rw [hw, Option.getD_some] at hcheck
    exact differs_sound hcheck hrest
  refine ⟨comment?_eq_none (hbefore _ (by simp [before])) (hbefore _ (by simp [before])), ?_⟩
  obtain ⟨front, back, hsplit, hfront⟩ := List.eq_append_cons_of_mem hk
  have htake : punctuation.takeWhile (· ≠ k) = front := by
    have hne : ∀ j ∈ front, decide (j ≠ k) = true := fun j hj =>
      decide_eq_true fun heq => hfront (heq ▸ hj)
    rw [hsplit, List.takeWhile_append_of_pos hne, List.takeWhile_cons_of_neg (by simp),
      List.append_nil]
  refine List.findSome?_eq_some_iff.2 ⟨front, k, back, hsplit, by simp [hw], fun j hj => ?_⟩
  have hj' := hbefore (j.fixedText?.getD [])
    (List.mem_append_right _ (List.mem_map_of_mem (htake.symm ▸ hj)))
  cases hfixed : j.fixedText? with
  | none => rfl
  | some p =>
    rw [hfixed, Option.getD_some] at hj'
    simp [hj']

/-! ### One match -/

/-- The kinds of words: names and keywords. -/
def isWord (k : Kind) : Bool := k = .identifierToken || Kind.keywords.contains k

theorem isWord_wordKind (word : Text) : isWord (wordKind word) = true := by
  rcases hf : Kind.keywords.find? fun k => k.fixedText? = some word with - | k
  · simp [isWord, wordKind, hf]
  · have hk : k ∈ Kind.keywords := List.mem_of_find?_eq_some hf
    simp [isWord, wordKind, hf, hk]

/-- A lexeme starts a text: its kind and its length. -/
inductive Munch (t : Text) : Kind → Nat → Prop where
  | word {c : CodePoint} {rest : Text} (ht : t = c :: rest) (hc : startsWord c = true) :
    Munch t (wordKind (t.take (run continuesWord t))) (run continuesWord t)
  | number {c : CodePoint} {rest : Text} (ht : t = c :: rest) (hc : c.isDigit = true) :
    Munch t .numericLiteralToken (numberLength t)
  | string {rest : Text} {n : Nat} (ht : t = CodePoint.ofChar '"' :: rest)
    (hend : stringEnd? rest = some n) : Munch t .stringLiteralToken (n + 1)
  | punctuation {k : Kind} {n : Nat} (hcomment : comment? t = none)
    (hp : punctuation? t = some (k, n)) : Munch t k n

/-- Punctuation starts with characters of its own. -/
theorem punctuation_head : (punctuation.all fun k => ((k.fixedText?.getD []).head?.any fun c =>
    !isGap c && !startsWord c && !CodePoint.isDigit c && c ≠ CodePoint.ofChar '"')) = true := by
  decide

theorem comment?_eq_none_of_head {c : CodePoint} (hc : c ≠ CodePoint.ofChar '/') (rest : Text) :
    comment? (c :: rest) = none := by
  cases rest with
  | nil => rfl
  | cons d rest => simp [comment?, hc]

/-- The relation is what the lexer matches. -/
theorem match?_iff {t : Text} {k : Kind} {n : Nat} : match? t = some (some k, n) ↔ Munch t k n := by
  refine ⟨fun h => ?_, fun h => ?_⟩
  · unfold match? at h
    split at h
    · cases h
    split at h
    · cases h
    split at h
    · cases h
    rename_i hcomment
    split at h
    · rename_i hc
      cases h
      exact .word rfl hc
    split at h
    · rename_i hc
      cases h
      exact .number rfl hc
    split at h
    · rename_i hc
      obtain ⟨m, hm, heq⟩ := Option.map_eq_some_iff.1 h
      cases heq
      exact .string (by rw [hc]) hm
    · obtain ⟨⟨j, m⟩, hp, heq⟩ := Option.map_eq_some_iff.1 h
      cases heq
      exact .punctuation hcomment hp
  · cases h with
    | @word c rest ht hc =>
      obtain ⟨hgap, -, hslash, -⟩ := startsWord_plain hc
      subst ht
      simp only [match?, hgap, comment?_eq_none_of_head hslash rest, hc, if_true,
        Bool.false_eq_true, if_false]
    | @number c rest ht hc =>
      obtain ⟨hgap, hword, hslash, -⟩ := isDigit_plain hc
      subst ht
      simp only [match?, hgap, comment?_eq_none_of_head hslash rest, hword, hc, if_true,
        Bool.false_eq_true, if_false]
    | @string rest n ht hend =>
      subst ht
      have hplain : isGap (CodePoint.ofChar '"') = false
          ∧ startsWord (CodePoint.ofChar '"') = false ∧ (CodePoint.ofChar '"').isDigit = false
          ∧ CodePoint.ofChar '"' ≠ CodePoint.ofChar '/' := by
        decide
      obtain ⟨hgap, hword, hdigit, hslash⟩ := hplain
      simp only [match?, hgap, comment?_eq_none_of_head hslash rest, hword, hdigit, hend, if_true,
        Bool.false_eq_true, if_false, Option.map_some]
    | punctuation hcomment hp =>
      obtain ⟨hmem, hfixed⟩ := punctuation?_spelled hp
      have hhead := List.all_eq_true.1 punctuation_head k hmem
      rw [hfixed, Option.getD_some, Option.any_eq_true] at hhead
      obtain ⟨c, hc, hplain⟩ := hhead
      cases t with
      | nil => cases n <;> cases hc
      | cons d t =>
        cases n with
        | zero => cases hc
        | succ n =>
        cases hc
        simp only [Bool.and_eq_true, Bool.not_eq_true', decide_eq_true_eq] at hplain
        obtain ⟨⟨⟨hgap, hword⟩, hdigit⟩, hquote⟩ := hplain
        simp only [match?, hgap, hcomment, hword, hdigit, hquote, hp, Bool.false_eq_true, if_false,
          Option.map_some]

/-! ### Lexemes in front of other texts -/

/-- A lexeme of the kind ends where the text starts: nothing in the text goes on with it.  A point
that a digit follows would be taken by a number in front of it. -/
structure EndsAt (k : Kind) (rest : Text) : Prop where
  word : isWord k = true ∨ k = .numericLiteralToken → ∀ c ∈ rest.head?, continuesWord c = false
  fraction : k = .numericLiteralToken → fractionLength rest = 0
  longer : ∀ c ∈ rest.head?, c ∉ goesOn k
  point : k = .dotToken → ∀ c ∈ rest.head?, c.isDigit = false

/-- Every lexeme ends at the end of the text. -/
theorem EndsAt.nil (k : Kind) : EndsAt k [] := by
  refine ⟨fun _ c hc => ?_, fun _ => rfl, fun c hc => ?_, fun _ c hc => ?_⟩ <;> cases hc

theorem isGap_plain {c : CodePoint} (h : isGap c = true) :
    continuesWord c = false ∧ c ≠ CodePoint.ofChar '.' ∧ c ≠ CodePoint.ofChar '='
      ∧ c ≠ CodePoint.ofChar '/' ∧ c ≠ CodePoint.ofChar '*' := by
  simp only [continuesWord, startsWord, isGap, CodePoint.isLetter, CodePoint.isUpper,
    CodePoint.isLower, CodePoint.isDigit, CodePoint.inRange, Bool.or_eq_true, decide_eq_true_eq,
    Bool.or_eq_false_iff, Bool.and_eq_false_iff, decide_eq_false_iff_not, ne_eq, eq_ofChar_iff,
    Char.reduceToNat] at h ⊢
  omega

theorem goesOn_cases {k : Kind} {c : CodePoint} (h : c ∈ goesOn k) :
    c = CodePoint.ofChar '='
      ∨ k = .slashToken ∧ (c = CodePoint.ofChar '/' ∨ c = CodePoint.ofChar '*') := by
  unfold goesOn at h
  split at h
  all_goals first
    | exact .inl (List.mem_singleton.1 h)
    | exact .inr ⟨rfl, by simpa using h⟩
    | exact absurd h List.not_mem_nil

/-- Every lexeme ends at a blank. -/
theorem EndsAt.blank (k : Kind) {c : CodePoint} (hc : isGap c = true) (t : Text) :
    EndsAt k (c :: t) := by
  obtain ⟨hword, hpoint, hequals, hslash, hstar⟩ := isGap_plain hc
  refine ⟨fun _ d hd => ?_, fun _ => ?_, fun d hd hmem => ?_, fun _ d hd => ?_⟩
  · cases hd
    exact hword
  · by_cases h : fractionLength (c :: t) = 0
    · exact h
    · exact absurd (Option.some.inj (fractionLength_head h)) hpoint
  · cases hd
    rcases goesOn_cases hmem with h | ⟨-, h | h⟩
    · exact hequals h
    · exact hslash h
    · exact hstar h
  · cases hd
    exact (continuesWord_eq_false hword).1

/-- A match takes no more than there is. -/
theorem Munch.le {t : Text} {k : Kind} {n : Nat} (h : Munch t k n) : n ≤ t.length := by
  cases h with
  | word => exact run_le _ t
  | number ht =>
    subst ht
    exact numberLength_le _
  | string ht hend =>
    subst ht
    exact Nat.succ_le_succ (stringEnd?_take hend).1
  | punctuation _ hp => exact punctuation?_le hp

/-- What starts a text starts every text with the same first characters that it ends in. -/
theorem Munch.append {t rest : Text} {k : Kind} {n : Nat} (h : Munch t k n) (hend : EndsAt k rest) :
    Munch (t.take n ++ rest) k n := by
  have hlen : (t.take n).length = n := List.length_take_of_le h.le
  cases h with
  | @word c more ht hc =>
    have hrun := run_take t (hend.word (.inl (isWord_wordKind _)))
    obtain ⟨n, hn⟩ := Nat.exists_eq_succ_of_ne_zero (Nat.ne_of_gt
      (run_pos more (p := continuesWord) (c := c) (by simp [continuesWord, hc])))
    have htake : (t.take (run continuesWord t) ++ rest).take (run continuesWord t)
        = t.take (run continuesWord t) := List.take_left' hlen
    have hhead : t.take (run continuesWord t) ++ rest = c :: (more.take n ++ rest) := by
      rw [ht, hn, List.take_succ_cons, List.cons_append]
    have hagain := Munch.word hhead hc
    rw [hrun, htake] at hagain
    exact hagain
  | @number c more ht hc =>
    subst ht
    have hagain := numberLength_take more hc (hend.word (.inr rfl)) (hend.fraction rfl)
    obtain ⟨n, hn⟩ := Nat.exists_eq_succ_of_ne_zero (Nat.ne_of_gt (numberLength_pos more hc))
    have hhead : (c :: more).take (numberLength (c :: more)) ++ rest
        = c :: (more.take n ++ rest) := by
      rw [hn, List.take_succ_cons, List.cons_append]
    have hnumber := Munch.number hhead hc
    rw [hagain] at hnumber
    exact hnumber
  | @string more n ht hclose =>
    subst ht
    exact .string (by rw [List.take_succ_cons, List.cons_append]) ((stringEnd?_take hclose).2 rest)
  | punctuation _ hp =>
    obtain ⟨hmem, hfixed⟩ := punctuation?_spelled hp
    obtain ⟨hcomment, hagain⟩ := punctuation?_append hmem hfixed hend.longer
    rw [hlen] at hagain
    exact .punctuation hcomment hagain

/-- The text is a lexeme of the kind somewhere. -/
def IsLexeme (k : Kind) (w : Text) : Prop := ∃ rest, Munch (w ++ rest) k w.length

/-- A lexeme starts every text at which it ends. -/
theorem IsLexeme.munch {k : Kind} {w rest : Text} (h : IsLexeme k w) (hend : EndsAt k rest) :
    Munch (w ++ rest) k w.length := by
  obtain ⟨u, hu⟩ := h
  have hagain := hu.append hend
  rwa [List.take_left] at hagain

/-! ### Neighbours -/

/-- A lexeme of the kind starts with the character. -/
inductive Starts : Kind → CodePoint → Prop where
  | word {k : Kind} {c : CodePoint} (hk : isWord k = true) (hc : startsWord c = true) : Starts k c
  | number {c : CodePoint} (hc : c.isDigit = true) : Starts .numericLiteralToken c
  | string : Starts .stringLiteralToken (CodePoint.ofChar '"')
  | punctuation {k : Kind} {c : CodePoint} (hk : k ∈ punctuation)
    (hc : (k.fixedText?.getD []).head? = some c) : Starts k c

theorem IsLexeme.starts {k : Kind} {w : Text} (h : IsLexeme k w) :
    ∃ c rest, w = c :: rest ∧ isGap c = false ∧ Starts k c := by
  obtain ⟨u, hu⟩ := h
  obtain ⟨hpos, -⟩ := match?_sound (match?_iff.2 hu)
  obtain ⟨d, more, hd, hgap⟩ := match?_head (match?_iff.2 hu)
  cases w with
  | nil => cases hpos
  | cons c w =>
    obtain rfl := (List.cons.inj hd).1
    refine ⟨c, w, rfl, hgap, ?_⟩
    generalize hn : (c :: w).length = n at hu
    cases hu with
    | word ht hc =>
      obtain rfl := (List.cons.inj ht).1
      exact .word (isWord_wordKind _) hc
    | number ht hc =>
      obtain rfl := (List.cons.inj ht).1
      exact .number hc
    | string ht =>
      obtain rfl := (List.cons.inj ht).1
      exact .string
    | punctuation _ hp =>
      obtain ⟨hmem, hfixed⟩ := punctuation?_spelled hp
      rw [← hn, List.take_left] at hfixed
      exact .punctuation hmem (by rw [hfixed]; rfl)

/-- With nothing between them, the two would be read in another way. -/
def clashes (k next : Kind) : Bool :=
  (isWord k || k = .numericLiteralToken) && (isWord next || next = .numericLiteralToken)
    || (goesOn k).contains (CodePoint.ofChar '=')
      && (next = .equalsToken || next = .equalsEqualsToken)
    || k = .slashToken && (next = .slashToken || next = .asteriskToken)
    || k = .dotToken && next = .numericLiteralToken

/-- Which punctuation starts with a character that goes on with something. -/
theorem punctuation_starts : (punctuation.all fun k => (k.fixedText?.getD []).head?.all fun c =>
    !continuesWord c
      && (c ≠ CodePoint.ofChar '=' || k = .equalsToken || k = .equalsEqualsToken)
      && (c ≠ CodePoint.ofChar '/' || k = .slashToken)
      && (c ≠ CodePoint.ofChar '*' || k = .asteriskToken)
      && (c ≠ CodePoint.ofChar '.' || k = .dotToken)) = true := by
  decide

/-- Words, numbers and strings do not start with a character that goes on with punctuation. -/
theorem not_mem_goesOn {k : Kind} {c : CodePoint}
    (hc : startsWord c = true ∨ c.isDigit = true ∨ c = CodePoint.ofChar '"') : c ∉ goesOn k := by
  intro h
  have hne : ∀ d : Char, (startsWord (CodePoint.ofChar d) || (CodePoint.ofChar d).isDigit
      || CodePoint.ofChar d = CodePoint.ofChar '"') = false → c ≠ CodePoint.ofChar d := by
    rintro d hd rfl
    simp only [Bool.or_eq_false_iff, decide_eq_false_iff_not] at hd
    simp [hd] at hc
  rcases goesOn_cases h with heq | ⟨-, heq | heq⟩
  · exact hne '=' (by decide) heq
  · exact hne '/' (by decide) heq
  · exact hne '*' (by decide) heq

/-- What a lexeme of the next kind starts with does not go on with one that it does not clash
with. -/
theorem Starts.apart {k next : Kind} {c : CodePoint} (h : Starts next c)
    (hclash : clashes k next = false) :
    (isWord k = true ∨ k = .numericLiteralToken → continuesWord c = false) ∧ c ∉ goesOn k
      ∧ (k = .dotToken → c.isDigit = false) ∧ (c = CodePoint.ofChar '.' → next = .dotToken) := by
  simp only [clashes, Bool.or_eq_false_iff, Bool.and_eq_false_imp, Bool.or_eq_true,
    decide_eq_true_eq, decide_eq_false_iff_not, List.contains_iff_mem] at hclash
  obtain ⟨⟨⟨hword, hequals⟩, hslash⟩, hdot⟩ := hclash
  cases h with
  | word hnext hc =>
    refine ⟨fun hk => ?_, not_mem_goesOn (.inl hc), fun _ => (startsWord_plain hc).2.1, ?_⟩
    · exact absurd hnext (by simp [(hword hk).1])
    · rintro rfl
      exact absurd hc (by decide)
  | number hc =>
    refine ⟨fun hk => ?_, not_mem_goesOn (.inr (.inl hc)), fun hk => ?_, ?_⟩
    · exact absurd rfl (hword hk).2
    · exact absurd rfl (hdot hk)
    · rintro rfl
      exact absurd hc (by decide)
  | string =>
    exact ⟨fun _ => by decide, not_mem_goesOn (.inr (.inr rfl)), fun _ => by decide, by decide⟩
  | punctuation hnext hc =>
    have hcheck := List.all_eq_true.1 punctuation_starts next hnext
    rw [hc] at hcheck
    simp only [Option.all_some, Bool.and_eq_true, Bool.not_eq_true', Bool.or_eq_true,
      decide_eq_true_eq] at hcheck
    obtain ⟨⟨⟨⟨hplain, hc₁⟩, hc₂⟩, hc₃⟩, hc₄⟩ := hcheck
    refine ⟨fun _ => hplain, fun hmem => ?_, fun _ => (continuesWord_eq_false hplain).1,
      fun h => ?_⟩
    · rcases goesOn_cases hmem with rfl | ⟨hk, rfl | rfl⟩
      · obtain ⟨hne, hne'⟩ := hequals hmem
        rcases hc₁ with (hc₁ | hc₁) | hc₁
        · exact absurd rfl hc₁
        · exact hne hc₁
        · exact hne' hc₁
      · exact (hslash hk).1 (hc₂.resolve_left (not_not_intro rfl))
      · exact (hslash hk).2 (hc₃.resolve_left (not_not_intro rfl))
    · exact hc₄.resolve_left (not_not_intro h)

theorem IsLexeme.spells {k : Kind} {w : Text} (h : IsLexeme k w) : Spells k w := by
  obtain ⟨u, hu⟩ := h
  have hspells := (match?_sound (match?_iff.2 hu)).2 k rfl
  rwa [List.take_left] at hspells

/-- A lexeme ends at the next one if they do not clash. -/
theorem IsLexeme.endsAt {k next : Kind} {w rest : Text} (h : IsLexeme next w)
    (hclash : clashes k next = false) (hrest : EndsAt next rest) : EndsAt k (w ++ rest) := by
  obtain ⟨c, more, hw, -, hstarts⟩ := h.starts
  obtain ⟨hword, hlonger, hpoint, hdot⟩ := hstarts.apart hclash
  have hhead : (w ++ rest).head? = some c := by rw [hw, List.cons_append, List.head?_cons]
  refine ⟨fun hk d hd => ?_, fun hk => ?_, fun d hd => ?_, fun hk d hd => ?_⟩
  · cases hhead.symm.trans hd
    exact hword hk
  · by_cases hzero : fractionLength (w ++ rest) = 0
    · exact hzero
    · -- Only a point starts a fraction, and no digit follows it.
      have hc := fractionLength_head hzero
      obtain rfl := hdot (Option.some.inj (hhead.symm.trans hc))
      have hfixed : w = [CodePoint.ofChar '.'] := by
        rcases h.spells with hfree | hfixed
        · simp [isFree] at hfree
        · exact (Option.some.inj hfixed).symm
      subst hfixed
      match rest with
      | [] => rfl
      | d :: rest => simp [fractionLength, hrest.point rfl d rfl]
  · cases hhead.symm.trans hd
    exact hlonger
  · cases hhead.symm.trans hd
    exact hpoint hk

end TreeQuote.Lexeme
