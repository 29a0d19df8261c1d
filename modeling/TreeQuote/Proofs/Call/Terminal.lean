/-
TreeQuote/Proofs/Call/Terminal.lean

The terminals of code as languages: names, strings and numbers.  The scanner measures the
longest match at the start of a text; here that length is compared with the languages.

Main statements: `match?_name`, `match?_string` and `match?_number`, a word of a terminal with
a delimiter or the end behind it is matched as a whole.
-/
import Mathlib.Computability.Language
import TreeQuote.Call.Token

namespace TreeQuote.Code

open scoped Computability

/-! ### Languages -/

namespace Terminal

/-- One code point of a class. -/
def single (p : CodePoint → Bool) : Language CodePoint := {t | ∃ c, p c = true ∧ t = [c]}

/-- One or more code points of a class. -/
def several (p : CodePoint → Bool) : Language CodePoint := single p * (single p)∗

/-- A letter or underscore with letters, underscores and digits behind it. -/
def word : Language CodePoint := single Lexeme.startsWord * (single Lexeme.continuesWord)∗

/-- Words with dots between them. -/
def name : Language CodePoint := word * (single (· = '.') * word)∗

/-- What stands between quotes `q`: neither the quote nor a line end, and any code point but
a line end behind a backslash. -/
def quotedItem (q : CodePoint) : Language CodePoint :=
  single (fun c => c ≠ q && c ≠ '\\' && c ≠ '\n') + single (· = '\\') * single (· ≠ '\n')

/-- A text in quotes `q`. -/
def quoted (q : CodePoint) : Language CodePoint :=
  single (· = q) * ((quotedItem q)∗ * single (· = q))

/-- A text in either kind of quotes. -/
def string : Language CodePoint := quoted (CodePoint.ofChar '"') + quoted (CodePoint.ofChar '\'')

/-- Digits with a point behind or within them, with a point in front, or without one. -/
def digits : Language CodePoint :=
  several CodePoint.isDecimal * (single (· = '.') * (single CodePoint.isDecimal)∗)
    + single (· = '.') * several CodePoint.isDecimal + several CodePoint.isDecimal

/-- The mark of an exponent, a sign if there is one, and digits. -/
def exponent : Language CodePoint :=
  single (fun c => c = 'e' || c = 'E')
    * ((1 + single fun c => c = '+' || c = '-') * several CodePoint.isDecimal)

/-- A number: a minus sign and an exponent may be there. -/
def number : Language CodePoint := (1 + single (· = '-')) * (digits * (1 + exponent))

variable {p : CodePoint → Bool} {l : Language CodePoint} {t : Text}

theorem mem_single : t ∈ single p ↔ ∃ c, p c = true ∧ t = [c] := Iff.rfl

theorem mem_single_mul : t ∈ single p * l ↔ ∃ c u, p c = true ∧ u ∈ l ∧ t = c :: u := by
  rw [Language.mem_mul]
  constructor
  · rintro ⟨_, ⟨c, hc, rfl⟩, u, hu, rfl⟩
    exact ⟨c, u, hc, hu, rfl⟩
  · rintro ⟨c, u, hc, hu, rfl⟩
    exact ⟨[c], ⟨c, hc, rfl⟩, u, hu, rfl⟩

theorem mem_kstar_single : t ∈ (single p)∗ ↔ ∀ c ∈ t, p c = true := by
  rw [Language.mem_kstar]
  constructor
  · rintro ⟨ts, rfl, hts⟩ c hc
    obtain ⟨u, hu, hcu⟩ := List.mem_flatten.1 hc
    obtain ⟨d, hd, rfl⟩ := hts u hu
    rw [List.mem_singleton.1 hcu]
    exact hd
  · intro h
    refine ⟨t.map fun c => [c], by simp [← List.flatMap_def], ?_⟩
    intro u hu
    obtain ⟨c, hc, rfl⟩ := List.mem_map.1 hu
    exact ⟨c, h c hc, rfl⟩

theorem mem_several : t ∈ several p ↔ t ≠ [] ∧ ∀ c ∈ t, p c = true := by
  rw [several, mem_single_mul]
  constructor
  · rintro ⟨c, u, hc, hu, rfl⟩
    exact ⟨List.cons_ne_nil _ _, List.forall_mem_cons.2 ⟨hc, mem_kstar_single.1 hu⟩⟩
  · rintro ⟨hne, h⟩
    obtain ⟨c, u, rfl⟩ := List.exists_cons_of_ne_nil hne
    obtain ⟨hc, hu⟩ := List.forall_mem_cons.1 h
    exact ⟨c, u, hc, mem_kstar_single.2 hu, rfl⟩

end Terminal

open Terminal

/-! ### Runs of a class -/

/-- No text, or one that starts outside a class. -/
def Leaves (p : CodePoint → Bool) (r : Text) : Prop := ∀ c ∈ r.head?, p c = false

/-- Code points that end a name or a number in front of them. -/
def delimiters : Text := ['(', ')', '[', ']', ',', '=', '\n']

/-- No text, or one that starts with a delimiter. -/
def Bounded (r : Text) : Prop := ∀ c ∈ r.head?, c ∈ delimiters

theorem Bounded.leaves {p : CodePoint → Bool} {r : Text} (h : Bounded r)
    (hp : (delimiters.all fun c => !p c) = true) : Leaves p r := by
  intro c hc
  simpa using List.all_eq_true.1 hp c (h c hc)

/-- A run stops where its class does. -/
theorem run_append {p : CodePoint → Bool} {t r : Text} (ht : ∀ c ∈ t, p c = true)
    (hr : Leaves p r) : Lexeme.run p (t ++ r) = t.length := by
  rw [Lexeme.run, List.takeWhile_append_of_pos ht]
  cases r with
  | nil => simp
  | cons c r => simp [hr c rfl]

/-- There is no run where the class does not start. -/
theorem run_eq_zero {p : CodePoint → Bool} {r : Text} (hr : Leaves p r) : Lexeme.run p r = 0 :=
  run_append (t := []) (List.forall_mem_nil _) hr

/-! ### Names -/

/-- A dot with a word behind it. -/
theorem mem_dotted {w : Text} (hw : w ∈ single (· = '.') * word) :
    ∃ c cs, Lexeme.startsWord c = true ∧ (∀ d ∈ cs, Lexeme.continuesWord d = true)
      ∧ w = CodePoint.ofChar '.' :: c :: cs := by
  obtain ⟨d, u, hd, hu, rfl⟩ := mem_single_mul.1 hw
  obtain ⟨c, cs, hc, hcs, rfl⟩ := mem_single_mul.1 hu
  exact ⟨c, cs, hc, mem_kstar_single.1 hcs, by rw [of_decide_eq_true hd]⟩

/-- The word in front of words with dots goes no further. -/
theorem leaves_dotted {ws : List Text} {r : Text}
    (hws : ∀ w ∈ ws, w ∈ single (· = '.') * word) (hr : Bounded r) :
    Leaves Lexeme.continuesWord (ws.flatten ++ r) := by
  cases ws with
  | nil => exact hr.leaves (by decide)
  | cons w ws =>
    obtain ⟨c, cs, -, -, rfl⟩ := mem_dotted (List.forall_mem_cons.1 hws).1
    rintro _ ⟨⟩
    decide

/-- The words with dots in front of them are measured together. -/
theorem dottedLength_append {ws : List Text} {r : Text} {fuel : Nat}
    (hws : ∀ w ∈ ws, w ∈ single (· = '.') * word) (hr : Bounded r)
    (hfuel : ws.flatten.length ≤ fuel) :
    dottedLength fuel (ws.flatten ++ r) = ws.flatten.length := by
  induction ws generalizing fuel with
  | nil =>
    have hdot : Leaves (· = CodePoint.ofChar '.') r := hr.leaves (by decide)
    match fuel, r with
    | 0, _ => simp [dottedLength]
    | _ + 1, [] => simp [dottedLength]
    | _ + 1, [_] => simp [dottedLength]
    | _ + 1, d :: _ :: _ =>
      have hd : d ≠ CodePoint.ofChar '.' := by simpa using hdot d rfl
      simp [dottedLength, hd]
  | cons w ws ih =>
    obtain ⟨hw, hrest⟩ := List.forall_mem_cons.1 hws
    obtain ⟨c, cs, hc, hcs, rfl⟩ := mem_dotted hw
    have hrun := run_append hcs (leaves_dotted hrest hr)
    simp only [List.flatten_cons, List.length_append, List.length_cons] at hfuel ⊢
    obtain ⟨fuel, rfl⟩ : ∃ k, fuel = k + 1 := ⟨fuel - 1, by omega⟩
    have hdrop : (CodePoint.ofChar '.' :: c :: (cs ++ (ws.flatten ++ r))).drop (2 + cs.length)
        = ws.flatten ++ r := by
      rw [Nat.add_comm]
      simp
    have hih : dottedLength fuel (ws.flatten ++ r) = ws.flatten.length := ih hrest (by omega)
    simp only [List.cons_append, List.append_assoc, dottedLength, hc, hrun, hdrop, hih,
      decide_true, Bool.and_self, if_true]
    omega

/-- A name ends where a delimiter follows. -/
theorem nameLength_append {t r : Text} (ht : t ∈ name) (hr : Bounded r) :
    nameLength (t ++ r) = t.length := by
  obtain ⟨w, hw, u, hu, rfl⟩ := Language.mem_mul.1 ht
  obtain ⟨ws, rfl, hws⟩ := Language.mem_kstar.1 hu
  obtain ⟨c, cs, hc, hcs, rfl⟩ := mem_single_mul.1 hw
  have hword : ∀ d ∈ c :: cs, Lexeme.continuesWord d = true :=
    List.forall_mem_cons.2 ⟨by simp [Lexeme.continuesWord, hc], mem_kstar_single.1 hcs⟩
  have hrun := run_append hword (leaves_dotted hws hr)
  rw [nameLength, List.append_assoc, hrun, List.drop_left,
    dottedLength_append hws hr (by simp; omega), List.length_append]

/-- A name starts with a letter or an underscore. -/
theorem head_name {t : Text} (ht : t ∈ name) : ∃ c u, Lexeme.startsWord c = true ∧ t = c :: u := by
  obtain ⟨w, hw, u, -, rfl⟩ := Language.mem_mul.1 ht
  obtain ⟨c, cs, hc, -, rfl⟩ := mem_single_mul.1 hw
  exact ⟨c, cs ++ u, hc, rfl⟩

/-! ### Strings -/

/-- The items up to the closing quote are measured together. -/
theorem stringEnd?_append {q : CodePoint} {ts : List Text} {r : Text}
    (hq : q ≠ '\\') (hts : ∀ t ∈ ts, t ∈ quotedItem q) :
    stringEnd? q (ts.flatten ++ q :: r) = some (ts.flatten.length + 1) := by
  induction ts with
  | nil => simp [stringEnd?.eq_def]
  | cons t ts ih =>
    obtain ⟨ht, hrest⟩ := List.forall_mem_cons.1 hts
    rcases (Language.mem_add _ _ _).1 ht with ⟨c, hc, rfl⟩ | ht
    · simp only [Bool.and_eq_true, decide_eq_true_eq] at hc
      obtain ⟨⟨hcq, hslash⟩, hend⟩ := hc
      rw [List.flatten_cons, List.singleton_append, List.cons_append, stringEnd?.eq_def]
      simp only [hcq, hslash, hend, if_false, ih hrest, Option.map_some, List.length_cons]
    · obtain ⟨c, u, hc, ⟨d, hd, rfl⟩, rfl⟩ := mem_single_mul.1 ht
      have hslash := of_decide_eq_true hc
      have hend := of_decide_eq_true hd
      subst hslash
      have hline : CodePoint.ofChar '\\' ≠ CodePoint.ofChar '\n' := by decide
      rw [List.flatten_cons, List.cons_append, List.cons_append, stringEnd?.eq_def]
      simp only [hq.symm, hline, hend, if_false, if_true, List.cons_append, List.nil_append,
        ih hrest, Option.map_some, List.length_cons]

/-- A text in quotes is its first quote and what the scanner measures behind it. -/
theorem stringEnd?_quoted {q : CodePoint} {t r : Text} (hq : q ≠ '\\') (ht : t ∈ quoted q) :
    ∃ u, t = q :: u ∧ stringEnd? q (u ++ r) = some u.length := by
  obtain ⟨c, u, hc, hu, rfl⟩ := mem_single_mul.1 ht
  obtain ⟨v, hv, w, ⟨d, hd, rfl⟩, rfl⟩ := Language.mem_mul.1 hu
  obtain ⟨ts, rfl, hts⟩ := Language.mem_kstar.1 hv
  have hcq := of_decide_eq_true hc
  have hdq := of_decide_eq_true hd
  subst hcq hdq
  refine ⟨_, rfl, ?_⟩
  rw [List.append_assoc, List.singleton_append, stringEnd?_append hq hts]
  simp

/-! ### Numbers -/

/-- The code points that digits and exponents do not go on with. -/
theorem Bounded.leaves_isDecimal {r : Text} (h : Bounded r) : Leaves CodePoint.isDecimal r :=
  h.leaves (by decide)

/-- Digits end where neither a digit nor a point follows. -/
theorem digitsLength_append {t r : Text} (ht : t ∈ digits) (hdec : Leaves CodePoint.isDecimal r)
    (hdot : Leaves (· = CodePoint.ofChar '.') r) : digitsLength (t ++ r) = t.length := by
  have hpoint : ∀ u : Text, Leaves CodePoint.isDecimal (CodePoint.ofChar '.' :: u) := by
    rintro u _ ⟨⟩
    decide
  rcases (Language.mem_add _ _ _).1 ht with ht | ht
  · rcases (Language.mem_add _ _ _).1 ht with ht | ht
    · obtain ⟨u, hu, v, hv, rfl⟩ := Language.mem_mul.1 ht
      obtain ⟨d, w, hd, hw, rfl⟩ := mem_single_mul.1 hv
      have hd := of_decide_eq_true hd
      subst hd
      obtain ⟨hne, hu⟩ := mem_several.1 hu
      have hlen : u.length ≠ 0 := by simpa using hne
      have hfrac := run_append (mem_kstar_single.1 hw) hdec
      rw [List.append_assoc, List.cons_append, digitsLength, run_append hu (hpoint _)]
      simp [hfrac, hlen]
      omega
    · obtain ⟨d, w, hd, hw, rfl⟩ := mem_single_mul.1 ht
      have hd := of_decide_eq_true hd
      subst hd
      obtain ⟨hne, hw⟩ := mem_several.1 hw
      have hlen : w.length ≠ 0 := by simpa using hne
      have hfrac := run_append hw hdec
      rw [digitsLength, List.cons_append, run_eq_zero (hpoint _)]
      simp [hfrac, hlen]
      omega
  · obtain ⟨hne, hall⟩ := mem_several.1 ht
    rw [digitsLength, run_append hall hdec]
    cases r with
    | nil => simp
    | cons c r =>
      have hc : c ≠ CodePoint.ofChar '.' := by simpa using hdot c rfl
      simp [hc]

/-- An exponent ends where no digit follows. -/
theorem exponentLength_append {t r : Text} (ht : t ∈ exponent)
    (hdec : Leaves CodePoint.isDecimal r) : exponentLength (t ++ r) = t.length := by
  obtain ⟨m, u, hm, hu, rfl⟩ := mem_single_mul.1 ht
  obtain ⟨s, hs, v, hv, rfl⟩ := Language.mem_mul.1 hu
  obtain ⟨hne, hv⟩ := mem_several.1 hv
  have hrun := run_append hv hdec
  have hlen : v.length ≠ 0 := by simpa using hne
  rcases (Language.mem_add _ _ _).1 hs with hs | ⟨c, hc, rfl⟩
  · obtain rfl := (Language.mem_one _).1 hs
    obtain ⟨d, v, rfl⟩ := List.exists_cons_of_ne_nil hne
    have hsign : (d = CodePoint.ofChar '+' || d = CodePoint.ofChar '-') = false := by
      have hd : d.isDecimal = true := (List.forall_mem_cons.1 hv).1
      by_contra hsign
      simp only [Bool.not_eq_false, Bool.or_eq_true, decide_eq_true_eq] at hsign
      rcases hsign with rfl | rfl <;> exact absurd hd (by decide)
    simp only [List.nil_append, List.cons_append] at hrun ⊢
    simp [exponentLength, hm, hsign, hrun]
  · simp [exponentLength, hm, hc, hrun, hlen]

/-- No exponent starts at a delimiter. -/
theorem exponentLength_eq_zero {r : Text} (hr : Bounded r) : exponentLength r = 0 := by
  have hmark : Leaves (fun c => c = CodePoint.ofChar 'e' || c = CodePoint.ofChar 'E') r :=
    hr.leaves (by decide)
  cases r with
  | nil => rfl
  | cons c r => simp [exponentLength, hmark c rfl]

/-- Digits and an exponent, if there is one, are measured together. -/
theorem exponentLength_digits {t u r : Text} (ht : t ∈ digits) (hu : u ∈ 1 + exponent)
    (hr : Bounded r) :
    digitsLength (t ++ (u ++ r)) = t.length ∧ exponentLength (u ++ r) = u.length := by
  rcases (Language.mem_add _ _ _).1 hu with hu | hu
  · obtain rfl := (Language.mem_one _).1 hu
    exact ⟨digitsLength_append ht hr.leaves_isDecimal (hr.leaves (by decide)),
      exponentLength_eq_zero hr⟩
  · obtain ⟨m, v, hm, -, rfl⟩ := mem_single_mul.1 hu
    refine ⟨digitsLength_append ht ?_ ?_, exponentLength_append hu hr.leaves_isDecimal⟩
    all_goals
      rintro _ ⟨⟩
      simp only [Bool.or_eq_true, decide_eq_true_eq] at hm
      rcases hm with rfl | rfl <;> decide

/-- Digits start with a digit or a point. -/
theorem head_digits {t : Text} (ht : t ∈ digits) :
    ∃ c u, (c = CodePoint.ofChar '.' ∨ c.isDecimal = true) ∧ t = c :: u := by
  have hseveral : ∀ {t u : Text}, t ∈ several CodePoint.isDecimal →
      ∃ c v, (c = CodePoint.ofChar '.' ∨ c.isDecimal = true) ∧ t ++ u = c :: v := by
    intro t u ht
    obtain ⟨c, v, hc, -, rfl⟩ := mem_single_mul.1 ht
    exact ⟨c, v ++ u, Or.inr hc, rfl⟩
  rcases (Language.mem_add _ _ _).1 ht with ht | ht
  · rcases (Language.mem_add _ _ _).1 ht with ht | ht
    · obtain ⟨u, hu, v, -, rfl⟩ := Language.mem_mul.1 ht
      exact hseveral hu
    · obtain ⟨d, w, hd, -, rfl⟩ := mem_single_mul.1 ht
      exact ⟨d, w, Or.inl (of_decide_eq_true hd), rfl⟩
  · simpa using hseveral (u := []) ht

/-- A number starts with a minus sign, a point or a digit. -/
theorem head_number {t : Text} (ht : t ∈ number) :
    ∃ c u, (c = CodePoint.ofChar '-' ∨ c = CodePoint.ofChar '.' ∨ c.isDecimal = true)
      ∧ t = c :: u := by
  obtain ⟨s, hs, v, hv, rfl⟩ := Language.mem_mul.1 ht
  obtain ⟨u, hu, w, -, rfl⟩ := Language.mem_mul.1 hv
  rcases (Language.mem_add _ _ _).1 hs with hs | ⟨c, hc, rfl⟩
  · obtain rfl := (Language.mem_one _).1 hs
    obtain ⟨c, v, hc, rfl⟩ := head_digits hu
    exact ⟨c, v ++ w, Or.inr hc, rfl⟩
  · exact ⟨c, u ++ w, Or.inl (of_decide_eq_true hc), rfl⟩

/-- A number ends where a delimiter follows. -/
theorem numberLength_append {t r : Text} (ht : t ∈ number) (hr : Bounded r) :
    numberLength (t ++ r) = t.length := by
  obtain ⟨s, hs, v, hv, rfl⟩ := Language.mem_mul.1 ht
  obtain ⟨u, hu, w, hw, rfl⟩ := Language.mem_mul.1 hv
  obtain ⟨hdigits, hexp⟩ := exponentLength_digits hu hw hr
  have hlen : u.length ≠ 0 := by
    obtain ⟨c, v, -, rfl⟩ := head_digits hu
    simp
  rcases (Language.mem_add _ _ _).1 hs with hs | ⟨c, hc, rfl⟩
  · obtain rfl := (Language.mem_one _).1 hs
    -- without a sign the text starts with a digit or a point
    obtain ⟨c, v, hc, rfl⟩ := head_digits hu
    have hsign : c ≠ CodePoint.ofChar '-' := by
      rintro rfl
      rcases hc with hc | hc <;> exact absurd hc (by decide)
    simp only [List.nil_append, List.append_assoc, List.cons_append] at hdigits hlen ⊢
    simp only [numberLength, hsign, if_false, List.drop_zero, hdigits, hlen, Nat.zero_add]
    rw [show c :: (v ++ (w ++ r)) = (c :: v) ++ (w ++ r) from rfl, List.drop_left, hexp]
    simp only [List.length_append, List.length_cons]
    omega
  · have hsign := of_decide_eq_true hc
    subst hsign
    simp only [List.append_assoc, List.cons_append, List.nil_append]
    simp only [numberLength, if_true, List.drop_succ_cons, List.drop_zero, hdigits, hlen, if_false]
    rw [Nat.add_comm 1, List.drop_succ_cons, List.drop_left, hexp]
    simp only [List.length_append, List.length_cons]
    omega

/-! ### Matches -/

/-- A decimal digit is one of `0` to `9` or lies far behind the letters. -/
theorem isDecimal_range {c : CodePoint} (h : c.isDecimal = true) :
    ∃ z ∈ CodePoint.zeros, z ≤ c.val ∧ c.val ≤ z + 9 := by
  unfold CodePoint.isDecimal CodePoint.decimalValue? at h
  split at h
  · rename_i hdigit
    simp only [CodePoint.isDigit, CodePoint.inRange, Bool.and_eq_true, decide_eq_true_eq] at hdigit
    exact ⟨0x30, by decide, hdigit⟩
  · rw [Option.isSome_map, List.find?_isSome] at h
    obtain ⟨z, hz, hc⟩ := h
    exact ⟨z, hz, by simpa [CodePoint.inRange] using hc⟩

/-- A decimal digit is no blank. -/
theorem isBlank_of_isDecimal {c : CodePoint} (h : c.isDecimal = true) : c.isBlank = false := by
  obtain ⟨z, hz, hlo, hhi⟩ := isDecimal_range h
  have hapart : ∀ z ∈ CodePoint.zeros, ∀ r ∈ CodePoint.blankRanges, z + 9 < r.1 ∨ r.2 < z := by
    decide
  rw [CodePoint.isBlank, List.any_eq_false]
  intro r hr hin
  simp only [CodePoint.inRange, Bool.and_eq_true, decide_eq_true_eq] at hin
  have := hapart z hz r hr
  omega

/-- A decimal digit other than `0` to `9` lies behind the Latin letters. -/
theorem isDecimal_val {c : CodePoint} (h : c.isDecimal = true) :
    0x30 ≤ c.val ∧ c.val ≤ 0x39 ∨ 0x660 ≤ c.val := by
  obtain ⟨z, hz, hlo, hhi⟩ := isDecimal_range h
  have hzero : ∀ z ∈ CodePoint.zeros, z = 0x30 ∨ 0x660 ≤ z := by decide
  rcases hzero z hz with rfl | hz
  · exact Or.inl ⟨hlo, hhi⟩
  · exact Or.inr (by omega)

/-- What a number starts with starts nothing else that is tried before. -/
theorem starts_number {c : CodePoint}
    (h : c = CodePoint.ofChar '-' ∨ c = CodePoint.ofChar '.' ∨ c.isDecimal = true) :
    c.isBlank = false ∧ c ≠ CodePoint.ofChar '#' ∧ Lexeme.startsWord c = false
      ∧ c ≠ CodePoint.ofChar '"' ∧ c ≠ CodePoint.ofChar '\'' := by
  rcases h with rfl | rfl | h
  · decide
  · decide
  · refine ⟨isBlank_of_isDecimal h, ?_⟩
    have hval := isDecimal_val h
    have hother : ∀ d : Char, d.toNat < 0x30 → c ≠ CodePoint.ofChar d := by
      rintro d hd rfl
      have : (CodePoint.ofChar d).val = d.toNat := rfl
      omega
    refine ⟨hother '#' (by decide), ?_, hother '"' (by decide), hother '\'' (by decide)⟩
    have hunder : c ≠ CodePoint.ofChar '_' := by
      rintro rfl
      exact absurd h (by decide)
    simp only [Lexeme.startsWord, CodePoint.isLetter, CodePoint.isUpper, CodePoint.isLower,
      CodePoint.inRange, Bool.or_eq_false_iff, Bool.and_eq_false_iff, decide_eq_false_iff_not]
    exact ⟨by omega, hunder⟩

/-- What a name starts with is no blank and starts no comment. -/
theorem starts_name {c : CodePoint} (h : Lexeme.startsWord c = true) :
    c.isBlank = false ∧ c ≠ CodePoint.ofChar '#' := by
  have hval : 0x41 ≤ c.val ∧ c.val ≤ 0x7A := by
    simp only [Lexeme.startsWord, CodePoint.isLetter, CodePoint.isUpper, CodePoint.isLower,
      CodePoint.inRange, Bool.or_eq_true, Bool.and_eq_true, decide_eq_true_eq] at h
    rcases h with (h | h) | rfl
    · omega
    · omega
    · decide
  have hapart : ∀ r ∈ CodePoint.blankRanges, 0x7A < r.1 ∨ r.2 < 0x41 := by decide
  refine ⟨?_, ?_⟩
  · rw [CodePoint.isBlank, List.any_eq_false]
    intro r hr hin
    simp only [CodePoint.inRange, Bool.and_eq_true, decide_eq_true_eq] at hin
    have := hapart r hr
    omega
  · rintro rfl
    have : (CodePoint.ofChar '#').val = 0x23 := rfl
    omega

variable {t r : Text}

/-- A name in front of a delimiter is matched as a whole. -/
theorem match?_name (ht : t ∈ name) (hr : Bounded r) :
    match? (t ++ r) = some (some .name, t.length) := by
  have hlen := nameLength_append ht hr
  obtain ⟨c, u, hc, rfl⟩ := head_name ht
  obtain ⟨hblank, hcomment⟩ := starts_name hc
  rw [List.cons_append] at hlen ⊢
  simp only [match?, hblank, hcomment, hc, hlen, Bool.false_eq_true, if_false, if_true]

/-- A string is matched as a whole, whatever follows. -/
theorem match?_string (ht : t ∈ string) : match? (t ++ r) = some (some .string, t.length) := by
  rcases (Language.mem_add _ _ _).1 ht with ht | ht
  all_goals
    obtain ⟨u, rfl, hu⟩ := stringEnd?_quoted (r := r) (by decide) ht
    rw [List.cons_append, match?, if_neg (by decide), if_neg (by decide), if_neg (by decide),
      if_pos (by decide), hu]
    rfl

/-- A number in front of a delimiter is matched as a whole. -/
theorem match?_number (ht : t ∈ number) (hr : Bounded r) :
    match? (t ++ r) = some (some .number, t.length) := by
  have hlen := numberLength_append ht hr
  obtain ⟨c, u, hc, rfl⟩ := head_number ht
  obtain ⟨hblank, hcomment, hword, hdouble, hsingle⟩ := starts_number hc
  rw [List.cons_append] at hlen ⊢
  simp [match?, hblank, hcomment, hword, hdouble, hsingle, hlen]

end TreeQuote.Code
