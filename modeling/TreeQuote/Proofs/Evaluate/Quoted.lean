/-
TreeQuote/Proofs/Evaluate/Quoted.lean

A text in double quotes is a literal that stands for the text.  Each code point is written
in one of three ways (`Escape`): as it is, as a backslash and a mark, or as a backslash, `u`
and four digits.  Reading undoes each of them, whatever follows.

A code point beyond `0xFFFF` has no escape of four digits, so the text must be `Unmixed`:
only then does the form that `literalText` picks write every code point.

Main statement: `Constant.read_literalText`.
-/
import TreeQuote.Evaluate.Constant
import TreeQuote.Proofs.Text.Digit
import TreeQuote.Proofs.Tree.WellFormed

namespace TreeQuote.Constant

/-! ### Escapes -/

/-- The marks that the quoted form uses behind a backslash, with what they stand for. -/
def quotedMarks : List (CodePoint × Nat) :=
  [('"', 0x22), ('\\', 0x5C), ('n', 0x0A), ('r', 0x0D), ('t', 0x09), ('b', 0x08), ('f', 0x0C)]

/-- The ways to write a code point between double quotes. -/
inductive Escape (c : CodePoint) : Text → Prop where
  | plain (h : 0x20 ≤ c.val) (hs : CodePoint.isSurrogate c = false) (hq : c ≠ '"')
      (hb : c ≠ '\\') : Escape c [c]
  | mark (m : CodePoint) (h : (m, c.val) ∈ quotedMarks) : Escape c ['\\', m]
  | unit (h : c.val ≤ 0xFFFF) : Escape c ('\\' :: 'u' :: Text.hex 4 c.val)

/-- A code point can be written in the form `e`. -/
def Writes (e : Text.Escaping) (c : CodePoint) : Prop :=
  (e = .ascii → c.val ≤ 0xFFFF) ∧ (e = .plain → CodePoint.isSurrogate c = false)

theorem unitEscapes_escape {c : CodePoint} (h : c.val ≤ 0xFFFF) : Escape c (Text.unitEscapes c) := by
  have hlt : c.val < 0x10000 := by omega
  rw [Text.unitEscapes, if_pos hlt]
  exact .unit h

/-- The form `e` writes every code point that it can write. -/
theorem doubleQuotedPoint_escape {e : Text.Escaping} {c : CodePoint} (h : Writes e c) :
    Escape c (Text.doubleQuotedPoint e c) := by
  have hmark : ∀ (m : CodePoint) (n : Nat), (m, n) ∈ quotedMarks → c.val = n →
      Escape c ['\\', m] := fun m n hm hc => .mark m (hc ▸ hm)
  unfold Text.doubleQuotedPoint
  by_cases h1 : c = '"'
  · rw [if_pos h1]
    exact hmark '"' 0x22 (by decide) (by rw [h1]; rfl)
  by_cases h2 : c = '\\'
  · rw [if_neg h1, if_pos h2]
    exact hmark '\\' 0x5C (by decide) (by rw [h2]; rfl)
  by_cases h3 : c = '\n'
  · rw [if_neg h1, if_neg h2, if_pos h3]
    exact hmark 'n' 0x0A (by decide) (by rw [h3]; rfl)
  by_cases h4 : c = '\r'
  · rw [if_neg h1, if_neg h2, if_neg h3, if_pos h4]
    exact hmark 'r' 0x0D (by decide) (by rw [h4]; rfl)
  by_cases h5 : c = '\t'
  · rw [if_neg h1, if_neg h2, if_neg h3, if_neg h4, if_pos h5]
    exact hmark 't' 0x09 (by decide) (by rw [h5]; rfl)
  rw [if_neg h1, if_neg h2, if_neg h3, if_neg h4, if_neg h5]
  by_cases h6 : c.val = 0x08
  · rw [if_pos h6]
    exact hmark 'b' 0x08 (by decide) h6
  by_cases h7 : c.val = 0x0C
  · rw [if_neg h6, if_pos h7]
    exact hmark 'f' 0x0C (by decide) h7
  rw [if_neg h6, if_neg h7]
  by_cases h8 : c.val < 0x20
  · rw [if_pos h8]
    exact unitEscapes_escape (by omega)
  rw [if_neg h8]
  split
  · next h9 =>
    simp only [Bool.and_eq_true, decide_eq_true_eq] at h9
    exact unitEscapes_escape (h.1 h9.1)
  · next h9 =>
    refine .plain (by omega) ?_ h1 h2
    cases e with
    | plain => exact h.2 rfl
    | ascii =>
      -- What is left as it is in this form is ASCII.
      simp only [Bool.and_eq_true, decide_eq_true_eq, true_and] at h9
      simp only [CodePoint.isSurrogate, CodePoint.inRange, Bool.and_eq_false_iff,
        decide_eq_false_iff_not]
      omega

/-- A digit is no mark that reading stops at. -/
theorem hexDigit_ne {n : Nat} {c : CodePoint} (h : c.val < 0x30 ∨ 0x66 < c.val) :
    CodePoint.hexDigit n ≠ c := by
  intro he
  have hv := CodePoint.hexDigit_visible n
  rw [he] at hv
  omega

/-- The four digits of an escape, one by one. -/
theorem hex_four (n : Nat) : Text.hex 4 n =
    [CodePoint.hexDigit (n / 16 / 16 / 16), CodePoint.hexDigit (n / 16 / 16),
     CodePoint.hexDigit (n / 16), CodePoint.hexDigit n] := rfl

theorem hexPoint?_hex {c : CodePoint} (h : c.val ≤ 0xFFFF) :
    hexPoint? (Text.hex 4 c.val) = some c := by
  have hall : (Text.hex 4 c.val).all CodePoint.isHexDigit = true := by
    rw [List.all_eq_true]
    intro d hd
    obtain ⟨m, rfl⟩ := Text.mem_hex hd
    exact CodePoint.isHexDigit_hexDigit m
  have hnum : number 16 (Text.hex 4 c.val) = c.val := by
    rw [number_hex]
    exact Nat.mod_eq_of_lt (by show c.val < 65536; omega)
  rw [hexPoint?, if_pos hall, hnum, CodePoint.ofNat?, dif_pos c.isLt]

/-! ### What each escape leaves to the reader -/

/-- Reading an escape gives its code point. -/
theorem Escape.decode? {c : CodePoint} {t : Text} (h : Escape c t) (rest : Text) :
    decode? true none (t ++ rest) = (Constant.decode? true none rest).map (c :: ·) := by
  cases h with
  | plain h0 hs hq hb =>
    rw [List.singleton_append, decode?.eq_def]
    simp only [ne_eq, hb, not_false_eq_true, if_true]
  | mark m hm =>
    have key : (quotedMarks.all fun p => p.1 ≠ '\n' && !isOctal p.1 && p.1 ≠ 'x' && p.1 ≠ 'u'
        && p.1 ≠ 'U' && p.1 ≠ 'N' && escapes.lookup p.1 = some p.2) = true := by decide
    have h := List.all_eq_true.mp key _ hm
    simp only [Bool.and_eq_true, decide_eq_true_eq, Bool.not_eq_true'] at h
    obtain ⟨⟨⟨⟨⟨⟨hn, ho⟩, hx⟩, hu⟩, hU⟩, hN⟩, hl⟩ := h
    show Constant.decode? true none (CodePoint.ofChar '\\' :: m :: rest) = _
    rw [decode?.eq_def]
    simp only [ne_eq, not_true, if_false, hn, ho, hx, hu, hU, hN, decide_false, Bool.and_false,
      Bool.false_eq_true, hl, CodePoint.ofNat?, dif_pos c.isLt]
    cases Constant.decode? true none rest <;> rfl
  | unit hc =>
    have hpoint := hexPoint?_hex hc
    rw [hex_four] at hpoint ⊢
    rw [List.cons_append, List.cons_append, decode?.eq_def]
    simp only [List.cons_append, List.nil_append]
    rw [if_neg (by decide), if_neg (by decide), if_neg (by decide), if_neg (by decide),
      if_pos (by decide), hpoint]
    cases Constant.decode? true none rest <;> rfl

/-- The string goes on behind an escape. -/
theorem Escape.closeShort? {c : CodePoint} {t : Text} (h : Escape c t) (rest : Text) :
    closeShort? '"' (t ++ rest) = (Constant.closeShort? '"' rest).map fun p => (t ++ p.1, p.2) := by
  have hpass : ∀ (d : CodePoint) (rest : Text), d ≠ '"' → d ≠ '\n' → d ≠ '\\' →
      Constant.closeShort? '"' (d :: rest)
        = (Constant.closeShort? '"' rest).map fun p => (d :: p.1, p.2) := by
    intro d rest h1 h2 h3
    rw [closeShort?.eq_def]
    simp only [h1, h2, h3, if_false]
  have hskip : ∀ (m : CodePoint) (rest : Text),
      Constant.closeShort? '"' (CodePoint.ofChar '\\' :: m :: rest)
        = (Constant.closeShort? '"' rest).map fun p => (CodePoint.ofChar '\\' :: m :: p.1, p.2) := by
    intro m rest
    rw [closeShort?.eq_def]
    simp only [show CodePoint.ofChar '\\' ≠ CodePoint.ofChar '"' by decide,
      show CodePoint.ofChar '\\' ≠ CodePoint.ofChar '\n' by decide, if_false, if_true]
  cases h with
  | plain h0 hs hq hb =>
    have hn : c ≠ '\n' := by
      rintro rfl
      exact absurd h0 (by decide)
    rw [List.singleton_append, hpass c rest hq hn hb]
    rfl
  | mark m hm => exact hskip m rest
  | unit hc =>
    have hd : ∀ n rest, Constant.closeShort? '"' (CodePoint.hexDigit n :: rest)
        = (Constant.closeShort? '"' rest).map fun p => (CodePoint.hexDigit n :: p.1, p.2) := by
      intro n rest
      -- The backslash lies between the digits and the letters, so it is told apart by value.
      refine hpass _ _ (hexDigit_ne (by decide)) (hexDigit_ne (by decide)) ?_
      intro he
      have hhex := CodePoint.isHexDigit_hexDigit n
      rw [he] at hhex
      exact absurd hhex (by decide)
    rw [hex_four, List.cons_append, List.cons_append, hskip]
    simp only [List.cons_append, List.nil_append, hd, Option.map_map]
    rfl

/-- No code point of an escape is NUL, a surrogate, a carriage return or a line feed. -/
theorem Escape.visible {c : CodePoint} {t : Text} (h : Escape c t) :
    ∀ d ∈ t, 0x20 ≤ d.val ∧ CodePoint.isSurrogate d = false := by
  cases h with
  | plain h0 hs hq hb =>
    intro d hd
    rw [List.mem_singleton] at hd
    exact hd ▸ ⟨h0, hs⟩
  | mark m hm =>
    have key : (quotedMarks.all fun p => [CodePoint.ofChar '\\', p.1].all fun d =>
        decide (0x20 ≤ d.val) && !CodePoint.isSurrogate d) = true := by decide
    intro d hd
    have h := List.all_eq_true.mp (List.all_eq_true.mp key _ hm) d hd
    simpa using h
  | unit hc =>
    intro d hd
    rw [List.mem_cons, List.mem_cons] at hd
    rcases hd with rfl | rfl | hd
    · decide
    · decide
    · obtain ⟨n, rfl⟩ := Text.mem_hex hd
      have hv := CodePoint.hexDigit_visible n
      simp only [CodePoint.isSurrogate, CodePoint.inRange, Bool.and_eq_false_iff,
        decide_eq_false_iff_not]
      omega

/-- An escape does not start with a quote. -/
theorem Escape.head {c : CodePoint} {t : Text} (h : Escape c t) :
    ∃ d rest, t = d :: rest ∧ d ≠ CodePoint.ofChar '"' := by
  cases h with
  | plain h0 hs hq hb => exact ⟨c, [], rfl, hq⟩
  | mark m hm => exact ⟨'\\', [m], rfl, by decide⟩
  | unit hc => exact ⟨'\\', _, rfl, by decide⟩

/-! ### Quoted texts -/

section Quoted

variable {e : Text.Escaping} {t : Text}

theorem decode?_flatMap (h : ∀ c ∈ t, Writes e c) :
    decode? true none (t.flatMap (Text.doubleQuotedPoint e)) = some t := by
  induction t with
  | nil => rfl
  | cons c t ih =>
    rw [List.flatMap_cons, (doubleQuotedPoint_escape (h c List.mem_cons_self)).decode?,
      ih fun d hd => h d (List.mem_cons_of_mem c hd)]
    rfl

theorem closeShort?_flatMap (h : ∀ c ∈ t, Writes e c) (rest : Text) :
    closeShort? '"' (t.flatMap (Text.doubleQuotedPoint e) ++ CodePoint.ofChar '"' :: rest)
      = some (t.flatMap (Text.doubleQuotedPoint e), rest) := by
  induction t with
  | nil =>
    rw [List.flatMap_nil, List.nil_append, closeShort?.eq_def]
    simp only [if_true]
  | cons c t ih =>
    rw [List.flatMap_cons, List.append_assoc,
      (doubleQuotedPoint_escape (h c List.mem_cons_self)).closeShort?,
      ih fun d hd => h d (List.mem_cons_of_mem c hd)]
    rfl

theorem body?_flatMap (h : ∀ c ∈ t, Writes e c) :
    body? '"' (t.flatMap (Text.doubleQuotedPoint e) ++ [CodePoint.ofChar '"'])
      = some (t.flatMap (Text.doubleQuotedPoint e), []) := by
  have hshort : (t.flatMap (Text.doubleQuotedPoint e) ++ [CodePoint.ofChar '"']).take 2
      ≠ [CodePoint.ofChar '"', CodePoint.ofChar '"'] := by
    cases t with
    | nil => exact (by decide : [CodePoint.ofChar '"'] ≠ [CodePoint.ofChar '"', CodePoint.ofChar '"'])
    | cons c t =>
      obtain ⟨d, rest, hd, hq⟩ := (doubleQuotedPoint_escape (h c List.mem_cons_self)).head
      rw [List.flatMap_cons, hd]
      intro he
      simp only [List.cons_append, List.take_succ_cons, List.cons.injEq] at he
      exact hq he.1
  rw [body?, if_neg hshort]
  exact closeShort?_flatMap h []

/-- The code points of a quoted text can stand in the text of a literal. -/
theorem doubleQuoted_visible (h : ∀ c ∈ t, Writes e c) :
    ∀ d ∈ Text.doubleQuoted e t, 0x20 ≤ d.val ∧ CodePoint.isSurrogate d = false := by
  have hquote : 0x20 ≤ (CodePoint.ofChar '"').val
      ∧ CodePoint.isSurrogate (CodePoint.ofChar '"') = false := by decide
  intro d hd
  simp only [Text.doubleQuoted, List.mem_append, List.mem_cons, List.mem_flatMap,
    List.not_mem_nil, or_false] at hd
  rcases hd with (rfl | ⟨c, hc, hd⟩) | rfl
  · exact hquote
  · exact (doubleQuotedPoint_escape (h c hc)).visible d hd
  · exact hquote

end Quoted

/-- A text without control characters has no line ends to make alike. -/
theorem universalLines_eq_self {t : Text} (h : ∀ c ∈ t, 0x20 ≤ c.val) : t.universalLines = t := by
  induction t with
  | nil => rfl
  | cons c t ih =>
    have hc : c ≠ '\r' := by
      rintro rfl
      exact absurd (h _ List.mem_cons_self) (by decide)
    rw [Text.universalLines.eq_def]
    simp only [hc, if_false, ih fun d hd => h d (List.mem_cons_of_mem c hd)]

/-- The expression that the pieces of a text are, if the text starts with a piece. -/
theorem parse?_of_pieces {c : CodePoint} {t : Text} {ps : List Piece} {e : Expression}
    (hvisible : ∀ d ∈ c :: t, 0x20 ≤ d.val ∧ CodePoint.isSurrogate d = false)
    (hc : c ≠ ' ' ∧ c ≠ '#' ∧ c ≠ '\\') (hps : pieces? (t.length + 1) 0 (c :: t) = some ps)
    (he : whole? ps = some e) : parse? (c :: t) = some e := by
  have hany : ((c :: t).any fun d => d.val = 0 || CodePoint.isSurrogate d) = false := by
    rw [List.any_eq_false]
    intro d hd
    have h := hvisible d hd
    simp only [h.2, Bool.or_false, decide_eq_true_eq]
    omega
  have hc0 := (hvisible c List.mem_cons_self).1
  have htab : c ≠ '\t' := by
    rintro rfl
    exact absurd hc0 (by decide)
  have hnl : c ≠ '\n' := by
    rintro rfl
    exact absurd hc0 (by decide)
  have hdrop : ((c :: t).dropWhile fun d : CodePoint => d = ' ' || d = '\t') = c :: t := by
    rw [List.dropWhile_cons_of_neg]
    simp [hc.1, htab]
  have hindent : isIndented 0 0 (c :: t) = false := by
    rw [isIndented.eq_def]
    have hff : c.val ≠ 0x0C := by omega
    simp [hc.1, hc.2.1, hc.2.2, htab, hnl, hff]
  simp only [parse?, hany, hdrop, universalLines_eq_self fun d hd => (hvisible d hd).1, hindent,
    List.length_cons, hps, Bool.false_eq_true, if_false, Option.bind_some, he]

/-- A piece that opens and closes no bracket, and the pieces behind it. -/
theorem pieces?_cons {fuel : Nat} {c : CodePoint} {t after : Text} {p : Piece} {ps : List Piece}
    (hfirst : first? 0 c t = some (some p, after)) (hdepth : depthAfter 0 p = 0)
    (hps : pieces? fuel 0 after = some ps) : pieces? (fuel + 1) 0 (c :: t) = some (p :: ps) := by
  rw [pieces?, hfirst]
  simp only [hdepth, hps, maxNesting, Nat.not_lt_zero, if_false, Option.map_some]

theorem pieces?_nil (fuel depth : Nat) : pieces? fuel depth [] = some [] := by
  cases fuel <;> rfl

/-! ### Expressions of one piece -/

/-- A power that is all there is makes a whole expression. -/
theorem whole?_of_factor {ps : List Piece} {e : Expression}
    (hline : ps.dropWhile (· = .line) = ps) (hlambda : afterWord? "lambda" ps = none)
    (hnot : afterWord? "not" ps = none)
    (h : ∀ fuel, factor? (fuel + 8) ps = some (e, [])) : whole? ps = some e := by
  have hoperand : ∀ fuel l, operand? (fuel + 9) l ps = some (e, []) := by
    intro fuel l
    rw [operand?, hnot]
    exact h fuel
  have hlevel : ∀ fuel, level? (fuel + 10) 1 ps = some (e, []) := by
    intro fuel
    rw [level?, hoperand]
    rfl
  have hexpression : ∀ fuel, expression? (fuel + 11) ps = some (e, []) := by
    intro fuel
    rw [expression?, hlambda]
    simp only [hlevel]
    rfl
  have hfuel : 16 * (ps.length + 2) = (16 * ps.length + 21) + 11 := by omega
  rw [whole?, hline, hfuel, hexpression]
  rfl

/-- An atom that is all there is makes a power. -/
theorem factor?_of_atom {p : Piece} {e : Expression} (hsymbol : ∀ t, p ≠ .symbol t)
    (hname : ∀ t, p ≠ .name t) (h : ∀ fuel, atom? (fuel + 1) [p] = some (e, [])) (fuel : Nat) :
    factor? (fuel + 2) [p] = some (e, []) := by
  have hafter : ∀ s, after? s [p] = none := by
    intro s
    cases p with
    | symbol t => exact absurd rfl (hsymbol t)
    | _ => rfl
  have hword : ∀ s, afterWord? s [p] = none := by
    intro s
    cases p with
    | name t => exact absurd rfl (hname t)
    | _ => rfl
  rw [factor?, hafter, hafter, hafter, hword]
  simp only [Option.getD_none, h]
  rfl

theorem whole?_string (t : Text) : whole? [.string t] = some (.constant (.scalar (.str t))) := by
  have hstring : strings? [.string t] = some (.constant (.scalar (.str t))) := by
    simp [strings?, stringText]
  have hatom : ∀ fuel, atom? (fuel + 1) [.string t] = some (.constant (.scalar (.str t)), []) := by
    intro fuel
    have htake : [Piece.string t].takeWhile isString = [.string t] := by
      simp [List.takeWhile, isString]
    rw [atom?.eq_def]
    simp only [htake, hstring]
    rfl
  exact whole?_of_factor rfl rfl rfl fun fuel =>
    factor?_of_atom (fun _ => by simp) (fun _ => by simp) hatom (fuel + 6)

/-! ### The literal of a text -/

theorem literalText_writes {t : Text} (h : t.Unmixed) :
    ∀ c ∈ t, Writes (if t.any CodePoint.isSurrogate then .ascii else .plain) c := by
  intro c hc
  by_cases hs : t.any CodePoint.isSurrogate = true
  · rw [if_pos hs]
    exact ⟨fun _ => h hs c hc, nofun⟩
  · rw [if_neg hs]
    have hnone := List.any_eq_false.mp (Bool.eq_false_iff.mpr hs) c hc
    exact ⟨nofun, fun _ => Bool.eq_false_iff.mpr hnone⟩

/-- The literal of a text stands for the text. -/
theorem read_literalText {t : Text} (h : t.Unmixed) :
    read t.literalText = .ok (.scalar (.str t)) := by
  have hw := literalText_writes h
  rw [Text.literalText]
  generalize (if t.any CodePoint.isSurrogate then Text.Escaping.ascii else .plain) = e at hw ⊢
  have hstring : string? [] '"' (t.flatMap (Text.doubleQuotedPoint e) ++ [CodePoint.ofChar '"'])
      = some (.string t, []) := by
    simp [string?, body?_flatMap hw, decode?_flatMap hw]
  have hfirst : first? 0 '"' (t.flatMap (Text.doubleQuotedPoint e) ++ [CodePoint.ofChar '"'])
      = some (some (.string t), []) := by
    rw [first?.eq_def, if_neg (by decide), if_neg (by decide), if_neg (by decide), if_neg (by decide),
      if_pos (by decide), hstring]
    rfl
  have hparse : parse? (Text.doubleQuoted e t) = some (.constant (.scalar (.str t))) :=
    parse?_of_pieces (doubleQuoted_visible hw) (by decide)
      (pieces?_cons hfirst rfl (pieces?_nil _ 0)) (whole?_string t)
  rw [read, hparse]
  rfl

end TreeQuote.Constant
