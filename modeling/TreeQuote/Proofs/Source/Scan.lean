/-
TreeQuote/Proofs/Source/Scan.lean

The lexer as a relation.  `Passes g rest` says that the gap `g` gives no lexeme in front of `rest`:
it is made of blanks and comments.  `Lexes p t ls` says that gaps and lexemes take turns in the text
`t`, which starts at `p`.  The scanner finds exactly what the relation says.

Main statement: `scan?_iff`.
-/
import TreeQuote.Proofs.Source.Munch

namespace TreeQuote

/-- Moving over two texts is moving over one after the other. -/
theorem Cursor.after_append (p : Cursor) (s t : Text) : p.after (s ++ t) = (p.after s).after t :=
  List.foldl_append

namespace Lexeme

/-! ### Gaps and lexemes -/

/-- The gap gives no lexeme when the rest stands behind it. -/
inductive Passes : Text → Text → Prop where
  | nil (rest : Text) : Passes [] rest
  | blank {c : CodePoint} {g rest : Text} (hc : isGap c = true) (h : Passes g rest) :
    Passes (c :: g) rest
  | comment {a g rest : Text} (ha : comment? (a ++ (g ++ rest)) = some a.length)
    (h : Passes g rest) : Passes (a ++ g) rest

/-- The lexemes of the text that starts at the cursor. -/
inductive Lexes : Cursor → Text → List Lexeme → Prop where
  | done {p : Cursor} {g : Text} (hg : Passes g []) : Lexes p g []
  | lexeme {p : Cursor} {g w rest : Text} {k : Kind} {ls : List Lexeme} (hg : Passes g (w ++ rest))
    (hw : Munch (w ++ rest) k w.length) (hrest : Lexes ((p.after g).after w) rest ls) :
    Lexes p (g ++ (w ++ rest)) (⟨k, w, p.after g, (p.after g).after w⟩ :: ls)

theorem comment?_line (t : Text) :
    comment? (Text.of "//" ++ t) = some (2 + run (· ≠ CodePoint.ofChar '\n') t) := by
  have hmark : Text.of "//" = [CodePoint.ofChar '/', CodePoint.ofChar '/'] := rfl
  simp [hmark, comment?]

theorem comment?_block (t : Text) :
    comment? (Text.of "/*" ++ t) = (blockEnd? t).map (· + 2) := by
  have hmark : Text.of "/*" = [CodePoint.ofChar '/', CodePoint.ofChar '*'] := rfl
  simp [hmark, comment?, ofChar_inj]

/-- What a comment is, by its mark. -/
theorem comment?_eq_some {t : Text} {n : Nat} (h : comment? t = some n) :
    (∃ u, t = Text.of "//" ++ u ∧ n = 2 + run (· ≠ CodePoint.ofChar '\n') u)
      ∨ ∃ u m, t = Text.of "/*" ++ u ∧ blockEnd? u = some m ∧ n = 2 + m := by
  match t with
  | [] => cases h
  | [_] => cases h
  | a :: b :: u =>
    simp only [comment?, Bool.and_eq_true, decide_eq_true_eq] at h
    split at h
    · rename_i hmark
      obtain ⟨rfl, rfl⟩ := hmark
      cases h
      exact .inl ⟨u, rfl, rfl⟩
    · split at h
      · rename_i hmark
        obtain ⟨rfl, rfl⟩ := hmark
        obtain ⟨m, hm, rfl⟩ := Option.map_eq_some_iff.1 h
        exact .inr ⟨u, m, rfl, hm, Nat.add_comm m 2⟩
      · cases h

/-- A comment takes no more than there is. -/
theorem comment?_le {t : Text} {n : Nat} (h : comment? t = some n) : n ≤ t.length := by
  rcases comment?_eq_some h with ⟨u, rfl, rfl⟩ | ⟨u, m, rfl, hm, rfl⟩
  · rw [List.length_append]
    exact Nat.add_le_add_left (run_le _ u) 2
  · rw [List.length_append]
    exact Nat.add_le_add_left (blockEnd?_take hm).2.1 2

/-- A comment is all of a line behind its mark, or goes up to the first closing mark. -/
theorem comment?_append {a t : Text} (h : comment? (a ++ t) = some a.length) :
    (∃ b, a = Text.of "//" ++ b ∧ (∀ c ∈ b, c ≠ CodePoint.ofChar '\n')
        ∧ ∀ c ∈ t.head?, c = CodePoint.ofChar '\n')
      ∨ ∃ b, a = Text.of "/*" ++ b ∧ blockEnd? b = some b.length := by
  -- The comment is cut off where its length says.
  have hcut : ∀ {u : Text} {m : Nat} {mark : Text}, mark.length = 2 → a ++ t = mark ++ u
      → a.length = 2 + m → a = mark ++ u.take m ∧ t = u.drop m := by
    intro u m mark hmark hsplit hlen
    have hfront := congrArg (List.take a.length) hsplit
    have hback := congrArg (List.drop a.length) hsplit
    rw [List.take_left, hlen, ← hmark, List.take_length_add_append] at hfront
    rw [List.drop_left, hlen, ← hmark, List.drop_length_add_append] at hback
    exact ⟨hfront, hback⟩
  rcases comment?_eq_some h with ⟨u, hsplit, hlen⟩ | ⟨u, m, hsplit, hm, hlen⟩
  · obtain ⟨rfl, rfl⟩ := hcut rfl hsplit hlen
    refine .inl ⟨_, rfl, fun c hc => ?_, fun c hc => ?_⟩
    · rw [take_run] at hc
      simpa using List.all_eq_true.1 List.all_takeWhile c hc
    · have hstop := List.head?_dropWhile_not (· ≠ CodePoint.ofChar '\n') u
      rw [drop_run] at hc
      rw [Option.mem_def.1 hc] at hstop
      simpa using hstop
  · obtain ⟨rfl, rfl⟩ := hcut rfl hsplit hlen
    have hend := (blockEnd?_take hm).2.2 []
    rw [List.append_nil] at hend
    refine .inr ⟨_, rfl, ?_⟩
    rw [hend, List.length_take_of_le (blockEnd?_take hm).2.1]

/-- What is passed over is blank or a comment. -/
theorem match?_none {t : Text} {n : Nat} (h : match? t = some (none, n)) :
    n ≤ t.length ∧ ((t.take n).all isGap = true ∨ comment? t = some n) := by
  unfold match? at h
  split at h
  · cases h
  rename_i c rest
  split at h
  · cases h
    refine ⟨run_le _ _, .inl ?_⟩
    rw [take_run]
    exact List.all_takeWhile
  split at h
  · rename_i m hm
    cases h
    exact ⟨comment?_le hm, .inr hm⟩
  split at h
  · cases h
  split at h
  · cases h
  split at h
  · obtain ⟨m, -, hm⟩ := Option.map_eq_some_iff.1 h
    cases hm
  · obtain ⟨m, -, hm⟩ := Option.map_eq_some_iff.1 h
    cases hm

theorem match?_comment {t : Text} {n : Nat} (h : comment? t = some n) :
    match? t = some (none, n) := by
  match t with
  | [] => cases h
  | [_] => cases h
  | a :: b :: rest =>
    by_cases ha : a = CodePoint.ofChar '/'
    · subst ha
      have hslash : isGap (CodePoint.ofChar '/') = false := by decide
      simp only [match?, hslash, h, Bool.false_eq_true, if_false]
    · rw [comment?_eq_none_of_head ha] at h
      cases h

/-- More blanks in front of a gap. -/
theorem Passes.blanks {a g rest : Text} (ha : a.all isGap = true) (h : Passes g rest) :
    Passes (a ++ g) rest := by
  induction a with
  | nil => exact h
  | cons c a ih =>
    rw [List.all_cons, Bool.and_eq_true] at ha
    exact .blank ha.1 (ih ha.2)

/-- One more match without a lexeme in front of a gap. -/
theorem Passes.prepend {a g rest : Text} (ha : match? (a ++ (g ++ rest)) = some (none, a.length))
    (h : Passes g rest) : Passes (a ++ g) rest := by
  rcases (match?_none ha).2 with hblank | hcomment
  · rw [List.take_left] at hblank
    exact h.blanks hblank
  · exact .comment hcomment h

/-- One more match without a lexeme in front of a text. -/
theorem Lexes.prepend {p : Cursor} {a t : Text} {ls : List Lexeme}
    (ha : match? (a ++ t) = some (none, a.length)) (h : Lexes (p.after a) t ls) :
    Lexes p (a ++ t) ls := by
  cases h with
  | done hg => exact .done (hg.prepend (by rwa [List.append_nil]))
  | @lexeme _ g w rest k ls hg hw hrest =>
    rw [← Cursor.after_append p a g] at hrest ⊢
    rw [← List.append_assoc]
    exact .lexeme (hg.prepend ha) hw hrest

/-! ### The scanner -/

/-- Steps beyond the length of the text are not used. -/
theorem scanFrom_fuel {fuel fuel' : Nat} (p : Cursor) {t : Text} (h : t.length ≤ fuel)
    (h' : t.length ≤ fuel') : scanFrom fuel p t = scanFrom fuel' p t := by
  induction fuel generalizing fuel' p t with
  | zero =>
    obtain rfl := List.length_eq_zero_iff.1 (Nat.le_zero.1 h)
    cases fuel' <;> rfl
  | succ fuel ih =>
    cases t with
    | nil => cases fuel' <;> rfl
    | cons c t =>
      cases fuel' with
      | zero => cases h'
      | succ fuel' =>
        simp only [scanFrom]
        cases hm : match? (c :: t) with
        | none => rfl
        | some m =>
          obtain ⟨k, n⟩ := m
          obtain ⟨hpos, -⟩ := match?_sound hm
          have hlen : ((c :: t).drop n).length ≤ t.length := by
            rw [List.length_drop, List.length_cons]
            omega
          simp only [ih _ (Nat.le_trans hlen (Nat.le_of_succ_le_succ h))
            (Nat.le_trans hlen (Nat.le_of_succ_le_succ h'))]

/-- One step of the scanner, with the same fuel before and after it. -/
theorem scanFrom_step {fuel : Nat} {p : Cursor} {a t : Text} {k : Option Kind}
    (ha : match? (a ++ t) = some (k, a.length)) (hfuel : (a ++ t).length ≤ fuel) :
    scanFrom fuel p (a ++ t) = (scanFrom fuel (p.after a) t).map fun ls =>
      (k.toList.map fun k => ⟨k, a, p, p.after a⟩) ++ ls := by
  obtain ⟨hpos, -⟩ := match?_sound ha
  cases hat : a ++ t with
  | nil =>
    rw [(List.append_eq_nil_iff.1 hat).1] at hpos
    cases hpos
  | cons c rest =>
    cases fuel with
    | zero =>
      rw [hat] at hfuel
      cases hfuel
    | succ fuel =>
      have hlen : t.length ≤ fuel := by
        rw [List.length_append] at hfuel
        omega
      simp only [scanFrom, ← hat, ha, List.take_left, List.drop_left]
      rw [scanFrom_fuel (p.after a) (Nat.le_succ_of_le hlen) hlen]
      cases k <;> cases scanFrom fuel (p.after a) t <;> rfl

/-- A match without a lexeme is passed over. -/
theorem scanFrom_pass {fuel : Nat} {p : Cursor} {a t : Text}
    (ha : match? (a ++ t) = some (none, a.length)) (hfuel : (a ++ t).length ≤ fuel) :
    scanFrom fuel p (a ++ t) = scanFrom fuel (p.after a) t := by
  rw [scanFrom_step ha hfuel]
  exact Option.map_id'

theorem match?_blank {c : CodePoint} (t : Text) (hc : isGap c = true) :
    match? (c :: t) = some (none, (c :: t.takeWhile isGap).length) := by
  simp only [match?, hc, if_true, run, List.takeWhile_cons_of_pos]

/-- A blank is passed over alone or with those behind it. -/
theorem scanFrom_blank {fuel : Nat} {p : Cursor} {c : CodePoint} {t : Text} (hc : isGap c = true)
    (hfuel : (c :: t).length ≤ fuel) : scanFrom fuel p (c :: t) = scanFrom fuel (p.next c) t := by
  have hrun : ∀ {q : Cursor} {d : CodePoint} {u : Text}, isGap d = true → (d :: u).length ≤ fuel →
      scanFrom fuel q (d :: u)
        = scanFrom fuel ((q.next d).after (u.takeWhile isGap)) (u.dropWhile isGap) := by
    intro q d u hd hlen
    have hsplit : d :: u.takeWhile isGap ++ u.dropWhile isGap = d :: u :=
      congrArg (d :: ·) List.takeWhile_append_dropWhile
    rw [← hsplit] at hlen ⊢
    exact scanFrom_pass (hsplit ▸ match?_blank u hd) hlen
  rw [hrun hc hfuel]
  cases t with
  | nil => rfl
  | cons d t =>
    by_cases hd : isGap d = true
    · rw [hrun hd (Nat.le_of_succ_le hfuel), List.takeWhile_cons_of_pos hd,
        List.dropWhile_cons_of_pos hd]
      rfl
    · rw [List.takeWhile_cons_of_neg hd, List.dropWhile_cons_of_neg hd]
      rfl

/-- A gap is passed over. -/
theorem scanFrom_passes {g rest : Text} (h : Passes g rest) {fuel : Nat} {p : Cursor}
    (hfuel : (g ++ rest).length ≤ fuel) :
    scanFrom fuel p (g ++ rest) = scanFrom fuel (p.after g) rest := by
  induction h generalizing p with
  | nil => rfl
  | @blank c g rest hc h ih =>
    rw [List.cons_append] at hfuel ⊢
    rw [scanFrom_blank hc hfuel, ih (Nat.le_of_succ_le hfuel)]
    rfl
  | @comment a g rest ha h ih =>
    rw [List.append_assoc] at hfuel ⊢
    rw [scanFrom_pass (match?_comment ha) hfuel, ih, Cursor.after_append]
    rw [List.length_append] at hfuel
    omega

/-- The scanner gives lexemes of the relation. -/
theorem scanFrom_lexes {fuel : Nat} {p : Cursor} {t : Text} {ls : List Lexeme}
    (h : scanFrom fuel p t = some ls) : Lexes p t ls := by
  induction fuel generalizing p t ls with
  | zero =>
    cases t with
    | nil =>
      cases h
      exact .done (.nil [])
    | cons c t => cases h
  | succ fuel ih =>
    cases t with
    | nil =>
      cases h
      exact .done (.nil [])
    | cons c t =>
      simp only [scanFrom] at h
      split at h
      · cases h
      rename_i k n hm
      have hsplit : (c :: t).take n ++ (c :: t).drop n = c :: t := List.take_append_drop n _
      split at h
      · rename_i k rest hrest
        cases h
        have hmunch := match?_iff.1 hm
        have hlen : ((c :: t).take n).length = n := List.length_take_of_le hmunch.le
        have hagain : Munch ((c :: t).take n ++ (c :: t).drop n) k ((c :: t).take n).length := by
          rwa [hsplit, hlen]
        have hlexeme := Lexes.lexeme (.nil _) hagain (ih hrest)
        rwa [List.nil_append, hsplit] at hlexeme
      · rename_i rest hrest
        cases h
        have hlen : ((c :: t).take n).length = n := List.length_take_of_le (match?_none hm).1
        rw [← hsplit]
        exact (ih hrest).prepend (by rwa [hsplit, hlen])
      · cases h

/-- The lexemes of the relation are found. -/
theorem Lexes.scanFrom {p : Cursor} {t : Text} {ls : List Lexeme} (h : Lexes p t ls) {fuel : Nat}
    (hfuel : t.length ≤ fuel) : scanFrom fuel p t = some ls := by
  induction h with
  | @done p g hg =>
    rw [← List.append_nil g] at hfuel ⊢
    rw [scanFrom_passes hg hfuel]
    cases fuel <;> rfl
  | @lexeme p g w rest k ls hg hw hrest ih =>
    have hlen : (w ++ rest).length ≤ fuel := by
      rw [List.length_append] at hfuel
      omega
    rw [scanFrom_passes hg hfuel, scanFrom_step (match?_iff.2 hw) hlen, ih]
    · rfl
    · rw [List.length_append] at hlen
      omega

/-- Scanning a text gives the lexemes that the relation gives. -/
theorem scan?_iff {t : Text} {ls : List Lexeme} : scan? t = some ls ↔ Lexes .start t ls :=
  ⟨scanFrom_lexes, fun h => h.scanFrom (Nat.le_refl _)⟩

end Lexeme

end TreeQuote
