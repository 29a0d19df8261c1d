/-
TreeQuote/Proofs/Source/Lexeme.lean

Where the lexemes of a text lie.  `Lies pos t ls` says that the lexemes `ls` stand in
the text `t`, which starts at offset `pos`, one behind the other, with gaps between
them; leaving lexemes out makes the gaps larger and nothing else.

Main statements:
* `scan?_lies`: scanning gives lexemes that lie in the text;
* `scan?_spelled`: a lexeme with a fixed spelling has that spelling as its text;
* `scan?_head`: no lexeme starts with a blank;
* `scan?_digit`: a number starts with a digit.
-/
import TreeQuote.Source.Lexeme

namespace TreeQuote

/-- Moving over a text moves the offset by its length. -/
theorem Cursor.after_offset (p : Cursor) (t : Text) :
    (p.after t).offset = p.offset + t.length := by
  induction t generalizing p with
  | nil => rfl
  | cons c t ih =>
    have hnext : (p.next c).offset = p.offset + 1 := by
      simp only [Cursor.next]; split <;> rfl
    show ((p.next c).after t).offset = _
    rw [ih, hnext, List.length_cons]
    omega

namespace Lexeme

/-! ### Lengths of matches -/

/-- A run whose first code point satisfies the predicate is not empty. -/
theorem run_pos {p : CodePoint → Bool} {c : CodePoint} (t : Text) (h : p c = true) :
    0 < run p (c :: t) := by
  simp [run, h]

/-- A number has at least one digit. -/
theorem numberLength_pos {c : CodePoint} (t : Text) (h : c.isDigit = true) :
    0 < numberLength (c :: t) := by
  have hwhole : 0 < run continuesNumber (c :: t) := run_pos t (by simp [continuesNumber, h])
  have hdecimal : 0 < decimalLength (c :: t) := by
    simp only [decimalLength]
    omega
  cases t with
  | nil => exact hdecimal
  | cons d t =>
    simp only [numberLength]
    split
    · omega
    · split
      · omega
      · exact hdecimal

/-- A comment has at least its two marks. -/
theorem comment?_pos {t : Text} {n : Nat} (h : comment? t = some n) : 0 < n := by
  unfold comment? at h
  split at h
  · split at h
    · simp only [Option.some.injEq] at h
      omega
    · split at h
      · obtain ⟨m, -, rfl⟩ := Option.map_eq_some_iff.1 h
        omega
      · cases h
  · cases h

/-- Punctuation has the spelling of its kind. -/
theorem punctuation?_spelled {t : Text} {k : Kind} {n : Nat} (h : punctuation? t = some (k, n)) :
    k ∈ punctuation ∧ k.fixedText? = some (t.take n) := by
  obtain ⟨j, hj, hk⟩ := List.exists_of_findSome?_eq_some h
  split at hk
  · rename_i p hp
    split at hk
    · rename_i hpre
      simp only [Option.some.injEq, Prod.mk.injEq] at hk
      obtain ⟨rfl, rfl⟩ := hk
      refine ⟨hj, ?_⟩
      rw [hp, Option.some.injEq]
      exact List.prefix_iff_eq_take.1 (List.isPrefixOf_iff_prefix.1 hpre)
    · cases hk
  · cases hk

/-- No punctuation has an empty spelling. -/
theorem punctuation_fixedText?_ne_nil : ∀ k ∈ punctuation, k.fixedText? ≠ some [] := by
  decide

/-- What a word is spelled like: a keyword by its fixed text, an identifier in any way. -/
theorem wordKind_spelled (word : Text) :
    wordKind word = .identifierToken ∨ (wordKind word).fixedText? = some word := by
  rcases hf : Kind.keywords.find? fun k => k.fixedText? = some word with - | k
  · exact Or.inl (by rw [wordKind, hf]; rfl)
  · have hk : k.fixedText? = some word := by simpa using List.find?_some hf
    exact Or.inr (by rw [wordKind, hf]; exact hk)

/-! ### One match -/

/-- Kinds whose tokens are spelled in many ways. -/
def isFree (k : Kind) : Prop :=
  k = .identifierToken ∨ k = .numericLiteralToken ∨ k = .stringLiteralToken

/-- A kind goes with a text: it is free, or the text is its fixed one. -/
def Spells (k : Kind) (t : Text) : Prop := isFree k ∨ k.fixedText? = some t

/-- A match takes at least one code point, and the kind that it gives goes with its text. -/
theorem match?_sound {t : Text} {k : Option Kind} {n : Nat} (h : match? t = some (k, n)) :
    0 < n ∧ ∀ j, k = some j → Spells j (t.take n) := by
  unfold match? at h
  split at h
  · cases h
  rename_i c rest
  split at h
  · rename_i hgap
    cases h
    exact ⟨run_pos rest hgap, by simp⟩
  split at h
  · rename_i m hm
    cases h
    exact ⟨comment?_pos hm, by simp⟩
  split at h
  · rename_i hword
    cases h
    refine ⟨run_pos rest (by simp [continuesWord, hword]), ?_⟩
    rintro j ⟨⟩
    exact (wordKind_spelled _).imp Or.inl id
  split at h
  · rename_i hdigit
    cases h
    refine ⟨numberLength_pos rest hdigit, ?_⟩
    rintro j ⟨⟩
    exact Or.inl (Or.inr (Or.inl rfl))
  split at h
  · obtain ⟨m, -, hm⟩ := Option.map_eq_some_iff.1 h
    cases hm
    refine ⟨Nat.succ_pos m, ?_⟩
    rintro j ⟨⟩
    exact Or.inl (Or.inr (Or.inr rfl))
  · obtain ⟨⟨j, m⟩, hp, hm⟩ := Option.map_eq_some_iff.1 h
    cases hm
    obtain ⟨hmem, hspell⟩ := punctuation?_spelled hp
    refine ⟨Nat.pos_of_ne_zero ?_, ?_⟩
    · rintro rfl
      exact punctuation_fixedText?_ne_nil j hmem hspell
    · rintro i ⟨⟩
      exact Or.inr hspell

/-! ### All matches -/

/-- The lexemes lie in the text that starts at an offset, one behind the other. -/
inductive Lies : Nat → Text → List Lexeme → Prop where
  | nil (pos : Nat) (t : Text) : Lies pos t []
  | cons {pos : Nat} {gap rest : Text} {l : Lexeme} {ls : List Lexeme}
      (hstart : l.start.offset = pos + gap.length)
      (hstop : l.stop.offset = l.start.offset + l.text.length)
      (hne : l.text ≠ []) (hrest : Lies l.stop.offset rest ls) :
      Lies pos (gap ++ l.text ++ rest) (l :: ls)

namespace Lies

variable {pos : Nat} {t : Text} {ls : List Lexeme}

/-- Text in front of the first lexeme is one more gap. -/
theorem append_left {gap : Text} {start : Nat} (h : Lies pos t ls)
    (hpos : pos = start + gap.length) : Lies start (gap ++ t) ls := by
  cases h with
  | nil => exact .nil _ _
  | @cons _ gap' rest l ls hstart hstop hne hrest =>
    have hgap : gap ++ (gap' ++ l.text ++ rest) = (gap ++ gap') ++ l.text ++ rest := by
      simp only [List.append_assoc]
    rw [hgap]
    refine .cons ?_ hstop hne hrest
    rw [hstart, hpos, List.length_append]
    omega

/-- Leaving lexemes out leaves the others where they are. -/
theorem sublist {ls' : List Lexeme} (h : Lies pos t ls) (hs : ls'.Sublist ls) :
    Lies pos t ls' := by
  induction h generalizing ls' with
  | nil => rw [List.sublist_nil.1 hs]; exact .nil _ _
  | @cons pos gap rest l ls hstart hstop hne hrest ih =>
    cases hs with
    | cons _ hs =>
      have hl : l.stop.offset = pos + (gap ++ l.text).length := by
        rw [hstop, hstart, List.length_append]
        omega
      exact (ih hs).append_left hl
    | cons_cons _ hs => exact .cons hstart hstop hne (ih hs)

/-- No lexeme is empty. -/
theorem text_ne_nil (h : Lies pos t ls) : ∀ l ∈ ls, l.text ≠ [] := by
  induction h with
  | nil => simp
  | cons _ _ hne _ ih =>
    intro l hl
    rcases List.mem_cons.1 hl with rfl | hl
    · exact hne
    · exact ih l hl

/-- Each lexeme stands where it starts. -/
theorem split (h : Lies pos t ls) : ∀ l ∈ ls, ∃ before after,
    t = before ++ (l.text ++ after) ∧ l.start.offset = pos + before.length := by
  induction h with
  | nil => exact List.forall_mem_nil _
  | @cons pos gap rest l ls hstart hstop _ _ ih =>
    refine List.forall_mem_cons.2 ⟨⟨gap, rest, List.append_assoc _ _ _, hstart⟩, fun m hm => ?_⟩
    obtain ⟨before, after, rfl, hm⟩ := ih m hm
    refine ⟨gap ++ l.text ++ before, after, by simp only [List.append_assoc], ?_⟩
    rw [hm, hstop, hstart, List.length_append, List.length_append]
    omega

end Lies

/-- Scanning from an offset gives lexemes that lie in the text, each spelled like its kind. -/
theorem scanFrom_sound {fuel : Nat} {p : Cursor} {t : Text} {ls : List Lexeme}
    (h : scanFrom fuel p t = some ls) :
    Lies p.offset t ls ∧ ∀ l ∈ ls, Spells l.kind l.text := by
  induction fuel generalizing p t ls with
  | zero =>
    cases t with
    | nil => cases h; exact ⟨.nil _ _, by simp⟩
    | cons c t => cases h
  | succ fuel ih =>
    cases t with
    | nil => cases h; exact ⟨.nil _ _, by simp⟩
    | cons c t =>
      simp only [scanFrom] at h
      split at h
      · cases h
      rename_i k n hm
      obtain ⟨hn, hspell⟩ := match?_sound hm
      have hoff := Cursor.after_offset p ((c :: t).take n)
      have hsplit : (c :: t).take n ++ (c :: t).drop n = c :: t := List.take_append_drop n _
      split at h
      · rename_i k' rest hrest
        cases h
        obtain ⟨hlies, hall⟩ := ih hrest
        refine ⟨?_, ?_⟩
        · have hne : (c :: t).take n ≠ [] := by
            obtain ⟨m, rfl⟩ := Nat.exists_eq_succ_of_ne_zero (Nat.ne_of_gt hn)
            simp
          have hcons := @Lies.cons p.offset [] _ ⟨k', _, p, _⟩ _ rfl hoff hne hlies
          rw [List.nil_append, hsplit] at hcons
          exact hcons
        · intro l hl
          rcases List.mem_cons.1 hl with rfl | hl
          · exact hspell _ rfl
          · exact hall l hl
      · rename_i rest hrest
        cases h
        obtain ⟨hlies, hall⟩ := ih hrest
        refine ⟨?_, hall⟩
        rw [← hsplit]
        exact hlies.append_left hoff
      · cases h

/-- The lexemes of a text lie in it. -/
theorem scan?_lies {t : Text} {ls : List Lexeme} (h : scan? t = some ls) : Lies 0 t ls :=
  (scanFrom_sound h).1

/-- The lexemes of a text are spelled like their kinds. -/
theorem scan?_spelled {t : Text} {ls : List Lexeme} (h : scan? t = some ls) :
    ∀ l ∈ ls, Spells l.kind l.text :=
  (scanFrom_sound h).2

/-- Each lexeme is a match of its kind. -/
theorem scanFrom_match {fuel : Nat} {p : Cursor} {t : Text} {ls : List Lexeme}
    (h : scanFrom fuel p t = some ls) :
    ∀ l ∈ ls, ∃ u n, match? u = some (some l.kind, n) ∧ l.text = u.take n := by
  induction fuel generalizing p t ls with
  | zero =>
    cases t with
    | nil => cases h; exact List.forall_mem_nil _
    | cons c t => cases h
  | succ fuel ih =>
    cases t with
    | nil => cases h; exact List.forall_mem_nil _
    | cons c t =>
      simp only [scanFrom] at h
      split at h
      · cases h
      rename_i k n hm
      split at h
      · rename_i k' rest hrest
        cases h
        exact List.forall_mem_cons.2 ⟨⟨c :: t, n, hm, rfl⟩, ih hrest⟩
      · rename_i rest hrest
        cases h
        exact ih hrest
      · cases h

/-- No lexeme starts with a blank. -/
theorem match?_head {t : Text} {k : Kind} {n : Nat} (h : match? t = some (some k, n)) :
    ∃ c rest, t = c :: rest ∧ isGap c = false := by
  unfold match? at h
  split at h
  · cases h
  rename_i c rest
  split at h
  · cases h
  · exact ⟨c, rest, rfl, by simpa using ‹¬isGap c = true›⟩

theorem scan?_head {t : Text} {ls : List Lexeme} (h : scan? t = some ls) :
    ∀ l ∈ ls, ∃ c rest, l.text = c :: rest ∧ isGap c = false := by
  intro l hl
  obtain ⟨u, n, hm, htext⟩ := scanFrom_match h l hl
  obtain ⟨hn, -⟩ := match?_sound hm
  obtain ⟨c, rest, rfl, hgap⟩ := match?_head hm
  obtain ⟨m, rfl⟩ := Nat.exists_eq_succ_of_ne_zero (Nat.ne_of_gt hn)
  exact ⟨c, rest.take m, htext, hgap⟩

/-- Only a digit starts a number. -/
theorem match?_digit {t : Text} {n : Nat} (h : match? t = some (some .numericLiteralToken, n)) :
    ∃ c rest, t = c :: rest ∧ c.isDigit = true := by
  unfold match? at h
  split at h
  · cases h
  rename_i c rest
  split at h
  · cases h
  split at h
  · cases h
  split at h
  · have hword : wordKind ((c :: rest).take (run continuesWord (c :: rest)))
        = .numericLiteralToken := by
      simpa using congrArg (Option.map Prod.fst) h
    rcases wordKind_spelled ((c :: rest).take (run continuesWord (c :: rest))) with hid | hfixed
    · rw [hword] at hid
      cases hid
    · rw [hword] at hfixed
      cases hfixed
  split at h
  · rename_i hdigit
    exact ⟨c, rest, rfl, hdigit⟩
  split at h
  · obtain ⟨m, -, hm⟩ := Option.map_eq_some_iff.1 h
    cases hm
  · obtain ⟨⟨j, m⟩, hp, hm⟩ := Option.map_eq_some_iff.1 h
    cases hm
    obtain ⟨-, hfixed⟩ := punctuation?_spelled hp
    cases hfixed

/-- A number starts with a digit. -/
theorem scan?_digit {t : Text} {ls : List Lexeme} (h : scan? t = some ls) {l : Lexeme}
    (hl : l ∈ ls) (hk : l.kind = .numericLiteralToken) :
    ∃ c rest, l.text = c :: rest ∧ c.isDigit = true := by
  obtain ⟨u, n, hm, htext⟩ := scanFrom_match h l hl
  obtain ⟨hn, -⟩ := match?_sound hm
  rw [hk] at hm
  obtain ⟨c, rest, rfl, hdigit⟩ := match?_digit hm
  obtain ⟨m, rfl⟩ := Nat.exists_eq_succ_of_ne_zero (Nat.ne_of_gt hn)
  exact ⟨c, rest.take m, htext, hdigit⟩

end Lexeme

end TreeQuote
