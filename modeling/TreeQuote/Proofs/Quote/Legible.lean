/-
TreeQuote/Proofs/Quote/Legible.lean

The call for a tree can be written as code and read again (`Call.Legible`): its names are names, and
the literals in it, which come from the texts and values of tokens, are strings and numbers.
Trimming only drops modifiers, so a trimmed call can be written as well.

Main statements: `Quote.quoteNode_legible` and `Trim.trim_legible`.
-/
import TreeQuote.Proofs.Call.Spelling
import TreeQuote.Proofs.Quote.Elimination
import TreeQuote.Proofs.Quote.Trim

namespace TreeQuote

open Code Terminal

open scoped Computability

/-! ### Strings -/

namespace Constant

/-- A code point that may stand as it is between double quotes. -/
theorem quotedItem_plain {c : CodePoint} (hq : c ≠ '"') (hb : c ≠ '\\') (hn : c ≠ '\n') :
    [c] ∈ quotedItem (CodePoint.ofChar '"') := by
  refine .inl ⟨c, ?_, rfl⟩
  simp only [Bool.and_eq_true, decide_eq_true_eq]
  exact ⟨⟨hq, hb⟩, hn⟩

/-- A mark behind a backslash. -/
theorem quotedItem_mark {m : CodePoint} (hm : m ≠ '\n') :
    ([CodePoint.ofChar '\\', m] : Text) ∈ quotedItem (CodePoint.ofChar '"') :=
  .inr (mem_single_mul.2 ⟨_, [m], by decide, mem_single.2 ⟨m, decide_eq_true hm, rfl⟩, rfl⟩)

/-- Code points written with escapes are items of a quoted text. -/
theorem Escape.items {c : CodePoint} {t : Text} (h : Escape c t) :
    ∃ ts : List Text, t = ts.flatten ∧ ∀ u ∈ ts, u ∈ quotedItem (CodePoint.ofChar '"') := by
  cases h with
  | plain hlow _ hq hb =>
    have hn : c ≠ '\n' := by
      rintro rfl
      revert hlow
      decide
    exact ⟨[[c]], rfl, List.forall_mem_singleton.2 (quotedItem_plain hq hb hn)⟩
  | mark m hm =>
    have hn : ∀ p ∈ quotedMarks, p.1 ≠ CodePoint.ofChar '\n' := by decide
    exact ⟨[['\\', m]], rfl, List.forall_mem_singleton.2 (quotedItem_mark (hn _ hm))⟩
  | unit _ =>
    refine ⟨['\\', 'u'] :: (Text.hex 4 c.val).map fun d => [d], ?_, ?_⟩
    · rw [List.flatten_cons, ← List.flatMap_def, List.flatMap_singleton']
      rfl
    · refine List.forall_mem_cons.2 ⟨quotedItem_mark (by decide), List.forall_mem_map.2 ?_⟩
      intro d hd
      obtain ⟨n, rfl⟩ := Text.mem_hex hd
      -- Digits are hexadecimal, so none is a backslash.
      have hbackslash : CodePoint.hexDigit n ≠ '\\' := by
        intro he
        have hdigit := CodePoint.isHexDigit_hexDigit n
        rw [he] at hdigit
        revert hdigit
        decide
      exact quotedItem_plain (hexDigit_ne (by decide)) hbackslash (hexDigit_ne (by decide))

end Constant

/-- The literal of a text is a string. -/
theorem Text.literalText_mem {t : Text} (h : t.Unmixed) : t.literalText ∈ Terminal.string := by
  have hquote : Text.of "\"" ∈ single (· = CodePoint.ofChar '"') :=
    ⟨CodePoint.ofChar '"', by decide, by decide⟩
  rw [Text.literalText]
  have hw := Constant.literalText_writes h
  generalize (if t.any CodePoint.isSurrogate then Text.Escaping.ascii else .plain) = e at hw ⊢
  have hbody : t.flatMap (Text.doubleQuotedPoint e) ∈ (quotedItem (CodePoint.ofChar '"'))∗ := by
    clear h
    induction t with
    | nil => exact Language.nil_mem_kstar _
    | cons c t ih =>
      obtain ⟨hc, ht⟩ := List.forall_mem_cons.1 hw
      obtain ⟨ts, hts, hitems⟩ := (Constant.doubleQuotedPoint_escape hc).items
      obtain ⟨us, hus, hrest⟩ := Language.mem_kstar.1 (ih ht)
      rw [List.flatMap_cons, hts, hus, ← List.flatten_append]
      exact Language.join_mem_kstar (List.forall_mem_append.2 ⟨hitems, hrest⟩)
  exact .inl (mem_single_mul.2 ⟨_, _, by decide, Language.append_mem_mul hbody hquote, rfl⟩)

/-! ### Numbers -/

theorem CodePoint.isDecimal_of_isDigit {c : CodePoint} (h : c.isDigit = true) :
    c.isDecimal = true := by
  rw [CodePoint.isDecimal, CodePoint.decimalValue?, if_pos h]
  rfl

theorem Text.IsDigits.several {t : Text} (h : t.IsDigits) (ht : t ≠ []) :
    t ∈ Terminal.several CodePoint.isDecimal :=
  mem_several.2 ⟨ht, fun c hc => CodePoint.isDecimal_of_isDigit (h c hc)⟩

/-- A numeral is a number, with a minus sign in front or without one. -/
theorem Numeral.text_mem {n : Numeral} (h : n.Digits) (negative : Bool) :
    Text.of (if negative then "-" else "") ++ n.text ∈ Terminal.number := by
  have hsign : Text.of (if negative then "-" else "")
      ∈ 1 + Terminal.single (· = CodePoint.ofChar '-') := by
    cases negative with
    | false => exact .inl rfl
    | true => exact .inr ⟨CodePoint.ofChar '-', by decide, by decide⟩
  obtain ⟨whole, fraction, exponent⟩ := n
  have hwhole := h.whole.several h.whole_ne_nil
  have hdigits : whole ++ fractionText ⟨whole, fraction, exponent⟩ ∈ Terminal.digits := by
    cases fraction with
    | none =>
      rw [fractionText, List.append_nil]
      exact .inr hwhole
    | some f =>
      refine .inl (.inl (Language.append_mem_mul hwhole (mem_single_mul.2 ⟨_, f, ?_, ?_, rfl⟩)))
      · decide
      · exact mem_kstar_single.2 fun c hc => CodePoint.isDecimal_of_isDigit (h.fraction f rfl c hc)
  have hexponent : exponentText ⟨whole, fraction, exponent⟩ ∈ 1 + Terminal.exponent := by
    cases exponent with
    | none => exact .inl rfl
    | some x =>
      obtain ⟨ds, hds, hne, -, hx⟩ := exponentText_eq x
      refine .inr (mem_single_mul.2 ⟨_, _, by decide, ?_, rfl⟩)
      rw [hx, ← List.singleton_append]
      refine Language.append_mem_mul (.inr ⟨_, ?_, rfl⟩) (hds.several hne)
      split <;> decide
  rw [text]
  exact Language.append_mem_mul hsign (Language.append_mem_mul hdigits hexponent)

namespace Call

/-- The text of an integer is a number. -/
theorem integer_mem {n : Int} {t : Text} (h : Integer.text? n = some t) : t ∈ Terminal.number := by
  rw [Integer.text?] at h
  split at h
  · rw [Option.some.injEq] at h
    subst h
    cases n with
    | ofNat n =>
      have hmem := Numeral.text_mem (Constant.digits_decimal n) false
      rw [Constant.text_decimal] at hmem
      exact hmem
    | negSucc n =>
      have hmem := Numeral.text_mem (Constant.digits_decimal (n + 1)) true
      rw [Constant.text_decimal] at hmem
      exact hmem
  · cases h

/-- The text of a finite double is a number. -/
theorem double_mem {negative : Bool} {m : Nat} {e : Int}
    (hc : (Double.finite negative m e).Canonical) :
    (Double.finite negative m e).text ∈ Terminal.number := by
  rcases Nat.eq_zero_or_pos m with rfl | hm
  · have hzero : Numeral.Digits ⟨Text.of "0", some (Text.of "0"), none⟩ :=
      ⟨by decide, .replicate_zero 1, fun _ hf => Option.some.inj hf ▸ .replicate_zero 1⟩
    exact Numeral.text_mem hzero negative
  · obtain ⟨n, htext, hdigits, -⟩ := Double.text_numeral hc hm
    rw [htext]
    exact Numeral.text_mem hdigits negative

/-! ### Names -/

/-- Words that are not the module are public names. -/
theorem isPublic_of_word {t : Text}
    (h : (Lexeme.startsWord (t.headD 0) && t.tail.all Lexeme.continuesWord) = true) :
    IsPublic t := by
  refine ⟨name_of_word h, ?_⟩
  rintro ⟨u, rfl⟩
  -- The module name ends with a dot, which is no part of a word.
  simp only [Bool.and_eq_true, List.all_eq_true] at h
  have hdot := h.2 (CodePoint.ofChar '.') (by simp [qualifier, Text.of])
  revert hdot
  decide

/-- The names of kinds are words. -/
theorem kind_word (k : Kind) :
    (Lexeme.startsWord (k.name.headD 0) && k.name.tail.all Lexeme.continuesWord) = true := by
  have hletters : (Kind.all.all fun k =>
      Lexeme.startsWord ((k.letters.val.map CodePoint.ofChar).headD 0)
        && (k.letters.val.map CodePoint.ofChar).tail.all Lexeme.continuesWord) = true := by
    decide +kernel
  rw [k.letters.property]
  exact List.all_eq_true.1 hletters k k.mem_all

/-- The names of properties and constants are words. -/
theorem words :
    (NodeClass.all.all fun c => c.fields.all fun f => f.name.all Lexeme.continuesWord) = true
    ∧ (Catalogue.constants.all fun p => Lexeme.startsWord (p.1.headD 0)
      && p.1.tail.all Lexeme.continuesWord && !literalNames.contains p.1) = true := by
  simp only [NodeClass.fields_eq]
  decide +kernel

theorem isPublic_factory {f : Factory} (h : f ∈ Registry.language) : IsPublic f.name :=
  isPublic_of_word (List.all_eq_true.1 Registry.language_names.2.2.1 f h)

theorem isPublic_type {t : NodeType} (h : t ∈ NodeType.all) : IsPublic t.name :=
  isPublic_of_word (Registry.type_names h).1

/-- A list of calls is legible if each of them is. -/
theorem legibleAll_iff {cs : List Call} : LegibleAll cs ↔ ∀ q ∈ cs, q.Legible := by
  induction cs with
  | nil => simp [LegibleAll]
  | cons c cs ih => rw [LegibleAll, ih, List.forall_mem_cons]

theorem Legible.array {cs : List Call} (h : ∀ q ∈ cs, q.Legible) : (Call.array cs).Legible :=
  legibleAll_iff.2 h

theorem Legible.factory {name : Text} {cs : List Call} (hname : IsFactoryName name)
    (h : ∀ q ∈ cs, q.Legible) : (Call.factory name cs [] []).Legible :=
  ⟨hname, legibleAll_iff.2 h, trivial, trivial⟩

theorem Legible.ofText {t : Text} (h : t.Unmixed) : (Call.ofText t).Legible :=
  .inr (.inl (Text.literalText_mem h))

theorem Legible.ofKind (k : Kind) : (Call.ofKind k).Legible := by
  have hk := name_of_word (kind_word k)
  have hword : (Lexeme.startsWord ((Text.of "SyntaxKind").headD 0)
      && (Text.of "SyntaxKind").tail.all Lexeme.continuesWord) = true := by decide
  have hlength : 10 < (Text.of "SyntaxKind." ++ k.name).length := by
    rw [List.length_append]
    have : (Text.of "SyntaxKind.").length = 11 := by decide
    omega
  refine ⟨⟨dotted_name hword hk, ?_⟩, fun hmem => ?_⟩
  · rintro ⟨u, hu⟩
    exact absurd (List.cons.inj hu).1 (by decide)
  · have hshort : ∀ t ∈ literalNames, t.length ≤ 10 := by decide
    have := hshort _ hmem
    omega

theorem Legible.ofScalar {s : Scalar} {q : Call} (hs : s.Writable) (h : Call.ofScalar s = .ok q) :
    q.Legible := by
  cases s with
  | none =>
    cases h
    exact .inl (by decide)
  | bool b =>
    cases h
    cases b <;> exact .inl (by decide)
  | int n =>
    rw [Call.ofScalar, scalarText] at h
    · cases htext : Integer.text? n with
      | none => rw [htext] at h; cases h
      | some t =>
        rw [htext] at h
        cases h
        exact .inr (.inr (integer_mem htext))
    · exact fun x hx => Scalar.noConfusion hx
  | float x =>
    cases x with
    | nan p => exact hs.elim
    | infinite negative =>
      cases h
      have hunmixed : (Double.infinite negative).text.Unmixed := by cases negative <;> decide
      exact .factory (.inl (isPublic_of_word (by decide)))
        (List.forall_mem_singleton.2 (.ofText hunmixed))
    | finite negative m e =>
      cases h
      exact .inr (.inr (double_mem hs))
  | str t =>
    cases h
    exact .ofText hs

theorem legible_inherits : Quote.Inherits Legible where
  text := .ofText
  kind := .ofKind
  constant {t n} h := by
    rw [Registry.constantName?, Registry.standard_constants, Option.map_eq_some_iff] at h
    obtain ⟨p, hp, rfl⟩ := h
    have hwords := List.all_eq_true.1 words.2 p (List.mem_of_find?_eq_some hp)
    rw [Bool.and_eq_true, Bool.not_eq_true'] at hwords
    exact ⟨isPublic_of_word hwords.1, fun hmem => by simp [hmem] at hwords⟩
  scalar := .ofScalar
  array := .array
  factory hf h := .factory (.inl (isPublic_factory hf)) h

end Call

/-! ### Trees -/

namespace Quote

open Call

variable {o : Options}

/-- The call of a list is legible if those of its members are. -/
theorem listCall_legible {t : NodeType} {f g : Factory} {one many : String} {cs : List Call} {q : Call}
    (ht : t ∈ NodeType.all) (hf : f ∈ Registry.language) (hg : g ∈ Registry.language)
    (hone : f.name = Text.of one) (hmany : g.name = Text.of many) (h : ∀ q ∈ cs, q.Legible)
    (hq : listCall (listName one many t.name cs) cs = some q) : q.Legible := by
  have hname : IsFactoryName (listName one many t.name cs) := by
    refine .inr ⟨Text.of (if cs.length = 1 then one else many), t.name, ?_, isPublic_type ht, ?_⟩
    swap
    · rw [listName, List.append_assoc, List.append_assoc]
    split
    · exact hone ▸ isPublic_factory hf
    · exact hmany ▸ isPublic_factory hg
  rcases cs with _ | ⟨c, _ | ⟨d, cs⟩⟩
  · cases hq
  · cases hq
    exact .factory hname h
  · cases hq
    exact .factory hname (List.forall_mem_singleton.2 (.array h))

theorem listItems?_legible {q : Call} {items : List Call} (hq : q.Legible)
    (h : listItems? q = some items) : ∀ d ∈ items, d.Legible := by
  have hone : ∀ {name : Text} {a : Call}, (Call.factory name [a] [] []).Legible → a.Legible :=
    fun h => h.2.1.1
  unfold listItems? at h
  split at h
  · split at h
    · cases h
      exact List.forall_mem_singleton.2 (hone hq)
    · split at h
      · cases h
        exact legibleAll_iff.1 (hone hq)
      · cases h
  · split at h
    · cases h
      exact List.forall_mem_singleton.2 (hone hq)
    · cases h
  · cases h

theorem stringArgument?_legible {q a : Call} (hq : q.Legible) (h : stringArgument? q = some a) :
    a.Legible := by
  unfold stringArgument? at h
  split at h
  · split at h
    · split at h
      · cases h
        exact hq
      · cases h
    · cases h
  · split at h
    · cases h
      exact hq.2.1.1
    · cases h
  · cases h

section Rows

variable {c : NodeClass} {ps : List Parameter} {fs : List Field} {parts : List Part}
  {vs : List Value} {qs : List (Option Call)}

/-- What is written for a legible call is legible. -/
theorem written_legible {p : Parameter} {q : Option Call} (h : ∀ d, q = some d → d.Legible) :
    ∀ d ∈ written p q, d.Legible := by
  cases q with
  | none => exact List.forall_mem_nil _
  | some q =>
    have hq := h q rfl
    rw [written]
    split
    · cases hitems : listItems? q with
      | none => exact List.forall_mem_nil _
      | some items => exact listItems?_legible hq hitems
    · refine List.forall_mem_singleton.2 ?_
      split
      · cases hstring : stringArgument? q with
        | none => exact hq
        | some a => exact stringArgument?_legible hq hstring
      · exact hq

theorem arguments_legible (h : ∀ q ∈ qs, ∀ d, q = some d → d.Legible) :
    ∀ d ∈ arguments c ps fs parts qs, d.Legible := by
  induction fs generalizing ps parts qs with
  | nil => cases ps <;> exact List.forall_mem_nil _
  | cons f fs ih =>
    cases parts with
    | nil => cases ps <;> exact List.forall_mem_nil _
    | cons part parts =>
      cases qs with
      | nil => cases ps <;> exact List.forall_mem_nil _
      | cons q qs =>
        obtain ⟨hq, hqs⟩ := List.forall_mem_cons.1 h
        cases hleaves : part.leaves c f with
        | true =>
          rw [arguments_leave hleaves]
          exact ih hqs
        | false =>
          cases ps with
          | nil =>
            rw [arguments, hleaves]
            exact List.forall_mem_nil _
          | cons p ps =>
            rw [arguments_carry hleaves]
            exact List.forall_mem_append.2 ⟨written_legible hq, ih hqs⟩

theorem modifier_name {f : Field} (hc : c ∈ NodeClass.all) (hf : f ∈ c.fields) :
    Text.of "with_" ++ f.name ∈ Terminal.name := by
  have hname := List.all_eq_true.1 (List.all_eq_true.1 words.1 c hc) f hf
  have hhead : Lexeme.startsWord (CodePoint.ofChar 'w') = true := by decide
  refine name_of_word (Bool.and_eq_true_iff.2 ⟨hhead, ?_⟩)
  have hrest : (Text.of "with_" ++ f.name).tail = Text.of "ith_" ++ f.name := rfl
  have hmark : (Text.of "ith_").all Lexeme.continuesWord = true := by decide
  rw [hrest, List.all_append, hname, hmark]
  rfl

theorem leftOver_legible (hc : c ∈ NodeClass.all) (hfs : ∀ f ∈ fs, f ∈ c.fields)
    (h : ∀ q ∈ qs, ∀ d, q = some d → d.Legible) :
    LegibleModifiers ((leftOver c fs parts qs).map Quoted.modifier) := by
  induction fs generalizing parts qs with
  | nil => trivial
  | cons f fs ih =>
    cases parts with
    | nil => trivial
    | cons part parts =>
      cases qs with
      | nil => trivial
      | cons q qs =>
        obtain ⟨hq, hqs⟩ := List.forall_mem_cons.1 h
        obtain ⟨hf, hrest⟩ := List.forall_mem_cons.1 hfs
        cases hleaves : part.leaves c f with
        | false =>
          rw [leftOver_carry hleaves]
          exact ih hrest hqs
        | true =>
          cases q with
          | none =>
            rw [leftOver_blank]
            exact ih hrest hqs
          | some d =>
            rw [leftOver_written d hleaves, List.map_cons]
            exact ⟨modifier_name hc hf, ⟨hq d rfl, trivial⟩, ih hrest hqs⟩

theorem Rows.calls {K : Value → Call → Prop} (h : Rows K c fs vs qs) :
    ∀ q ∈ qs, ∀ d, q = some d → ∃ v, K v d := by
  induction h with
  | nil => exact List.forall_mem_nil _
  | cons _ _ hq _ ih =>
    refine List.forall_mem_cons.2 ⟨?_, ih⟩
    rintro d rfl
    cases hq with
    | written hwrites => exact ⟨_, hwrites.sense⟩

end Rows

theorem legible_of_forall₂ {vs : List Value} {cs : List Call}
    (h : List.Forall₂ (fun _ q => Legible q) vs cs) : ∀ q ∈ cs, q.Legible := by
  induction h with
  | nil => exact List.forall_mem_nil _
  | cons hq _ ih => exact List.forall_mem_cons.2 ⟨hq, ih⟩

/-- Each step of quoting gives a legible call. -/
theorem legible_sense : Sense o fun _ q => q.Legible where
  text := .ofText
  kind := .ofKind
  token ht hq := legible_inherits.quoteToken ht hq
  absent := legible_inherits.leaf 7 rfl (List.forall_mem_singleton.2 (.ofKind .none))
  tokens _ hcs hq := legible_inherits.listCall (Registry.leaf_mem 11 rfl) (legible_of_forall₂ hcs) hq
  nodes ht _ hcs hq := listCall_legible ht (Registry.list_mem 1 rfl) (Registry.list_mem 0 rfl) rfl rfl
    (legible_of_forall₂ hcs) hq
  separated ht _ _ hcs hq := listCall_legible ht (Registry.list_mem 3 rfl) (Registry.list_mem 2 rfl)
    rfl rfl (legible_of_forall₂ hcs) hq
  node hadmits hrows hsuits := by
    have hqs : ∀ q ∈ _, ∀ d, q = some d → Legible d := fun q hq d hd =>
      (hrows.calls q hq d hd).elim fun _ h => h
    exact ⟨.inl (isPublic_factory hsuits.sound.mem), legibleAll_iff.2 (arguments_legible hqs),
      trivial, leftOver_legible hadmits.class_mem (fun _ h => h) hqs⟩

/-- The call for a well-formed tree is legible. -/
theorem quoteNode_legible {v : Value} {q : Call} (h : v.WellFormed)
    (hq : quoteNode .standard o v = .ok q) : q.Legible := by
  obtain ⟨q', hq', hlegible⟩ := legible_sense.quoteNode h
  cases hq.symm.trans hq'
  exact hlegible

/-- A call that ends with the layout is legible. -/
theorem modifiedBy_legible {q : Call} (h : q.Legible) : (q.modifiedBy [.normalize]).Legible := by
  have hconcat : ∀ ms : List Modifier, LegibleModifiers ms
      → LegibleModifiers (ms ++ [.normalize]) := by
    intro ms hms
    induction ms with
    | nil => exact ⟨name_of_word (by decide), trivial, trivial⟩
    | cons m ms ih =>
      obtain ⟨name, as⟩ := m
      exact ⟨hms.1, hms.2.1, ih hms.2.2⟩
  cases q with
  | factory name args kws mods => exact ⟨h.1, h.2.1, h.2.2.1, hconcat mods h.2.2.2⟩
  | _ => exact h

end Quote

/-! ### Trimming -/

namespace Trim

open Call Evaluate

variable {r : Registry} {o : Options}

theorem legibleModifiers_sublist {ms ns : List Modifier} (h : ns.Sublist ms)
    (hms : LegibleModifiers ms) : LegibleModifiers ns := by
  induction h with
  | slnil => trivial
  | cons m _ ih =>
    obtain ⟨name, as⟩ := m
    exact ih hms.2.2
  | cons_cons m _ ih =>
    obtain ⟨name, as⟩ := m
    exact ⟨hms.1, hms.2.1, ih hms.2.2⟩

theorem legible_follows : Follows r o (fun c d => c.Legible → d.Legible)
    (fun cs ds => LegibleAll cs → LegibleAll ds)
    (fun ks ls => LegibleKeywords ks → LegibleKeywords ls)
    (fun ms ns => LegibleModifiers ms → LegibleModifiers ns) where
  literal _ h := h
  ref _ h := h
  hole h := h
  array hitems := hitems
  factory _ _ _ hchain hargs hkws hmods h := by
    obtain ⟨kept, hsub, rfl⟩ := chain_eq_ok hchain
    obtain ⟨hname, hargs', hkws', hmods'⟩ := h
    exact ⟨hname, hargs hargs', hkws hkws', legibleModifiers_sublist hsub (hmods hmods')⟩
  nil h := h
  cons hhead htail h := ⟨hhead h.1, htail h.2⟩
  noKeywords h := h
  keyword hhead htail h := ⟨h.1, hhead h.2.1, htail h.2.2⟩
  noModifiers h := h
  modifier _ hargs hmods h := ⟨h.1, hargs h.2.1, hmods h.2.2⟩

/-- What is left of a legible call is legible. -/
theorem trim_legible {c d : Call} {n : Nat} (h : trim r o c = .ok (d, n)) (hc : c.Legible) :
    d.Legible :=
  legible_follows.trim h hc

end Trim

end TreeQuote
