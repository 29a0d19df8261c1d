/-
TreeQuote/Proofs/Call/Reading.lean

Reading what was printed.  The reader goes through the pieces of a call in the order in which
the printer wrote them; three steps for each piece are enough, and the check of the arguments
behind it finds them where the call has them.

Main statement: `read_print?`, the code of a legible call reads as that call.
-/
import TreeQuote.Proofs.Call.Spelling

namespace TreeQuote.Code

/-! ### Tokens and pieces -/

/-- The tokens after a value: a comma, a closing bracket, or the end. -/
def Closes (ts : List Token) : Prop :=
  next ts ∈ [TokenClass.comma, .closeParen, .closeBracket, .finish]

@[simp] theorem next_cons (t : Token) (ts : List Token) : next (t :: ts) = t.sort := rfl

theorem expect_cons {t : Token} {ts : List Token} {s : TokenClass} (h : t.sort = s) :
    expect s (t :: ts) = .ok (t, ts) := by
  rw [expect, if_pos h]

/-- The token in front of some tokens with given pieces. -/
theorem exists_cons_of_map_piece {us : List Token} {p : Piece} {ps : List Piece}
    (h : us.map Token.piece = p :: ps) :
    ∃ t ts, us = t :: ts ∧ t.sort = p.1 ∧ t.text = p.2 ∧ ts.map Token.piece = ps := by
  obtain ⟨t, ts, rfl, ht, hts⟩ := List.map_eq_cons_iff.1 h
  exact ⟨t, ts, rfl, congrArg Prod.fst ht, congrArg Prod.snd ht, hts⟩

/-! ### Names -/

theorem unqualified_of_public {n : Text} (h : ¬ Call.qualifier <+: n) : unqualified n = n := by
  rw [unqualified, if_neg (by simpa [List.isPrefixOf_iff_prefix] using h)]

theorem unqualified_append (n : Text) : unqualified (Call.qualifier ++ n) = n := by
  rw [unqualified, if_pos (by simp [List.isPrefixOf_iff_prefix]), List.drop_left]

theorem unqualified_qualified (o : Options) {n : Text} (h : ¬ Call.qualifier <+: n) :
    unqualified (Call.qualified o n) = n := by
  unfold Call.qualified
  split
  · exact unqualified_of_public h
  · exact unqualified_append n

theorem unqualified_printPart (o : Options) (name : Text) {n : Text}
    (h : ¬ Call.qualifier <+: n) : unqualified (Call.printPart o name n) = n := by
  unfold Call.printPart
  split
  · exact unqualified_of_public h
  · exact unqualified_qualified o h

theorem unqualified_printRef (o : Options) {n : Text} (h : ¬ Call.qualifier <+: n) :
    unqualified (Call.printRef o n) = n := by
  unfold Call.printRef
  split
  · exact unqualified_qualified o h
  · exact unqualified_of_public h

/-! ### Values -/

/-- The pieces start a value: a name does not start an argument by name. -/
def StartsValue (ps : List Piece) : Prop :=
  ∃ p qs, ps = p :: qs ∧ (p.1 = .string ∨ p.1 = .number ∨ p.1 = .openBracket
    ∨ (p.1 = .name ∧ ∀ q ∈ qs.head?, q.1 ≠ .equals))

/-- Tokens with the given pieces are read as a call. -/
structure Reads (c : Call) (ps : List Piece) : Prop where
  starts : StartsValue ps
  value : ∀ us rest fuel, us.map Token.piece = ps → Closes rest → 3 * ps.length ≤ fuel →
    ∃ d, value fuel (us ++ rest) = .ok (d, rest) ∧ d.call? = .ok c

/-- Tokens with the given pieces are read as an argument, which may have a name. -/
structure ReadsArgument (a : Option Text × Call) (ps : List Piece) : Prop where
  starts : ∃ p qs, ps = p :: qs ∧ p.1 ≠ .closeParen
  argument : ∀ us rest fuel, us.map Token.piece = ps → Closes rest → 3 * ps.length + 1 ≤ fuel →
    ∃ n d, argument fuel (us ++ rest) = .ok (.mk n d, rest) ∧ n.map Token.text = a.1
      ∧ d.call? = .ok a.2

/-- A value is an argument without a name. -/
theorem readsArgument_positional {c : Call} {ps : List Piece} (h : Reads c ps) :
    ReadsArgument (none, c) ps := by
  obtain ⟨p, qs, rfl, hp⟩ := h.starts
  refine ⟨⟨p, qs, rfl, ?_⟩, ?_⟩
  · rcases hp with hp | hp | hp | ⟨hp, -⟩ <;> rw [hp] <;> decide
  · intro us rest fuel hus hrest hfuel
    obtain ⟨fuel, rfl⟩ : ∃ k, fuel = k + 1 := ⟨fuel - 1, by omega⟩
    obtain ⟨d, hd, hc⟩ := h.value us rest fuel hus hrest (by omega)
    refine ⟨none, d, ?_, rfl, hc⟩
    have hkey : (next (us ++ rest) = .name && next ((us ++ rest).drop 1) = .equals) = false := by
      obtain ⟨t, ts, rfl, hsort, -, hts⟩ := exists_cons_of_map_piece hus
      rw [List.cons_append, next_cons, List.drop_one, List.tail_cons, hsort]
      rcases hp with hp | hp | hp | ⟨hp, hnext⟩
      · simp [hp]
      · simp [hp]
      · simp [hp]
      · cases ts with
        | nil =>
          have : next rest ≠ .equals := by
            intro heq
            rw [Closes, heq] at hrest
            exact absurd hrest (by decide)
          simp [this]
        | cons t' ts =>
          obtain rfl := hts
          have hother : t'.sort ≠ .equals := hnext t'.piece rfl
          simp [hother]
    simp only [argument, hkey, hd, Bool.false_eq_true, if_false]
    rfl

/-- A value with a name in front is an argument by name. -/
theorem readsArgument_named {c : Call} {ps : List Piece} (n : Text) (h : Reads c ps) :
    ReadsArgument (some n, c) ((.name, n) :: (.equals, Text.of "=") :: ps) := by
  refine ⟨⟨_, _, rfl, nofun⟩, ?_⟩
  intro us rest fuel hus hrest hfuel
  obtain ⟨t, ts, rfl, hsort, htext, hts⟩ := exists_cons_of_map_piece hus
  obtain ⟨e, us, rfl, hesort, -, hus⟩ := exists_cons_of_map_piece hts
  simp only [List.length_cons] at hfuel
  obtain ⟨fuel, rfl⟩ : ∃ k, fuel = k + 1 := ⟨fuel - 1, by omega⟩
  obtain ⟨d, hd, hc⟩ := h.value us rest fuel hus hrest (by omega)
  refine ⟨some t, d, ?_, by rw [Option.map_some, htext], hc⟩
  simp only [argument, List.cons_append, next_cons, hsort, hesort, List.drop_one, List.tail_cons,
    decide_true, Bool.and_self, if_true, expect_cons hsort, Bind.bind, Except.bind,
    expect_cons hesort, hd]
  rfl

/-! ### Loops -/

/-- The token that separates or closes, behind some tokens. -/
theorem closes_cons {t : Token} {ts : List Token}
    (h : t.sort = .comma ∨ t.sort = .closeParen ∨ t.sort = .closeBracket) : Closes (t :: ts) := by
  rw [Closes, next_cons]
  rcases h with h | h | h <;> rw [h] <;> decide

/-- The tokens of a list: those of its first element, and then the closing token alone or a comma
in front of the tokens of the others. -/
theorem split_commaPieces {us : List Token} {ps : List Piece} {pss : List (List Piece)}
    {close : Piece} (h : us.map Token.piece = Call.commaPieces (ps :: pss) ++ [close]) :
    ∃ vs t ws, us = vs ++ t :: ws ∧ vs.map Token.piece = ps
      ∧ ((pss = [] ∧ t.sort = close.1 ∧ ws = [])
        ∨ (t.sort = .comma ∧ ws.map Token.piece = Call.commaPieces pss ++ [close])) := by
  cases pss with
  | nil =>
    rw [Call.commaPieces, List.intercalate_singleton] at h
    obtain ⟨vs, us, rfl, hvs, hus⟩ := List.map_eq_append_iff.1 h
    obtain ⟨t, ts, rfl, hsort, -, hts⟩ := exists_cons_of_map_piece hus
    obtain rfl := List.map_eq_nil_iff.1 hts
    exact ⟨vs, t, [], rfl, hvs, Or.inl ⟨rfl, hsort, rfl⟩⟩
  | cons qs qss =>
    rw [Call.commaPieces_cons_cons, List.append_assoc] at h
    obtain ⟨vs, us, rfl, hvs, hus⟩ := List.map_eq_append_iff.1 h
    obtain ⟨t, ts, rfl, hsort, -, hts⟩ := exists_cons_of_map_piece hus
    exact ⟨vs, t, ts, rfl, hvs, Or.inr ⟨hsort, hts⟩⟩

/-- Tokens whose pieces start a value or an argument are not at an end. -/
theorem next_of_starts {us : List Token} {p : Piece} {ps : List Piece} (rest : List Token)
    (h : us.map Token.piece = p :: ps) : next (us ++ rest) = p.1 := by
  obtain ⟨t, ts, rfl, hsort, -, -⟩ := exists_cons_of_map_piece h
  exact hsort

/-- The items of an array are read up to its closing bracket. -/
theorem items_commaPieces {cs : List Call} {pss : List (List Piece)}
    (h : List.Forall₂ Reads cs pss) (us rest : List Token) (fuel : Nat)
    (hus : us.map Token.piece = Call.commaPieces pss ++ [(.closeBracket, Text.of "]")])
    (hfuel : 3 * us.length ≤ fuel) :
    ∃ ds, items fuel (us ++ rest) = .ok (ds, rest) ∧ calls? ds = .ok cs := by
  induction h generalizing us fuel with
  | nil =>
    obtain ⟨t, ts, rfl, hsort, -, hts⟩ := exists_cons_of_map_piece hus
    obtain rfl := List.map_eq_nil_iff.1 hts
    obtain ⟨fuel, rfl⟩ : ∃ k, fuel = k + 1 := ⟨fuel - 1, by simp at hfuel; omega⟩
    refine ⟨[], ?_, rfl⟩
    simp only [items, List.cons_append, next_cons, hsort, if_true]
    rfl
  | @cons c ps cs pss hc hcs ih =>
    obtain ⟨vs, t, ws, rfl, hvs, hnext⟩ := split_commaPieces hus
    have hlen : vs.length = ps.length := by rw [← hvs, List.length_map]
    simp only [List.length_append, List.length_cons] at hfuel
    obtain ⟨fuel, rfl⟩ : ∃ k, fuel = k + 1 := ⟨fuel - 1, by omega⟩
    have hopen : next (vs ++ (t :: ws ++ rest)) ≠ .closeBracket := by
      obtain ⟨p, qs, rfl, hp⟩ := hc.starts
      rw [next_of_starts _ hvs]
      rcases hp with hp | hp | hp | ⟨hp, -⟩ <;> rw [hp] <;> decide
    have hclose : Closes (t :: ws ++ rest) := by
      refine closes_cons ?_
      rcases hnext with ⟨-, hsort, -⟩ | ⟨hsort, -⟩
      · exact Or.inr (Or.inr hsort)
      · exact Or.inl hsort
    obtain ⟨d, hd, hcall⟩ := hc.value vs (t :: ws ++ rest) fuel hvs hclose (by omega)
    rw [List.append_assoc]
    rcases hnext with ⟨rfl, hsort, rfl⟩ | ⟨hsort, hws⟩
    · cases hcs
      refine ⟨[d], ?_, ?_⟩
      · simp only [items, hopen, if_false, hd, Bind.bind, Except.bind]
        simp only [List.cons_append, List.nil_append, next_cons, hsort, if_true]
        rfl
      · simp only [calls?, hcall]
        rfl
    · obtain ⟨ds, hds, hcalls⟩ := ih ws fuel hws (by omega)
      refine ⟨d :: ds, ?_, ?_⟩
      · simp only [items, hopen, if_false, hd, Bind.bind, Except.bind]
        simp only [List.cons_append, next_cons, hsort, expect_cons hsort, hds]
        rfl
      · simp only [calls?, hcall, hcalls, Bind.bind, Except.bind]
        rfl

/-- A draft of an argument stands for an argument, which may have a name. -/
def DraftArgument.Gives : DraftArgument → Option Text × Call → Prop
  | .mk n d, a => n.map Token.text = a.1 ∧ d.call? = .ok a.2

/-- Arguments are read up to the closing parenthesis. -/
theorem arguments_commaPieces {as : List (Option Text × Call)} {pss : List (List Piece)}
    (h : List.Forall₂ ReadsArgument as pss) (us rest : List Token) (fuel : Nat)
    (hus : us.map Token.piece = Call.commaPieces pss ++ [(.closeParen, Text.of ")")])
    (hfuel : 3 * us.length ≤ fuel) :
    ∃ ds, arguments fuel (us ++ rest) = .ok (ds, rest)
      ∧ List.Forall₂ DraftArgument.Gives ds as := by
  induction h generalizing us fuel with
  | nil =>
    obtain ⟨t, ts, rfl, hsort, -, hts⟩ := exists_cons_of_map_piece hus
    obtain rfl := List.map_eq_nil_iff.1 hts
    obtain ⟨fuel, rfl⟩ : ∃ k, fuel = k + 1 := ⟨fuel - 1, by simp at hfuel; omega⟩
    refine ⟨[], ?_, .nil⟩
    simp only [arguments, List.cons_append, next_cons, hsort, if_true]
    rfl
  | @cons a ps as pss ha has ih =>
    obtain ⟨vs, t, ws, rfl, hvs, hnext⟩ := split_commaPieces hus
    have hlen : vs.length = ps.length := by rw [← hvs, List.length_map]
    simp only [List.length_append, List.length_cons] at hfuel
    obtain ⟨fuel, rfl⟩ : ∃ k, fuel = k + 1 := ⟨fuel - 1, by omega⟩
    have hopen : next (vs ++ (t :: ws ++ rest)) ≠ .closeParen := by
      obtain ⟨p, qs, rfl, hp⟩ := ha.starts
      rw [next_of_starts _ hvs]
      exact hp
    have hclose : Closes (t :: ws ++ rest) := by
      refine closes_cons ?_
      rcases hnext with ⟨-, hsort, -⟩ | ⟨hsort, -⟩
      · exact Or.inr (Or.inl hsort)
      · exact Or.inl hsort
    obtain ⟨n, d, hd, hgives⟩ := ha.argument vs (t :: ws ++ rest) fuel hvs hclose (by omega)
    rw [List.append_assoc]
    rcases hnext with ⟨rfl, hsort, rfl⟩ | ⟨hsort, hws⟩
    · cases has
      refine ⟨[.mk n d], ?_, .cons hgives .nil⟩
      simp only [arguments, hopen, if_false, hd, Bind.bind, Except.bind]
      simp only [List.cons_append, List.nil_append, next_cons, hsort, if_true]
      rfl
    · obtain ⟨ds, hds, hall⟩ := ih ws fuel hws (by omega)
      refine ⟨.mk n d :: ds, ?_, .cons hgives hall⟩
      simp only [arguments, hopen, if_false, hd, Bind.bind, Except.bind]
      simp only [List.cons_append, next_cons, hsort, expect_cons hsort, hds]
      rfl

/-! ### The check of the arguments -/

/-- An argument by name as the reader finds it. -/
def named (k : Keyword) : Option Text × Call := (some k.name, k.value)

/-- Arguments by name, behind any others. -/
theorem arguments?_named {ds : List DraftArgument} {ks : List Keyword} (owner : Token)
    (before : Bool) (h : List.Forall₂ DraftArgument.Gives ds (ks.map named))
    (hdot : ∀ k ∈ ks, CodePoint.ofChar '.' ∉ k.name) :
    arguments? owner before ds = .ok ([], ks) := by
  induction ks generalizing ds before with
  | nil => cases h; rfl
  | cons k ks ih =>
    cases h with
    | @cons a _ ds _ ha hds =>
      obtain ⟨m, d⟩ := a
      obtain ⟨n, v⟩ := k
      obtain ⟨hname, hcall⟩ := ha
      obtain ⟨t, rfl, rfl⟩ := Option.map_eq_some_iff.1 hname
      obtain ⟨hk, hks⟩ := List.forall_mem_cons.1 hdot
      have hnodot : t.text.contains (CodePoint.ofChar '.') = false := by
        simpa [List.contains_eq_mem, Keyword.name] using hk
      simp only [arguments?, hnodot, Bool.false_eq_true, if_false, hcall, ih true hds hks,
        Bind.bind, Except.bind]
      rfl

/-- Arguments by position in front of arguments by name. -/
theorem arguments?_positional {ds : List DraftArgument} {args : List Call} {ks : List Keyword}
    (owner : Token)
    (h : List.Forall₂ DraftArgument.Gives ds (args.map (fun c => (none, c)) ++ ks.map named))
    (hdot : ∀ k ∈ ks, CodePoint.ofChar '.' ∉ k.name) :
    arguments? owner false ds = .ok (args, ks) := by
  induction args generalizing ds with
  | nil => exact arguments?_named owner false h hdot
  | cons c args ih =>
    cases h with
    | @cons a _ ds _ ha hds =>
      obtain ⟨m, d⟩ := a
      obtain ⟨hname, hcall⟩ := ha
      obtain rfl := Option.map_eq_none_iff.1 hname
      simp only [arguments?, Bool.false_eq_true, if_false, hcall, ih hds, Bind.bind, Except.bind]
      rfl

/-! ### Calls -/

/-- Tokens with the given pieces are read as modifiers. -/
def ReadsModifiers (ms : List Modifier) (ps : List Piece) : Prop :=
  ∀ us rest fuel, us.map Token.piece = ps → next rest ≠ .dot → 3 * ps.length + 1 ≤ fuel →
    ∃ ds, modifiers fuel (us ++ rest) = .ok (ds, rest) ∧ modifiers? ds = .ok ms

/-- The type in the name of a factory. -/
def typeSuffix : Option Token → Text
  | some t => Text.of "[" ++ unqualified t.text ++ Text.of "]"
  | none => []

/-- The name of a factory is read up to the parenthesis behind it. -/
theorem type?_namePieces (o : Options) {name : Text} (h : Call.IsFactoryName name) :
    ∃ n ts, Call.namePieces o name = (.name, n) :: ts ∧ (∀ q ∈ ts.head?, q.1 = .openBracket)
      ∧ ∀ us rest, us.map Token.piece = ts → next rest = .openParen →
        (next (us ++ rest) = .openParen ∨ next (us ++ rest) = .openBracket)
          ∧ ∃ type, type? (us ++ rest) = .ok (type, rest)
            ∧ unqualified n ++ typeSuffix type = name := by
  rcases h with ⟨hname, hpublic⟩ | ⟨b, t, ⟨hb, hbpublic⟩, ⟨ht, htpublic⟩, hn⟩
  · obtain ⟨hbase, htype⟩ := Call.baseName_of_name hname
    refine ⟨_, [], by rw [Call.namePieces, htype, hbase], by rintro q ⟨⟩, ?_⟩
    intro us rest hus hrest
    obtain rfl := List.map_eq_nil_iff.1 hus
    refine ⟨Or.inl hrest, none, ?_, ?_⟩
    · simp only [type?, List.nil_append, hrest, reduceCtorEq, if_false]
      rfl
    · rw [unqualified_printPart o name hpublic, typeSuffix, List.append_nil]
  · obtain ⟨hbase, htype⟩ := Call.baseName_of_generic hb ht
    rw [← hn] at hbase htype
    refine ⟨_, _, by rw [Call.namePieces, htype, hbase], by rintro q ⟨⟩; rfl, ?_⟩
    intro us rest hus hrest
    obtain ⟨t₁, ts, rfl, hopen, -, hts⟩ := exists_cons_of_map_piece hus
    obtain ⟨t₂, ts, rfl, hsort, htext, hts⟩ := exists_cons_of_map_piece hts
    obtain ⟨t₃, ts, rfl, hclose, -, hts⟩ := exists_cons_of_map_piece hts
    obtain rfl := List.map_eq_nil_iff.1 hts
    refine ⟨Or.inr hopen, some t₂, ?_, ?_⟩
    · simp only [type?, List.cons_append, next_cons, hopen, if_true, expect_cons hopen, Bind.bind,
        Except.bind, expect_cons hsort, expect_cons hclose]
      rfl
    · rw [unqualified_printPart o name hbpublic, typeSuffix, htext,
        unqualified_printPart o name htpublic, hn, List.append_assoc]

/-- A call is read from its name, its arguments and its modifiers. -/
theorem reads_factory (o : Options) {name : Text} {args : List Call} {ks : List Keyword}
    {ms : List Modifier} {pss qss : List (List Piece)} {qs : List Piece}
    (hname : Call.IsFactoryName name) (hargs : List.Forall₂ Reads args pss)
    (hks : List.Forall₂ ReadsArgument (ks.map named) qss)
    (hdot : ∀ k ∈ ks, CodePoint.ofChar '.' ∉ k.name) (hms : ReadsModifiers ms qs) :
    Reads (.factory name args ks ms)
      (Call.namePieces o name ++ (Call.argumentPieces (pss ++ qss) ++ qs)) := by
  obtain ⟨n, ts, hpieces, hhead, htype⟩ := type?_namePieces o hname
  have hall : List.Forall₂ ReadsArgument (args.map (fun c => (none, c)) ++ ks.map named)
      (pss ++ qss) := by
    refine List.rel_append ?_ hks
    exact List.forall₂_map_left_iff.2 (hargs.imp fun _ _ => readsArgument_positional)
  rw [hpieces]
  refine ⟨⟨_, _, rfl, Or.inr (Or.inr (Or.inr ⟨rfl, ?_⟩))⟩, ?_⟩
  · intro q hq
    cases ts with
    | nil =>
      obtain rfl := Option.some.inj hq
      nofun
    | cons p ts =>
      rw [hhead q hq]
      nofun
  · intro us rest fuel hus hrest hfuel
    obtain ⟨t, us, rfl, hsort, htext, hus⟩ := exists_cons_of_map_piece hus
    obtain ⟨us₁, us, rfl, hus₁, hus⟩ := List.map_eq_append_iff.1 hus
    obtain ⟨us₂, us₄, rfl, hus₂, hus₄⟩ := List.map_eq_append_iff.1 hus
    obtain ⟨p, us₃, rfl, hparen, -, hus₃⟩ := exists_cons_of_map_piece hus₂
    have hlen₃ : us₃.length + 1 = (Call.argumentPieces (pss ++ qss)).length := by
      rw [← hus₂, List.length_map, List.length_cons]
    have hlen₄ : us₄.length = qs.length := by rw [← hus₄, List.length_map]
    simp only [List.cons_append, List.length_cons, List.length_append] at hfuel
    obtain ⟨fuel, rfl⟩ : ∃ k, fuel = k + 1 := ⟨fuel - 1, by omega⟩
    obtain ⟨ds, hds, hgives⟩ :=
      arguments_commaPieces hall us₃ (us₄ ++ rest) fuel hus₃ (by omega)
    have hnodot : next rest ≠ .dot := by
      intro heq
      rw [Closes, heq] at hrest
      exact absurd hrest (by decide)
    obtain ⟨es, hes, hmods⟩ := hms us₄ rest fuel hus₄ hnodot (by omega)
    obtain ⟨hnext, type, hty, hsuffix⟩ :=
      htype us₁ (p :: us₃ ++ (us₄ ++ rest)) hus₁ hparen
    refine ⟨.call t type ds es, ?_, ?_⟩
    · have hcall : (next (us₁ ++ (p :: us₃ ++ (us₄ ++ rest))) = .openParen
          || next (us₁ ++ (p :: us₃ ++ (us₄ ++ rest))) = .openBracket) = true := by
        simpa using hnext
      simp only [value, List.cons_append, List.append_assoc, hsort] at hcall ⊢ hty
      simp only [hcall, if_true, hty, Bind.bind, Except.bind, expect_cons hparen, hds, hes]
      rfl
    · simp only [Draft.call?, arguments?_positional t hgives hdot, hmods, Bind.bind, Except.bind,
        htext]
      rw [← hsuffix]
      rfl

/-- One token is read as a literal or a named value. -/
theorem reads_name {t : Text} {c : Call}
    (hc : c = if literalNames.contains (unqualified t) then .literal (unqualified t)
      else .ref (unqualified t)) : Reads c [(.name, t)] := by
  refine ⟨⟨_, _, rfl, Or.inr (Or.inr (Or.inr ⟨rfl, by rintro q ⟨⟩⟩))⟩, ?_⟩
  intro us rest fuel hus hrest hfuel
  obtain ⟨u, us, rfl, hsort, htext, hus⟩ := exists_cons_of_map_piece hus
  obtain rfl := List.map_eq_nil_iff.1 hus
  simp only [List.length_singleton] at hfuel
  obtain ⟨fuel, rfl⟩ : ∃ k, fuel = k + 1 := ⟨fuel - 1, by omega⟩
  have hplain : (next rest = .openParen || next rest = .openBracket) = false := by
    simp only [Closes, List.mem_cons, List.not_mem_nil, or_false] at hrest
    rcases hrest with h | h | h | h <;> simp [h]
  refine ⟨.name u, ?_, ?_⟩
  · simp only [value, List.cons_append, List.nil_append, hsort, hplain, Bool.false_eq_true,
      if_false]
  · simp only [Draft.call?, htext, hc]

/-- A string or a number is read as the literal that it is. -/
theorem reads_terminal {s : TokenClass} {t : Text} (hs : s = .string ∨ s = .number) :
    Reads (.literal t) [(s, t)] := by
  refine ⟨⟨_, _, rfl, ?_⟩, ?_⟩
  · rcases hs with rfl | rfl
    · exact Or.inl rfl
    · exact Or.inr (Or.inl rfl)
  · intro us rest fuel hus hrest hfuel
    obtain ⟨u, us, rfl, hsort, htext, hus⟩ := exists_cons_of_map_piece hus
    obtain rfl := List.map_eq_nil_iff.1 hus
    simp only [List.length_singleton] at hfuel
    obtain ⟨fuel, rfl⟩ : ∃ k, fuel = k + 1 := ⟨fuel - 1, by omega⟩
    refine ⟨.literal t, ?_, rfl⟩
    rcases hs with rfl | rfl <;>
      simp only [value, List.cons_append, List.nil_append, hsort, htext]

/-- A literal is read back from its token. -/
theorem reads_literal (t : Text) : Reads (.literal t) [(Call.literalClass t, t)] := by
  unfold Call.literalClass
  split
  · rename_i h
    have hpublic : ∀ n ∈ literalNames, unqualified n = n := by decide
    have hn := hpublic t (by simpa using h)
    exact reads_name (by rw [hn, if_pos h])
  · split
    · exact reads_terminal (Or.inl rfl)
    · exact reads_terminal (Or.inr rfl)

/-- An array is read from its items. -/
theorem reads_array {cs : List Call} {pss : List (List Piece)} (h : List.Forall₂ Reads cs pss) :
    Reads (.array cs)
      ((.openBracket, Text.of "[") :: (Call.commaPieces pss ++ [(.closeBracket, Text.of "]")])) := by
  refine ⟨⟨_, _, rfl, Or.inr (Or.inr (Or.inl rfl))⟩, ?_⟩
  intro us rest fuel hus hrest hfuel
  obtain ⟨t, us, rfl, hsort, -, hus⟩ := exists_cons_of_map_piece hus
  have hlen : us.length
      = (Call.commaPieces pss ++ [(TokenClass.closeBracket, Text.of "]")]).length := by
    rw [← hus, List.length_map]
  rw [List.length_cons] at hfuel
  obtain ⟨fuel, rfl⟩ : ∃ k, fuel = k + 1 := ⟨fuel - 1, by omega⟩
  obtain ⟨ds, hds, hcalls⟩ := items_commaPieces h us rest fuel hus (by omega)
  refine ⟨.array ds, ?_, ?_⟩
  · simp only [value, List.cons_append, hsort, hds]
    rfl
  · simp only [Draft.call?, hcalls]
    rfl

theorem readsModifiers_nil : ReadsModifiers [] [] := by
  intro us rest fuel hus hrest hfuel
  obtain rfl := List.map_eq_nil_iff.1 hus
  obtain ⟨fuel, rfl⟩ : ∃ k, fuel = k + 1 := ⟨fuel - 1, by simp at hfuel; omega⟩
  refine ⟨[], ?_, rfl⟩
  simp only [modifiers, List.nil_append, hrest, if_false]
  rfl

/-- A modifier is read in front of others. -/
theorem readsModifiers_cons {n : Text} {args : List Call} {pss : List (List Piece)}
    {ms : List Modifier} {ps : List Piece} (hargs : List.Forall₂ Reads args pss)
    (hms : ReadsModifiers ms ps) :
    ReadsModifiers (.mk n args :: ms)
      ((.dot, Text.of ".") :: (.name, n) :: (Call.argumentPieces pss ++ ps)) := by
  have hall : List.Forall₂ ReadsArgument (args.map fun c => (none, c)) pss :=
    List.forall₂_map_left_iff.2 (hargs.imp fun _ _ => readsArgument_positional)
  intro us rest fuel hus hrest hfuel
  obtain ⟨t, us, rfl, hdot, -, hus⟩ := exists_cons_of_map_piece hus
  obtain ⟨u, us, rfl, hname, htext, hus⟩ := exists_cons_of_map_piece hus
  obtain ⟨us₁, us₃, rfl, hus₁, hus₃⟩ := List.map_eq_append_iff.1 hus
  obtain ⟨p, us₂, rfl, hparen, -, hus₂⟩ := exists_cons_of_map_piece hus₁
  have hlen₂ : us₂.length + 1 = (Call.argumentPieces pss).length := by
    rw [← hus₁, List.length_map, List.length_cons]
  simp only [List.length_cons, List.length_append] at hfuel
  obtain ⟨fuel, rfl⟩ : ∃ k, fuel = k + 1 := ⟨fuel - 1, by omega⟩
  obtain ⟨ds, hds, hgives⟩ := arguments_commaPieces hall us₂ (us₃ ++ rest) fuel hus₂ (by omega)
  obtain ⟨es, hes, hmods⟩ := hms us₃ rest fuel hus₃ hrest (by omega)
  refine ⟨.mk u ds :: es, ?_, ?_⟩
  · simp only [modifiers, List.cons_append, List.append_assoc, next_cons, hdot, if_true,
      expect_cons hdot, expect_cons hname, expect_cons hparen, Bind.bind, Except.bind, hds, hes]
    rfl
  · have hcheck : arguments? u false ds = .ok (args, []) :=
      arguments?_positional u (by simpa using hgives) (List.forall_mem_nil _)
    simp only [modifiers?, hcheck, hmods, htext, Bind.bind, Except.bind]
    rfl

/-! ### All calls -/

mutual

/-- The pieces of a legible call are read as that call. -/
theorem reads_pieces (o : Options) : ∀ c : Call, c.Legible → Reads c (c.pieces o)
  | .literal t, _ => reads_literal t
  | .ref n, ⟨⟨_, hpublic⟩, hn⟩ => by
    refine reads_name ?_
    rw [unqualified_printRef o hpublic, if_neg (by simpa using hn)]
  | .hole, h => h.elim
  | .array items, h => reads_array (reads_piecesList o items h)
  | .factory _ args kws mods, ⟨hname, hargs, hkws, hmods⟩ =>
    reads_factory o hname (reads_piecesList o args hargs) (reads_piecesKeywords o kws hkws).1
      (reads_piecesKeywords o kws hkws).2 (reads_piecesModifiers o mods hmods)

theorem reads_piecesList (o : Options) :
    ∀ cs : List Call, Call.LegibleAll cs → List.Forall₂ Reads cs (Call.piecesList o cs)
  | [], _ => .nil
  | c :: cs, h => .cons (reads_pieces o c h.1) (reads_piecesList o cs h.2)

theorem reads_piecesKeywords (o : Options) :
    ∀ ks : List Keyword, Call.LegibleKeywords ks →
      List.Forall₂ ReadsArgument (ks.map named) (Call.piecesKeywords o ks)
        ∧ ∀ k ∈ ks, CodePoint.ofChar '.' ∉ k.name
  | [], _ => ⟨.nil, List.forall_mem_nil _⟩
  | .mk n v :: ks, h => by
    obtain ⟨hks, hdot⟩ := reads_piecesKeywords o ks h.2.2
    exact ⟨.cons (readsArgument_named n (reads_pieces o v h.2.1)) hks,
      List.forall_mem_cons.2 ⟨h.1.2, hdot⟩⟩

theorem reads_piecesModifiers (o : Options) :
    ∀ ms : List Modifier, Call.LegibleModifiers ms → ReadsModifiers ms (Call.piecesModifiers o ms)
  | [], _ => readsModifiers_nil
  | .mk _ as :: ms, h =>
    readsModifiers_cons (reads_piecesList o as h.2.1) (reads_piecesModifiers o ms h.2.2)

end

/-- The code of a legible call reads as that call. -/
theorem read_of_print? (o : Options) {c : Call} (h : c.Legible) :
    ∃ t, c.print? o = some t ∧ read t = .ok c := by
  obtain ⟨t, hprint, hscan⟩ := Call.scan_print? o h
  refine ⟨t, hprint, ?_⟩
  obtain ⟨us, ts, hsplit, hus, hts⟩ := List.map_eq_append_iff.1 hscan
  obtain ⟨e, ts, rfl, hend, -, hts⟩ := exists_cons_of_map_piece hts
  obtain rfl := List.map_eq_nil_iff.1 hts
  have hlen : us.length = (c.pieces o).length := by rw [← hus, List.length_map]
  have hclose : Closes [e] := by rw [Closes, next_cons, hend]; decide
  have hfuel : 3 * (c.pieces o).length ≤ stepBound (scan t) := by
    rw [stepBound, hsplit, List.length_append]
    omega
  obtain ⟨d, hd, hcall⟩ := (reads_pieces o c h).value us [e] _ hus hclose hfuel
  rw [← hsplit] at hd
  simp only [read, hd, Bind.bind, Except.bind, expect_cons hend, hcall]

/-- Every legible call can be printed, and under all options its code reads as that call. -/
theorem read_print? (o : Options) (c : Call) (h : c.Legible) :
    (c.print? o).map read = some (.ok c) := by
  obtain ⟨t, hprint, hread⟩ := read_of_print? o h
  rw [hprint, Option.map_some, hread]

/-- A call with a type, an argument by name and a modifier, under the default options. -/
theorem read_print?_generic :
    ((Call.factory (Text.of "token_list[Token]") [.literal (Text.of "-.5"), .array []]
        [.mk (Text.of "last") (.ref (Text.of "SPACE"))]
        [.mk (Text.of "with_text") [.literal (Text.of "'a'")]]).print? {}).map read
      = some (.ok (.factory (Text.of "token_list[Token]") [.literal (Text.of "-.5"), .array []]
        [.mk (Text.of "last") (.ref (Text.of "SPACE"))]
        [.mk (Text.of "with_text") [.literal (Text.of "'a'")]])) := by
  have hname : Call.IsFactoryName (Text.of "token_list[Token]") :=
    Or.inr ⟨Text.of "token_list", Text.of "Token",
      ⟨Call.name_of_word (by decide), by decide⟩, ⟨Call.name_of_word (by decide), by decide⟩,
      by decide⟩
  have hnumber : Text.of "-.5" ∈ Terminal.number := by
    have hdigits : Text.of ".5" ∈ Terminal.digits :=
      Or.inl (Or.inr (Terminal.mem_single_mul.2 ⟨CodePoint.ofChar '.', Text.of "5", by decide,
        Terminal.mem_several.2 ⟨by decide, List.all_eq_true.1 (by decide)⟩, by decide⟩))
    have hsign : Text.of "-" ∈ 1 + Terminal.single (· = CodePoint.ofChar '-') :=
      Or.inr ⟨CodePoint.ofChar '-', by decide, by decide⟩
    have hnone : [] ∈ 1 + Terminal.exponent := Or.inl rfl
    exact Language.append_mem_mul hsign (Language.append_mem_mul hdigits hnone)
  have hstring : Text.of "'a'" ∈ Terminal.string := by
    have hquote : Text.of "'" ∈ Terminal.single (· = CodePoint.ofChar '\'') :=
      ⟨CodePoint.ofChar '\'', by decide, by decide⟩
    have hitem : Text.of "a" ∈ Terminal.quotedItem (CodePoint.ofChar '\'') :=
      Or.inl ⟨CodePoint.ofChar 'a', by decide, by decide⟩
    have hbody := Language.join_mem_kstar (List.forall_mem_singleton.2 hitem)
    exact Or.inr (Language.append_mem_mul hquote (Language.append_mem_mul hbody hquote))
  refine read_print? {} _ ⟨hname, ⟨Or.inr (Or.inr hnumber), trivial, trivial⟩, ?_, ?_⟩
  · exact ⟨⟨Call.name_of_word (by decide), by decide⟩,
      ⟨⟨Call.name_of_word (by decide), by decide⟩, by decide⟩, trivial⟩
  · exact ⟨Call.name_of_word (by decide), ⟨Or.inr (Or.inl hstring), trivial⟩, trivial⟩

end TreeQuote.Code
