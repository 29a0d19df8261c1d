/-
TreeQuote/Proofs/Quote/Leaving.lean

What sifting leaves of a property in a repaired text can stand for it.  The text of one node shows
that the property makes no difference there; that it makes none anywhere has a reason of its own for
each sort of property.

* A token that is there is the one by default, and one that is missing would show.
* Brackets have nothing between them that is there.
* A list or a node that may be absent is missing, and either nothing of its sort is ever inserted, or
  it would show in front of what comes next, or it can be left out in front of that.

Main statements: `Quote.brackets_exchange`, `Quote.member_exchange` and `Quote.blank_exchange`.
-/
import TreeQuote.Proofs.Grammar.Extent
import TreeQuote.Proofs.Parse.Mended
import TreeQuote.Proofs.Quote.Lossless

namespace TreeQuote

open Grammar Layout

/-! ### Places -/

namespace Value

/-- The text of a node under default formatting is that of its places. -/
theorem rendered_places {o : Options} (ho : o.defaultFormatting = true) (c : NodeClass)
    (vs : List Value) : (Value.node c vs).rendered o = textFrom Option.none (fieldPlaces c 0 vs) := by
  rw [rendered, if_pos ho, textFrom_tokens]
  rfl

theorem mem_leaves {c : NodeClass} {slot : Nat} {v : Value} {p : Place}
    (hp : p ∈ placesIn c slot v) : p.token ∈ v.leaves := by
  rw [← placesIn_token c slot v]
  exact List.mem_map_of_mem hp

theorem mem_listPlaces {c : NodeClass} {slot : Nat} {vs : List Value} {p : Place}
    (hp : p ∈ listPlaces c slot vs) : ∃ v ∈ vs, p ∈ placesIn c slot v := by
  induction vs with
  | nil => cases hp
  | cons v vs ih =>
    rcases List.mem_append.mp hp with hp | hp
    · exact ⟨v, List.mem_cons_self, hp⟩
    · obtain ⟨w, hw, hp⟩ := ih hp
      exact ⟨w, List.mem_cons_of_mem v hw, hp⟩

theorem inks_places (c : NodeClass) (slot : Nat) (v : Value) :
    Token.inks ((placesIn c slot v).map (·.token)) = v.ink := by
  rw [placesIn_token, ink]

/-- What is written in front of the same text has the same ink. -/
theorem ink_eq {c : NodeClass} {slot : Nat} {v w : Value} {s : Option Front} {base : List Place}
    (h : textFrom s (placesIn c slot v ++ base) = textFrom s (placesIn c slot w ++ base)) :
    v.ink = w.ink := by
  have hink := congrArg Text.ink h
  rw [ink_textFrom, ink_textFrom, List.map_append, List.map_append, Token.inks_append,
    Token.inks_append, inks_places, inks_places] at hink
  exact List.append_cancel_right (List.append_cancel_left hink)

/-! ### Tokens of a repaired text -/

/-- Without the end of the file, each token is there or missing. -/
theorem Mended.hollow_or_solid {v : Value} (h : v.Mended)
    (hend : ∀ t ∈ v.leaves, t.kind ≠ .endOfFileToken) : ∀ t ∈ v.leaves, t.Hollow ∨ t.Solid := by
  intro t ht
  cases h.tokens t ht with
  | missing h => exact .inl h
  | read h _ hend =>
    exact .inr ⟨h.present, h.head.resolve_left hend, h.dressed.leading, h.dressed.trailing, hend⟩
  | ending _ hk => exact absurd hk (hend t ht)

/-- A token that is missing may be inserted. -/
theorem Mended.isInserted {v : Value} (h : v.Mended) {t : Token} (ht : t ∈ v.leaves)
    (hhollow : t.Hollow) : Repair.isInserted t.kind = true := by
  cases h.tokens t ht with
  | missing _ hk => exact hk
  | read hread => exact absurd hhollow.missing (by simp [hread.present])
  | ending hread => exact absurd hhollow.missing (by simp [hread.present])

/-- The lexeme of a token that is there. -/
theorem Mended.lexeme {v : Value} (h : v.Mended) {t : Token} (ht : t ∈ v.leaves)
    (hsolid : t.Solid) : Lexeme.IsLexeme t.kind t.text := by
  cases h.tokens t ht with
  | missing hhollow => exact absurd hhollow.missing (by simp [hsolid.present])
  | read _ hlexeme => exact hlexeme
  | ending _ hk => exact absurd hk hsolid.kind

end Value

/-- A lexeme that starts with a mark is a mark. -/
theorem Lexeme.IsLexeme.mark {k : Kind} {c : CodePoint} {rest : Text} (h : IsLexeme k (c :: rest))
    (hc : (startsWord c || c.isDigit || c = CodePoint.ofChar '"') = false) :
    k ∈ punctuation ∧ k.fixedText? = some (c :: rest) := by
  simp only [Bool.or_eq_false_iff, decide_eq_false_iff_not] at hc
  obtain ⟨d, more, hd, -, hstarts⟩ := h.starts
  obtain ⟨rfl, rfl⟩ := List.cons.inj hd
  cases hstarts with
  | word _ hword => exact absurd hword (by simp [hc.1.1])
  | number hdigit => exact absurd hdigit (by simp [hc.1.2])
  | string => exact absurd rfl hc.2
  | punctuation hk _ =>
    refine ⟨hk, h.spells.resolve_left fun hfree => ?_⟩
    rcases hfree with rfl | rfl | rfl <;> exact absurd hk (by decide)

namespace Quote

open Value

variable {o : Options} {c : NodeClass} {slot : Nat} {ks : List Kind}

/-! ### Tokens -/

/-- Quoting leaves of each token what layout keeps. -/
theorem retoken_exchange (ps : List Place) :
    Exchanges [] ps (ps.map (Place.retoken (Token.reduced o))) := by
  induction ps with
  | nil => exact .refl _
  | cons p ps ih =>
    have hp : Exchanges [] [p] [p.retoken (Token.reduced o)] :=
      .token ⟨rfl, rfl, rfl⟩ rfl rfl (kept_keep o _).symm (kept_keep o _).symm
    exact hp.append ih

/-- Under default formatting the ink shows. -/
theorem visible_eq_ink (ho : o.defaultFormatting = true) (v : Value) : v.visible o = v.ink := by
  have htoken : Token.visible o = Token.ink := funext fun t => by rw [Token.visible_eq, if_pos ho]
  rw [visible, htoken, Value.ink, Token.inks]

/-- A token that shows what a fixed one of the same length shows is that one. -/
theorem mended_eq_fixed (ho : o.defaultFormatting = true) {t : Token} (h : t.Mended) {j : Kind}
    {s u : Text} (hj : j.fixedText? = some s) (hu : t.kind.fixedText? = some u)
    (hlen : u.length = s.length) (hink : (Value.token t).ink = (Recipe.fixedToken j).ink) :
    Value.token (t.reduced o) = Recipe.fixedToken j := by
  rw [← visible_eq_ink ho, ← visible_eq_ink ho] at hink
  cases h with
  | missing hhollow _ hend =>
    -- It shows nothing, so it is as long as the end of the file.
    have habsent : t.isAbsent = false := by
      simp only [Token.isAbsent, decide_eq_false_iff_not]
      intro hnone
      rw [hnone] at hu
      cases hu
    rw [visible_token habsent, visible_fixedToken hj, Token.visible_eq, if_pos ho, hhollow.ink] at hink
    rw [← hink, List.length_nil, List.length_eq_zero_iff] at hlen
    rw [hlen] at hu
    exact absurd (Kind.fixedText_injective hu rfl) hend
  | read hwhole => exact whole_eq_fixed hwhole hj hu hlen hink
  | ending hwhole => exact whole_eq_fixed hwhole hj hu hlen hink

/-! ### Brackets -/

/-- The place of a fixed token. -/
def fixedPlace (c : NodeClass) (slot : Nat) (k : Kind) : Place :=
  ⟨Recipe.fixedToken k, (Token.fixed? k).getD .absent, c, slot⟩

/-- What is known of the brackets of a class: nothing stands between them, and no other mark starts
like the first or looks like the second. -/
structure Brackets (e : NodeClass) (k l : Kind) (g : Form) (a b : CodePoint) : Prop where
  slots : slots e = [.token [k], g, .token [l]]
  level : ∀ j ∈ g.tokenKinds, isBrace j = false
  inner : isInner e = true
  opens : k.fixedText? = some [a]
  closes : l.fixedText? = some [b]
  closed : Closed a b (fixedPlace e 0 k) (fixedPlace e 2 l)
  marks : (Lexeme.punctuation.all fun j => (j.fixedText?.getD []).head? ≠ some a
    || !(j.fixedText?.getD []).isPrefixOf [a, b] || j = k) = true
  mark : ∀ d ∈ [a, b], (Lexeme.startsWord d || d.isDigit || d = CodePoint.ofChar '"') = false

theorem Brackets.of_class {e : NodeClass} {k l : Kind} {m : Value}
    (h : e.brackets? = some (k, m, l)) : ∃ g a b, Brackets e k l g a b := by
  have hclosed : ∀ {e : NodeClass} {k l : Kind} {a b : CodePoint},
      k.fixedText? = some [a] → l.fixedText? = some [b]
      → separatorAfter [a] (fixedPlace e 0 k) (fixedPlace e 2 l) = .nothing → a ≠ b
      → Lexeme.isGap a = false → Lexeme.isGap b = false
      → Closed a b (fixedPlace e 0 k) (fixedPlace e 2 l) := by
    intro e k l a b hk hl hseparator hne ha hb
    have hplace : ∀ {k : Kind} {t : Text} (slot : Nat), k.fixedText? = some t
        → (fixedPlace e slot k).token = { kind := k, text := t, value := .str t } := by
      intro k t slot hk
      have := Recipe.fixedToken_eq hk
      exact Value.token.inj this
    have hink : ∀ {k : Kind} {d : CodePoint}, Lexeme.isGap d = false
        → Token.ink { kind := k, text := [d], value := .str [d] } = [d] := by
      intro k d hd
      simp [Token.ink, kept, Text.ink, hd]
    have ha' := hplace 0 hk
    have hb' := hplace 2 hl
    exact {
      opens := by rw [ha'], closes := by rw [hb'], present := by rw [ha'],
      ink := by rw [ha', hink ha], ink' := by rw [hb', hink hb],
      leading := by rw [ha']; rfl, trailing := by rw [ha']; rfl,
      leading' := by rw [hb']; rfl, trailing' := by rw [hb']; rfl,
      separator := hseparator, ne := hne, head := ha, head' := hb }
  have hall : ∀ {e : NodeClass} {k l : Kind} {g : Form} {a b : CodePoint},
      Grammar.slots e = [.token [k], g, .token [l]] → (∀ j ∈ g.tokenKinds, isBrace j = false)
      → isInner e = true → k.fixedText? = some [a] → l.fixedText? = some [b]
      → separatorAfter [a] (fixedPlace e 0 k) (fixedPlace e 2 l) = .nothing
      → (a ≠ b ∧ Lexeme.isGap a = false ∧ Lexeme.isGap b = false)
      → (Lexeme.punctuation.all fun j => (j.fixedText?.getD []).head? ≠ some a
        || !(j.fixedText?.getD []).isPrefixOf [a, b] || j = k) = true
      → (([a, b].all fun d => !(Lexeme.startsWord d || d.isDigit || d = CodePoint.ofChar '"')) = true)
      → Brackets e k l g a b := fun hslots hlevel hinner hk hl hseparator hgap hmarks hmark =>
    ⟨hslots, hlevel, hinner, hk, hl, hclosed hk hl hseparator hgap.1 hgap.2.1 hgap.2.2, hmarks,
      fun d hd => by simpa using List.all_eq_true.mp hmark d hd⟩
  cases e <;> cases h
  · exact ⟨_, _, _, hall rfl (by decide) (by decide) rfl rfl (by decide) (by decide) (by decide +kernel)
      (by decide +kernel)⟩
  · exact ⟨_, _, _, hall rfl (by decide) (by decide) rfl rfl (by decide) (by decide) (by decide +kernel)
      (by decide +kernel)⟩
  · exact ⟨_, _, _, hall rfl (by decide) (by decide) rfl rfl (by decide) (by decide) (by decide +kernel)
      (by decide +kernel)⟩
  · exact ⟨_, _, _, hall rfl (by decide) (by decide) rfl rfl (by decide) (by decide) (by decide +kernel)
      (by decide +kernel)⟩

section Brackets

variable {e : NodeClass} {k l : Kind} {g : Form} {a b : CodePoint} {m v : Value} {s : Option Front}
  {base : List Place}

/-- A lexeme that starts with a bracket is a mark. -/
theorem Brackets.fixed (h : Brackets e k l g a b) {j : Kind} {t : Text}
    (ht : Lexeme.IsLexeme j t) {d : CodePoint} (hd : d ∈ [a, b]) (hhead : t.head? = some d) :
    j ∈ Lexeme.punctuation ∧ j.fixedText? = some t := by
  obtain ⟨x, rest, rfl, -, -⟩ := ht.starts
  obtain rfl := Option.some.inj hhead
  exact ht.mark (h.mark _ hd)

/-- A token that is there has the text of its lexeme, which starts with no blank. -/
theorem solid_head {t : Token} (h : t.Solid) : t.text.head? = t.text.ink.head? := by
  obtain ⟨x, rest, ht, hgap⟩ := h.head
  simp [ht, Text.ink, hgap]

/-- The tokens of brackets with the ink of empty ones. -/
theorem Brackets.bracketing (h : Brackets e k l g a b) {t u : Token} {y : Value}
    (hv : (Value.node e [.token t, y, .token u]).Mended) (ht : t.kind = k)
    (hink : (Value.node e [.token t, y, .token u]).ink = [a, b])
    (hplaces : placesIn c slot (.node e [.token t, y, .token u])
      = ⟨.token t, t, e, 0⟩ :: (placesIn e 1 y ++ [⟨.token u, u, e, 2⟩])) :
    Bracketing a b ⟨.token t, t, e, 0⟩ (placesIn e 1 y ++ [⟨.token u, u, e, 2⟩]) := by
  have hend : ∀ w ∈ (Value.node e [.token t, y, .token u]).leaves, w.kind ≠ .endOfFileToken := by
    intro w hw
    simpa using (leaves_kind slots_inner _ hv.grown).1 e _ rfl h.inner w hw
  have hmem : ∀ p ∈ (⟨.token t, t, e, 0⟩ : Place) :: (placesIn e 1 y ++ [⟨.token u, u, e, 2⟩]),
      p.token ∈ (Value.node e [.token t, y, .token u]).leaves := by
    intro p hp
    rw [← hplaces] at hp
    exact mem_leaves hp
  refine ⟨fun p hp => hv.hollow_or_solid hend _ (hmem p hp), fun ho => ?_, fun p hp hsolid hb => ?_,
    fun ho ms p rest heq hms hsolid hhead hpre => ?_, ?_⟩
  · -- The first bracket is spelled as its kind is.
    have hlexeme := hv.lexeme (hmem _ List.mem_cons_self) ho
    rw [ht] at hlexeme
    have hfixed := hlexeme.spells.resolve_left (by
      rintro (rfl | rfl | rfl) <;> exact absurd h.opens nofun)
    exact Option.some.inj (hfixed.symm.trans h.opens)
  · have hlexeme := hv.lexeme (hmem p (List.mem_cons_of_mem _ hp)) hsolid
    obtain ⟨-, hfixed⟩ := h.fixed hlexeme (d := b) (by simp) (by rw [solid_head hsolid, hb]; rfl)
    rw [← Kind.ink_fixedText hfixed, hb]
  · -- A token that starts like the missing bracket is one.
    have hp : p ∈ placesIn e 1 y ++ [⟨.token u, u, e, 2⟩] := heq ▸ by simp
    have hlexeme := hv.lexeme (hmem p (List.mem_cons_of_mem _ hp)) hsolid
    obtain ⟨hmark, hfixed⟩ := h.fixed hlexeme (d := a) (by simp) hhead
    rw [Kind.ink_fixedText hfixed] at hpre
    have hcheck := List.all_eq_true.mp h.marks _ hmark
    rw [hfixed, Option.getD_some, hhead, List.isPrefixOf_iff_prefix.mpr hpre] at hcheck
    have hk : p.token.kind = k := by simpa using hcheck
    have hapart := hv.apart
    rw [← placesIn_token c slot, hplaces, List.map_cons, heq] at hapart
    refine hapart.1 ho.missing p.token ?_ (ht.trans hk.symm)
    rw [Token.firstPresent, List.map_append, List.map_cons, List.find?_append]
    have hnone : (ms.map (·.token)).find? (fun t => !t.missing) = Option.none := by
      rw [List.find?_eq_none]
      intro x hx
      obtain ⟨q, hq, rfl⟩ := List.mem_map.mp hx
      simp [(hms q hq).missing]
    rw [hnone, Option.none_or, List.find?_cons_of_pos (by simp [hsolid.present])]
    rfl
  · rw [← hplaces, inks_places, hink]

/-- **Brackets.**  Brackets whose text is that of empty ones have nothing between them that is
there, and empty ones can stand for them. -/
theorem brackets_exchange (hd : e.brackets? = some (k, m, l)) (hv : v.Mended)
    (hnode : v.isNodeOf (.cls e) = true)
    (htext : textFrom s (placesIn c slot v ++ base)
      = textFrom s (placesIn c slot (.node e [Recipe.fixedToken k, m, Recipe.fixedToken l]) ++ base)) :
    Exchanges ks (placesIn c slot v)
      (placesIn c slot (.node e [Recipe.fixedToken k, m, Recipe.fixedToken l])) := by
  obtain ⟨g, a, b, h⟩ := Brackets.of_class hd
  obtain ⟨t, y, u, rfl, ht, hu, hy⟩ : ∃ t y u, v = .node e [.token t, y, .token u] ∧ t.kind = k
      ∧ u.kind = l ∧ g.Holds y := by
    cases v with
    | node d vs =>
      obtain rfl : d = e := of_decide_eq_true hnode
      have hslots := hv.grown.1.slots
      rw [h.slots] at hslots
      cases hslots with
      | @cons _ x _ _ hx hslots =>
      cases hslots with
      | @cons _ y _ _ hy hslots =>
      cases hslots with
      | @cons _ z _ _ hz hnil =>
        cases hnil
        obtain ⟨t, rfl, ht⟩ := hx
        obtain ⟨u, rfl, hu⟩ := hz
        exact ⟨t, y, u, rfl, List.mem_singleton.mp ht, List.mem_singleton.mp hu, hy⟩
    | _ => cases hnode
  have hpresent : ∀ {t : Token} {j : Kind} {w : Text}, t.kind = j → j.fixedText? = some w
      → t.isAbsent = false := by
    rintro t j w rfl hj
    simp only [Token.isAbsent, decide_eq_false_iff_not]
    intro hnone
    rw [hnone] at hj
    cases hj
  have hplaces : placesIn c slot (.node e [.token t, y, .token u])
      = ⟨.token t, t, e, 0⟩ :: (placesIn e 1 y ++ [⟨.token u, u, e, 2⟩]) := by
    simp [placesIn, fieldPlaces, hpresent ht h.opens, hpresent hu h.closes]
  have hfixed : ∀ {j : Kind} {w : Text}, j.fixedText? = some w → (Token.fixed? j).getD .absent
      = { kind := j, text := w, value := .str w } := fun hj => Value.token.inj (Recipe.fixedToken_eq hj)
  have hdefault : placesIn c slot (.node e [Recipe.fixedToken k, m, Recipe.fixedToken l])
      = [fixedPlace e 0 k, fixedPlace e 2 l] := by
    have hempty : placesIn e 1 m = [] := by cases e <;> cases hd <;> rfl
    have hk : ((Token.fixed? k).getD .absent).isAbsent = false :=
      hpresent (by rw [hfixed h.opens]) h.opens
    have hl : ((Token.fixed? l).getD .absent).isAbsent = false :=
      hpresent (by rw [hfixed h.closes]) h.closes
    simp [placesIn, fieldPlaces, Recipe.fixedToken, hk, hl, hempty, fixedPlace]
  have hink := ink_eq htext
  rw [← inks_places c slot (.node e [Recipe.fixedToken k, m, Recipe.fixedToken l]), hdefault] at hink
  have hink' : (Value.node e [.token t, y, .token u]).ink = [a, b] := by
    rw [hink, List.map_cons, Token.inks_cons, h.closed.ink, List.map_singleton, Token.inks_cons,
      h.closed.ink']
    rfl
  have hbrackets := h.bracketing hv ht hink' hplaces
  have hlevel : Level (placesIn e 1 y) := holds_level hy (hv.ofNode y (by simp)).grown h.level
  rw [hplaces, hdefault] at htext ⊢
  refine .brackets hbrackets h.closed ⟨?_, rfl, rfl⟩ ⟨?_, rfl, rfl⟩ hlevel htext
  · exact ht.trans (by rw [fixedPlace, hfixed h.opens])
  · exact hu.trans (by rw [fixedPlace, hfixed h.closes])

end Brackets

/-! ### Missing lists and nodes -/

section Missing

variable {v : Value} {g : Form} {k : Kind} {d : NodeClass}

/-- What shows nothing is missing. -/
theorem hollow_of_ink (hv : v.Mended) (hg : g.Holds v)
    (hinner : g.isWithin isInner (fun k => k ≠ .endOfFileToken) = true) (hink : v.ink = []) :
    ∀ p ∈ placesIn c slot v, p.token.Hollow := by
  have hend := holds_kind slots_inner hg hv.grown hinner
  refine hollow_of_inks (fun p hp => ?_) (by rw [inks_places, hink])
  exact hv.hollow_or_solid (fun t ht => by simpa using hend t ht) _ (mem_leaves hp)

theorem node_starts (h : opens ks (slots d) = true) (hv : v.isNodeOf (.cls d) = true)
    (hgrown : v.All Grows) : Opens ks (placesIn c slot v) := by
  cases v with
  | node e vs =>
    obtain rfl : e = d := of_decide_eq_true hv
    exact fields_open h hgrown.1.slots fun w hw => Grows.led w (hgrown.children w hw)
  | _ => cases hv

/-- A property that may be absent starts as its nodes do. -/
theorem starts_or_nil (ks : List Kind) (h : opens ks (slots d) = true)
    (hg : g = .optional (.cls d) ∨ g = .nodes (.cls d) ∨ g = .separated (.cls d)) (hv : g.Holds v)
    (hgrown : v.All Grows) : placesIn c slot v = [] ∨ Opens ks (placesIn c slot v) := by
  rcases hg with rfl | rfl | rfl
  · rcases hv with rfl | hv
    · exact .inl rfl
    · exact .inr (node_starts h hv hgrown)
  · obtain ⟨vs, rfl, hvs⟩ := hv
    cases vs with
    | nil => exact .inl rfl
    | cons w ws => exact .inr ((node_starts h (hvs w List.mem_cons_self) hgrown.1).append _)
  · obtain ⟨vs, rfl, rfl | ⟨w, ws, rfl, hw, -⟩⟩ := hv
    · exact .inl rfl
    · exact .inr ((node_starts h hw hgrown.1).append _)

/-- Missing tokens the first of which is of one of the kinds. -/
theorem gone_of_opens {ps : List Place} (hopens : Opens ks ps) (hhollow : ∀ p ∈ ps, p.token.Hollow)
    (hlevel : Level ps) (hks : ks.all (fun k => k ≠ .endOfFileToken && k ≠ .closeBraceToken) = true) :
    Gone ps := by
  obtain ⟨p, qs, rfl, hp⟩ := hopens
  refine ⟨List.cons_ne_nil _ _, hhollow, hlevel, fun m hm => ?_⟩
  obtain rfl : p = m := Option.some.inj hm
  simpa using List.all_eq_true.mp hks _ hp

/-- What starts with a token that is never inserted is not missing. -/
theorem not_opens (hv : v.Mended) (hhollow : ∀ p ∈ placesIn c slot v, p.token.Hollow)
    (hk : Repair.isInserted k = false) : ¬ Opens [k] (placesIn c slot v) := by
  rintro ⟨p, qs, hps, hp⟩
  have hmem : p ∈ placesIn c slot v := hps ▸ List.mem_cons_self
  have hinserted := hv.isInserted (mem_leaves hmem) (hhollow p hmem)
  rw [List.mem_singleton.mp hp, hk] at hinserted
  cases hinserted

/-- The places of a list of tokens. -/
theorem tokens_places (hv : (Form.tokens k).Holds v) :
    ∀ p ∈ placesIn c slot v, p.token.kind = k ∧ p.parent = c := by
  obtain ⟨vs, rfl, hvs⟩ := hv
  intro p hp
  obtain ⟨w, hw, hp⟩ := mem_listPlaces hp
  obtain ⟨t, rfl, ht⟩ := hvs w hw
  rw [placesIn] at hp
  split at hp
  · cases hp
  · obtain rfl := List.mem_singleton.mp hp
    exact ⟨List.mem_singleton.mp ht, rfl⟩

/-- Missing modifiers would show in front of a keyword. -/
theorem modifiers_eq_nil (hk : k = .fnKeyword ∨ k = .structKeyword)
    (hc : c = .functionDeclaration ∨ c = .structDeclaration) (hv : (Form.tokens .pubKeyword).Holds v)
    (hhollow : ∀ p ∈ placesIn c slot v, p.token.Hollow) {base : List Place}
    (htext : textFrom Option.none (placesIn c slot v ++ fixedPlace c 1 k :: base)
      = textFrom Option.none (fixedPlace c 1 k :: base)) : placesIn c slot v = [] := by
  have hplaces : ∀ p ∈ placesIn c slot v, p.token.kind = .pubKeyword ∧ p.parent = c :=
    tokens_places hv
  by_contra hne
  have hgone : Gone (placesIn c slot v) := by
    refine ⟨hne, hhollow, .of_kinds fun p hp => ?_, fun p hp => ?_⟩
    · rw [(hplaces p hp).1]
      exact ⟨by decide, by decide⟩
    · rw [(hplaces p (List.mem_of_mem_head? hp)).1]
      exact ⟨by decide, by decide⟩
  obtain ⟨hkind, hparent⟩ := hplaces _ (List.getLast_mem hne)
  have hseparator : separator ((placesIn c slot v).getLast hne) (fixedPlace c 1 k) = .space := by
    rcases hk with rfl | rfl <;> rcases hc with rfl | rfl <;>
      simp [separator, isPrefixOperator, isBinaryOperator, hkind, hparent, fixedPlace, Token.fixed?,
        Kind.fixedText?]
  have hend : Kind.fnKeyword ≠ .endOfFileToken ∧ Kind.structKeyword ≠ .endOfFileToken := by decide
  rcases hk with rfl | rfl
  · exact modifiers_show hgone hseparator rfl hend.1 rfl (by decide) htext
  · exact modifiers_show hgone hseparator rfl hend.2 rfl (by decide) htext

/-- Missing fields would show between the braces. -/
theorem fields_eq_nil (hv : (Form.separated (.cls .fieldDeclaration)).Holds v)
    (hgrown : v.All Grows) (hhollow : ∀ p ∈ placesIn c slot v, p.token.Hollow) {s : Option Front}
    {x : Place} (hx : x.token.kind = .openBraceToken) {base : List Place}
    (htext : textFrom (some (step s x)) (placesIn c slot v ++ fixedPlace d 5 .closeBraceToken :: base)
      = textFrom (some (step s x)) (fixedPlace d 5 .closeBraceToken :: base)) :
    placesIn c slot v = [] := by
  refine (starts_or_nil [.identifierToken] (by decide) (.inr (.inr rfl)) hv hgrown).resolve_right
    fun hopens => ?_
  have hkinds : ∀ p ∈ placesIn c slot v, p.token.kind ∈ typingKinds := fun p hp =>
    List.contains_iff_mem.mp (holds_kind slots_typing hv hgrown (by decide) _ (mem_leaves hp))
  have hgone := gone_of_opens hopens hhollow (holds_level hv hgrown (by decide)) (by decide)
  refine fields_show hgone hx (fun hlast => ?_) rfl htext
  have := hkinds _ (List.getLast_mem hgone.ne)
  rw [hlast] at this
  exact absurd this (by decide)

/-- What a missing annotation stands in front of. -/
theorem initializer_starts (hv : v.isNodeOf (.cls .equalsValueClause) = true) (hgrown : v.All Grows) :
    ∃ q qs, placesIn c slot v = q :: qs ∧ q.token.kind = .equalsToken
      ∧ q.parent = .equalsValueClause := by
  cases v with
  | node e vs =>
    obtain rfl : e = .equalsValueClause := of_decide_eq_true hv
    cases hgrown.1.slots with
    | @cons _ w _ _ hw _ =>
      obtain ⟨t, rfl, ht⟩ := hw
      have hkind := List.mem_singleton.mp ht
      exact ⟨_, _, by rw [placesIn, fieldPlaces, placesIn, if_neg (by simp [Token.isAbsent, hkind])]; rfl,
        hkind, rfl⟩
  | _ => cases hv

/-- Annotations end as types do. -/
theorem annotation_ends (hv : (Form.optional (.cls .typeClause)).Holds v) (hgrown : v.All Grows)
    (hne : placesIn c slot v ≠ []) : EndsType ((placesIn c slot v).getLast hne) := by
  have hends : Ends EndsType (placesIn c slot v) := by
    rcases hv with rfl | hv
    · exact absurd rfl hne
    cases v with
    | node e vs =>
      obtain rfl : e = .typeClause := of_decide_eq_true hv
      cases hgrown.1.slots with
      | @cons _ a _ _ _ hslots =>
      cases hslots with
      | @cons _ b _ _ hb hnil =>
        cases hnil
        exact .fields (fun slot => type_ends hb (hgrown.children b (by simp [children]))) [a]
    | _ => cases hv
  obtain ⟨qs, p, hps, hp⟩ := hends
  simpa only [hps, List.getLast_concat] using hp

/-- A missing annotation can be left out behind a name and in front of a value. -/
theorem annotation_exchange (hv : (Form.optional (.cls .typeClause)).Holds v) (hgrown : v.All Grows)
    (hhollow : ∀ p ∈ placesIn c slot v, p.token.Hollow) {s : Option Front} {x : Place}
    (hx : x.token.kind = .identifierToken) (hparent : x.parent = .localDeclarationStatement)
    {w : Value} (hw : w.isNodeOf (.cls .equalsValueClause) = true) (hmended : w.Mended)
    {j : Nat} {base qs : List Place}
    (htext : textFrom (some (step s x)) (placesIn c slot v ++ (placesIn c j w ++ base))
      = textFrom (some (step s x)) (placesIn c j w ++ base)) :
    Exchanges ks (x :: (placesIn c slot v ++ (placesIn c j w ++ qs))) (x :: (placesIn c j w ++ qs)) := by
  have hcases : placesIn c slot v = [] ∨ Opens [.colonToken] (placesIn c slot v) :=
    starts_or_nil _ (by decide) (.inl rfl) hv hgrown
  rcases hcases with hnil | hopens
  · rw [hnil]
    exact .refl _
  have hgone := gone_of_opens hopens hhollow (holds_level hv hgrown (by decide)) (by decide)
  obtain ⟨q, rest, hq, hkind, hclause⟩ : ∃ q rest, placesIn c j w = q :: rest
      ∧ q.token.kind = .equalsToken ∧ q.parent = .equalsValueClause :=
    initializer_starts hw hmended.grown
  rw [hq, List.cons_append] at htext ⊢
  refine Exchanges.annotation hgone (by rw [hkind]; exact ⟨by decide, by decide⟩) ?_ htext
  have hend : ∀ t ∈ w.leaves, t.kind ≠ .endOfFileToken := fun t ht => by
    simpa using holds_kind slots_inner (f := .cls .equalsValueClause) hw hmended.grown (by decide) t ht
  rcases hmended.hollow_or_solid hend _ (mem_leaves (p := q) (hq ▸ List.mem_cons_self)) with hq' | hq'
  · refine .inl ⟨List.cons_ne_nil _ _, List.forall_mem_singleton.mpr hq', .of_kinds ?_, fun m hm => ?_⟩
    · rw [List.forall_mem_singleton, hkind]
      exact ⟨by decide, by decide⟩
    · obtain rfl : q = m := Option.some.inj hm
      rw [hkind]
      exact ⟨by decide, by decide⟩
  · refine .inr ⟨?_, ?_⟩
    · simp [separator, isPrefixOperator, isBinaryOperator, hx, hparent, hkind, hclause, hq'.present]
    · rcases annotation_ends hv hgrown hgone.ne with ⟨hlast, hparent⟩ | ⟨hlast, hparent⟩ <;>
        simp [separator, isPrefixOperator, isBinaryOperator, hlast, hparent, hkind, hclause, hq'.present]

end Missing

end Quote

end TreeQuote
