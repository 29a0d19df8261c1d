/-
TreeQuote/Proofs/Quote/Lossless.lean

Trimming loses nothing of a text without repairs.  A modifier is dropped only where the text stays,
or under default formatting its ink.  Since the tokens of such a text were all read, each of them
shows: a property without text is absent, and a token that shows no more than the one by default is
that one, because the grammar asks for tokens of the same length there.

So what is left of a tree is the tree, each token as quoting leaves it.

Main statement: `quote_clean`.
-/
import TreeQuote.Proofs.Layout.Ink
import TreeQuote.Proofs.Parse.Clean
import TreeQuote.Proofs.Quote.RoundTrip

namespace TreeQuote

open Grammar Dressing

/-! ### What is visible -/

section Visible

variable {o : Options}

/-- What the text shows where blanks count only without default formatting. -/
def Options.shown (o : Options) (t : Text) : Text := if o.defaultFormatting then t.ink else t

theorem Options.shown_append (s t : Text) : o.shown (s ++ t) = o.shown s ++ o.shown t := by
  unfold shown
  split
  · exact Text.ink_append s t
  · rfl

theorem Options.length_ink_le (t : Text) : t.ink.length ≤ (o.shown t).length := by
  unfold shown
  split
  · exact Nat.le_refl _
  · exact t.length_ink_le

/-- What a side of a token shows. -/
def Options.side (o : Options) (ts : List Trivia) : Text := o.shown (Trivia.fullText (o.keep ts))

theorem Options.keep_keep (ts : List Trivia) : o.keep (o.keep ts) = o.keep ts := by
  cases ho : o.defaultFormatting <;> simp [keep, ho, Layout.kept, List.filter_filter]

/-- A side that shows nothing has nothing that is kept. -/
theorem Options.keep_eq_nil {ts : List Trivia} (hts : ∀ c ∈ ts, c.Scanned) (h : o.side ts = []) :
    o.keep ts = [] := by
  rw [side] at h
  cases hkeep : o.keep ts with
  | nil => rfl
  | cons c cs =>
    have hc : c ∈ o.keep ts := hkeep ▸ List.mem_cons_self
    obtain ⟨d, rest, htext, hd⟩ := (hts c (Options.keep_mem hc)).head
    rw [hkeep, Trivia.fullText_cons, shown_append] at h
    have hshown := (List.append_eq_nil_iff.mp h).1
    unfold shown at hshown
    split at hshown
    · next ho =>
      rw [keep, if_pos ho] at hc
      have hblank : c.isWhitespace = false := by simpa using List.of_mem_filter hc
      exact absurd hshown (Text.ink_ne_nil htext (hd.trans hblank))
    · rw [htext] at hshown
      cases hshown

/-- What a token shows. -/
def Token.visible (o : Options) (t : Token) : Text :=
  o.side t.leading ++ o.shown t.text ++ o.side t.trailing

theorem Token.visible_eq (t : Token) :
    t.visible o = if o.defaultFormatting then t.ink else t.fullText := by
  cases ho : o.defaultFormatting <;>
    simp [visible, Options.side, Options.shown, Options.keep, ho, ink, fullText]

theorem Token.visible_reduced (t : Token) : (t.reduced o).visible o = t.visible o := by
  simp [visible, reduced, Options.side, Options.keep_keep, withTrivia, core]

/-- A token that was read shows at least its text. -/
theorem Token.length_ink_le (t : Token) : t.text.ink.length ≤ (t.visible o).length := by
  have := Options.length_ink_le (o := o) t.text
  simp only [visible, List.length_append]
  omega

/-- A token that shows no more than its text keeps nothing but that. -/
theorem Token.Whole.reduced_eq {t : Token} (h : t.Whole)
    (hlen : (t.visible o).length ≤ t.text.ink.length) : t.reduced o = t.core := by
  have hle := Options.length_ink_le (o := o) t.text
  simp only [visible, List.length_append] at hlen
  have hlead : o.keep t.leading = [] :=
    Options.keep_eq_nil h.dressed.leading (List.length_eq_zero_iff.mp (by omega))
  have htrail : o.keep t.trailing = [] :=
    Options.keep_eq_nil h.dressed.trailing (List.length_eq_zero_iff.mp (by omega))
  rw [reduced, hlead, htrail]
  rfl

theorem Token.Whole.visible_ne_nil {t : Token} (h : t.Whole) (hk : t.kind ≠ .endOfFileToken) :
    t.visible o ≠ [] := by
  obtain ⟨c, rest, htext, hc⟩ := h.head.resolve_left hk
  intro hnil
  have hle := t.length_ink_le (o := o)
  rw [hnil, List.length_nil, Nat.le_zero, List.length_eq_zero_iff] at hle
  exact Text.ink_ne_nil htext hc hle

namespace Value

/-- What the tokens of a value show. -/
def visible (o : Options) (v : Value) : Text := v.leaves.flatMap (Token.visible o)

/-- What the tokens of some values show. -/
def visibleList (o : Options) (vs : List Value) : Text := (leavesList vs).flatMap (Token.visible o)

@[simp] theorem visible_node (c : NodeClass) (vs : List Value) :
    (Value.node c vs).visible o = visibleList o vs := rfl

@[simp] theorem visibleList_cons (v : Value) (vs : List Value) :
    visibleList o (v :: vs) = v.visible o ++ visibleList o vs := by
  rw [visibleList, leavesList_cons, List.flatMap_append, visible, visibleList]

theorem visibleList_append (vs ws : List Value) :
    visibleList o (vs ++ ws) = visibleList o vs ++ visibleList o ws := by
  rw [visibleList, leavesList_append, List.flatMap_append, visibleList, visibleList]

theorem visibleList_ne_nil {v : Value} {vs : List Value} (hv : v ∈ vs) (h : v.visible o ≠ []) :
    visibleList o vs ≠ [] := by
  obtain ⟨as, bs, rfl⟩ := List.append_of_mem hv
  rw [visibleList_append, visibleList_cons]
  simp [h]

theorem visible_token {t : Token} (h : t.isAbsent = false) :
    (Value.token t).visible o = t.visible o := by
  simp [visible, leaves, h]

theorem visibleList_congr {f : Value → Value} {vs : List Value}
    (h : ∀ v ∈ vs, (f v).visible o = v.visible o) : visibleList o (vs.map f) = visibleList o vs := by
  induction vs with
  | nil => rfl
  | cons v vs ih =>
    rw [List.map_cons, visibleList_cons, visibleList_cons, h v List.mem_cons_self,
      ih fun w hw => h w (List.mem_cons_of_mem v hw)]

/-- Quoting leaves what tokens show. -/
theorem visible_retoken (v : Value) : (v.retoken (Token.reduced o)).visible o = v.visible o := by
  induction v using Value.induction with
  | h v ih =>
    cases v with
    | token t =>
      cases habsent : t.isAbsent with
      | true => simp [retoken, visible, leaves, habsent, show (t.reduced o).isAbsent = true from habsent]
      | false =>
        rw [retoken, visible_token habsent, visible_token (t := t.reduced o) habsent,
          Token.visible_reduced]
    | tokens vs => rw [retoken_tokens]; exact visibleList_congr ih
    | node c vs => rw [retoken_node]; exact visibleList_congr ih
    | nodes vs => rw [retoken_nodes]; exact visibleList_congr ih
    | separated vs => rw [retoken_separated]; exact visibleList_congr ih
    | _ => rfl

/-- Trees with the same text show the same. -/
theorem WellFormed.visible_eq {v w : Value} (hv : v.WellFormed) (hw : w.WellFormed)
    (h : v.rendered o = w.rendered o) : v.visible o = w.visible o := by
  have heq : ∀ u : Value, u.visible o
      = if o.defaultFormatting then u.ink else tokensText u.leaves := by
    intro u
    have htoken : Token.visible o = fun t => if o.defaultFormatting then t.ink else t.fullText :=
      funext Token.visible_eq
    rw [visible, htoken]
    cases o.defaultFormatting <;> rfl
  rw [heq, heq]
  cases ho : o.defaultFormatting with
  | false =>
    rw [rendered, rendered, ho] at h
    exact h
  | true =>
    have hink := congrArg Text.ink h
    rw [hv.ink_rendered ho, hw.ink_rendered ho] at hink
    exact hink

end Value

end Visible

/-! ### Fixed tokens -/

theorem Kind.fixedText_ink : (Kind.all.all fun k =>
    decide ((k.fixedText?.getD []).ink = k.fixedText?.getD [])) = true := by decide +kernel

/-- Fixed texts have no blanks. -/
theorem Kind.ink_fixedText {k : Kind} {s : Text} (h : k.fixedText? = some s) : s.ink = s := by
  have hk := List.all_eq_true.mp Kind.fixedText_ink k k.mem_all
  rw [h, decide_eq_true_eq] at hk
  exact hk

/-- No two kinds have the same fixed text. -/
theorem Kind.fixedText_nodup :
    ((Kind.all.filter fun k => k.fixedText?.isSome).map Kind.fixedText?).Nodup := by decide +kernel

theorem Kind.fixedText_injective {j k : Kind} {s : Text} (hj : j.fixedText? = some s)
    (hk : k.fixedText? = some s) : j = k := by
  have hmem : ∀ {i : Kind}, i.fixedText? = some s → i ∈ Kind.all.filter fun k => k.fixedText?.isSome :=
    fun hi => List.mem_filter.mpr ⟨Kind.mem_all _, by rw [hi]; rfl⟩
  exact List.inj_on_of_nodup_map Kind.fixedText_nodup (hmem hj) (hmem hk) (hj.trans hk.symm)

/-- A token that was read and whose kind has a fixed text is the fixed token. -/
theorem Token.Whole.core_eq {t : Token} (h : t.Whole) {s : Text}
    (hk : t.kind.fixedText? = some s) : t.core = { kind := t.kind, text := s, value := .str s } := by
  cases h.dressed.built with
  | fixed hb =>
    have hne : t.kind ≠ .none := by
      intro hnone
      rw [hnone] at hk
      cases hk
    rw [Token.fixed?, if_neg hne, hk] at hb
    exact (Option.some.inj hb).symm
  | identifier hb =>
    have hkind : t.kind = .identifierToken := congrArg Token.kind hb
    rw [hkind] at hk
    cases hk
  | literal hb =>
    obtain ⟨k, hliteral, hcore⟩ := Option.map_eq_some_iff.mp hb
    have hkind : t.kind = k := (congrArg Token.kind hcore).symm
    rw [hkind] at hk
    unfold Token.literalKind? at hliteral
    split at hliteral <;> cases hliteral <;> cases hk
  | missing hb =>
    have hmissing : t.missing = true := congrArg Token.missing hb
    rw [h.present] at hmissing
    cases hmissing

/-! ### Visible forms -/

namespace Grammar

/-- What the form says is visible if it is there: inner nodes, and tokens other than the end of the
file. -/
def Form.isVisible : Form → Bool
  | .token ks => !ks.contains .none && !ks.contains .endOfFileToken
  | .tokens k => !([k].contains .none) && !([k].contains .endOfFileToken)
  | .perhaps k => !([k].contains .none) && !([k].contains .endOfFileToken)
  | .node t => holdsInner t
  | .optional t => holdsInner t
  | .nodes t => holdsInner t
  | .separated t => holdsInner t
  | .nothing => true
  | .more _ => false

/-- Something is there, a token or a node. -/
def Form.isFull : Form → Bool
  | .token _ => true
  | .node _ => true
  | _ => false

/-- Only the end of the file may be there and not be visible. -/
theorem slots_isVisible {c : NodeClass} {g : Form} (hg : g ∈ slots c) :
    g.isVisible = true ∨ g = .perhaps .endOfFileToken ∧ c = .compilationUnit := by
  have hall : ((slots c).all fun g => g.isVisible
      || decide (g = .perhaps .endOfFileToken) && decide (c = .compilationUnit)) = true := by
    cases c <;> decide
  simpa using List.all_eq_true.mp hall g hg

theorem slots_isFull {c : NodeClass} (hc : isInner c = true) :
    (slots c).any Form.isFull = true := by
  cases c <;> first | decide | exact absurd hc (by decide)

theorem exists_slot {gs : List Form} {vs : List Value} (h : List.Forall₂ Form.Holds gs vs)
    {g : Form} (hg : g ∈ gs) : ∃ v ∈ vs, g.Holds v := by
  induction h with
  | nil => cases hg
  | @cons g' v gs vs hv _ ih =>
    rcases List.mem_cons.mp hg with rfl | hg
    · exact ⟨v, List.mem_cons_self, hv⟩
    · obtain ⟨w, hw, hholds⟩ := ih hg
      exact ⟨w, List.mem_cons_of_mem v hw, hholds⟩

/-- The kinds of the token that the form says. -/
def Form.kinds : Form → List Kind
  | .token ks => ks
  | .perhaps k => [k]
  | _ => []

/-- A fixed token is as long as each token that the form allows. -/
def Form.isSized (g : Form) : Part → Bool
  | .fixed (.token t) =>
    t.isAbsent || g.kinds.all fun k => k.fixedText?.map List.length = some t.text.length
  | _ => true

end Grammar

/-- All fixed tokens of a recipe are as long as those that the grammar allows. -/
def Recipe.isSized : Recipe → Bool
  | .node c parts => ((slots c).zip parts).all fun x => x.1.isSized x.2
  | _ => true

theorem Registry.isSized_language :
    (Registry.language.all fun f => f.overloads.all fun o => o.recipe.isSized) = true := by
  decide +kernel

namespace Quote

open Evaluate Value

variable {o : Options}

/-- A token that was read is the fixed one of its kind, if it shows no more than that. -/
theorem whole_fixed {t : Token} (h : t.Whole) {s : Text} (hk : t.kind.fixedText? = some s) :
    s.length ≤ (t.visible o).length
      ∧ ((t.visible o).length ≤ s.length → Value.token (t.reduced o) = Recipe.fixedToken t.kind) := by
  have hcore := h.core_eq hk
  have htext : t.text = s := congrArg Token.text hcore
  have hink : t.text.ink.length = s.length := by rw [htext, Kind.ink_fixedText hk]
  refine ⟨hink ▸ t.length_ink_le, fun hlen => ?_⟩
  rw [h.reduced_eq (hink ▸ hlen), hcore, Recipe.fixedToken_eq hk]

theorem visible_fixedToken {k : Kind} {s : Text} (hk : k.fixedText? = some s) :
    (Recipe.fixedToken k).visible o = s := by
  have hne : k ≠ .none := by
    rintro rfl
    cases hk
  rw [Recipe.fixedToken_eq hk, visible_token (by simpa [Token.isAbsent] using hne)]
  have hink := Kind.ink_fixedText hk
  cases ho : o.defaultFormatting <;>
    simp [Token.visible, Options.side, Options.shown, Options.keep, ho, Layout.kept, hink]

/-! ### Values that show nothing -/

/-- A token of the grammar shows. -/
theorem token_visible {ks : List Kind} {v : Value} (h : IsTokenOf ks v) (hv : v.Clean)
    (hks : (Form.token ks).isVisible = true) : v.visible o ≠ [] := by
  obtain ⟨t, rfl, ht⟩ := h
  simp only [Form.isVisible, Bool.and_eq_true, Bool.not_eq_true', List.contains_eq_mem,
    decide_eq_false_iff_not] at hks
  have habsent : t.isAbsent = false := by
    simp only [Token.isAbsent, decide_eq_false_iff_not]
    exact fun hk => hks.1 (hk ▸ ht)
  have hwhole : t.Whole := hv.whole t (by simp [leaves, habsent])
  rw [visible_token habsent]
  exact hwhole.visible_ne_nil fun hk => hks.2 (hk ▸ ht)

/-- An inner node shows. -/
theorem node_visible {t : NodeType} (ht : holdsInner t = true) {v : Value} (hv : v.Clean)
    (h : v.isNodeOf t = true) : v.visible o ≠ [] := by
  induction v using Value.induction generalizing t with
  | h v ih =>
    cases v with
    | node c vs =>
      have hc := isInner_of_holds ht h
      obtain ⟨g, hg, hfull⟩ := List.any_eq_true.mp (slots_isFull hc)
      obtain ⟨w, hw, hholds⟩ := exists_slot hv.grown.1.slots hg
      have hvisible : g.isVisible = true :=
        (slots_isVisible hg).resolve_right fun hend => by rw [hend.1] at hfull; cases hfull
      refine visibleList_ne_nil hw ?_
      cases g with
      | token ks => exact token_visible hholds (hv.ofNode w hw) hvisible
      | node s => exact ih w hw hvisible (hv.ofNode w hw) hholds
      | _ => cases hfull
    | _ => cases h

/-- A list all of whose members would show is empty if it shows nothing. -/
theorem eq_nil_of_visible {vs : List Value} (h : visibleList o vs = [])
    (hvs : ∀ v ∈ vs, v.visible o ≠ []) : vs = [] := by
  cases vs with
  | nil => rfl
  | cons v vs => exact absurd h (visibleList_ne_nil List.mem_cons_self (hvs v List.mem_cons_self))

/-- A list of inner nodes that shows nothing is empty. -/
theorem nodes_eq_nil {t : NodeType} (ht : holdsInner t = true) {v : Value} (hv : v.Clean)
    (hholds : (Form.nodes t).Holds v) (h : v.visible o = []) : v = .nodes [] := by
  obtain ⟨vs, rfl, hvs⟩ := hholds
  rw [eq_nil_of_visible h fun w hw => node_visible ht (hv.ofNodes w hw) (hvs w hw)]

/-- And so is one with separators. -/
theorem separated_eq_nil {t : NodeType} (ht : holdsInner t = true) {v : Value} (hv : v.Clean)
    (hholds : (Form.separated t).Holds v) (h : v.visible o = []) : v = .separated [] := by
  obtain ⟨vs, rfl, rfl | ⟨w, ws, rfl, hw, -⟩⟩ := hholds
  · rfl
  · exact absurd h (visibleList_ne_nil List.mem_cons_self
      (node_visible ht (hv.ofSeparated w List.mem_cons_self) hw))

/-- A property that may be absent and shows nothing is absent. -/
theorem blank_of_visible {c : NodeClass} {f : Field} {g : Form} {v d : Value}
    (hfg : fitsSlot c f g = true) (hg : g ∈ slots c) (hlack : f.mayLack c = true)
    (hd : f.isBlank d = true) (hholds : g.Holds v) (hv : v.Clean) (h : v.visible o = []) :
    f.isBlank v = true := by
  simp only [fitsSlot, Bool.and_eq_true, decide_eq_true_eq] at hfg
  obtain ⟨hshape, hplace⟩ := hfg
  have hvisible : g.isVisible = true := by
    refine (slots_isVisible hg).resolve_right ?_
    rintro ⟨rfl, rfl⟩
    simp [Field.mayLack, hshape, Form.shape] at hlack
  cases g with
  | nothing =>
    rw [Form.shape] at hshape
    unfold Field.isBlank at hd
    split at hd <;> simp [hshape] at hd
  | token ks => exact absurd h (token_visible hholds hv hvisible)
  | perhaps k =>
    rcases hholds with rfl | hholds
    · simp [Field.isBlank, hshape, Form.shape]
    · exact absurd h (token_visible hholds hv hvisible)
  | tokens k =>
    obtain ⟨vs, rfl, hvs⟩ := hholds
    obtain rfl := eq_nil_of_visible h fun w hw =>
      token_visible (hvs w hw) (hv.ofTokens w hw) hvisible
    simp [Field.isBlank, hshape, Form.shape]
  | node t => exact absurd h (node_visible hvisible hv hholds)
  | optional t =>
    rcases hholds with rfl | hholds
    · simp [Field.isBlank, Value.none, hshape, Form.shape]
    · exact absurd h (node_visible hvisible hv hholds)
  | nodes t =>
    obtain rfl := nodes_eq_nil hvisible hv hholds h
    simp [Field.isBlank, hshape, Form.shape]
  | separated t =>
    obtain rfl := separated_eq_nil hvisible hv hholds h
    simp [Field.isBlank, hshape, Form.shape]
  | more t => exact hholds.elim

/-! ### Values by default -/

theorem fixedToken_injective {j k : Kind} {s : Text} (hk : k.fixedText? = some s)
    (h : Recipe.fixedToken j = Recipe.fixedToken k) : j = k := by
  rw [Recipe.fixedToken_eq hk] at h
  cases hj : j.fixedText? with
  | some u =>
    rw [Recipe.fixedToken_eq hj] at h
    cases h
    rfl
  | none =>
    have habsent : Recipe.fixedToken j = .token .absent := by
      rw [Recipe.fixedToken, Token.fixed?]
      split
      · rfl
      · rw [hj, Option.map_none, Option.getD_none]
    rw [habsent] at h
    cases h

section Default

variable {c : NodeClass} {f : Field} {g : Form} {part : Part} {k : Kind} {v d : Value}

/-- A token of the grammar is as long as the one that its property has by default. -/
theorem length_default {j : Kind} {s : Text} {t : Token} (hleaves : part.leaves c f = true)
    (hd : (part.default? c k).getD .none = Recipe.fixedToken j) (hj : j.fixedText? = some s)
    (hsized : g.isSized part = true) (hg : t.kind ∈ g.kinds)
    (hkind : c.kind? = Option.none → Kind.tokenOf? c.kindTable k = some t.kind) :
    ∃ u, t.kind.fixedText? = some u ∧ u.length = s.length := by
  cases part with
  | fixed w =>
    obtain rfl : w = Recipe.fixedToken j := hd
    have hne : j ≠ .none := by
      rintro rfl
      cases hj
    rw [Recipe.fixedToken_eq hj, Form.isSized, Bool.or_eq_true] at hsized
    have hall := hsized.resolve_left (by simpa [Token.isAbsent] using hne)
    have hlen := of_decide_eq_true (List.all_eq_true.mp hall t.kind hg)
    obtain ⟨u, hu, hlen⟩ := Option.map_eq_some_iff.mp hlen
    exact ⟨u, hu, hlen⟩
  | operator i =>
    simp only [Part.leaves, Bool.and_eq_true, Option.isNone_iff_eq_none] at hleaves
    have hd : Recipe.fixedToken ((Kind.tokenOf? c.kindTable k).getD .none) = Recipe.fixedToken j := hd
    rw [hkind hleaves.2] at hd
    have heq : t.kind = j := fixedToken_injective hj hd
    exact ⟨s, heq ▸ hj, rfl⟩
  | _ => cases hleaves

/-- A property with a token by default holds a token that is as long. -/
theorem token_of_default {j : Kind} {s : Text} (hlack : f.mayLack c = false)
    (hshape : f.shape = .token) (hfg : fitsSlot c f g = true) (hleaves : part.leaves c f = true)
    (hd : (part.default? c k).getD .none = Recipe.fixedToken j) (hj : j.fixedText? = some s)
    (hsized : g.isSized part = true) (hholds : g.Holds v)
    (hfits : Field.Fits c f (v.retoken (Token.reduced o)))
    (hkind : c.kind? = Option.none → ∀ t, v = .token t → Kind.tokenOf? c.kindTable k = some t.kind) :
    ∃ t : Token, v = .token t ∧ t.kind ∈ g.kinds ∧ t.isAbsent = false
      ∧ ∃ u, t.kind.fixedText? = some u ∧ u.length = s.length := by
  simp only [fitsSlot, Bool.and_eq_true, decide_eq_true_eq, hshape] at hfg
  have hpresent : v ≠ .token .absent := by
    rintro rfl
    rw [retoken, Token.reduced_absent] at hfits
    rcases hfits with hfits | ⟨hc, hname, -⟩
    · rw [hshape] at hfits
      obtain ⟨t, ht, hwf⟩ := hfits
      cases ht
      exact hwf.present rfl
    · simp [Field.mayLack, hc, hname] at hlack
  obtain ⟨t, rfl, hg⟩ : ∃ t : Token, v = .token t ∧ t.kind ∈ g.kinds := by
    cases g with
    | token ks => exact hholds
    | perhaps k => exact hholds.resolve_left hpresent
    | _ => cases hfg.1
  obtain ⟨u, hu, hlen⟩ := length_default hleaves hd hj hsized hg fun hc => hkind hc t rfl
  refine ⟨t, rfl, hg, ?_, u, hu, hlen⟩
  simp only [Token.isAbsent, decide_eq_false_iff_not]
  intro hnone
  rw [hnone] at hu
  cases hu

/-- A token that shows what a fixed one of the same length shows is that one. -/
theorem whole_eq_fixed {t : Token} (hwhole : t.Whole) {j : Kind} {s u : Text}
    (hj : j.fixedText? = some s) (hu : t.kind.fixedText? = some u) (hlen : u.length = s.length)
    (h : (Value.token t).visible o = (Recipe.fixedToken j).visible o) :
    Value.token (t.reduced o) = Recipe.fixedToken j := by
  have habsent : t.isAbsent = false := by
    simp only [Token.isAbsent, decide_eq_false_iff_not]
    intro hnone
    rw [hnone] at hu
    cases hu
  rw [visible_token habsent, visible_fixedToken hj] at h
  have hfixed : Value.token (t.reduced o) = Recipe.fixedToken t.kind :=
    (whole_fixed hwhole hu).2 (by rw [h, hlen])
  -- What is left shows the same, so it has the same text.
  have hsame : u = s := by
    rw [← visible_fixedToken (o := o) hu, ← hfixed,
      visible_token (t := t.reduced o) habsent, Token.visible_reduced, h]
  have hkinds : t.kind = j := Kind.fixedText_injective (hu.trans (congrArg some hsame)) hj
  rw [hfixed, hkinds]

/-- Brackets that show what empty ones show are empty. -/
theorem brackets_eq {e : NodeClass} {k l : Kind} {s u : Text} {m : Value}
    (hslots : slots e = [.token [k], g, .token [l]]) (hk : k.fixedText? = some s)
    (hl : l.fixedText? = some u) (hm : m.visible o = [])
    (hlist : ∀ w : Value, g.Holds w → w.Clean → w.visible o = [] → w.retoken (Token.reduced o) = m)
    (hv : v.Clean) (hnode : v.isNodeOf (.cls e) = true)
    (h : v.visible o = (Value.node e [Recipe.fixedToken k, m, Recipe.fixedToken l]).visible o) :
    v.retoken (Token.reduced o) = .node e [Recipe.fixedToken k, m, Recipe.fixedToken l] := by
  obtain ⟨vs, rfl⟩ : ∃ vs, v = .node e vs := by
    cases v with
    | node c vs =>
      obtain rfl : c = e := of_decide_eq_true hnode
      exact ⟨vs, rfl⟩
    | _ => cases hnode
  have hgrown := hv.grown.1.slots
  rw [hslots] at hgrown
  cases hgrown with
  | @cons _ a _ _ ha hgrown =>
  cases hgrown with
  | @cons _ w _ _ hw hgrown =>
  cases hgrown with
  | @cons _ b _ _ hb hnil =>
  cases hnil
  have hclean := hv.ofNode
  simp only [List.forall_mem_cons] at hclean
  have htoken : ∀ {x : Value} {i : Kind} {r : Text}, IsTokenOf [i] x → x.Clean
      → i.fixedText? = some r → r.length ≤ (x.visible o).length
        ∧ ((x.visible o).length ≤ r.length → x.retoken (Token.reduced o) = Recipe.fixedToken i) := by
    rintro x i r ⟨t, rfl, ht⟩ hx hi
    obtain rfl := List.mem_singleton.mp ht
    have habsent : t.isAbsent = false := by
      simp only [Token.isAbsent, decide_eq_false_iff_not]
      intro hnone
      rw [hnone] at hi
      cases hi
    rw [visible_token habsent]
    exact whole_fixed (hx.whole t (by simp [leaves, habsent])) hi
  obtain ⟨hale, haeq⟩ := htoken ha hclean.1 hk
  obtain ⟨hble, hbeq⟩ := htoken hb hclean.2.2.1 hl
  simp only [visible_node, visibleList_cons, visible_fixedToken hk, visible_fixedToken hl, hm] at h
  have hlen := congrArg List.length h
  simp only [visibleList, leavesList_nil, List.flatMap_nil, List.length_append, List.length_nil]
    at hlen
  have hnil : w.visible o = [] := List.length_eq_zero_iff.mp (by omega)
  rw [retoken_node, List.map_cons, List.map_cons, List.map_cons, List.map_nil, haeq (by omega),
    hbeq (by omega), hlist w hw hclean.2.1 hnil]

/-- A property that shows what its value by default shows has that value. -/
theorem eq_default (hfg : fitsSlot c f g = true) (hg : g ∈ slots c)
    (hleaves : part.leaves c f = true) (hd : (part.default? c k).getD .none = d)
    (hstandard : Field.Standard c f d) (hsized : g.isSized part = true) (hholds : g.Holds v)
    (hv : v.Clean) (hfits : Field.Fits c f (v.retoken (Token.reduced o)))
    (hkind : c.kind? = Option.none → ∀ t, v = .token t → Kind.tokenOf? c.kindTable k = some t.kind)
    (h : v.visible o = d.visible o) : v.retoken (Token.reduced o) = d := by
  cases hstandard with
  | blank hlack hblank =>
    have hnil : d.visible o = [] := by
      unfold Field.isBlank at hblank
      split at hblank <;> first | rfl | skip
      · simp only [Bool.and_eq_true, decide_eq_true_eq] at hblank
        rw [hblank.1]
        rfl
      · cases hblank
    have hv' := blank_of_visible hfg hg hlack hblank hholds hv (h.trans hnil)
    exact Field.isBlank_unique (Field.isBlank_retoken (Token.reduced_absent o) hv') hblank
  | token hlack hshape hj =>
    obtain ⟨t, rfl, -, habsent, u, hu, hlen⟩ :=
      token_of_default hlack hshape hfg hleaves hd hj hsized hholds hfits hkind
    exact whole_eq_fixed (hv.whole t (by simp [leaves, habsent])) hj hu hlen h
  | @brackets e i l m hlack hshape he =>
    simp only [fitsSlot, Bool.and_eq_true, decide_eq_true_eq, hshape] at hfg
    have hnode : v.isNodeOf (.cls e) = true := by
      cases g with
      | node t =>
        obtain rfl : NodeType.cls e = t := by simpa [Form.shape] using hfg.1
        exact hholds
      | _ => cases hfg.1
    have hnodes : ∀ {t : NodeType}, holdsInner t = true → ∀ w : Value, (Form.nodes t).Holds w
        → w.Clean → w.visible o = [] → w.retoken (Token.reduced o) = .nodes [] := by
      intro t ht w hw hclean hnil
      rw [nodes_eq_nil ht hclean hw hnil, retoken_nodes, List.map_nil]
    have hseparated : ∀ {t : NodeType}, holdsInner t = true → ∀ w : Value,
        (Form.separated t).Holds w → w.Clean → w.visible o = []
        → w.retoken (Token.reduced o) = .separated [] := by
      intro t ht w hw hclean hnil
      rw [separated_eq_nil ht hclean hw hnil, retoken_separated, List.map_nil]
    cases e <;> cases he
    · exact brackets_eq rfl rfl rfl rfl (hseparated (by decide)) hv hnode h
    · exact brackets_eq rfl rfl rfl rfl (hnodes (by decide)) hv hnode h
    · exact brackets_eq rfl rfl rfl rfl (hseparated (by decide)) hv hnode h
    · exact brackets_eq rfl rfl rfl rfl (hseparated (by decide)) hv hnode h

end Default

/-! ### Trees -/

variable {c : NodeClass} {k : Kind}

/-- Sifting leaves the properties of a clean node as they are. -/
theorem Sifts.eq {done us : List Value} {fs : List Field} {gs : List Form} {parts : List Part}
    {vs : List Value}
    (h : Sifts o c k done fs parts (vs.map (retoken (Token.reduced o))) us)
    (hfields : List.Forall₂ (fun f g => fitsSlot c f g = true) fs gs) (hgs : gs ⊆ slots c)
    (hsized : ∀ x ∈ gs.zip parts, x.1.isSized x.2 = true)
    (hslots : List.Forall₂ Form.Holds gs vs) (hclean : ∀ v ∈ vs, v.Clean)
    (hkind : c.kind? = Option.none → ∀ t, .token t ∈ vs
      → Kind.tokenOf? c.kindTable k = some t.kind) :
    us = vs.map (retoken (Token.reduced o)) := by
  generalize hws : vs.map (retoken (Token.reduced o)) = ws at h
  induction h generalizing gs vs with
  | nil => rfl
  | @keep done f fs part parts w ws us _ ih =>
    cases hfields with
    | @cons _ g _ gs hfg hfields =>
    cases hslots with
    | @cons _ v _ vs hholds hslots =>
      cases hws
      rw [List.cons_subset] at hgs
      rw [List.zip_cons_cons, List.forall_mem_cons] at hsized
      obtain ⟨-, hclean⟩ := List.forall_mem_cons.mp hclean
      rw [ih hfields hgs.2 hsized.2 hslots hclean
        (fun hc t ht => hkind hc t (List.mem_cons_of_mem v ht)) rfl]
  | @drop done f fs part parts d w ws us hleaves hd hstandard hfits hbefore hafter htext _ ih =>
    cases hfields with
    | @cons _ g _ gs hfg hfields =>
    cases hslots with
    | @cons _ v _ vs hholds hslots =>
      cases hws
      rw [List.cons_subset] at hgs
      rw [List.zip_cons_cons, List.forall_mem_cons] at hsized
      obtain ⟨hv, hclean⟩ := List.forall_mem_cons.mp hclean
      -- The property shows the same with and without the modifier.
      have hsame := hafter.visible_eq hbefore htext
      rw [visible_node, visible_node, visibleList_append, visibleList_append, visibleList_cons,
        visibleList_cons] at hsame
      have hpart := List.append_cancel_right (List.append_cancel_left hsame)
      rw [visible_retoken] at hpart
      have hw := eq_default hfg hgs.1 hleaves hd hstandard hsized.1 hholds hv hfits
        (fun hc t ht => hkind hc t (ht ▸ List.mem_cons_self)) hpart
      rw [hw, ih hfields hgs.2 hsized.2 hslots hclean
        (fun hc t ht => hkind hc t (List.mem_cons_of_mem v ht)) rfl]

/-- What is left of the members of a list is left of the list. -/
theorem forall₂_retoken {P : Value → Prop} {vs ws : List Value}
    (h : List.Forall₂ (fun v w => P v → w = v.retoken (Token.reduced o)) vs ws)
    (hvs : ∀ v ∈ vs, P v) : ws = vs.map (retoken (Token.reduced o)) := by
  induction h with
  | nil => rfl
  | cons hv _ ih =>
    obtain ⟨hP, hrest⟩ := List.forall_mem_cons.mp hvs
    rw [List.map_cons, hv hP, ih hrest]

theorem tokenOf?_kindTable {c : NodeClass} :
    ∀ x ∈ c.kindTable, Kind.tokenOf? c.kindTable x.1 = some x.2 := by
  cases c <;> decide

/-- Only a form with kinds holds a token. -/
theorem kinds_of_token {g : Form} {t : Token} (h : g.Holds (.token t)) : g.kinds.isEmpty = false := by
  cases g with
  | token ks =>
    obtain ⟨u, -, hu⟩ := h
    exact List.isEmpty_eq_false_iff.mpr (List.ne_nil_of_mem hu)
  | perhaps k => rfl
  | nothing => obtain ⟨k, hk⟩ := h; cases hk
  | tokens k => obtain ⟨vs, hvs, -⟩ := h; cases hvs
  | node s => cases h
  | optional s => rcases h with h | h <;> cases h
  | nodes s => obtain ⟨vs, hvs, -⟩ := h; cases hvs
  | separated s => obtain ⟨vs, hvs, -⟩ := h; cases hvs
  | more s => exact h.elim

/-- A node has at most as many tokens of its own as forms with kinds. -/
theorem length_tokens {gs : List Form} {vs : List Value} (h : List.Forall₂ Form.Holds gs vs) :
    (vs.filter Value.isToken).length ≤ (gs.filter fun g => !g.kinds.isEmpty).length := by
  induction h with
  | nil => exact Nat.le_refl _
  | @cons g v gs vs hv _ ih =>
    cases v with
    | token t =>
      rw [List.filter_cons_of_pos rfl, List.filter_cons_of_pos (by simp [kinds_of_token hv])]
      exact Nat.succ_le_succ ih
    | framed t l r => cases g <;> simp [Form.Holds, IsTokenOf, Value.isNodeOf, Value.none] at hv
    | _ =>
      rw [List.filter_cons_of_neg (by simp [Value.isToken])]
      exact ih.trans (((List.sublist_cons_self _ _).filter _).length_le)

/-- A node of several kinds has the token of its kind. -/
theorem kind_token {vs : List Value} (h : Grows c vs) (hnone : c.kind? = Option.none) :
    ∀ t, .token t ∈ vs → Kind.tokenOf? c.kindTable (Value.kindOf c vs) = some t.kind := by
  intro t ht
  have hcount : ((slots c).filter fun g => !g.kinds.isEmpty).length ≤ 1
      ∧ (c.kindTable = [] → slots c = []) := by
    cases c <;> cases hnone <;> decide
  have hslots := h.slots
  have htable : c.kindTable ≠ [] := by
    intro hnil
    rw [hcount.2 hnil] at hslots
    cases hslots
    cases ht
  obtain ⟨s, hs, hmem⟩ := h.kind htable
  have hone := (length_tokens hslots).trans hcount.1
  have hmember : ∀ {u : Token}, .token u ∈ vs → Value.token u ∈ vs.filter Value.isToken := fun hu =>
    List.mem_filter.mpr ⟨hu, rfl⟩
  have hsame : Value.token t = .token s := by
    obtain ⟨v, hv⟩ := List.length_eq_one_iff.mp
      (Nat.le_antisymm hone (List.length_pos_of_mem (hmember ht)))
    have ht' := hmember ht
    have hs' := hmember hs
    rw [hv, List.mem_singleton] at ht' hs'
    rw [ht', hs']
  cases hsame
  exact tokenOf?_kindTable _ hmem

/-- What a check says of all recipes of the catalogue holds of the parts of a plan. -/
theorem sound_parts {p : Plan} (h : p.Sound c) {P : NodeClass → List Part → Bool}
    (hall : (Registry.language.all fun f => f.overloads.all fun o => match o.recipe with
      | .node c parts => P c parts
      | _ => true) = true)
    (hliteral : P .literalExpression [.argument 0, .operator 0] = true) :
    P c p.overload.recipe.parts = true := by
  have hmem : p.overload ∈ p.factory.overloads := by
    rw [h.overloads]
    exact List.mem_append_right _ List.mem_cons_self
  have hrecipe := List.all_eq_true.mp (List.all_eq_true.mp hall _ h.mem) _ hmem
  rcases h.recipe with ⟨parts, hparts⟩ | ⟨rfl, hparts⟩
  · rw [hparts] at hrecipe ⊢
    exact hrecipe
  · rw [hparts]
    exact hliteral

/-- The fixed tokens of a plan are as long as those of the grammar. -/
theorem sound_isSized {p : Plan} (h : p.Sound c) :
    ∀ x ∈ (slots c).zip p.overload.recipe.parts, x.1.isSized x.2 = true :=
  List.all_eq_true.mp (sound_parts (P := fun c parts => ((slots c).zip parts).all fun x => x.1.isSized x.2)
    h Registry.isSized_language (by decide))

/-- What is left of a clean value is the value. -/
theorem lenient_clean (o : Options) :
    Lenient o fun v w => v.Clean → w = v.retoken (Token.reduced o) where
  none _ := rfl
  text _ _ := rfl
  kind _ _ := rfl
  token _ _ := rfl
  absent _ := by rw [retoken, Token.reduced_absent]
  tokens h hv := by rw [retoken_tokens, forall₂_retoken h hv.ofTokens]
  nodes h hv := by rw [retoken_nodes, forall₂_retoken h hv.ofNodes]
  separated h hv := by rw [retoken_separated, forall₂_retoken h hv.ofSeparated]
  node {c vs ws us p} hadmits _ hws hsound hsifts hv := by
    obtain rfl := forall₂_retoken hws hv.ofNode
    have hgrown := hv.grown.1
    rw [kindOf_retoken] at hsifts
    have hdoc : c ≠ .documentationComment := by
      rintro rfl
      exact absurd (hgrown.slots.length_eq.trans hadmits.fields.length_eq.symm) (by decide)
    have hpair : c ≠ .pair := by
      rintro rfl
      exact absurd hadmits.class_mem (by decide)
    rw [retoken_node, hsifts.eq (fitsSlot_slots hdoc hpair) (List.Subset.refl _)
      (sound_isSized hsound) hgrown.slots hv.ofNode (kind_token hgrown)]

end Quote

/-- **Trimming a text without repairs loses nothing.**  The call for the tree of a text without a
report, trimmed of all modifiers that change no text, builds a tree that equals it or, under default
formatting, equals its layout. -/
theorem quote_clean {o : Options} (hremove : o.removeRedundant = true) {source : Text} {c : Context}
    {file : Option Text} {p : Parsed} (hsource : Quotable source)
    (hread : parse? source c file = some p) (hclean : p.diagnostics = []) :
    ∃ q u w, quote .standard o p.root = .ok q ∧ Evaluate.eval .standard q = .ok w
      ∧ (if o.defaultFormatting then p.root.normalized? {} else .ok p.root) = .ok u
      ∧ w.eqv u = true := by
  have hroot := parse?_wellFormed hsource hread
  have htype := (parse?_tree hread).1
  have hrootClean :=
    parsePure?_root_clean ((parse?_iff_pure (by simp [hclean])).1 hread) hclean
  generalize p.root = v at hroot htype hrootClean ⊢
  obtain ⟨d, vs, rfl⟩ : ∃ d vs, v = .node d vs := hroot.1
  obtain ⟨q, us, hq, -, hus, heval⟩ :=
    (Quote.lenient_clean o).quote hroot (ne_documentation htype) hremove
  rw [hus hrootClean] at heval
  cases ho : o.defaultFormatting with
  | false =>
    rw [ho] at heval
    refine ⟨q, _, _, hq, heval, rfl, ?_⟩
    exact hroot.formed.eqv_retoken (Token.reduced_absent o) fun t ht => Token.reduced_eqv ht ho
  | true =>
    rw [ho] at heval
    refine ⟨q, _, _, hq, heval, hroot.normalized?_eq_ok Layout.isText_default, ?_⟩
    refine Value.normalized_retoken (Value.keeps_reduced o) (fun t ht => ?_) hroot {}
    exact ⟨Token.reduced_sameCore ht, Layout.kept_keep o _, Layout.kept_keep o _⟩

/-- A struct and a function with a comment: the trimmed call builds the layout of the tree. -/
theorem quote_clean_function :
    ({} : Options).removeRedundant = true
      ∧ Quotable (Text.of "struct S \x7b a: T \x7d;fn f(x: S) \x7b return x.a; // end\n \x7d")
      ∧ ∃ p, parse? (Text.of "struct S \x7b a: T \x7d;fn f(x: S) \x7b return x.a; // end\n \x7d")
            .unit none = some p
          ∧ p.diagnostics = []
          ∧ ∃ q u w, quote .standard {} p.root = .ok q ∧ Evaluate.eval .standard q = .ok w
            ∧ p.root.normalized? {} = .ok u ∧ w.eqv u = true := by
  have hkinds : (Lexeme.scan? (Text.of
      "struct S \x7b a: T \x7d;fn f(x: S) \x7b return x.a; // end\n \x7d")).map (List.map (·.kind))
      = some [.structKeyword, .identifierToken, .openBraceToken, .identifierToken, .colonToken,
        .identifierToken, .closeBraceToken, .semicolonToken, .fnKeyword, .identifierToken,
        .openParenToken, .identifierToken, .colonToken, .identifierToken, .closeParenToken,
        .openBraceToken, .returnKeyword, .identifierToken, .dotToken, .identifierToken,
        .semicolonToken, .closeBraceToken] := by
    decide +kernel
  have hsource := Quotable.of_kinds (by decide) hkinds (by decide) (by decide)
  have hread : (parse? (Text.of "struct S \x7b a: T \x7d;fn f(x: S) \x7b return x.a; // end\n \x7d")
      .unit none).map (·.diagnostics) = some [] := by decide +kernel
  obtain ⟨p, hp, hclean⟩ := Option.map_eq_some_iff.mp hread
  exact ⟨rfl, hsource, p, hp, hclean, quote_clean rfl hsource hp hclean⟩

end TreeQuote
