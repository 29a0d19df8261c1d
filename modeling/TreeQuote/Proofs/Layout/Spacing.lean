/-
TreeQuote/Proofs/Layout/Spacing.lean

What layout sees of a tree.  Of a token it sees the kind, the text, whether it is missing, where it
hangs, and the comments beside it; spaces, line ends and spans make no difference (`Place.Similar`).
So trees that are equal up to those have equal layouts:

    SimilarList ps qs → EqvList (L.tokens ps) (L.tokens qs)

A well-formed tree has a layout.

Main statements: `Layout.tokens_similar`, `Value.normalized_retoken`, `Value.Formed.eqv_retoken` and
`Value.WellFormed.normalized?_eq_ok`.
-/
import TreeQuote.Layout
import TreeQuote.Proofs.Tree.Retoken

namespace TreeQuote

/-! ### Equal tokens -/

theorem Double.same_self {x : Double} (h : x.Canonical) : x.same x = true := by
  cases x with
  | nan p => exact h.elim
  | infinite s => simp [same, eqv]
  | finite s m e => simp [same, eqv]

theorem Scalar.same_self_of_canonical {s : Scalar} (h : ∀ x, s = .float x → x.Canonical) :
    s.same s = true := by
  cases s with
  | none => rfl
  | bool b => simp [same, eqv, asInt?]
  | int n => simp [same, eqv, asInt?]
  | float x => exact Double.same_self (h x rfl)
  | str t => simp [same, eqv]

theorem Scalar.same_self {s : Scalar} (h : s.Writable) : s.same s = true :=
  same_self_of_canonical fun _ hx => by rwa [hx] at h

namespace Token

/-- Tokens that are the same apart from their trivia and spans. -/
structure SameCore (t u : Token) : Prop where
  kind : t.kind = u.kind
  text : t.text = u.text
  value : t.value.same u.value = true
  missing : t.missing = u.missing

theorem SameCore.eqv {t u : Token} (h : SameCore t u) {ls rs : List Trivia} :
    (t.withTrivia ls rs).eqv (u.withTrivia ls rs) = true := by
  simp [Token.eqv, withTrivia, h.kind, h.text, h.value, h.missing]

end Token

/-- Places that layout does not tell apart. -/
structure Place.Similar (p q : Place) : Prop where
  core : p.token.SameCore q.token
  parent : p.parent = q.parent
  slot : p.slot = q.slot
  leading : Layout.kept p.token.leading = Layout.kept q.token.leading
  trailing : Layout.kept p.token.trailing = Layout.kept q.token.trailing

namespace Layout

variable {L : Layout} {p q p' q' : Place} {ps qs : List Place}

/-- What stands between `prev` and the token behind it. -/
def gap (L : Layout) (prev : Place) (depth : Nat) (before : Text) (p : Place) : List Trivia :=
  L.between (some (separatorAfter before prev p))
    (kept prev.token.trailing ++ kept p.token.leading) p.token.kind (depthAt p.token.kind depth)

/-- What the layout of the tokens behind `p` starts from. -/
def behind (L : Layout) (p : Place) (depth : Nat) (before : Text) (ps : List Place) :
    List Trivia × List Token :=
  L.layoutAfter p (depthAfter p.token.kind depth) (lastText before p.token.text) ps

theorem layoutAfter_nil (p : Place) (depth : Nat) (before : Text) :
    L.layoutAfter p depth before []
      = ((kept p.token.trailing).flatMap fun c => [space, c], []) := rfl

theorem layoutAfter_cons (p q : Place) (depth : Nat) (before : Text) (ps : List Place) :
    L.layoutAfter p depth before (q :: ps)
      = ((Gap.splitTrailing (L.gap p depth before q)).1,
        q.token.withTrivia (Gap.splitTrailing (L.gap p depth before q)).2
          (L.behind q depth before ps).1 :: (L.behind q depth before ps).2) := rfl

theorem tokens_cons (p : Place) (ps : List Place) :
    L.tokens (p :: ps)
      = p.token.withTrivia
          (L.between none (kept p.token.leading) p.token.kind (depthAt p.token.kind 0))
          (L.behind p 0 [] ps).1 :: (L.behind p 0 [] ps).2 := by
  have hlast : lastText [] p.token.text = p.token.text := by
    rw [lastText]
    split
    · next h => exact (List.isEmpty_iff.mp h).symm
    · rfl
  rw [behind, hlast]
  rfl

theorem separator_similar (hp : p.Similar p') (hq : q.Similar q') :
    separator p q = separator p' q' := by
  unfold separator isPrefixOperator isBinaryOperator
  rw [hp.core.kind, hp.parent, hp.slot, hq.core.kind, hq.core.missing, hq.parent]

theorem separatorAfter_similar (hp : p.Similar p') (hq : q.Similar q') (before : Text) :
    separatorAfter before p q = separatorAfter before p' q' := by
  rw [separatorAfter, separatorAfter, separator_similar hp hq, hq.core.text]

/-- The tokens behind two similar places are laid out alike. -/
theorem layoutAfter_similar (h : List.Forall₂ Place.Similar ps qs) (hp : p.Similar q) (depth : Nat)
    (before : Text) : (L.layoutAfter p depth before ps).1 = (L.layoutAfter q depth before qs).1
      ∧ List.Forall₂ (fun t u => Token.eqv t u = true) (L.layoutAfter p depth before ps).2
          (L.layoutAfter q depth before qs).2 := by
  induction h generalizing p q depth before with
  | nil => exact ⟨by rw [layoutAfter_nil, layoutAfter_nil, hp.trailing], .nil⟩
  | @cons p' q' ps qs hp' _ ih =>
    have hgap : L.gap p depth before p' = L.gap q depth before q' := by
      rw [gap, gap, separatorAfter_similar hp hp', hp.trailing, hp'.leading, hp'.core.kind]
    obtain ⟨htrail, hrest⟩ := ih hp' (depthAfter q'.token.kind depth) (lastText before q'.token.text)
    rw [layoutAfter_cons, layoutAfter_cons, hgap, behind, behind, hp'.core.kind, hp'.core.text, htrail]
    exact ⟨rfl, .cons hp'.core.eqv hrest⟩

/-- Similar places are laid out alike. -/
theorem tokens_similar (h : List.Forall₂ Place.Similar ps qs) :
    List.Forall₂ (fun t u => Token.eqv t u = true) (L.tokens ps) (L.tokens qs) := by
  cases h with
  | nil => exact .nil
  | @cons p q ps qs hp h =>
    obtain ⟨htrail, hrest⟩ := layoutAfter_similar (L := L) h hp (depthAfter q.token.kind 0)
      (lastText [] q.token.text)
    rw [tokens_cons, tokens_cons, behind, behind, hp.leading, hp.core.kind, hp.core.text, htrail]
    exact .cons hp.core.eqv hrest

theorem length_layoutAfter (p : Place) (depth : Nat) (before : Text) (ps : List Place) :
    (L.layoutAfter p depth before ps).2.length = ps.length := by
  induction ps generalizing p depth before with
  | nil => rfl
  | cons q ps ih => rw [layoutAfter_cons, List.length_cons, behind, ih, List.length_cons]

/-- Layout gives a token for each place. -/
theorem length_tokens (ps : List Place) : (L.tokens ps).length = ps.length := by
  cases ps with
  | nil => rfl
  | cons p ps => rw [tokens_cons, List.length_cons, behind, length_layoutAfter, List.length_cons]

/-! ### Trivia that are laid out -/

section Trivia

variable {P : Trivia → Prop}

theorem forall_kept {ts : List Trivia} (h : ∀ t ∈ ts, P t) : ∀ t ∈ kept ts, P t :=
  fun t ht => h t (List.mem_of_mem_filter ht)

theorem forall_split {ts : List Trivia} (h : ∀ t ∈ ts, P t) :
    (∀ t ∈ (Gap.splitTrailing ts).1, P t) ∧ ∀ t ∈ (Gap.splitTrailing ts).2, P t := by
  rw [← Gap.splitTrailing_append ts] at h
  exact List.forall_mem_append.mp h

/-- What holds of a space and of all line breaks. -/
structure HoldsOfBlanks (L : Layout) (P : Trivia → Prop) : Prop where
  space : P space
  lineBreak : ∀ depth, ∀ t ∈ L.lineBreak depth, P t

variable (hP : HoldsOfBlanks L P)

include hP

theorem forall_comments {ts : List Trivia} (h : ∀ t ∈ ts, P t) (ownLine : Bool) (inner depth : Nat) :
    ∀ t ∈ L.comments ownLine inner depth ts, P t := by
  induction ts using comments.induct with
  | case1 => exact List.forall_mem_nil _
  | case2 c =>
    refine List.forall_mem_cons.mpr ⟨h c List.mem_cons_self, ?_⟩
    split
    · exact hP.lineBreak _
    · exact List.forall_mem_singleton.mpr hP.space
  | case3 c d rest ih =>
    obtain ⟨hc, hrest⟩ := List.forall_mem_cons.mp h
    rw [comments, List.forall_mem_append]
    refine ⟨List.forall_mem_cons.mpr ⟨hc, ?_⟩, ih hrest⟩
    split
    · exact hP.lineBreak _
    · exact List.forall_mem_singleton.mpr hP.space

theorem forall_finalComments {ts : List Trivia} (h : ∀ t ∈ ts, P t) (first : Bool) :
    ∀ t ∈ L.finalComments first ts, P t := by
  have hline : P L.newLine := hP.lineBreak 0 _ List.mem_cons_self
  induction ts generalizing first with
  | nil => exact List.forall_mem_nil _
  | cons c rest ih =>
    obtain ⟨hc, hrest⟩ := List.forall_mem_cons.mp h
    rw [finalComments, List.forall_mem_append]
    refine ⟨?_, ih hrest false⟩
    split
    · exact List.forall_mem_singleton.mpr hc
    · exact List.forall_mem_cons.mpr ⟨hline, List.forall_mem_singleton.mpr hc⟩

theorem forall_between {ts : List Trivia} (h : ∀ t ∈ ts, P t) (sep : Option Separator) (k : Kind)
    (depth : Nat) : ∀ t ∈ L.between sep ts k depth, P t := by
  unfold between
  split
  · exact forall_finalComments hP h _
  · split
    · rcases sep with _ | _ | _ | _
      · exact List.forall_mem_nil _
      · exact List.forall_mem_nil _
      · exact List.forall_mem_singleton.mpr hP.space
      · exact hP.lineBreak _
    · rw [List.forall_mem_append]
      refine ⟨?_, forall_comments hP h _ _ _⟩
      rcases sep with _ | _ | _ | _
      · exact List.forall_mem_nil _
      · exact List.forall_mem_singleton.mpr hP.space
      · exact List.forall_mem_singleton.mpr hP.space
      · exact hP.lineBreak _

theorem forall_layoutAfter {p : Place} {ps : List Place} (hp : ∀ t ∈ p.token.trailing, P t)
    (hps : ∀ q ∈ ps, (∀ t ∈ q.token.leading, P t) ∧ ∀ t ∈ q.token.trailing, P t) (depth : Nat)
    (before : Text) : (∀ t ∈ (L.layoutAfter p depth before ps).1, P t)
      ∧ ∀ u ∈ (L.layoutAfter p depth before ps).2,
        (∀ t ∈ u.leading, P t) ∧ ∀ t ∈ u.trailing, P t := by
  induction ps generalizing p depth before with
  | nil =>
    rw [layoutAfter_nil]
    refine ⟨?_, List.forall_mem_nil _⟩
    intro t ht
    obtain ⟨c, hc, ht⟩ := List.mem_flatMap.mp ht
    rcases List.mem_cons.mp ht with rfl | ht
    · exact hP.space
    · exact List.mem_singleton.mp ht ▸ forall_kept hp c hc
  | cons q ps ih =>
    obtain ⟨hq, hps⟩ := List.forall_mem_cons.mp hps
    have hgap : ∀ t ∈ L.gap p depth before q, P t :=
      forall_between hP (List.forall_mem_append.mpr ⟨forall_kept hp, forall_kept hq.1⟩) _ _ _
    obtain ⟨htrail, hrest⟩ := ih hq.2 hps (depthAfter q.token.kind depth)
      (lastText before q.token.text)
    rw [layoutAfter_cons]
    exact ⟨(forall_split hgap).1, List.forall_mem_cons.mpr ⟨⟨(forall_split hgap).2, htrail⟩, hrest⟩⟩

/-- What holds of all blanks and of the trivia of the places holds of all that is laid out. -/
theorem forall_tokens {ps : List Place}
    (hps : ∀ p ∈ ps, (∀ t ∈ p.token.leading, P t) ∧ ∀ t ∈ p.token.trailing, P t) :
    ∀ u ∈ L.tokens ps, (∀ t ∈ u.leading, P t) ∧ ∀ t ∈ u.trailing, P t := by
  cases ps with
  | nil => simp [tokens]
  | cons p ps =>
    obtain ⟨hp, hps⟩ := List.forall_mem_cons.mp hps
    obtain ⟨htrail, hrest⟩ := forall_layoutAfter hP hp.2 hps (depthAfter p.token.kind 0)
      (lastText [] p.token.text)
    have hlead : ∀ t ∈ L.between Option.none (kept p.token.leading) p.token.kind
        (depthAt p.token.kind 0), P t := forall_between hP (forall_kept hp.1) _ _ _
    rw [tokens_cons]
    exact List.forall_mem_cons.mpr ⟨⟨hlead, htrail⟩, hrest⟩

end Trivia

/-! ### No faults -/

/-- A layout whose spaces are texts. -/
structure IsText (L : Layout) : Prop where
  indentation : L.indentationFlaw = none
  lineEnd : L.lineEndFlaw = none

theorem isText_default : IsText {} := ⟨rfl, rfl⟩

theorem IsText.flawless (hL : L.IsText) : HoldsOfBlanks L fun t => t.flaw = none where
  space := rfl
  lineBreak depth := by
    rw [lineBreak, List.forall_mem_cons]
    refine ⟨hL.lineEnd, ?_⟩
    rw [indent]
    split
    · exact List.forall_mem_nil _
    · exact List.forall_mem_singleton.mpr hL.indentation

end Layout

namespace Value

/-! ### Places of well-formed trees -/

/-- The place holds its token as it is. -/
def Sound (p : Place) : Prop := p.held = .token p.token ∧ p.token.WellFormed

theorem forall_listPlaces {P : Place → Prop} {c : NodeClass} {slot : Nat} {vs : List Value}
    (hvs : ∀ v ∈ vs, ∀ c slot, ∀ p ∈ placesIn c slot v, P p) : ∀ p ∈ listPlaces c slot vs, P p := by
  induction vs with
  | nil => simp [listPlaces]
  | cons v vs ih =>
    rw [listPlaces, List.forall_mem_append]
    exact ⟨hvs v List.mem_cons_self c slot, ih fun w hw => hvs w (List.mem_cons_of_mem v hw)⟩

theorem forall_fieldPlaces {P : Place → Prop} {c : NodeClass} {slot : Nat} {vs : List Value}
    (hvs : ∀ v ∈ vs, ∀ c slot, ∀ p ∈ placesIn c slot v, P p) :
    ∀ p ∈ fieldPlaces c slot vs, P p := by
  induction vs generalizing slot with
  | nil => simp [fieldPlaces]
  | cons v vs ih =>
    rw [fieldPlaces, List.forall_mem_append]
    exact ⟨hvs v List.mem_cons_self c slot, ih fun w hw => hvs w (List.mem_cons_of_mem v hw)⟩

theorem Formed.placesIn_sound {v : Value} (hv : v.Formed) :
    ∀ c slot, ∀ p ∈ placesIn c slot v, Sound p := by
  induction hv with
  | none => exact fun c slot => by simp [Value.none, placesIn]
  | text => exact fun c slot => by simp [str, placesIn]
  | kind => exact fun c slot => by simp [placesIn]
  | token ht =>
    intro c slot p hp
    rw [placesIn, WellFormed.isAbsent ht, if_neg Bool.false_ne_true, List.mem_singleton] at hp
    subst hp
    exact ⟨rfl, ht⟩
  | absent =>
    have habsent : Token.absent.isAbsent = true := rfl
    exact fun c slot => by simp [placesIn, habsent]
  | tokens _ _ ih => exact fun c slot => forall_listPlaces ih
  | nodes _ _ ih => exact fun c slot => forall_listPlaces ih
  | separated _ _ _ ih => exact fun c slot => forall_listPlaces ih
  | node _ _ ih => exact fun c slot => forall_fieldPlaces ih

/-- The tokens of a well-formed tree are well formed. -/
theorem WellFormed.places_sound {v : Value} (hv : v.WellFormed) : ∀ p ∈ v.places, Sound p := by
  obtain ⟨⟨c, vs, rfl⟩, -⟩ := id hv
  cases hv.formed with
  | node _ hvs => exact forall_fieldPlaces fun v hv => (hvs v hv).placesIn_sound

theorem sideFault?_trivia (ts : List Trivia) : Layout.sideFault? (.triviaList ts) = Option.none := by
  have hall : (ts.map Value.trivia).all Layout.hasKind = true := by
    rw [List.all_map, List.all_eq_true]
    exact fun _ _ => rfl
  show (if (ts.map Value.trivia).all Layout.hasKind then Option.none else some Fault.noProperty) = _
  rw [if_pos hall]

/-- The place holds a token that is plain, its trivia without flaws. -/
structure Plainly (p : Place) : Prop where
  held : p.held = .token p.token
  leading : ∀ c ∈ p.token.leading, c.flaw = Option.none
  trailing : ∀ c ∈ p.token.trailing, c.flaw = Option.none

theorem Sound.plainly {p : Place} (h : Sound p) : Plainly p :=
  ⟨h.1, fun c hc => (h.2.leading c hc).built.flaw, fun c hc => (h.2.trailing c hc).built.flaw⟩

theorem sidesAfter_trivia {p : Place} {ps : List Place} (hp : p.held = .token p.token)
    (hps : ∀ q ∈ ps, q.held = .token q.token) :
    ∀ v ∈ Layout.sidesAfter p ps, Layout.sideFault? v = Option.none := by
  induction ps generalizing p with
  | nil =>
    rw [Layout.sidesAfter, List.forall_mem_singleton, hp]
    exact sideFault?_trivia _
  | cons q ps ih =>
    obtain ⟨hq, hps⟩ := List.forall_mem_cons.mp hps
    rw [Layout.sidesAfter, List.forall_mem_cons, List.forall_mem_cons, hp, hq]
    exact ⟨sideFault?_trivia _, sideFault?_trivia _, ih hq hps⟩

theorem sides_trivia {ps : List Place} (hps : ∀ p ∈ ps, p.held = .token p.token) :
    ∀ v ∈ Layout.sides ps, Layout.sideFault? v = Option.none := by
  cases ps with
  | nil => simp [Layout.sides]
  | cons p ps =>
    obtain ⟨hp, hps⟩ := List.forall_mem_cons.mp hps
    rw [Layout.sides, List.forall_mem_cons, hp]
    exact ⟨sideFault?_trivia _, sidesAfter_trivia hp hps⟩

/-- A tree of plain tokens can be laid out. -/
theorem normalized?_of_plainly {L : Layout} (hL : L.IsText) {v : Value}
    (hplaces : ∀ p ∈ v.places, Plainly p) : v.normalized? L = .ok (v.normalized L) := by
  have hsides : (Layout.sides v.places).findSome? Layout.sideFault? = Option.none :=
    List.findSome?_eq_none_iff.mpr (sides_trivia fun p hp => (hplaces p hp).held)
  have htokens : (L.tokens v.places).findSome? Layout.indentFault? = Option.none := by
    have hflawless := Layout.forall_tokens hL.flawless fun p hp =>
      ⟨(hplaces p hp).leading, (hplaces p hp).trailing⟩
    refine List.findSome?_eq_none_iff.mpr fun t ht => ?_
    rw [Layout.indentFault?, List.findSome?_eq_none_iff]
    intro c hc
    rw [List.forall_mem_append.mpr (hflawless t ht) c hc]
  rw [normalized?, Layout.fault?, hsides, htokens]

/-- A well-formed tree can be laid out. -/
theorem WellFormed.normalized?_eq_ok {L : Layout} (hL : L.IsText) {v : Value} (hv : v.WellFormed) :
    v.normalized? L = .ok (v.normalized L) :=
  normalized?_of_plainly hL fun p hp => Sound.plainly (hv.places_sound p hp)

/-! ### Equal trees -/

/-- Equal tokens one by one. -/
abbrev EqvTokens : List Token → List Token → Prop := List.Forall₂ fun t u => Token.eqv t u = true

/-- Refilling the value with the tokens `us`, and the changed value with equal tokens, gives equal
values and equal rests of the supplies. -/
structure RefillsAlike (g : Token → Token) (v : Value) (ts us : List Token) : Prop where
  value : eqv (refill (retoken g v) ts).1 (refill v us).1 = true
  rest : EqvTokens (refill (retoken g v) ts).2 (refill v us).2
  length : (refill v us).2.length + (leaves v).length = us.length

/-- The same for lists of values. -/
structure RefillsAlikeList (g : Token → Token) (vs : List Value) (ts us : List Token) : Prop where
  values : eqvList (refillList (vs.map (retoken g)) ts).1 (refillList vs us).1 = true
  rest : EqvTokens (refillList (vs.map (retoken g)) ts).2 (refillList vs us).2
  length : (refillList vs us).2.length + (leavesList vs).length = us.length

variable {g : Token → Token}

theorem refillList_alike {vs : List Value}
    (hvs : ∀ v ∈ vs, ∀ {ts us}, EqvTokens ts us → (leaves v).length ≤ us.length
      → RefillsAlike g v ts us) {ts us : List Token} (h : EqvTokens ts us)
    (hlen : (leavesList vs).length ≤ us.length) : RefillsAlikeList g vs ts us := by
  induction vs generalizing ts us with
  | nil => exact ⟨rfl, h, rfl⟩
  | cons v vs ih =>
    rw [leavesList_cons, List.length_append] at hlen
    have hv := hvs v List.mem_cons_self h (by omega)
    have hrest := ih (fun w hw => hvs w (List.mem_cons_of_mem v hw)) hv.rest
      (by have := hv.length; omega)
    refine ⟨?_, hrest.rest, ?_⟩
    · show eqvList (_ :: _) (_ :: _) = true
      rw [eqvList, hv.value, Bool.or_true, Bool.true_and]
      exact hrest.values
    · have := hv.length
      have := hrest.length
      show (refillList vs _).2.length + _ = _
      rw [leavesList_cons, List.length_append]
      omega

/-- A well-formed tree takes equal tokens alike. -/
theorem Formed.refill_alike (hg : Keeps g) {v : Value} (hv : v.Formed) : ∀ {ts us : List Token},
    EqvTokens ts us → (leaves v).length ≤ us.length → RefillsAlike g v ts us := by
  induction hv with
  | none => exact fun h _ => ⟨rfl, h, rfl⟩
  | @text t _ =>
    refine fun h _ => ⟨?_, h, rfl⟩
    show (decide (t = t)) = true
    exact decide_eq_true rfl
  | kind k => exact fun h _ => ⟨decide_eq_true rfl, h, rfl⟩
  | @token t ht =>
    intro ts us h hlen
    have hab := WellFormed.isAbsent ht
    rw [leaves, hab, if_neg Bool.false_ne_true] at hlen
    cases h with
    | nil => simp at hlen
    | @cons a b ts us hab' h =>
      refine ⟨?_, ?_, ?_⟩
      · simpa [retoken, refill, refillToken, hab, hg.present hab, eqv] using hab'
      · simpa [retoken, refill, refillToken, hab, hg.present hab] using h
      · simp [leaves, refill, refillToken, hab]
  | absent =>
    intro ts us h _
    have habsent : Token.absent.isAbsent = true := rfl
    refine ⟨?_, ?_, ?_⟩
    · rw [retoken, hg.absent]
      rfl
    · rw [retoken, hg.absent]
      exact h
    · rfl
  | tokens _ _ ih =>
    intro ts us h hlen
    have hlist := refillList_alike ih h hlen
    refine ⟨?_, ?_, hlist.length⟩ <;> rw [retoken_tokens]
    · exact hlist.values
    · exact hlist.rest
  | nodes _ _ ih =>
    intro ts us h hlen
    have hlist := refillList_alike ih h hlen
    refine ⟨?_, ?_, hlist.length⟩ <;> rw [retoken_nodes]
    · exact hlist.values
    · exact hlist.rest
  | separated _ _ _ ih =>
    intro ts us h hlen
    have hlist := refillList_alike ih h hlen
    refine ⟨?_, ?_, hlist.length⟩ <;> rw [retoken_separated]
    · exact hlist.values
    · exact hlist.rest
  | @node c vs _ _ ih =>
    intro ts us h hlen
    have hlist := refillList_alike ih h hlen
    refine ⟨?_, ?_, hlist.length⟩ <;> rw [retoken_node]
    · show (decide (c = c) && _) = true
      rw [decide_eq_true rfl, Bool.true_and]
      exact hlist.values
    · exact hlist.rest

/-- Trees that differ only in what layout does not see have equal layouts. -/
theorem normalized_retoken (hg : Keeps g)
    (hsame : ∀ t : Token, t.WellFormed → (g t).SameCore t
      ∧ Layout.kept (g t).leading = Layout.kept t.leading
      ∧ Layout.kept (g t).trailing = Layout.kept t.trailing)
    {v : Value} (hv : v.WellFormed) (L : Layout) :
    eqv ((v.retoken g).normalized L) (v.normalized L) = true := by
  have hplaces := hv.places_sound
  have hformed := hv.formed
  obtain ⟨⟨c, vs, rfl⟩, -⟩ := hv
  have hsimilar : List.Forall₂ Place.Similar (retoken g (.node c vs)).places
      (Value.node c vs).places := by
    rw [hformed.places_retoken hg, List.forall₂_map_left_iff, List.forall₂_same]
    intro p hp
    obtain ⟨hcore, hlead, htrail⟩ := hsame p.token (hplaces p hp).2
    exact ⟨hcore, rfl, rfl, hlead, htrail⟩
  refine (hformed.refill_alike hg (Layout.tokens_similar hsimilar) ?_).value
  have hleaves := congrArg List.length (nodeTokens_node c vs)
  rw [nodeTokens, List.length_map] at hleaves
  rw [Layout.length_tokens, hleaves]
  exact Nat.le_refl _

theorem eqvList_retoken {vs : List Value} (h : ∀ v ∈ vs, eqv (retoken g v) v = true) :
    eqvList (vs.map (retoken g)) vs = true := by
  induction vs with
  | nil => rfl
  | cons v vs ih =>
    rw [List.map_cons, eqvList, h v List.mem_cons_self, Bool.or_true, Bool.true_and]
    exact ih fun w hw => h w (List.mem_cons_of_mem v hw)

/-- A well-formed tree equals the one with each token changed for an equal one. -/
theorem Formed.eqv_retoken (habsent : g .absent = .absent)
    (hg : ∀ t : Token, t.WellFormed → (g t).eqv t = true) {v : Value} (hv : v.Formed) :
    eqv (v.retoken g) v = true := by
  induction hv with
  | none => rfl
  | @text t _ => exact decide_eq_true (rfl : t = t)
  | kind k => exact decide_eq_true rfl
  | @token t ht => exact hg t ht
  | absent =>
    rw [retoken, habsent]
    rfl
  | tokens _ _ ih =>
    rw [retoken_tokens]
    exact eqvList_retoken ih
  | nodes _ _ ih =>
    rw [retoken_nodes]
    exact eqvList_retoken ih
  | separated _ _ _ ih =>
    rw [retoken_separated]
    exact eqvList_retoken ih
  | @node c vs _ _ ih =>
    rw [retoken_node, eqv, decide_eq_true rfl, Bool.true_and]
    exact eqvList_retoken ih

end Value

end TreeQuote
