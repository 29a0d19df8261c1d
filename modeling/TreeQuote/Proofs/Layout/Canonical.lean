/-
TreeQuote/Proofs/Layout/Canonical.lean

Layout is a canonical form.  What layout keeps of a tree is the tree without trivia and, for each gap
between two tokens, the comments and skipped text there (`Value.gapView`); and what it makes depends
on nothing else.  So it does not matter which side of a gap a comment hangs on, nor how the source was
spaced, and a tree that is laid out stays as it is:

    (v.normalized L).gapView = v.gapView
    v.gapView ≈ w.gapView → v.normalized L ≈ w.normalized L

Tokens are listed and put back by two walks, which visit the same tokens in the same order
(`Value.refill_reseats`).

Main statement: `Value.normalized?_canonical`.
-/
import TreeQuote.Proofs.Layout.Spacing

namespace TreeQuote

/-! ### Walking twice -/

/-- The place with a token put there. -/
def Place.reseat (p : Place) (t : Token) : Place := { p with held := .token t, token := t }

namespace Value

/-- What a refill of `v` gives: the places hold the supply, and the next refill finds nothing of
it. -/
structure Reseats (v : Value) (us rest : List Token) (r : Value × List Token) : Prop where
  rest : r.2 = rest
  places : ∀ c slot, placesIn c slot r.1 = List.zipWith Place.reseat (placesIn c slot v) us
  again : ∀ ts more, Supplies ts v.leaves → r.1.refill (ts ++ more) = v.refill (ts ++ more)

/-- The same for a list of values, be they members of a list or properties of a node. -/
structure ReseatsList (vs : List Value) (us rest : List Token) (r : List Value × List Token) :
    Prop where
  rest : r.2 = rest
  members : ∀ c slot, listPlaces c slot r.1 = List.zipWith Place.reseat (listPlaces c slot vs) us
  properties : ∀ c slot,
    fieldPlaces c slot r.1 = List.zipWith Place.reseat (fieldPlaces c slot vs) us
  again : ∀ ts more, Supplies ts (leavesList vs) →
    refillList r.1 (ts ++ more) = refillList vs (ts ++ more)

theorem refillToken_absent {v : Value} {t : Token} (ht : t.isAbsent = true) (us : List Token) :
    refillToken v t us = (v, us) := if_pos ht

theorem refillToken_cons {v : Value} {t : Token} (ht : t.isAbsent = false) (u : Token)
    (us : List Token) : refillToken v t (u :: us) = (.token u, us) :=
  if_neg (Bool.eq_false_iff.mp ht)

theorem reseats_leafless {v : Value} {us rest : List Token} (h : Supplies us [])
    (hplaces : ∀ c slot, placesIn c slot v = []) : Reseats v us rest (v, us ++ rest) := by
  obtain rfl : us = [] := List.length_eq_zero_iff.mp h.length
  exact ⟨rfl, fun c slot => by rw [hplaces, List.zipWith_nil_left], fun _ _ _ => rfl⟩

/-- A token that is not absent is exchanged for the one token of its supply. -/
theorem reseats_token {v : Value} {t u : Token} {us rest : List Token} (ht : t.isAbsent = false)
    (hv : ∀ ts, v.refill ts = refillToken v t ts)
    (hleaves : v.leaves = [u]) (hplaces : ∀ c slot, placesIn c slot v = [⟨v, u, c, slot⟩])
    (h : Supplies us [u]) :
    Reseats v us rest (refillToken v t (us ++ rest)) := by
  obtain ⟨s, rfl⟩ := List.length_eq_one_iff.mp h.length
  have hs : s.isAbsent = false := h.present s List.mem_cons_self
  rw [List.singleton_append, refillToken_cons ht]
  refine ⟨rfl, fun c slot => ?_, fun ts more hts => ?_⟩
  · rw [hplaces, placesIn, hs]
    rfl
  · rw [hleaves] at hts
    obtain ⟨w, rfl⟩ := List.length_eq_one_iff.mp hts.length
    rw [hv, refill, List.singleton_append, refillToken_cons hs, refillToken_cons ht]

mutual

/-- The walk that puts tokens back visits the places that the walk that lists them finds, in the
same order. -/
theorem refill_reseats (us rest : List Token) :
    ∀ v : Value, Supplies us v.leaves → Reseats v us rest (v.refill (us ++ rest))
  | .token t, h => by
    rw [refill]
    cases ht : t.isAbsent with
    | true =>
      rw [leaves, ht, if_pos rfl] at h
      rw [refillToken_absent ht]
      exact reseats_leafless h fun c slot => by rw [placesIn, ht, if_pos rfl]
    | false =>
      rw [leaves, ht, if_neg Bool.false_ne_true] at h
      exact reseats_token ht (fun _ => rfl) (by rw [leaves, ht, if_neg Bool.false_ne_true])
        (fun c slot => by rw [placesIn, ht, if_neg Bool.false_ne_true]) h
  | .framed t l r, h => by
    rw [refill]
    cases ht : t.isAbsent with
    | true =>
      rw [leaves, ht, if_pos rfl] at h
      rw [refillToken_absent ht]
      exact reseats_leafless h fun c slot => by rw [placesIn, ht, if_pos rfl]
    | false =>
      rw [leaves, ht, if_neg Bool.false_ne_true] at h
      exact reseats_token ht (fun _ => rfl) (by rw [leaves, ht, if_neg Bool.false_ne_true])
        (fun c slot => by rw [placesIn, ht, if_neg Bool.false_ne_true]) h
  | .tokens vs, h => by
    obtain ⟨hrest, hmembers, -, hagain⟩ := refillList_reseats us rest vs h
    exact ⟨hrest, hmembers, fun ts more hts => by rw [refill, refill, refill, hagain ts more hts]⟩
  | .node c vs, h => by
    obtain ⟨hrest, -, hproperties, hagain⟩ := refillList_reseats us rest vs h
    exact ⟨hrest, fun _ _ => hproperties c 0, fun ts more hts => by rw [refill, refill, refill, hagain ts more hts]⟩
  | .nodes vs, h => by
    obtain ⟨hrest, hmembers, -, hagain⟩ := refillList_reseats us rest vs h
    exact ⟨hrest, hmembers, fun ts more hts => by rw [refill, refill, refill, hagain ts more hts]⟩
  | .separated vs, h => by
    obtain ⟨hrest, hmembers, -, hagain⟩ := refillList_reseats us rest vs h
    exact ⟨hrest, hmembers, fun ts more hts => by rw [refill, refill, refill, hagain ts more hts]⟩
  | .scalar _, h => reseats_leafless h fun _ _ => rfl
  | .kind _, h => reseats_leafless h fun _ _ => rfl
  | .trivia _, h => reseats_leafless h fun _ _ => rfl
  | .triviaList _, h => reseats_leafless h fun _ _ => rfl
  | .array _, h => reseats_leafless h fun _ _ => rfl

theorem refillList_reseats (us rest : List Token) :
    ∀ vs : List Value, Supplies us (leavesList vs) →
      ReseatsList vs us rest (refillList vs (us ++ rest))
  | [], h => by
    obtain rfl : us = [] := List.length_eq_zero_iff.mp h.length
    exact ⟨rfl, fun _ _ => rfl, fun _ _ => rfl, fun _ _ _ => rfl⟩
  | v :: vs, h => by
    obtain ⟨ts, ws, rfl, hts, hws⟩ := h.split
    obtain ⟨hrest, hplaces, hagain⟩ := refill_reseats ts (ws ++ rest) v hts
    obtain ⟨hrest', hmembers, hproperties, hagain'⟩ := refillList_reseats ws rest vs hws
    have hlength : ∀ c slot, (placesIn c slot v).length = ts.length := by
      intro c slot
      rw [hts.length, ← placesIn_token c slot v, List.length_map]
    rw [refillList, List.append_assoc]
    simp only [hrest]
    refine ⟨hrest', fun c slot => ?_, fun c slot => ?_, fun us more hus => ?_⟩
    · rw [listPlaces, listPlaces, List.zipWith_append (hlength c slot), hplaces, hmembers]
    · rw [fieldPlaces, fieldPlaces, List.zipWith_append (hlength c slot), hplaces, hproperties]
    · obtain ⟨ts', ws', rfl, hts', hws'⟩ := hus.split
      rw [refillList, refillList, List.append_assoc, hagain ts' (ws' ++ more) hts']
      simp only [(refill_refilled ts' (ws' ++ more) v hts').rest, hagain' ws' more hws']

end

/-! ### Equal trees -/

end Value

/-- Places where layout puts the same between any sides: what it lays out at them is related by
`S`. -/
structure Place.Like (S : Token → Token → Prop) (p q : Place) : Prop where
  kind : p.token.kind = q.token.kind
  text : p.token.text = q.token.text
  missing : p.token.missing = q.token.missing
  parent : p.parent = q.parent
  slot : p.slot = q.slot
  dressed : ∀ ls rs, S (p.token.withTrivia ls rs) (q.token.withTrivia ls rs)

namespace Token

theorem SameCore.of_eqv {t u : Token} (h : t.eqv u = true) : t.SameCore u := by
  simp only [Token.eqv, Bool.and_eq_true, decide_eq_true_eq] at h
  exact ⟨h.1.1.1.1.1, h.1.1.1.1.2, h.1.1.1.2, h.2⟩

/-- Equality of tokens, as a relation. -/
abbrev Equal (t u : Token) : Prop := t.eqv u = true

end Token

namespace Value

theorem like_of_core {t u : Token} (h : t.SameCore u) {v w : Value} {ls rs ls' rs' : List Trivia}
    {c : NodeClass} {slot : Nat} :
    Place.Like Token.Equal ⟨v, t.withTrivia ls rs, c, slot⟩ ⟨w, u.withTrivia ls' rs', c, slot⟩ :=
  ⟨h.kind, h.text, h.missing, rfl, rfl, fun _ _ => h.eqv⟩

theorem isAbsent_eq {t u : Token} (h : t.kind = u.kind) : t.isAbsent = u.isAbsent := by
  rw [Token.isAbsent, Token.isAbsent, h]

/-- Equal values have like places, and stay equal when they take equal tokens. -/
structure Agree (v w : Value) : Prop where
  places : ∀ c slot, List.Forall₂ (Place.Like Token.Equal) (placesIn c slot v) (placesIn c slot w)
  value : ∀ {ts us}, EqvTokens ts us → (sameScalar (refill v ts).1 (refill w us).1
    || eqv (refill v ts).1 (refill w us).1) = true
  rest : ∀ {ts us}, EqvTokens ts us → EqvTokens (refill v ts).2 (refill w us).2

/-- The same for lists of values. -/
structure AgreeList (vs ws : List Value) : Prop where
  members : ∀ c slot,
    List.Forall₂ (Place.Like Token.Equal) (listPlaces c slot vs) (listPlaces c slot ws)
  properties : ∀ c slot,
    List.Forall₂ (Place.Like Token.Equal) (fieldPlaces c slot vs) (fieldPlaces c slot ws)
  values : ∀ {ts us}, EqvTokens ts us → eqvList (refillList vs ts).1 (refillList ws us).1 = true
  rest : ∀ {ts us}, EqvTokens ts us → EqvTokens (refillList vs ts).2 (refillList ws us).2

/-- Values that hold no token agree if they are equal. -/
theorem agree_leafless {v w : Value} (h : (sameScalar v w || eqv v w) = true)
    (hv : ∀ c slot, placesIn c slot v = []) (hw : ∀ c slot, placesIn c slot w = [])
    (hv' : ∀ ts, v.refill ts = (v, ts)) (hw' : ∀ ts, w.refill ts = (w, ts)) : Agree v w where
  places c slot := by
    rw [hv, hw]
    exact .nil
  value _ := by rwa [hv', hw']
  rest h := by rwa [hv', hw']

/-- Tokens agree if they are equal without their sides. -/
theorem agree_token {v w : Value} {t u : Token} (ls rs ls' rs' : List Trivia)
    (hsame : t.SameCore u) (h : eqv v w = true)
    (hv : ∀ c slot, placesIn c slot v
      = if t.isAbsent then [] else [⟨v, t.withTrivia ls rs, c, slot⟩])
    (hw : ∀ c slot, placesIn c slot w
      = if u.isAbsent then [] else [⟨w, u.withTrivia ls' rs', c, slot⟩])
    (hv' : ∀ ts, v.refill ts = refillToken v t ts)
    (hw' : ∀ ts, w.refill ts = refillToken w u ts) : Agree v w := by
  have habsent := isAbsent_eq hsame.kind
  cases ht : t.isAbsent with
  | true =>
    rw [ht] at habsent
    refine agree_leafless (by rw [h, Bool.or_true]) (fun c slot => by rw [hv, if_pos ht])
      (fun c slot => by rw [hw, if_pos habsent.symm])
      (fun ts => by rw [hv', refillToken_absent ht])
      fun ts => by rw [hw', refillToken_absent habsent.symm]
  | false =>
    rw [ht] at habsent
    refine ⟨fun c slot => ?_, fun htokens => ?_, fun htokens => ?_⟩
    · rw [hv, hw, ht, ← habsent]
      exact .cons (like_of_core hsame) .nil
    · rw [hv', hw']
      cases htokens with
      | nil => simp [refillToken, ht, ← habsent, h]
      | cons hhead _ =>
        rw [refillToken_cons ht, refillToken_cons habsent.symm]
        exact (Bool.or_eq_true _ _).mpr (.inr hhead)
    · rw [hv', hw']
      cases htokens with
      | nil => simp [refillToken, ht, ← habsent]
      | cons _ htail =>
        rw [refillToken_cons ht, refillToken_cons habsent.symm]
        exact htail

mutual

/-- Equal values agree. -/
theorem agree_of_eqv : ∀ v w : Value, (sameScalar v w || eqv v w) = true → Agree v w
  | .scalar s, w, h => by
    cases w with
    | scalar s' => exact agree_leafless h (fun _ _ => rfl) (fun _ _ => rfl) (fun _ => rfl) fun _ => rfl
    | _ => simp [sameScalar, eqv] at h
  | .kind k, w, h => by
    cases w with
    | kind k' => exact agree_leafless h (fun _ _ => rfl) (fun _ _ => rfl) (fun _ => rfl) fun _ => rfl
    | _ => simp [sameScalar, eqv] at h
  | .trivia t, w, h => by
    cases w with
    | trivia t' => exact agree_leafless h (fun _ _ => rfl) (fun _ _ => rfl) (fun _ => rfl) fun _ => rfl
    | _ => simp [sameScalar, eqv] at h
  | .triviaList ts, w, h => by
    cases w with
    | triviaList ts' =>
      exact agree_leafless h (fun _ _ => rfl) (fun _ _ => rfl) (fun _ => rfl) fun _ => rfl
    | _ => simp [sameScalar, eqv] at h
  | .array vs, w, h => by
    cases w with
    | array ws => exact agree_leafless h (fun _ _ => rfl) (fun _ _ => rfl) (fun _ => rfl) fun _ => rfl
    | _ => simp [sameScalar, eqv] at h
  | .token t, w, h => by
    cases w with
    | token u =>
      exact agree_token t.leading t.trailing u.leading u.trailing (.of_eqv h) h (fun _ _ => rfl)
        (fun _ _ => rfl) (fun _ => rfl) fun _ => rfl
    | _ => simp [sameScalar, eqv] at h
  | .framed t l r, w, h => by
    cases w with
    | framed u m s =>
      have hcore : t.eqv u = true := by
        simp only [sameScalar, eqv, Bool.false_or, Bool.and_eq_true] at h
        exact h.1.1
      exact agree_token _ _ _ _ (.of_eqv hcore) h (fun _ _ => rfl) (fun _ _ => rfl) (fun _ => rfl)
        fun _ => rfl
    | _ => simp [sameScalar, eqv] at h
  | .tokens vs, w, h => by
    cases w with
    | tokens ws =>
      obtain ⟨hmembers, -, hvalues, hrest⟩ := agreeList_of_eqv vs ws h
      exact ⟨hmembers, hvalues, hrest⟩
    | _ => simp [sameScalar, eqv] at h
  | .nodes vs, w, h => by
    cases w with
    | nodes ws =>
      obtain ⟨hmembers, -, hvalues, hrest⟩ := agreeList_of_eqv vs ws h
      exact ⟨hmembers, hvalues, hrest⟩
    | _ => simp [sameScalar, eqv] at h
  | .separated vs, w, h => by
    cases w with
    | separated ws =>
      obtain ⟨hmembers, -, hvalues, hrest⟩ := agreeList_of_eqv vs ws h
      exact ⟨hmembers, hvalues, hrest⟩
    | _ => simp [sameScalar, eqv] at h
  | .node c vs, w, h => by
    cases w with
    | node d ws =>
      simp only [sameScalar, eqv, Bool.false_or, Bool.and_eq_true, decide_eq_true_eq] at h
      obtain ⟨rfl, h⟩ := h
      obtain ⟨-, hproperties, hvalues, hrest⟩ := agreeList_of_eqv vs ws h
      refine ⟨fun _ _ => hproperties c 0, fun htokens => ?_, hrest⟩
      show (decide (c = c) && eqvList _ _) = true
      rw [decide_eq_true rfl, Bool.true_and]
      exact hvalues htokens
    | _ => simp [sameScalar, eqv] at h

theorem agreeList_of_eqv : ∀ vs ws : List Value, eqvList vs ws = true → AgreeList vs ws
  | [], [], _ => ⟨fun _ _ => .nil, fun _ _ => .nil, fun _ => rfl, fun h => h⟩
  | [], _ :: _, h => by cases h
  | _ :: _, [], h => by cases h
  | v :: vs, w :: ws, h => by
    rw [eqvList, Bool.and_eq_true] at h
    obtain ⟨hplaces, hvalue, hrest⟩ := agree_of_eqv v w h.1
    obtain ⟨hmembers, hproperties, hvalues, hrests⟩ := agreeList_of_eqv vs ws h.2
    refine ⟨fun c slot => ?_, fun c slot => ?_, fun htokens => ?_, fun htokens => ?_⟩
    · exact List.rel_append (hplaces c slot) (hmembers c slot)
    · exact List.rel_append (hplaces c slot) (hproperties c (slot + 1))
    · show eqvList (_ :: _) (_ :: _) = true
      rw [eqvList, hvalue htokens, Bool.true_and]
      exact hvalues (hrest htokens)
    · exact hrests (hrest htokens)

end

end Value

namespace Layout

/-! ### Gaps -/

/-- The comments and skipped text in each gap from `pending` on, which stands in front of the
tokens. -/
def gapsFrom (pending : List Trivia) : List Token → List (List Trivia)
  | [] => [pending]
  | t :: ts => (pending ++ kept t.leading) :: gapsFrom (kept t.trailing) ts

/-- The comments and skipped text in front of the first token, between each two, and behind the
last. -/
def gaps (ts : List Token) : List (List Trivia) := gapsFrom [] ts

@[simp] theorem kept_nil : kept [] = [] := rfl

@[simp] theorem kept_append (ts us : List Trivia) : kept (ts ++ us) = kept ts ++ kept us :=
  List.filter_append ts us

@[simp] theorem kept_cons_blank {t : Trivia} (h : t.isWhitespace = true) (ts : List Trivia) :
    kept (t :: ts) = kept ts := List.filter_cons_of_neg (by simp [h])

@[simp] theorem kept_cons {t : Trivia} (h : t.isWhitespace = false) (ts : List Trivia) :
    kept (t :: ts) = t :: kept ts := List.filter_cons_of_pos (by simp [h])

theorem not_whitespace_of_kept {ts : List Trivia} : ∀ t ∈ kept ts, t.isWhitespace = false := by
  intro t ht
  simpa using (List.mem_filter.mp ht).2

theorem isWhitespace_space : space.isWhitespace = true := rfl

variable {L : Layout}

theorem isWhitespace_newLine : L.newLine.isWhitespace = true := rfl

theorem kept_lineBreak (depth : Nat) : kept (L.lineBreak depth) = [] := by
  rw [lineBreak, kept_cons_blank isWhitespace_newLine, indent]
  split
  · rfl
  · exact kept_cons_blank rfl _

section Kept

variable {ts : List Trivia} (hts : ∀ t ∈ ts, t.isWhitespace = false)

include hts

theorem kept_comments (ownLine : Bool) (inner depth : Nat) :
    kept (L.comments ownLine inner depth ts) = ts := by
  induction ts using comments.induct with
  | case1 => rfl
  | case2 c =>
    rw [comments, kept_cons (hts c List.mem_cons_self)]
    split
    · rw [kept_lineBreak]
    · rfl
  | case3 c d rest ih =>
    rw [comments, kept_append, kept_cons (hts c List.mem_cons_self),
      ih fun t ht => hts t (List.mem_cons_of_mem c ht)]
    split
    · rw [kept_lineBreak]
      rfl
    · rfl

theorem kept_finalComments (first : Bool) : kept (L.finalComments first ts) = ts := by
  induction ts generalizing first with
  | nil => rfl
  | cons c rest ih =>
    have hc := hts c List.mem_cons_self
    rw [finalComments, kept_append, ih fun t ht => hts t (List.mem_cons_of_mem c ht)]
    split
    · rw [kept_cons hc]
      rfl
    · rw [kept_cons_blank isWhitespace_newLine, kept_cons hc]
      rfl

/-- What layout puts into a gap has the comments that were there. -/
theorem kept_between (sep : Option Separator) (k : Kind) (depth : Nat) :
    kept (L.between sep ts k depth) = ts := by
  unfold between
  split
  · exact kept_finalComments hts _
  split
  · next hnil =>
    rw [List.isEmpty_iff.mp hnil]
    rcases sep with _ | _ | _ | _
    · rfl
    · rfl
    · rfl
    · exact kept_lineBreak _
  · rw [kept_append, kept_comments hts]
    rcases sep with _ | _ | _ | _
    · rfl
    · rfl
    · rfl
    · exact congrArg (· ++ ts) (kept_lineBreak _)

end Kept

theorem kept_trailing {ts : List Trivia} (hts : ∀ t ∈ ts, t.isWhitespace = false) :
    kept (ts.flatMap fun c => [space, c]) = ts := by
  induction ts with
  | nil => rfl
  | cons c ts ih =>
    rw [List.flatMap_cons, kept_append, kept_cons_blank isWhitespace_space,
      kept_cons (hts c List.mem_cons_self), ih fun t ht => hts t (List.mem_cons_of_mem c ht)]
    rfl

/-- Behind a place the gaps keep their comments. -/
theorem gapsFrom_layoutAfter (p : Place) (depth : Nat) (before : Text) (ps : List Place) :
    gapsFrom (kept (L.layoutAfter p depth before ps).1) (L.layoutAfter p depth before ps).2
      = gapsFrom (kept p.token.trailing) (ps.map (·.token)) := by
  induction ps generalizing p depth before with
  | nil => rw [layoutAfter_nil, kept_trailing not_whitespace_of_kept]; rfl
  | cons q ps ih =>
    have hgap : kept (L.gap p depth before q) = kept p.token.trailing ++ kept q.token.leading :=
      kept_between (List.forall_mem_append.mpr ⟨not_whitespace_of_kept, not_whitespace_of_kept⟩) _ _ _
    have hsplit : kept (Gap.splitTrailing (L.gap p depth before q)).1
        ++ kept (Gap.splitTrailing (L.gap p depth before q)).2
          = kept p.token.trailing ++ kept q.token.leading := by
      rw [← kept_append, Gap.splitTrailing_append, hgap]
    rw [layoutAfter_cons]
    exact congrArg₂ List.cons hsplit (ih q (depthAfter q.token.kind depth) _)

/-- Layout moves comments within their gaps only. -/
theorem gaps_tokens (ps : List Place) : gaps (L.tokens ps) = gaps (ps.map (·.token)) := by
  cases ps with
  | nil => rfl
  | cons p ps =>
    have hfirst : kept (L.between none (kept p.token.leading) p.token.kind
        (depthAt p.token.kind 0)) = kept p.token.leading :=
      kept_between not_whitespace_of_kept _ _ _
    rw [tokens_cons]
    exact congrArg₂ List.cons hfirst (gapsFrom_layoutAfter p _ _ ps)

theorem layoutAfter_bare (p : Place) (depth : Nat) (before : Text) (ps : List Place) :
    (L.layoutAfter p depth before ps).2.map Token.bare = ps.map fun q => q.token.bare := by
  induction ps generalizing p depth before with
  | nil => rfl
  | cons q ps ih => rw [layoutAfter_cons, List.map_cons, List.map_cons, behind, ih]; rfl

/-- Layout changes nothing but trivia. -/
theorem tokens_bare (ps : List Place) :
    (L.tokens ps).map Token.bare = ps.map fun p => p.token.bare := by
  cases ps with
  | nil => rfl
  | cons p ps => rw [tokens_cons, List.map_cons, List.map_cons, behind, layoutAfter_bare]; rfl

/-! ### Layout sees the gaps only -/

section Like

variable {S : Token → Token → Prop} {p q p' q' : Place} {ps qs : List Place}

theorem separatorAfter_like (hp : p.Like S p') (hq : q.Like S q') (before : Text) :
    separatorAfter before p q = separatorAfter before p' q' := by
  have hseparator : separator p q = separator p' q' := by
    unfold separator isPrefixOperator isBinaryOperator
    rw [hp.kind, hp.parent, hp.slot, hq.kind, hq.missing, hq.parent]
  rw [separatorAfter, separatorAfter, hseparator, hq.text]

/-- Behind like places, like places with the same gaps are laid out alike. -/
theorem layoutAfter_like (h : List.Forall₂ (Place.Like S) ps qs) (hp : p.Like S q)
    (hgaps : gapsFrom (kept p.token.trailing) (ps.map (·.token))
      = gapsFrom (kept q.token.trailing) (qs.map (·.token))) (depth : Nat) (before : Text) :
    (L.layoutAfter p depth before ps).1 = (L.layoutAfter q depth before qs).1
      ∧ List.Forall₂ S (L.layoutAfter p depth before ps).2 (L.layoutAfter q depth before qs).2 := by
  induction h generalizing p q depth before with
  | nil =>
    have htrailing : kept p.token.trailing = kept q.token.trailing := (List.cons.inj hgaps).1
    exact ⟨by rw [layoutAfter_nil, layoutAfter_nil, htrailing], .nil⟩
  | @cons p' q' ps qs hp' _ ih =>
    obtain ⟨hpending, hrest⟩ := List.cons.inj hgaps
    have hgap : L.gap p depth before p' = L.gap q depth before q' := by
      rw [gap, gap, separatorAfter_like hp hp', hpending, hp'.kind]
    obtain ⟨htrail, htail⟩ := ih hp' hrest (depthAfter q'.token.kind depth)
      (lastText before q'.token.text)
    rw [layoutAfter_cons, layoutAfter_cons, hgap, behind, behind, hp'.kind, hp'.text, htrail]
    exact ⟨rfl, .cons (hp'.dressed _ _) htail⟩

/-- Like places with the same gaps are laid out alike. -/
theorem tokens_like (h : List.Forall₂ (Place.Like S) ps qs)
    (hgaps : gaps (ps.map (·.token)) = gaps (qs.map (·.token))) :
    List.Forall₂ S (L.tokens ps) (L.tokens qs) := by
  cases h with
  | nil => exact .nil
  | @cons p q ps qs hp h =>
    obtain ⟨hleading, hrest⟩ := List.cons.inj hgaps
    obtain ⟨htrail, htail⟩ := layoutAfter_like (L := L) h hp hrest (depthAfter q.token.kind 0)
      (lastText [] q.token.text)
    have hleading : kept p.token.leading = kept q.token.leading := hleading
    rw [tokens_cons, tokens_cons, behind, behind, hleading, hp.kind, hp.text, htrail]
    exact .cons (hp.dressed _ _) htail

/-- A place is like the one with other trivia on its token. -/
theorem like_reseat {ps : List Place} {ts : List Token}
    (h : ts.map Token.bare = ps.map fun p => p.token.bare) :
    List.Forall₂ (Place.Like Eq) (List.zipWith Place.reseat ps ts) ps := by
  induction ps generalizing ts with
  | nil =>
    rw [List.zipWith_nil_left]
    exact .nil
  | cons p ps ih =>
    cases ts with
    | nil => cases h
    | cons t ts =>
      obtain ⟨hhead, htail⟩ := List.cons.inj h
      refine .cons ⟨?_, ?_, ?_, rfl, rfl, fun ls rs => ?_⟩ (ih htail)
      · exact congrArg (·.kind) hhead
      · exact congrArg (·.text) hhead
      · exact congrArg (·.missing) hhead
      · exact congrArg (·.withTrivia ls rs) hhead

theorem map_token_reseat {ps : List Place} {ts : List Token} (h : ts.length = ps.length) :
    (List.zipWith Place.reseat ps ts).map (·.token) = ts := by
  induction ps generalizing ts with
  | nil => rw [List.length_eq_zero_iff.mp h]; rfl
  | cons p ps ih =>
    cases ts with
    | nil => cases h
    | cons t ts =>
      rw [List.zipWith_cons_cons, List.map_cons, ih (Nat.succ.inj h)]
      rfl

theorem forall_reseat {P : Place → Prop} {ps : List Place} {ts : List Token}
    (h : ∀ t ∈ ts, ∀ p : Place, P (p.reseat t)) : ∀ p ∈ List.zipWith Place.reseat ps ts, P p := by
  induction ps generalizing ts with
  | nil => simp
  | cons p ps ih =>
    cases ts with
    | nil => simp
    | cons t ts =>
      obtain ⟨ht, hts⟩ := List.forall_mem_cons.mp h
      exact List.forall_mem_cons.mpr ⟨ht p, ih hts⟩

end Like

end Layout

namespace Value

/-! ### The gap view -/

/-- A tree without trivia, and what stands in its gaps beside blanks. -/
structure GapView where
  tree : Value
  gaps : List (List Trivia)

/-- Equality of gap views: spans are ignored. -/
def GapView.eqv (a b : GapView) : Bool := a.tree.eqv b.tree && decide (a.gaps = b.gaps)

/-- The gap view of a node. -/
def gapView (v : Value) : GapView := ⟨v.stripped, Layout.gaps v.nodeTokens⟩

variable {c : NodeClass} {vs : List Value} {L : Layout}

/-- Tokens that differ from those of a node in their trivia only can be put into their places. -/
theorem supplies_of_bare {ts : List Token}
    (h : ts.map Token.bare = (Value.node c vs).places.map fun p => p.token.bare) :
    Supplies ts (Value.node c vs).leaves := by
  have hleaves : ts.map Token.bare = (leavesList vs).map Token.bare := by
    rw [h, ← nodeTokens_node c vs, nodeTokens, List.map_map]
    rfl
  refine ⟨by simpa [leaves] using congrArg List.length hleaves, fun t ht => ?_⟩
  have hmem : t.bare ∈ (leavesList vs).map Token.bare := hleaves ▸ List.mem_map_of_mem ht
  obtain ⟨u, hu, hbare⟩ := List.mem_map.mp hmem
  have hkind : u.kind = t.kind := congrArg (·.kind) hbare
  rw [← isAbsent_eq hkind]
  exact leavesList_present vs u hu

/-- A node that takes such tokens. -/
theorem reseats_node {ts : List Token}
    (h : ts.map Token.bare = (Value.node c vs).places.map fun p => p.token.bare) :
    Reseats (.node c vs) ts [] ((Value.node c vs).refill ts) := by
  have := refill_reseats ts [] (.node c vs) (supplies_of_bare h)
  rwa [List.append_nil] at this

theorem places_refill {ts : List Token}
    (h : ts.map Token.bare = (Value.node c vs).places.map fun p => p.token.bare) :
    ((Value.node c vs).refill ts).1.places = List.zipWith Place.reseat (Value.node c vs).places ts :=
  (reseats_node h).places c 0

theorem refill_refill {ts us : List Token}
    (h : ts.map Token.bare = (Value.node c vs).places.map fun p => p.token.bare)
    (hus : us.map Token.bare = (Value.node c vs).places.map fun p => p.token.bare) :
    ((Value.node c vs).refill ts).1.refill us = (Value.node c vs).refill us := by
  have := (reseats_node h).again us [] (supplies_of_bare hus)
  rwa [List.append_nil] at this

theorem nodeTokens_refill {ts : List Token}
    (h : ts.map Token.bare = (Value.node c vs).places.map fun p => p.token.bare) :
    ((Value.node c vs).refill ts).1.nodeTokens = ts := by
  rw [nodeTokens, places_refill h]
  exact Layout.map_token_reseat (by simpa using congrArg List.length h)

theorem bare_stripped (c : NodeClass) (vs : List Value) :
    ((Value.node c vs).nodeTokens.map Token.bare).map Token.bare
      = (Value.node c vs).places.map fun p => p.token.bare := by
  rw [nodeTokens, List.map_map, List.map_map]
  rfl

theorem refill_stripped {ts : List Token}
    (h : ts.map Token.bare = (Value.node c vs).places.map fun p => p.token.bare) :
    (Value.node c vs).stripped.refill ts = (Value.node c vs).refill ts :=
  refill_refill (bare_stripped c vs) h

/-- The places of a stripped node. -/
theorem places_stripped (c : NodeClass) (vs : List Value) :
    (Value.node c vs).stripped.places
      = (Value.node c vs).places.map fun p => p.reseat p.token.bare := by
  rw [stripped, mapTokens, places_refill (bare_stripped c vs), nodeTokens, List.map_map,
    List.zipWith_map_right, List.zipWith_self]
  rfl

/-- Layout keeps the gap view. -/
theorem gapView_normalized (L : Layout) (c : NodeClass) (vs : List Value) :
    ((Value.node c vs).normalized L).gapView = (Value.node c vs).gapView := by
  have hbare := Layout.tokens_bare (L := L) (Value.node c vs).places
  have htokens : ((Value.node c vs).normalized L).nodeTokens = L.tokens (Value.node c vs).places :=
    nodeTokens_refill hbare
  have hstripped : ((Value.node c vs).normalized L).stripped = (Value.node c vs).stripped := by
    rw [stripped, mapTokens, htokens, hbare, normalized,
      refill_refill hbare (by rw [List.map_map]; rfl), stripped, mapTokens, nodeTokens, List.map_map]
    rfl
  rw [gapView, hstripped, htokens, Layout.gaps_tokens]
  rfl

theorem tokens_normalized (L : Layout) (c : NodeClass) (vs : List Value) :
    L.tokens ((Value.node c vs).normalized L).places = L.tokens (Value.node c vs).places := by
  have hbare := Layout.tokens_bare (L := L) (Value.node c vs).places
  have hlike := Layout.tokens_like (L := L) (Layout.like_reseat hbare)
    (by rw [Layout.map_token_reseat (by simpa using congrArg List.length hbare),
      Layout.gaps_tokens])
  rw [List.forall₂_eq_eq_eq] at hlike
  rw [normalized, places_refill hbare, hlike]

/-- A node that is laid out is laid out as it is. -/
theorem normalized_normalized (L : Layout) (c : NodeClass) (vs : List Value) :
    ((Value.node c vs).normalized L).normalized L = (Value.node c vs).normalized L := by
  have hbare := Layout.tokens_bare (L := L) (Value.node c vs).places
  rw [normalized, tokens_normalized, normalized, refill_refill hbare hbare]

/-- Nodes with equal gap views have equal layouts. -/
theorem normalized_eqv (L : Layout) {d : NodeClass} {ws : List Value}
    (h : (Value.node c vs).gapView.eqv (Value.node d ws).gapView = true) :
    ((Value.node c vs).normalized L).eqv ((Value.node d ws).normalized L) = true := by
  rw [GapView.eqv, Bool.and_eq_true, decide_eq_true_eq] at h
  obtain ⟨htree, hgaps⟩ := h
  have hagree : Agree (Value.node c vs).stripped (Value.node d ws).stripped :=
    agree_of_eqv _ _ (by rw [Bool.or_eq_true]; exact .inr htree)
  have hlike : List.Forall₂ (Place.Like Token.Equal) (Value.node c vs).places
      (Value.node d ws).places := by
    have hplaces : List.Forall₂ (Place.Like Token.Equal) (Value.node c vs).stripped.places
      (Value.node d ws).stripped.places := hagree.places c 0
    rw [places_stripped, places_stripped, List.forall₂_map_left_iff,
      List.forall₂_map_right_iff] at hplaces
    exact hplaces.imp fun _ _ h => ⟨h.kind, h.text, h.missing, h.parent, h.slot, h.dressed⟩
  have hvalue := hagree.value (Layout.tokens_like (L := L) hlike hgaps)
  rw [refill_stripped (Layout.tokens_bare _), refill_stripped (Layout.tokens_bare _)] at hvalue
  exact hvalue

theorem normalized?_cases {v w : Value} (h : v.normalized? L = .ok w) :
    L.fault? v.places = Option.none ∧ w = v.normalized L := by
  rw [normalized?] at h
  split at h
  · cases h
  · next hfault =>
    cases h
    exact ⟨hfault, rfl⟩

/-- What has been laid out can be laid out. -/
theorem normalized?_again {w : Value} (h : (Value.node c vs).normalized? L = .ok w) :
    w.normalized? L = .ok w := by
  obtain ⟨hfault, rfl⟩ := normalized?_cases h
  have hplaces := places_refill (Layout.tokens_bare (L := L) (Value.node c vs).places)
  have hsides : (Layout.sides ((Value.node c vs).normalized L).places).findSome? Layout.sideFault?
      = Option.none := by
    rw [normalized, hplaces]
    exact List.findSome?_eq_none_iff.mpr (sides_trivia (Layout.forall_reseat fun _ _ _ => rfl))
  have hindent : (L.tokens (Value.node c vs).places).findSome? Layout.indentFault?
      = Option.none := by
    rw [Layout.fault?] at hfault
    split at hfault
    · cases hfault
    · exact hfault
  rw [normalized?, Layout.fault?, hsides, tokens_normalized, hindent, normalized_normalized]

/-- **Layout is a canonical form.**  A tree of plain tokens has a layout.  A layout has the gap view
of the tree; it is laid out as it is, and equals the layout of every tree with an equal gap view. -/
theorem normalized?_canonical {L : Layout} (hL : L.IsText) (c : NodeClass) (vs : List Value) :
    ((∀ p ∈ (Value.node c vs).places, Plainly p) → ∃ w, (Value.node c vs).normalized? L = .ok w)
      ∧ ∀ w, (Value.node c vs).normalized? L = .ok w → w.gapView = (Value.node c vs).gapView
        ∧ w.normalized? L = .ok w
        ∧ ∀ d us u, (Value.node d us).normalized? L = .ok u
          → (Value.node c vs).gapView.eqv (Value.node d us).gapView = true → w.eqv u = true := by
  refine ⟨fun hplain => ⟨_, normalized?_of_plainly hL hplain⟩, fun w hw => ?_⟩
  have hagain := normalized?_again hw
  obtain ⟨-, rfl⟩ := normalized?_cases hw
  refine ⟨gapView_normalized L c vs, hagain, fun d us u hu hview => ?_⟩
  obtain ⟨-, rfl⟩ := normalized?_cases hu
  exact normalized_eqv L hview

/-- A break statement with trivia in front of its keyword, behind it, and in front of its
semicolon. -/
def commentedBreak (leading trailing between : List Trivia) : Value :=
  .node .breakStatement
    [.token ⟨.breakKeyword, Text.of "break", .str (Text.of "break"), leading, trailing, false, .none⟩,
     .token ⟨.semicolonToken, Text.of ";", .str (Text.of ";"), between, [], false, .none⟩]

/-- A block comment. -/
def note : Trivia := { kind := .multiLineCommentTrivia, text := Text.of "/* c */" }

/-- It does not matter whether a comment trails the keyword or leads the semicolon. -/
theorem normalized?_canonical_commentedBreak : Layout.IsText {}
    ∧ (∃ w, (commentedBreak [] [note] []).normalized? {} = .ok w)
    ∧ (∃ u, (commentedBreak [.whitespace (Text.of " ")] [] [note]).normalized? {} = .ok u)
    ∧ ∀ w u, (commentedBreak [] [note] []).normalized? {} = .ok w
      → (commentedBreak [.whitespace (Text.of " ")] [] [note]).normalized? {} = .ok u
      → w.normalized? {} = .ok w ∧ w.eqv u = true := by
  have hplain : ∀ ls ts bs : List Trivia, (∀ t ∈ ls ++ ts ++ bs, t.flaw = Option.none) →
      ∀ p ∈ (commentedBreak ls ts bs).places, Plainly p := by
    intro ls ts bs h
    simp only [List.forall_mem_append] at h
    exact List.forall_mem_cons.mpr ⟨⟨rfl, h.1.1, h.1.2⟩,
      List.forall_mem_singleton.mpr ⟨rfl, h.2, List.forall_mem_nil _⟩⟩
  have hcanonical := fun ls ts bs => normalized?_canonical Layout.isText_default .breakStatement
    (commentedBreak ls ts bs).children
  refine ⟨Layout.isText_default, (hcanonical _ _ _).1 (hplain _ _ _ (by decide)),
    (hcanonical _ _ _).1 (hplain _ _ _ (by decide)), fun w u hw hu => ?_⟩
  obtain ⟨-, hagain, hequal⟩ := (hcanonical _ _ _).2 w hw
  exact ⟨hagain, hequal _ _ u hu (by decide +kernel)⟩

end Value

end TreeQuote
