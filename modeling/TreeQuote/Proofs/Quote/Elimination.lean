/-
TreeQuote/Proofs/Quote/Elimination.lean

Trimming a call keeps the trace of its value.  A modifier that is left out replaces a property or a
side by one of the same text, because the texts around it cancel; so the value it would have given
has the trace of the value without it.  From then on nothing that is called can tell the two apart.
The induction follows the call (`Follows`): arguments are trimmed first, and what is made of them has
one trace.

What cannot be told apart depends on how texts are compared, so the induction is done once for all
(`Sound`), for calls whose parts all pass a test.

In exact mode two values of one trace have one text, and trimming keeps the text of every factory
call that neither lays a tree out nor converts a computed value to a number or a text.

Main statements: `Trim.trim_trace` and `Trim.render_trim_exact`.
-/
import TreeQuote.Proofs.Evaluate.Call
import TreeQuote.Proofs.Evaluate.Congruence
import TreeQuote.Quote.Trim

namespace TreeQuote

open Value Overload

/-! ### Calls whose parts all pass a test -/

namespace Call

variable (p : Text → List Call → List Keyword → Bool) (q : Modifier → Bool)

mutual

/-- Every factory call in a call passes the test `p`, and every modifier the test `q`. -/
def everywhere : Call → Bool
  | .literal _ => true
  | .ref _ => true
  | .hole => true
  | .array items => everywhereList items
  | .factory name args kws mods =>
    p name args kws && everywhereList args && everywhereKeywords kws && everywhereModifiers mods

/-- The same for calls. -/
def everywhereList : List Call → Bool
  | [] => true
  | c :: cs => everywhere c && everywhereList cs

/-- The same for arguments by name. -/
def everywhereKeywords : List Keyword → Bool
  | [] => true
  | .mk _ c :: ks => everywhere c && everywhereKeywords ks

/-- The same for modifiers. -/
def everywhereModifiers : List Modifier → Bool
  | [] => true
  | .mk n as :: ms => q (.mk n as) && everywhereList as && everywhereModifiers ms

end

variable {p q}

theorem everywhere_factory {name : Text} {args : List Call} {kws : List Keyword}
    {mods : List Modifier} : everywhere p q (.factory name args kws mods) = true
      ↔ p name args kws = true ∧ everywhereList p q args = true
        ∧ everywhereKeywords p q kws = true ∧ everywhereModifiers p q mods = true := by
  rw [everywhere]
  simp only [Bool.and_eq_true, and_assoc]

theorem everywhereModifiers_cons {n : Text} {as : List Call} {ms : List Modifier} :
    everywhereModifiers p q (.mk n as :: ms) = true
      ↔ q (.mk n as) = true ∧ everywhereList p q as = true ∧ everywhereModifiers p q ms = true := by
  rw [everywhereModifiers]
  simp only [Bool.and_eq_true, and_assoc]

theorem everywhereModifiers_append {ms ns : List Modifier} :
    everywhereModifiers p q (ms ++ ns) = true
      ↔ everywhereModifiers p q ms = true ∧ everywhereModifiers p q ns = true := by
  induction ms with
  | nil => simp [everywhereModifiers]
  | cons m ms ih =>
    obtain ⟨n, as⟩ := m
    rw [List.cons_append, everywhereModifiers_cons, everywhereModifiers_cons, ih]
    simp only [and_assoc]

theorem of_everywhereModifiers {ms : List Modifier} (h : everywhereModifiers p q ms = true)
    {m : Modifier} (hm : m ∈ ms) : q m = true := by
  induction ms with
  | nil => cases hm
  | cons k ms ih =>
    obtain ⟨n, as⟩ := k
    obtain ⟨hq, -, hms⟩ := everywhereModifiers_cons.mp h
    rcases List.mem_cons.mp hm with rfl | hm
    · exact hq
    · exact ih hms hm

end Call

namespace Trim

open Evaluate

variable {f : Text → Text}

/-! ### Modifiers that change no text -/

/-- If a text is replaced in a row of texts and the whole stays the same, so did the text. -/
theorem joined_set {ts : List (Except Fault Text)} {x : Except Fault Text} {s : Text} (i : Nat)
    (h : Trace.joined ts = .ok s) (hset : Trace.joined (ts.set i x) = .ok s) :
    ts.set i x = ts := by
  induction ts generalizing i s with
  | nil => rfl
  | cons t ts ih =>
    rw [Trace.joined] at h
    obtain ⟨a, ha, h⟩ := bind_eq_ok.mp h
    obtain ⟨b, hb, h⟩ := bind_eq_ok.mp h
    cases i with
    | zero =>
      rw [List.set_cons_zero, Trace.joined] at hset
      obtain ⟨a', hx, hset⟩ := bind_eq_ok.mp hset
      obtain ⟨b', hb', hset⟩ := bind_eq_ok.mp hset
      rw [hb] at hb'
      cases hb'
      cases hset
      have hsame : a ++ b = a' ++ b := Except.ok.inj h
      rw [List.set_cons_zero, hx, ha, List.append_cancel_right hsame]
    | succ i =>
      rw [List.set_cons_succ, Trace.joined, ha] at hset
      obtain ⟨a', ha', hset⟩ := bind_eq_ok.mp hset
      cases ha'
      obtain ⟨b', hb', hset⟩ := bind_eq_ok.mp hset
      cases h
      have hsame : a ++ b' = a ++ b := Except.ok.inj hset
      rw [List.append_cancel_left hsame] at hb'
      rw [List.set_cons_succ, ih i hb hb']

/-- A method with one argument has been given one. -/
theorem withOne_eq_ok {m : Method} {v w : Value} {parameter : String} {g : Value → Value}
    {args : List Value} (h : Method.withOne m v parameter g args = .ok w) : ∃ a, w = g a := by
  unfold Method.withOne at h
  split at h
  · next a =>
    cases h
    exact ⟨a, rfl⟩
  · cases h
  · cases h

/-- What a modifier makes, if it is no layout: a node with a property replaced, or a token with a
side replaced. -/
theorem apply_cases {r : Registry} {owner : Text} {v w : Value} {m : Modifier}
    (h : apply r owner v m = .ok w) (hname : m.name ≠ Modifier.normalize.name) :
    (∃ c vs p a, v = .node c vs ∧ w = Method.replaceIn v p a)
      ∨ v.isToken = true ∧ ∃ a, w = Method.reframe v a v.trailing
        ∨ w = Method.reframe v v.leading a := by
  obtain ⟨n, args⟩ := m
  obtain ⟨k, as, u, hk, -, hu, hw⟩ := applyAll_cons_iff.mp h
  cases hw
  obtain ⟨bs, -, hu⟩ := bind_eq_ok.mp hu
  have hcall : k.call v bs = .ok w := by
    cases hk : k.call v bs with
    | error e =>
      rw [hk] at hu
      cases e <;> cases hu
    | ok b =>
      rw [hk] at hu
      exact congrArg Except.ok (Except.ok.inj hu)
  obtain ⟨c, vs, p, hv, rfl⟩ | ⟨hv, rfl | rfl⟩ := methodOf_cases hk hname
  · obtain ⟨a, ha⟩ := withOne_eq_ok hcall
    exact .inl ⟨c, vs, p, a, hv, ha⟩
  · obtain ⟨a, ha⟩ := withOne_eq_ok hcall
    exact .inr ⟨hv, a, .inl ha⟩
  · obtain ⟨a, ha⟩ := withOne_eq_ok hcall
    exact .inr ⟨hv, a, .inr ha⟩

/-- The trace of a token is that of its two sides. -/
theorem trace_reframe {v : Value} (hv : v.isToken = true) :
    ∃ t : Token, ∀ a b : Value,
      (Method.reframe v a b).trace f = .token t (a.fullText?.map f) (b.fullText?.map f) := by
  cases v with
  | token t => exact ⟨t.bare, fun a b => Method.trace_between t a b⟩
  | framed t l r => exact ⟨t.bare, fun a b => Method.trace_between t a b⟩
  | _ => cases hv

theorem isToken_reframe {v : Value} (hv : v.isToken = true) (a b : Value) :
    (Method.reframe v a b).isToken = true := by
  have hbetween : ∀ t : Token, (between t a b).isToken = true := by
    intro t
    unfold between
    split <;> rfl
  cases v with
  | token t => exact hbetween t
  | framed t l r => exact hbetween t
  | _ => cases hv

theorem trace_reframe_self {v : Value} (hv : v.isToken = true) :
    (Method.reframe v v.leading v.trailing).trace f = v.trace f := by
  cases v with
  | token t => rfl
  | framed t l r => exact Method.trace_between t l r
  | _ => cases hv

/-- A documentation comment that has a text is its content. -/
theorem fullText?_documentation {vs : List Value} {t : Text}
    (h : fullText? (.node .documentationComment vs) = .ok t) :
    ∃ content, vs = [.str content] ∧ t = Text.of "///" ++ content := by
  match vs with
  | [] => cases h
  | v :: w :: vs => simp [fullText?] at h
  | [v] =>
    cases v with
    | scalar s =>
      cases s with
      | str content =>
        cases h
        exact ⟨content, rfl, rfl⟩
      | _ => cases h
    | _ => cases h

/-- Layout leaves a text as it is, and makes none of anything else. -/
theorem eq_of_refillList {vs : List Value} {supply : List Token} {content : Text}
    (h : (refillList vs supply).1 = [.str content]) : vs = [.str content] := by
  match vs with
  | [] => cases h
  | v :: w :: vs => simp [refillList] at h
  | [v] =>
    rw [refillList, refillList] at h
    have hv := (List.cons.inj h).1
    have htoken : ∀ (u : Value) (t : Token), u.isToken = true →
        (refillToken u t supply).1 ≠ .str content := by
      intro u t hu
      unfold refillToken
      split
      · rintro rfl
        cases hu
      · split
        · rintro rfl
          cases hu
        · intro hs
          cases hs
    cases v with
    | scalar s => exact congrArg (fun v => [v]) hv
    | token t => exact absurd hv (htoken _ t rfl)
    | framed t l r => exact absurd hv (htoken _ t rfl)
    | _ => cases hv

/-- The same in any layout. -/
theorem render_documentation {o : Options} {vs : List Value} {t : Text}
    (h : render o (.node .documentationComment vs) = .ok t) :
    ∃ content, vs = [.str content] ∧ t = Text.of "///" ++ content := by
  rw [render] at h
  split at h
  · obtain ⟨w, hw, h⟩ := bind_eq_ok.mp h
    have hw := mapError_eq_ok hw
    rw [normalized?] at hw
    split at hw
    · cases hw
    · cases hw
      rw [normalized, refill] at h
      obtain ⟨content, hvs, ht⟩ := fullText?_documentation (mapError_eq_ok h)
      exact ⟨content, eq_of_refillList hvs, ht⟩
  · exact fullText?_documentation (mapError_eq_ok h)

theorem render_token {o : Options} {v : Value} (hv : v.isToken = true) :
    render o v = v.fullText?.mapError .fault := by
  cases v <;> first | rfl | cases hv

/-- The text of a node in its layout is compared like its exact text. -/
def Faithful (o : Options) (f : Text → Text) (v : Value) : Prop :=
  ∀ c vs t, v = .node c vs → c ≠ .documentationComment → render o v = .ok t →
    v.fullText?.map f = .ok (f t)

/-- A modifier that leaves the text alone leaves the trace alone. -/
theorem trace_of_apply (hf : ∀ a b, f (a ++ b) = f a ++ f b) {r : Registry} {o : Options}
    {owner t : Text} {v w : Value} {m : Modifier} (h : apply r owner v m = .ok w)
    (hname : m.name ≠ Modifier.normalize.name) (hv : Faithful o f v) (hw : Faithful o f w)
    (ht : render o v = .ok t) (ht' : render o w = .ok t) : w.trace f = v.trace f := by
  obtain ⟨c, vs, p, a, rfl, rfl⟩ | ⟨htoken, a, hside⟩ := apply_cases h hname
  · cases hi : c.fieldIndex? p with
    | none => simp only [Method.replaceIn, hi]
    | some i =>
      simp only [Method.replaceIn, hi] at hw ht' ⊢
      by_cases hc : c = .documentationComment
      · subst hc
        obtain ⟨content, hvs, rfl⟩ := render_documentation ht
        obtain ⟨content', hws, heq⟩ := render_documentation ht'
        rw [hws, hvs, List.append_cancel_left heq]
      · have htext := hv c vs t rfl hc ht
        have htext' := hw c _ t rfl hc ht'
        rw [← fullText?_trace hf, trace, Trace.fullText?, if_neg hc] at htext htext'
        rw [List.map_set] at htext'
        refine Coincide.trace_eq (.node ?_ fun hdoc => absurd hdoc hc)
        rw [List.map_set]
        exact joined_set i htext htext'
  · obtain ⟨u, hu⟩ := trace_reframe (f := f) htoken
    have hself := trace_reframe_self (f := f) htoken
    have htoken' : w.isToken = true := by
      obtain rfl | rfl := hside <;> exact isToken_reframe htoken _ _
    have htext : v.fullText?.map f = .ok (f t) := by
      rw [render_token htoken] at ht
      rw [mapError_eq_ok ht]
      rfl
    have htext' : w.fullText?.map f = .ok (f t) := by
      rw [render_token htoken'] at ht'
      rw [mapError_eq_ok ht']
      rfl
    rw [← fullText?_trace hf] at htext htext'
    rw [← hself] at htext ⊢
    obtain rfl | rfl := hside
    · rw [hu] at htext htext' ⊢
      rw [hu]
      rw [(List.cons.inj (joined_set 0 htext htext')).1]
    · rw [hu] at htext htext' ⊢
      rw [hu]
      rw [(List.cons.inj (List.cons.inj (List.cons.inj (joined_set 2 htext htext')).2).2).1]

/-! ### Trimming -/

section Sublist

variable {r : Registry} {o : Options}

/-- Some of the modifiers are kept. -/
theorem keep_sublist {owner : Text} {current : Value} {text : Text} {ms kept : List Modifier}
    {n : Nat} (h : keep r o owner current text ms = .ok (kept, n)) : kept.Sublist ms := by
  induction ms generalizing current text kept n with
  | nil =>
    cases h
    exact .slnil
  | cons m ms ih =>
    rw [keep] at h
    obtain ⟨candidate, -, h⟩ := bind_eq_ok.mp h
    obtain ⟨candidateText, -, h⟩ := bind_eq_ok.mp h
    split at h
    · obtain ⟨⟨rest, i⟩, hrest, h⟩ := bind_eq_ok.mp h
      cases h
      exact (ih hrest).cons m
    · obtain ⟨⟨rest, i⟩, hrest, h⟩ := bind_eq_ok.mp h
      cases h
      exact (ih hrest).cons_cons m

/-- A call is trimmed to one with the same arguments and some of its modifiers. -/
theorem chain_eq_ok {name : Text} {args : List Call} {kws : List Keyword} {mods : List Modifier}
    {c : Call} {n : Nat} (h : chain r o name args kws mods = .ok (c, n)) :
    ∃ kept, kept.Sublist mods ∧ c = .factory name args kws kept := by
  rw [chain] at h
  split at h
  · obtain ⟨base, -, h⟩ := bind_eq_ok.mp h
    obtain ⟨text, -, h⟩ := bind_eq_ok.mp h
    obtain ⟨⟨kept, i⟩, hkeep, h⟩ := bind_eq_ok.mp h
    cases h
    exact ⟨kept, keep_sublist hkeep, rfl⟩
  · cases h
    exact ⟨mods, .refl _, rfl⟩

end Sublist

/-! ### Along a call -/

/-- What holds between a call and what is left of it, between calls, arguments by name and modifiers
and what is left of them, if it holds between their parts. -/
structure Follows (r : Registry) (o : Options) (P : Call → Call → Prop)
    (L : List Call → List Call → Prop) (K : List Keyword → List Keyword → Prop)
    (M : List Modifier → List Modifier → Prop) : Prop where
  literal : ∀ t, P (.literal t) (.literal t)
  ref : ∀ n, P (.ref n) (.ref n)
  hole : P .hole .hole
  array : ∀ {items ds}, L items ds → P (.array items) (.array ds)
  factory : ∀ {name args kws mods as ks ms c i j k n}, trimList r o args = .ok (as, i) →
    trimKeywords r o kws = .ok (ks, j) → trimModifiers r o mods = .ok (ms, k) →
    chain r o name as ks ms = .ok (c, n) → L args as → K kws ks → M mods ms →
    P (.factory name args kws mods) c
  nil : L [] []
  cons : ∀ {c d cs ds}, P c d → L cs ds → L (c :: cs) (d :: ds)
  noKeywords : K [] []
  keyword : ∀ {name c d ks ls}, P c d → K ks ls → K (.mk name c :: ks) (.mk name d :: ls)
  noModifiers : M [] []
  modifier : ∀ {name as bs ms ns i}, trimList r o as = .ok (bs, i) → L as bs → M ms ns →
    M (.mk name as :: ms) (.mk name bs :: ns)

namespace Follows

variable {r : Registry} {o : Options} {P : Call → Call → Prop} {L : List Call → List Call → Prop}
  {K : List Keyword → List Keyword → Prop} {M : List Modifier → List Modifier → Prop}

mutual

/-- It holds between a call and what is left of it: this is the induction along the call. -/
theorem trim (hf : Follows r o P L K M) :
    ∀ {c d : Call} {n : Nat}, Trim.trim r o c = .ok (d, n) → P c d
  | .literal t, d, n, h => by
    cases h
    exact hf.literal t
  | .ref t, d, n, h => by
    cases h
    exact hf.ref t
  | .hole, d, n, h => by
    cases h
    exact hf.hole
  | .array items, d, n, h => by
    rw [Trim.trim] at h
    obtain ⟨⟨ds, i⟩, hds, h⟩ := bind_eq_ok.mp h
    cases h
    exact hf.array (hf.trimList hds)
  | .factory name args kws mods, d, n, h => by
    rw [Trim.trim] at h
    obtain ⟨⟨as, i⟩, has, h⟩ := bind_eq_ok.mp h
    obtain ⟨⟨ks, j⟩, hks, h⟩ := bind_eq_ok.mp h
    obtain ⟨⟨ms, k⟩, hms, h⟩ := bind_eq_ok.mp h
    obtain ⟨⟨c, l⟩, hchain, h⟩ := bind_eq_ok.mp h
    cases h
    exact hf.factory has hks hms hchain (hf.trimList has) (hf.trimKeywords hks)
      (hf.trimModifiers hms)
termination_by structural c => c

theorem trimList (hf : Follows r o P L K M) :
    ∀ {cs ds : List Call} {n : Nat}, Trim.trimList r o cs = .ok (ds, n) → L cs ds
  | [], ds, n, h => by
    cases h
    exact hf.nil
  | c :: cs, ds, n, h => by
    rw [Trim.trimList] at h
    obtain ⟨⟨d, i⟩, hd, h⟩ := bind_eq_ok.mp h
    obtain ⟨⟨es, j⟩, hes, h⟩ := bind_eq_ok.mp h
    cases h
    exact hf.cons (hf.trim hd) (hf.trimList hes)
termination_by structural cs => cs

theorem trimKeywords (hf : Follows r o P L K M) :
    ∀ {ks ls : List Keyword} {n : Nat}, Trim.trimKeywords r o ks = .ok (ls, n) → K ks ls
  | [], ls, n, h => by
    cases h
    exact hf.noKeywords
  | .mk name c :: ks, ls, n, h => by
    rw [Trim.trimKeywords] at h
    obtain ⟨⟨d, i⟩, hd, h⟩ := bind_eq_ok.mp h
    obtain ⟨⟨es, j⟩, hes, h⟩ := bind_eq_ok.mp h
    cases h
    exact hf.keyword (hf.trim hd) (hf.trimKeywords hes)
termination_by structural ks => ks

theorem trimModifiers (hf : Follows r o P L K M) :
    ∀ {ms ns : List Modifier} {n : Nat}, Trim.trimModifiers r o ms = .ok (ns, n) → M ms ns
  | [], ns, n, h => by
    cases h
    exact hf.noModifiers
  | .mk name as :: ms, ns, n, h => by
    rw [Trim.trimModifiers] at h
    obtain ⟨⟨bs, i⟩, hbs, h⟩ := bind_eq_ok.mp h
    obtain ⟨⟨es, j⟩, hes, h⟩ := bind_eq_ok.mp h
    cases h
    exact hf.modifier hbs (hf.trimList hbs) (hf.trimModifiers hes)
termination_by structural ms => ms

end

end Follows

/-- Tests for the parts of a call, and a way to compare texts, for which trimming changes no trace:
what passes the tests passes them when its arguments are trimmed, is no layout, and converts only
literals and names; and nodes have the same text in their layout as without. -/
structure Sound (r : Registry) (o : Options) (f : Text → Text)
    (p : Text → List Call → List Keyword → Bool) (q : Modifier → Bool) : Prop where
  append : ∀ a b, f (a ++ b) = f a ++ f b
  leaves : ∀ {name args kws}, p name args kws = true → Conversion.ofName? name ≠ Option.none →
    ∀ a ∈ args, a.isLeaf = true
  noLayout : ∀ {m}, q m = true → m.name ≠ Modifier.normalize.name
  trimmedCall : ∀ {name args kws as ks i j}, p name args kws = true →
    trimList r o args = .ok (as, i) → trimKeywords r o kws = .ok (ks, j) → p name as ks = true
  trimmedModifier : ∀ {n args as i}, q (.mk n args) = true → trimList r o args = .ok (as, i) →
    q (.mk n as) = true
  faithful : ∀ {c v}, Call.everywhere p q c = true → eval r c = .ok v → Faithful o f v

section Sound

variable {r : Registry} {o : Options} {p : Text → List Call → List Keyword → Bool}
  {q : Modifier → Bool}

/-- A computation with the image of one that succeeds. -/
theorem map_eq_map_ok {ε α β : Type} {g : α → β} {x y : Except ε α} {a : α}
    (h : y.map g = x.map g) (hx : x = .ok a) : ∃ b, y = .ok b ∧ g b = g a := by
  subst hx
  cases y with
  | error e => cases h
  | ok b => exact ⟨b, rfl, Except.ok.inj h⟩

/-- Modifiers are applied one after the other, the first one first. -/
theorem applyAll_cons {owner : Text} {u w : Value} (m : Modifier) (ms : List Modifier) :
    applyAll r owner u (m :: ms) = .ok w
      ↔ ∃ v, apply r owner u m = .ok v ∧ applyAll r owner v ms = .ok w :=
  @applyAll_append r owner u w [m] ms

theorem evaluate_more {name : Text} {args : List Call} {kws : List Keyword}
    {done : List Modifier} {m : Modifier} {u v : Value}
    (hu : eval r (.factory name args kws done) = .ok u) (hv : apply r name u m = .ok v) :
    eval r (.factory name args kws (done ++ [m])) = .ok v := by
  obtain ⟨as, ks, w, has, hks, hw, hdone⟩ := eval_factory_iff.mp hu
  exact eval_factory_iff.mpr ⟨as, ks, w, has, hks, hw, applyAll_append.mpr ⟨u, hdone, hv⟩⟩

/-- The modifiers that are kept make of a value what all of them make of it. -/
theorem keep_trace (done : List Modifier) (hsound : Sound r o f p q) {name text : Text}
    {args : List Call} {kws : List Keyword} {ms kept : List Modifier} {n : Nat} {current v : Value}
    (hparts : Call.everywhere p q (.factory name args kws (done ++ ms)) = true)
    (hcurrent : eval r (.factory name args kws done) = .ok current)
    (htext : render o current = .ok text)
    (hkeep : keep r o name current text ms = .ok (kept, n))
    (hv : applyAll r name current ms = .ok v) :
    ∃ w, applyAll r name current kept = .ok w ∧ w.trace f = v.trace f := by
  induction ms generalizing done current text kept n v with
  | nil =>
    cases hkeep
    exact ⟨v, hv, rfl⟩
  | cons m ms ih =>
    obtain ⟨hcall, hargs, hkws, hmods⟩ := Call.everywhere_factory.mp hparts
    obtain ⟨hdone, hms⟩ := Call.everywhereModifiers_append.mp hmods
    obtain ⟨mname, margs⟩ := m
    obtain ⟨hm, hmargs, hrest⟩ := Call.everywhereModifiers_cons.mp hms
    have hmore : Call.everywhere p q
        (.factory name args kws (done ++ [.mk mname margs] ++ ms)) = true := by
      rwa [List.append_assoc]
    rw [keep] at hkeep
    obtain ⟨candidate, hcandidate, hkeep⟩ := bind_eq_ok.mp hkeep
    obtain ⟨candidateText, hcandidateText, hkeep⟩ := bind_eq_ok.mp hkeep
    have hcandidate := mapError_eq_ok hcandidate
    have heval := evaluate_more hcurrent hcandidate
    have hv : applyAll r name candidate ms = .ok v := by
      obtain ⟨w, hw, hv⟩ := (applyAll_cons (.mk mname margs) ms).mp hv
      have hsame : Except.ok (ε := EvaluationError) w = .ok candidate := hw.symm.trans hcandidate
      cases hsame
      exact hv
    split at hkeep
    · -- The modifier is left out, and the others see a value of the same trace.
      next hdrop =>
      obtain ⟨rfl, -⟩ : candidateText = text ∧ _ := by simpa using hdrop
      obtain ⟨⟨rest, i⟩, hothers, heq⟩ := bind_eq_ok.mp hkeep
      cases heq
      have htrace : current.trace f = candidate.trace f := by
        refine (trace_of_apply hsound.append hcandidate (hsound.noLayout hm) ?_ ?_ htext
          hcandidateText).symm
        · exact hsound.faithful (Call.everywhere_factory.mpr ⟨hcall, hargs, hkws, hdone⟩) hcurrent
        · refine hsound.faithful (Call.everywhere_factory.mpr ⟨hcall, hargs, hkws, ?_⟩) heval
          exact Call.everywhereModifiers_append.mpr
            ⟨hdone, Call.everywhereModifiers_cons.mpr ⟨hm, hmargs, rfl⟩⟩
      have hcongr := applyAll_congr name hsound.append r
        (fun k hk => hsound.noLayout (Call.of_everywhereModifiers hrest hk)) htrace
      obtain ⟨u, hu, huv⟩ := map_eq_map_ok hcongr hv
      have hparts : Call.everywhere p q (.factory name args kws (done ++ ms)) = true :=
        Call.everywhere_factory.mpr
          ⟨hcall, hargs, hkws, Call.everywhereModifiers_append.mpr ⟨hdone, hrest⟩⟩
      obtain ⟨w, hw, hwu⟩ := ih done hparts hcurrent htext hothers hu
      exact ⟨w, hw, hwu.trans huv⟩
    · obtain ⟨⟨rest, i⟩, hothers, heq⟩ := bind_eq_ok.mp hkeep
      cases heq
      obtain ⟨w, hw, hwv⟩ := ih _ hmore heval hcandidateText hothers hv
      exact ⟨w, (applyAll_cons (.mk mname margs) rest).mpr ⟨candidate, hcandidate, hw⟩, hwv⟩

/-- Trimming the modifiers of a call does not change the trace of its value. -/
theorem chain_trace (hsound : Sound r o f p q) {name : Text} {args : List Call}
    {kws : List Keyword} {mods : List Modifier} {c : Call} {n : Nat} {v : Value}
    (hparts : Call.everywhere p q (.factory name args kws mods) = true)
    (hchain : chain r o name args kws mods = .ok (c, n))
    (hv : eval r (.factory name args kws mods) = .ok v) :
    ∃ w, eval r c = .ok w ∧ w.trace f = v.trace f := by
  rw [chain] at hchain
  split at hchain
  · obtain ⟨base, hbase, hchain⟩ := bind_eq_ok.mp hchain
    obtain ⟨text, htext, hchain⟩ := bind_eq_ok.mp hchain
    obtain ⟨⟨kept, i⟩, hkeep, heq⟩ := bind_eq_ok.mp hchain
    cases heq
    have hbase := mapError_eq_ok hbase
    obtain ⟨as, ks, u, has, hks, hu, hmods⟩ := eval_factory_iff.mp hv
    have hsame : base = u := by
      obtain ⟨as', ks', u', has', hks', hu', hnil⟩ := eval_factory_iff.mp hbase
      rw [has] at has'
      cases has'
      rw [hks] at hks'
      cases hks'
      rw [hu] at hu'
      cases hu'
      cases hnil
      rfl
    subst hsame
    obtain ⟨w, hw, hwv⟩ := keep_trace [] hsound hparts hbase htext hkeep hmods
    exact ⟨w, eval_factory_iff.mpr ⟨as, ks, base, has, hks, hu, hw⟩, hwv⟩
  · cases hchain
    exact ⟨v, hv, rfl⟩

/-- Some modifiers pass the tests that all of them pass. -/
theorem everywhereModifiers_sublist {ms kept : List Modifier} (h : kept.Sublist ms)
    (hms : Call.everywhereModifiers p q ms = true) :
    Call.everywhereModifiers p q kept = true := by
  induction h with
  | slnil => exact hms
  | cons m _ ih =>
    obtain ⟨n, as⟩ := m
    exact ih (Call.everywhereModifiers_cons.mp hms).2.2
  | cons_cons m _ ih =>
    obtain ⟨n, as⟩ := m
    obtain ⟨hm, has, hrest⟩ := Call.everywhereModifiers_cons.mp hms
    exact Call.everywhereModifiers_cons.mpr ⟨hm, has, ih hrest⟩

/-- What passes the tests passes them when it is trimmed. -/
theorem everywhere_follows (hsound : Sound r o f p q) : Follows r o
    (fun c d => c.everywhere p q = true → d.everywhere p q = true)
    (fun cs ds => Call.everywhereList p q cs = true → Call.everywhereList p q ds = true)
    (fun ks ls => Call.everywhereKeywords p q ks = true → Call.everywhereKeywords p q ls = true)
    (fun ms ns => Call.everywhereModifiers p q ms = true
      → Call.everywhereModifiers p q ns = true) where
  literal _ h := h
  ref _ h := h
  hole h := h
  array hitems := hitems
  factory has hks _ hchain hargs hkws hmods h := by
    obtain ⟨kept, hsub, rfl⟩ := chain_eq_ok hchain
    obtain ⟨hcall, hargs', hkws', hmods'⟩ := Call.everywhere_factory.mp h
    exact Call.everywhere_factory.mpr ⟨hsound.trimmedCall hcall has hks, hargs hargs', hkws hkws',
      everywhereModifiers_sublist hsub (hmods hmods')⟩
  nil h := h
  cons hhead htail h := by
    rw [Call.everywhereList, Bool.and_eq_true] at h ⊢
    exact ⟨hhead h.1, htail h.2⟩
  noKeywords h := h
  keyword hhead htail h := by
    rw [Call.everywhereKeywords, Bool.and_eq_true] at h ⊢
    exact ⟨hhead h.1, htail h.2⟩
  noModifiers h := h
  modifier has hargs hmods h := by
    obtain ⟨hm, hargs', hrest⟩ := Call.everywhereModifiers_cons.mp h
    exact Call.everywhereModifiers_cons.mpr
      ⟨hsound.trimmedModifier hm has, hargs hargs', hmods hrest⟩

theorem trimList_leaves {cs ds : List Call} {n : Nat} (hcs : ∀ c ∈ cs, c.isLeaf = true)
    (h : trimList r o cs = .ok (ds, n)) : ds = cs := by
  induction cs generalizing ds n with
  | nil =>
    cases h
    rfl
  | cons c cs ih =>
    rw [trimList] at h
    obtain ⟨⟨d, i⟩, hd, h⟩ := bind_eq_ok.mp h
    obtain ⟨⟨es, j⟩, hes, h⟩ := bind_eq_ok.mp h
    cases h
    have hleaf := hcs c List.mem_cons_self
    rw [ih (fun c hc => hcs c (List.mem_cons_of_mem _ hc)) hes]
    cases c with
    | literal t =>
      cases hd
      rfl
    | ref t =>
      cases hd
      rfl
    | _ => cases hleaf

/-- Trimming keeps traces, from the arguments to the modifiers. -/
theorem trace_follows (hsound : Sound r o f p q) : Follows r o
    (fun c d => c.everywhere p q = true → ∀ v, eval r c = .ok v →
      ∃ w, eval r d = .ok w ∧ w.trace f = v.trace f)
    (fun cs ds => Call.everywhereList p q cs = true → ∀ vs, evalList r cs = .ok vs →
      ∃ ws, evalList r ds = .ok ws ∧ ws.map (trace f) = vs.map (trace f))
    (fun ks ls => Call.everywhereKeywords p q ks = true → ∀ vs, evalKeywords r ks = .ok vs →
      ∃ ws, evalKeywords r ls = .ok ws ∧ ws.map (traced f) = vs.map (traced f))
    (fun ms ns => Call.everywhereModifiers p q ms = true → ∀ owner u u' v,
      u'.trace f = u.trace f → applyAll r owner u ms = .ok v →
      ∃ w, applyAll r owner u' ns = .ok w ∧ w.trace f = v.trace f) where
  literal _ _ v hv := ⟨v, hv, rfl⟩
  ref _ _ v hv := ⟨v, hv, rfl⟩
  hole _ v hv := ⟨v, hv, rfl⟩
  array hitems h v hv := by
    rw [eval] at hv
    obtain ⟨vs, hvs, hv⟩ := bind_eq_ok.mp hv
    cases hv
    obtain ⟨ws, hws, htrace⟩ := hitems h vs hvs
    exact ⟨.array ws, by rw [eval, hws]; rfl, (Coincide.array htrace).trace_eq⟩
  factory {name args kws mods as ks ms c i j k n} has hks hms hchain hargs hkws hmods h v hv := by
    have hall : Call.everywhere p q (.factory name as ks ms) = true := by
      obtain ⟨hcall, hargs', hkws', hmods'⟩ := Call.everywhere_factory.mp h
      exact Call.everywhere_factory.mpr ⟨hsound.trimmedCall hcall has hks,
        (everywhere_follows hsound).trimList has hargs',
        (everywhere_follows hsound).trimKeywords hks hkws',
        (everywhere_follows hsound).trimModifiers hms hmods'⟩
    obtain ⟨hcall, hargs', hkws', hmods'⟩ := Call.everywhere_factory.mp h
    obtain ⟨us, ls, u, hus, hls, hu, hv⟩ := eval_factory_iff.mp hv
    obtain ⟨us', hus', hargsTrace⟩ := hargs hargs' us hus
    obtain ⟨ls', hls', hkwsTrace⟩ := hkws hkws' ls hls
    have hsame : Conversion.ofName? name ≠ Option.none → us' = us := by
      intro hconversion
      rw [trimList_leaves (hsound.leaves hcall hconversion) has, hus] at hus'
      exact (Except.ok.inj hus').symm
    obtain ⟨u', hu', huTrace⟩ := map_eq_map_ok
      (call_congr hsound.append r name hargsTrace hkwsTrace hsame) hu
    obtain ⟨v', hv', hvTrace⟩ := hmods hmods' name u u' v huTrace hv
    obtain ⟨w, hw, hwTrace⟩ := chain_trace hsound hall hchain
      (eval_factory_iff.mpr ⟨us', ls', u', hus', hls', hu', hv'⟩)
    exact ⟨w, hw, hwTrace.trans hvTrace⟩
  nil _ vs hvs := ⟨vs, hvs, rfl⟩
  cons hhead htail h vs hvs := by
    rw [Call.everywhereList, Bool.and_eq_true] at h
    obtain ⟨u, us, hu, hus, rfl⟩ := evalList_cons_eq_ok hvs
    obtain ⟨w, hw, huTrace⟩ := hhead h.1 u hu
    obtain ⟨ws, hws, husTrace⟩ := htail h.2 us hus
    exact ⟨w :: ws, evalList_cons hw hws, congrArg₂ List.cons huTrace husTrace⟩
  noKeywords _ vs hvs := ⟨vs, hvs, rfl⟩
  keyword {name c d ks ls} hhead htail h vs hvs := by
    rw [Call.everywhereKeywords, Bool.and_eq_true] at h
    rw [evalKeywords] at hvs
    obtain ⟨u, hu, hvs⟩ := bind_eq_ok.mp hvs
    obtain ⟨us, hus, hvs⟩ := bind_eq_ok.mp hvs
    cases hvs
    obtain ⟨w, hw, huTrace⟩ := hhead h.1 u hu
    obtain ⟨ws, hws, husTrace⟩ := htail h.2 us hus
    refine ⟨(name, w) :: ws, ?_, congrArg₂ List.cons (Prod.ext rfl huTrace) husTrace⟩
    rw [evalKeywords, hw]
    show (do return (name, w) :: (← evalKeywords r ls)) = _
    rw [hws]
    rfl
  noModifiers _ _ u u' v hu hv := by
    cases hv
    exact ⟨u', rfl, hu⟩
  modifier _ hargs hmods h owner u u' v hu hv := by
    obtain ⟨hm, hargs', hrest⟩ := Call.everywhereModifiers_cons.mp h
    obtain ⟨k, vs, x, hk, hvs, hx, hv⟩ := applyAll_cons_iff.mp hv
    obtain ⟨ws, hws, hargsTrace⟩ := hargs hargs' vs hvs
    obtain ⟨x', hx', hxTrace⟩ := map_eq_map_ok
      (modify_congr hsound.append (replaces_of_methodOf hk (hsound.noLayout hm)) hu hargsTrace) hx
    obtain ⟨w, hw, hwTrace⟩ := hmods hrest owner x x' v hxTrace hv
    exact ⟨w, applyAll_cons_iff.mpr ⟨k, ws, x', (methodOf_congr hu).trans hk, hws, hx', hw⟩, hwTrace⟩

/-- Trimming a call does not change the trace of its value. -/
theorem trim_trace (hsound : Sound r o f p q) {c d : Call} {n : Nat} {v : Value}
    (hc : c.everywhere p q = true) (h : trim r o c = .ok (d, n)) (hv : eval r c = .ok v) :
    ∃ w, eval r d = .ok w ∧ w.trace f = v.trace f :=
  (trace_follows hsound).trim h hc v hv

end Sound

/-! ### Exact texts -/

section Exact

variable {r : Registry} {o : Options}

/-- Only literals and names are converted. -/
def convertsLeaves (name : Text) (args : List Call) (_ : List Keyword) : Bool :=
  (Conversion.ofName? name).isNone || args.all Call.isLeaf

/-- The modifier is no layout. -/
def isNoLayout (m : Modifier) : Bool := m.name ≠ Modifier.normalize.name

/-- A call in which no tree is laid out and only literals and names are converted. -/
def isVerbatim (c : Call) : Bool := c.everywhere convertsLeaves isNoLayout

theorem convertsLeaves_trimmed {name : Text} {args as : List Call} {kws ks : List Keyword} {i : Nat}
    (h : convertsLeaves name args kws = true) (has : trimList r o args = .ok (as, i)) :
    convertsLeaves name as ks = true := by
  rw [convertsLeaves, Bool.or_eq_true] at h ⊢
  obtain h | h := h
  · exact .inl h
  · rw [trimList_leaves (List.all_eq_true.mp h) has]
    exact .inr h

/-- Exact texts are compared as they are. -/
theorem sound_exact (ho : o.defaultFormatting = false) :
    Sound r o id convertsLeaves isNoLayout where
  append _ _ := rfl
  leaves h hconversion := by
    rw [convertsLeaves, Bool.or_eq_true, Option.isNone_iff_eq_none] at h
    exact List.all_eq_true.mp (h.resolve_left hconversion)
  noLayout h := by simpa [isNoLayout] using h
  trimmedCall h has _ := convertsLeaves_trimmed h has
  trimmedModifier h _ := h
  faithful _ _ c vs t hv _ ht := by
    rw [hv, render, ho, if_neg Bool.false_ne_true] at ht
    rw [hv, mapError_eq_ok ht]
    rfl

theorem dottedNameOf_ne_array {t : Text} {vs : List Value} :
    Recipe.dottedNameOf t ≠ .array vs := by
  have hfold : ∀ (ps : List Text) (v : Value), (∀ vs, v ≠ .array vs) →
      ps.foldl (fun v q =>
        .node .qualifiedName [v, Recipe.fixedToken .dotToken, Recipe.nameOf q]) v ≠ .array vs := by
    intro ps
    induction ps with
    | nil => exact fun v hv => hv vs
    | cons p ps ih =>
      intro v _
      refine ih _ ?_
      intro us hus
      cases hus
  unfold Recipe.dottedNameOf
  split
  · intro h
    cases h
  · refine hfold _ _ ?_
    intro us hus
    cases hus

/-- An array is no result of a recipe. -/
theorem run_ne_array {recipe : Recipe} {args vs : List Value} :
    recipe.run args ≠ .ok (.array vs) := by
  intro h
  cases recipe with
  | node c parts =>
    obtain ⟨-, -, h⟩ := bind_eq_ok.mp h
    cases h
  | keywordLiteral =>
    simp only [Recipe.run] at h
    split at h
    · split at h <;> cases h
    · cases h
  | comment =>
    simp only [Recipe.run, Recipe.commentOf] at h
    split at h
    · cases h
    · split at h <;> cases h
  | documentationTrivia =>
    simp only [Recipe.run, Recipe.documentationOf] at h
    split at h
    · cases h
    · split at h <;> cases h
  | token =>
    simp only [Recipe.run, Recipe.tokenOf] at h
    split at h
    · cases h
    · split at h <;> cases h
  | literal =>
    obtain ⟨t, -, ht⟩ := bind_eq_ok.mp h
    cases ht
  | stringLiteral =>
    obtain ⟨t, -, ht⟩ := bind_eq_ok.mp h
    cases ht
  | numericLiteral =>
    obtain ⟨t, -, ht⟩ := bind_eq_ok.mp h
    cases ht
  | separatedByCommas =>
    simp only [Recipe.run, Recipe.separatedOf] at h
    split at h <;> cases h
  | separated =>
    simp only [Recipe.run, Recipe.separatedOf] at h
    split at h <;> cases h
  | dottedName => exact dottedNameOf_ne_array (Except.ok.inj h)
  | _ => cases h

theorem build_ne_array {as vs : List Value} {ks : List (Text × Value)} {os : List Overload} :
    Factory.build? as ks os ≠ .ok (some (.ok (.array vs))) := by
  induction os with
  | nil =>
    intro h
    cases h
  | cons o os ih =>
    intro h
    obtain ⟨bound, -, h⟩ := bind_eq_ok.mp h
    cases bound with
    | none => exact ih h
    | some us => exact run_ne_array (Option.some.inj (Except.ok.inj h))

/-- An array is no result of a call. -/
theorem call_ne_array {name : Text} {as vs : List Value} {ks : List (Text × Value)} :
    call r name as ks ≠ .ok (.array vs) := by
  have hfactory : factoryCall r name as (distinct ks) ≠ .ok (.array vs) := by
    intro h
    unfold factoryCall at h
    split at h
    · cases h
    · next c _ =>
      obtain ⟨type, -, h⟩ := bind_eq_ok.mp h
      split at h
      · cases h
      · cases h
      · cases h
      · next u hbuild =>
        have hu : u = .array vs := by
          unfold checkElements at h
          split at h
          · exact Except.ok.inj h
          · split at h
            · cases h
            · exact Except.ok.inj h
        rw [hu] at hbuild
        exact build_ne_array hbuild
  have hconvert : ∀ c : Conversion, convert name c as ≠ .ok (.array vs) := by
    intro c h
    unfold convert at h
    split at h <;> cases h
  simp only [call]
  split
  · split
    · exact hconvert _
    · exact hfactory
  · exact hfactory

/-- An array is no result of modifiers either. -/
theorem applyAll_ne_array {name : Text} {u : Value} {ms : List Modifier}
    (hms : ∀ m ∈ ms, m.name ≠ Modifier.normalize.name) (hu : ∀ vs, u ≠ .array vs)
    {vs : List Value} : applyAll r name u ms ≠ .ok (.array vs) := by
  induction ms generalizing u with
  | nil =>
    intro h
    cases h
    exact hu vs rfl
  | cons m ms ih =>
    intro h
    obtain ⟨w, hw, h⟩ := (applyAll_cons m ms).mp h
    refine ih (fun k hk => hms k (List.mem_cons_of_mem _ hk)) ?_ h
    rintro us rfl
    obtain ⟨c, vs, p, a, rfl, hreplace⟩ | ⟨htoken, a, hside⟩ :=
      apply_cases hw (hms m List.mem_cons_self)
    · unfold Method.replaceIn at hreplace
      simp only at hreplace
      split at hreplace <;> cases hreplace
    · obtain h | h := hside
      · exact absurd (isToken_reframe htoken a u.trailing) (by simp [← h, isToken])
      · exact absurd (isToken_reframe htoken u.leading a) (by simp [← h, isToken])

/-- Values of one trace have one text, except for arrays, which are shown in full. -/
theorem render_eq_of_trace (ho : o.defaultFormatting = false) {v w : Value}
    (h : v.trace id = w.trace id) (hv : ∀ vs, v ≠ .array vs) : render o v = render o w := by
  have hfull : v.fullText? = w.fullText? := by
    have htext := Recipe.fullText?_congr (fun _ _ => rfl) h
    rwa [Except.map_id, id, id] at htext
  cases coincide_of_trace h with
  | array _ => exact absurd rfl (hv _)
  | scalar s => rfl
  | kind k => rfl
  | node _ _ => rw [render, render, ho, if_neg Bool.false_ne_true, if_neg Bool.false_ne_true, hfull]
  | _ => exact congrArg (Except.mapError Error.fault) hfull

/-- **Leaving out modifiers keeps the exact text.**  If a factory call has a value and can be
trimmed in exact mode, then the trimmed call has a value of the same type and with the same text. -/
theorem render_trim_exact (ho : o.defaultFormatting = false) {name : Text} {args : List Call}
    {kws : List Keyword} {mods : List Modifier} {d : Call} {n : Nat} {v : Value}
    (hparts : isVerbatim (.factory name args kws mods) = true)
    (hv : eval r (.factory name args kws mods) = .ok v)
    (htrim : trim r o (.factory name args kws mods) = .ok (d, n)) :
    ∃ w, eval r d = .ok w ∧ w.typeName = v.typeName ∧ render o w = render o v := by
  obtain ⟨w, hw, htrace⟩ := trim_trace (sound_exact ho) hparts htrim hv
  obtain ⟨as, ks, u, -, -, hu, hmods⟩ := eval_factory_iff.mp hv
  have hnames : ∀ m ∈ mods, m.name ≠ Modifier.normalize.name := by
    intro m hm
    have := Call.of_everywhereModifiers (Call.everywhere_factory.mp hparts).2.2.2 hm
    simpa [isNoLayout] using this
  have harray : ∀ vs, v ≠ .array vs := by
    rintro vs rfl
    refine applyAll_ne_array hnames ?_ hmods
    rintro us rfl
    exact call_ne_array hu
  refine ⟨w, hw, ?_, (render_eq_of_trace ho htrace.symm harray).symm⟩
  rw [← trace_typeName id, htrace, trace_typeName]

/-- A struct whose absent semicolon is replaced by a missing one, which has no text either, and
whose name is replaced. -/
def renamedStruct : Call :=
  .factory (Text.of "struct_declaration") [.ofText (Text.of "S")] []
    [.mk (Text.of "with_semicolon_token") [.plain "missing_token" [.ofKind .semicolonToken]],
     .mk (Text.of "with_identifier") [.plain "identifier" [.ofText (Text.of "T")]]]

/-- The missing semicolon is left out and the name is kept. -/
theorem render_trim_exact_renamedStruct :
    ({ defaultFormatting := false } : Options).defaultFormatting = false
      ∧ isVerbatim renamedStruct = true
      ∧ ∃ v d, eval .standard renamedStruct = .ok v
        ∧ trim .standard { defaultFormatting := false } renamedStruct = .ok (d, 1)
        ∧ ∃ w, eval .standard d = .ok w ∧ w.typeName = v.typeName
          ∧ render { defaultFormatting := false } w = render { defaultFormatting := false } v := by
  have hparts : isVerbatim renamedStruct = true := by decide +kernel
  have heval : (eval .standard renamedStruct).toOption.isSome = true := by decide +kernel
  have htrim : (trim .standard { defaultFormatting := false } renamedStruct).map Prod.snd = .ok 1 := by
    decide +kernel
  cases hv : eval .standard renamedStruct with
  | error e =>
    rw [hv] at heval
    cases heval
  | ok v =>
    cases hd : trim .standard { defaultFormatting := false } renamedStruct with
    | error e =>
      rw [hd] at htrim
      cases htrim
    | ok d =>
      rw [hd] at htrim
      obtain ⟨d, n⟩ := d
      cases htrim
      exact ⟨rfl, hparts, v, d, rfl, rfl, render_trim_exact rfl hparts hv hd⟩

end Exact

end Trim

end TreeQuote
