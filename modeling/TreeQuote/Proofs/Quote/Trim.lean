/-
TreeQuote/Proofs/Quote/Trim.lean

Calls that are trimmed (`Trims`).  Trimming drops modifiers, and only calls for nodes have any; so
tokens keep their calls, lists are trimmed member by member and a plan can be used for the trimmed
calls of the properties just as for the calls themselves.

Main statements: `Quote.quoteToken_steady`, `Quote.arguments_trims` and `Quote.leftOver_trims`.
-/
import TreeQuote.Proofs.Quote.Inverse
import TreeQuote.Quote.Trim

namespace TreeQuote.Quote

open Evaluate

variable {o : Options}

/-! ### Trimmed calls -/

/-- The second call is what is left of the first when it is trimmed. -/
def Trims (o : Options) (q q' : Call) : Prop := ∃ n, Trim.trim .standard o q = .ok (q', n)

/-- The same for lists of calls. -/
def TrimsList (o : Options) (cs cs' : List Call) : Prop :=
  ∃ n, Trim.trimList .standard o cs = .ok (cs', n)

theorem TrimsList.nil : TrimsList o [] [] := ⟨0, rfl⟩

theorem TrimsList.cons {q q' : Call} {cs cs' : List Call} (hq : Trims o q q')
    (h : TrimsList o cs cs') : TrimsList o (q :: cs) (q' :: cs') := by
  obtain ⟨n, hn⟩ := hq
  obtain ⟨m, hm⟩ := h
  refine ⟨n + m, ?_⟩
  rw [Trim.trimList, hn, hm]
  rfl

theorem TrimsList.of_forall₂ {cs cs' : List Call} (h : List.Forall₂ (Trims o) cs cs') :
    TrimsList o cs cs' := by
  induction h with
  | nil => exact .nil
  | cons hq _ ih => exact .cons hq ih

theorem TrimsList.append {as as' bs bs' : List Call} (ha : TrimsList o as as')
    (hb : TrimsList o bs bs') : TrimsList o (as ++ bs) (as' ++ bs') := by
  obtain ⟨n, hn⟩ := ha
  induction as generalizing as' n with
  | nil =>
    cases hn
    exact hb
  | cons q as ih =>
    rw [Trim.trimList] at hn
    obtain ⟨⟨q', i⟩, hq, hn⟩ := bind_eq_ok.mp hn
    obtain ⟨⟨as'', j⟩, has, hn⟩ := bind_eq_ok.mp hn
    cases hn
    exact .cons ⟨i, hq⟩ (ih j has)

theorem Trims.literal (t : Text) : Trims o (.literal t) (.literal t) := ⟨0, rfl⟩

theorem Trims.ref (n : Text) : Trims o (.ref n) (.ref n) := ⟨0, rfl⟩

theorem Trims.array {cs cs' : List Call} (h : TrimsList o cs cs') :
    Trims o (.array cs) (.array cs') := by
  obtain ⟨n, hn⟩ := h
  refine ⟨n, ?_⟩
  rw [Trim.trim, hn]
  rfl

/-- Without modifiers only the arguments are trimmed. -/
theorem Trims.factory {cs cs' : List Call} (name : Text) (h : TrimsList o cs cs') :
    Trims o (.factory name cs [] []) (.factory name cs' [] []) := by
  obtain ⟨n, hn⟩ := h
  refine ⟨n, ?_⟩
  rw [Trim.trim, hn]
  rfl

theorem Trims.ofText (t : Text) : Trims o (.ofText t) (.ofText t) := .literal _

/-- A plain string is trimmed to itself. -/
theorem Trims.of_stringArgument {q a : Call} (h : stringArgument? q = some a) :
    Trims o q q ∧ Trims o a a := by
  unfold stringArgument? at h
  split at h
  · split at h
    · split at h
      · cases h
        exact ⟨.literal _, .literal _⟩
      · cases h
    · cases h
  · split at h
    · cases h
      exact ⟨.factory _ (.cons (.literal _) .nil), .literal _⟩
    · cases h
  · cases h

theorem Trims.unique {q q' q'' : Call} (h : Trims o q q') (h' : Trims o q q'') : q' = q'' := by
  obtain ⟨n, hn⟩ := h
  obtain ⟨m, hm⟩ := h'
  rw [hn] at hm
  cases hm
  rfl

theorem TrimsList.of_cons {q : Call} {cs ds : List Call} (h : TrimsList o (q :: cs) ds) :
    ∃ q' cs', ds = q' :: cs' ∧ Trims o q q' ∧ TrimsList o cs cs' := by
  obtain ⟨n, hn⟩ := h
  rw [Trim.trimList] at hn
  obtain ⟨⟨q', i⟩, hq, hn⟩ := bind_eq_ok.mp hn
  obtain ⟨⟨cs', j⟩, hcs, hn⟩ := bind_eq_ok.mp hn
  cases hn
  exact ⟨q', cs', rfl, ⟨i, hq⟩, ⟨j, hcs⟩⟩

theorem TrimsList.of_nil {ds : List Call} (h : TrimsList o [] ds) : ds = [] := by
  obtain ⟨n, hn⟩ := h
  cases hn
  rfl

theorem Trims.of_factory {name : Text} {cs : List Call} {q' : Call}
    (h : Trims o (.factory name cs [] []) q') :
    ∃ cs', q' = .factory name cs' [] [] ∧ TrimsList o cs cs' := by
  obtain ⟨n, hn⟩ := id h
  rw [Trim.trim] at hn
  obtain ⟨⟨cs', i⟩, hcs, -⟩ := bind_eq_ok.mp hn
  exact ⟨cs', h.unique (.factory name ⟨i, hcs⟩), ⟨i, hcs⟩⟩

theorem Trims.of_array {cs : List Call} {q' : Call} (h : Trims o (.array cs) q') :
    ∃ cs', q' = .array cs' ∧ TrimsList o cs cs' := by
  obtain ⟨n, hn⟩ := id h
  rw [Trim.trim] at hn
  obtain ⟨⟨cs', i⟩, hcs, -⟩ := bind_eq_ok.mp hn
  exact ⟨cs', h.unique (.array ⟨i, hcs⟩), ⟨i, hcs⟩⟩

theorem listItems?_singleton {name : Text} (hname : Call.baseName name = Text.of "singleton_list")
    (a : Call) : listItems? (.factory name [a] [] []) = some [a] := by
  cases a <;> simp [listItems?, hname]

/-- The nodes of a list are trimmed one by one. -/
theorem Trims.listItems {q q' : Call} {items : List Call} (h : Trims o q q')
    (hitems : listItems? q = some items) :
    ∃ items', listItems? q' = some items' ∧ TrimsList o items items' := by
  have hsingle : ∀ {name : Text} {a : Call}, Trims o (.factory name [a] [] []) q'
      → Call.baseName name = Text.of "singleton_list"
      → ∃ items', listItems? q' = some items' ∧ TrimsList o [a] items' := by
    intro name a h hname
    obtain ⟨cs', rfl, hcs⟩ := h.of_factory
    obtain ⟨a', ds, rfl, ha, hds⟩ := hcs.of_cons
    rw [hds.of_nil]
    exact ⟨[a'], listItems?_singleton hname a', .cons ha .nil⟩
  unfold listItems? at hitems
  split at hitems
  · next name cs =>
    split at hitems
    · next hname =>
      cases hitems
      exact hsingle h hname
    · next hne =>
      split at hitems
      · next hname =>
        cases hitems
        obtain ⟨as, rfl, has⟩ := h.of_factory
        obtain ⟨a', ds, rfl, ha, hds⟩ := has.of_cons
        obtain ⟨cs', rfl, hcs⟩ := ha.of_array
        rw [hds.of_nil]
        refine ⟨cs', ?_, hcs⟩
        rw [listItems?, if_neg hne, if_pos hname]
      · cases hitems
  · split at hitems
    · next hname =>
      cases hitems
      exact hsingle h hname
    · cases hitems
  · cases hitems

/-! ### Tokens -/

/-- Trimming leaves the call as it is. -/
abbrev Steady (o : Options) (q : Call) : Prop := Trims o q q

theorem steady_list {cs : List Call} (h : ∀ q ∈ cs, Steady o q) : TrimsList o cs cs :=
  .of_forall₂ (List.forall₂_same.mpr h)

theorem steady_inherits : Inherits (Steady o) where
  text _ := .ofText _
  kind _ := .ref _
  constant _ := .ref _
  scalar {s q} _ h := by
    have hliteral : (Call.scalarText s).map Call.literal = .ok q → Steady o q := by
      intro h
      cases htext : Call.scalarText s with
      | error e => rw [htext] at h; cases h
      | ok t =>
        rw [htext] at h
        cases h
        exact .literal t
    unfold Call.ofScalar at h
    split at h
    · split at h
      · cases h
        exact .literal _
      · cases h
        exact .factory _ (.cons (.ofText _) .nil)
    · exact hliteral h
  array h := .array (steady_list h)
  factory _ h := .factory _ (steady_list h)

/-- The call for a token has nothing to trim. -/
theorem quoteToken_steady {t : Token} {q : Call} (ht : t.WellFormed)
    (h : quoteToken .standard o t = .ok (some q)) : Steady o q := steady_inherits.quoteToken ht h

/-! ### Trimmed rows -/

/-- The calls that stand are trimmed one by one. -/
abbrev TrimsRow (o : Options) (qs qs' : List (Option Call)) : Prop :=
  List.Forall₂ (Option.Rel (Trims o)) qs qs'

section Row

variable {c : NodeClass} {j : Nat} {ps : List Parameter} {fs : List Field} {parts : List Part}
  {vs : List Value} {qs qs' : List (Option Call)} {K : Value → Call → Prop}

theorem lookup_trims (h : TrimsRow o qs qs') (name : Text) :
    Option.Rel (Trims o) (lookup name (present fs qs)) (lookup name (present fs qs')) := by
  induction h generalizing fs with
  | nil => cases fs <;> exact .none
  | @cons q q' qs qs' hq _ ih =>
    cases fs with
    | nil => exact .none
    | cons f fs =>
      rw [@present_cons f fs q, @present_cons f fs q']
      have hrest := @ih fs
      unfold lookup at hrest ⊢
      rw [List.find?_append, List.find?_append]
      cases hq with
      | none => simpa [present] using hrest
      | @some a b hab =>
        by_cases hname : Text.lower f.name = Text.lower name
        · simpa [present, hname] using Option.Rel.some hab
        · simpa [present, hname] using hrest

/-- A plain string stays one. -/
theorem Trims.stringArgument_isSome {q q' : Call} (h : Trims o q q')
    (hq : (stringArgument? q).isSome = true) : q' = q := by
  obtain ⟨a, ha⟩ := Option.isSome_iff_exists.mp hq
  exact h.unique (Trims.of_stringArgument ha).1

/-- A plan can be used for the trimmed calls as well. -/
theorem Suits.trimmed {k : Kind} {p : Plan} (h : Suits c k qs p) (hqs : TrimsRow o qs qs') :
    Suits c k qs' p where
  sound := h.sound
  keyword := h.keyword
  text p hp hs := by
    have hsome := h.text p hp hs
    have hrel : Option.Rel (Trims o) (lookup p.name (present c.fields qs))
        (lookup p.name (present c.fields qs')) := lookup_trims hqs p.name
    generalize lookup p.name (present c.fields qs) = a at hsome hrel
    generalize lookup p.name (present c.fields qs') = b at hrel
    cases hrel with
    | none => exact hsome
    | some hab => rwa [Option.bind_some, hab.stringArgument_isSome hsome]

theorem written_trims {p : Parameter} {f : Field} {part : Part} {v : Value} {q q' : Option Call}
    (hcarries : Part.Carries c p f j part) (hmem : f ∈ c.fields) (hfits : Field.Fits c f v)
    (hq : Conveys K f v q) (h : Option.Rel (Trims o) q q')
    (htext : p.shape = .text → (q.bind stringArgument?).isSome = true) :
    TrimsList o (written p q) (written p q') := by
  cases h with
  | none => exact .nil
  | @some a b hab =>
    simp only [written]
    cases hv : p.isVariadic with
    | true =>
      simp only [if_true]
      cases hcarries with
      | members _ _ _ hfield =>
        have hlist : f.shape ≠ .token := by
          rw [hfield]
          exact Shape.noConfusion
        have hnodes := hfits.shape hmem hlist
        rw [hfield] at hnodes
        obtain ⟨ws, rfl, -⟩ := hnodes
        obtain ⟨items, hitems⟩ := Option.isSome_iff_exists.mp (hq.writes.items ⟨ws, rfl⟩)
        obtain ⟨items', hitems', htrims⟩ := hab.listItems hitems
        rw [hitems, hitems']
        exact htrims
      | argument h => rw [hv] at h; cases h
      | argumentOr h => rw [hv] at h; cases h
      | identifier h => rw [hv] at h; cases h
      | identifierName h => rw [hv] at h; cases h
    | false =>
      simp only [Bool.false_eq_true, if_false]
      by_cases hs : p.shape = .text
      · rw [if_pos hs, if_pos hs]
        have hsome : (stringArgument? a).isSome = true := htext hs
        rw [hab.stringArgument_isSome hsome]
        obtain ⟨s, hs⟩ := Option.isSome_iff_exists.mp hsome
        rw [hs]
        exact .cons (Trims.of_stringArgument hs).2 .nil
      · rw [if_neg hs, if_neg hs]
        exact .cons hab .nil

/-- The arguments are trimmed one by one. -/
theorem arguments_trims (hroutes : Routes c j ps fs parts) (hrows : Rows K c fs vs qs)
    (hqs : TrimsRow o qs qs') (hf : Apart fs) {pool : List Quoted} (hpool : Clear pool fs)
    (htext : ∀ p ∈ ps, p.shape = .text
      → ((lookup p.name (pool ++ present fs qs)).bind stringArgument?).isSome = true) :
    TrimsList o (arguments c ps fs parts qs) (arguments c ps fs parts qs') := by
  induction hroutes generalizing vs qs qs' pool with
  | nil =>
    cases hrows
    cases hqs
    exact .nil
  | @leave j ps f fs part parts hleaves _ _ ih =>
    cases hrows with
    | @cons _ v q _ vs qs _ _ _ hrows =>
      cases hqs with
      | cons _ hqs =>
        rw [present_cons, ← List.append_assoc] at htext
        rw [arguments_leave hleaves, arguments_leave hleaves]
        exact ih hrows hqs hf.tail (hpool.leave hf q) htext
  | @carry j p ps f fs part parts hleaves hname hcarries _ hroutes ih =>
    cases hrows with
    | @cons _ v q _ vs qs hmem hfits hq hrows =>
      cases hqs with
      | cons hqq hqs =>
        have hlookup : lookup p.name (pool ++ present (f :: fs) (q :: qs)) = q := by
          rw [hname, lookup_present hpool hf]
        have hrest : ∀ p ∈ ps, p.shape = .text
            → ((lookup p.name (pool ++ present fs qs)).bind stringArgument?).isSome = true := by
          intro p' hp' hs
          obtain ⟨g, hg, hgname⟩ := hroutes.names p' hp'
          have := htext p' (List.mem_cons_of_mem p hp') hs
          rwa [hgname, lookup_present_tail hg hf, ← hgname] at this
        rw [arguments_carry hleaves, arguments_carry hleaves]
        refine .append (written_trims hcarries hmem hfits hq hqq fun hs => ?_)
          (ih hrows hqs hf.tail hpool.tail hrest)
        exact hlookup ▸ htext p List.mem_cons_self hs

theorem leftOver_written {f : Field} {part : Part} (q : Call) (h : part.leaves c f = true) :
    leftOver c (f :: fs) (part :: parts) (some q :: qs)
      = ⟨f.name, q⟩ :: leftOver c fs parts qs := by
  rw [leftOver, if_pos h]
  rfl

theorem leftOver_blank {f : Field} {part : Part} :
    leftOver c (f :: fs) (part :: parts) (none :: qs) = leftOver c fs parts qs := by
  rw [leftOver]
  cases part.leaves c f <;> rfl

theorem leftOver_carry {f : Field} {part : Part} {q : Option Call} (h : part.leaves c f = false) :
    leftOver c (f :: fs) (part :: parts) (q :: qs) = leftOver c fs parts qs := by
  rw [leftOver, h]
  rfl

/-- The modifiers are trimmed one by one. -/
theorem leftOver_trims (hqs : TrimsRow o qs qs') :
    ∃ n, Trim.trimModifiers .standard o ((leftOver c fs parts qs).map Quoted.modifier)
      = .ok ((leftOver c fs parts qs').map Quoted.modifier, n) := by
  induction hqs generalizing fs parts with
  | nil => cases fs <;> cases parts <;> exact ⟨0, rfl⟩
  | @cons q q' qs qs' hq _ ih =>
    cases fs with
    | nil => exact ⟨0, rfl⟩
    | cons f fs =>
      cases parts with
      | nil => exact ⟨0, rfl⟩
      | cons part parts =>
        obtain ⟨n, hn⟩ := @ih fs parts
        cases hleaves : part.leaves c f with
        | false =>
          rw [leftOver_carry hleaves, leftOver_carry hleaves]
          exact ⟨n, hn⟩
        | true =>
          cases hq with
          | none =>
            rw [leftOver_blank, leftOver_blank]
            exact ⟨n, hn⟩
          | @some a b hab =>
            obtain ⟨m, hm⟩ := TrimsList.cons hab .nil
            refine ⟨m + n, ?_⟩
            rw [leftOver_written a hleaves, leftOver_written b hleaves, List.map_cons, List.map_cons,
              Quoted.modifier, Trim.trimModifiers, hm, hn]
            rfl

end Row

end TreeQuote.Quote
