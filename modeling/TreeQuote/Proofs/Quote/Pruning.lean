/-
TreeQuote/Proofs/Quote/Pruning.lean

Trimming only deletes, and trims all there is to trim.  What is left of a call is the call without
some of the modifiers that replace something (`Prunes`).  A modifier that is kept was kept against
the value that the kept modifiers in front of it build, and a modifier that is left out does not
change that value; so a second pass compares the same texts and keeps everything.

The holding call is judged after its arguments.  A second pass finds them as the first left them,
hence the induction follows the call, from the arguments to the modifiers.

Main statements: `Trim.trim_prunes`, `Trim.trim_trim` and `Trim.trim_settles`.
-/
import TreeQuote.Proofs.Quote.Elimination

namespace TreeQuote

/-! ### Calls without some of their modifiers -/

mutual

/-- The second call is the first without some modifiers, at any depth, that replace something. -/
inductive Prunes : Call → Call → Prop
  | literal (t : Text) : Prunes (.literal t) (.literal t)
  | ref (n : Text) : Prunes (.ref n) (.ref n)
  | hole : Prunes .hole .hole
  | array {cs ds : List Call} (items : PrunesList cs ds) : Prunes (.array cs) (.array ds)
  | factory {name : Text} {as bs : List Call} {ks ls : List Keyword} {ms ns : List Modifier}
      (arguments : PrunesList as bs) (keywords : PrunesKeywords ks ls)
      (modifiers : PrunesModifiers ms ns) : Prunes (.factory name as ks ms) (.factory name bs ls ns)

/-- The same for calls, one by one. -/
inductive PrunesList : List Call → List Call → Prop
  | nil : PrunesList [] []
  | cons {c d : Call} {cs ds : List Call} (head : Prunes c d) (tail : PrunesList cs ds) :
      PrunesList (c :: cs) (d :: ds)

/-- The same for arguments by name, one by one. -/
inductive PrunesKeywords : List Keyword → List Keyword → Prop
  | nil : PrunesKeywords [] []
  | cons {n : Text} {c d : Call} {ks ls : List Keyword} (head : Prunes c d)
      (tail : PrunesKeywords ks ls) : PrunesKeywords (.mk n c :: ks) (.mk n d :: ls)

/-- The same for modifiers: each stands with its arguments, or it replaces something and is
deleted. -/
inductive PrunesModifiers : List Modifier → List Modifier → Prop
  | nil : PrunesModifiers [] []
  | keep {n : Text} {as bs : List Call} {ms ns : List Modifier} (head : PrunesList as bs)
      (tail : PrunesModifiers ms ns) : PrunesModifiers (.mk n as :: ms) (.mk n bs :: ns)
  | delete {m : Modifier} {ms ns : List Modifier} (replaces : m.replaces = true)
      (tail : PrunesModifiers ms ns) : PrunesModifiers (m :: ms) ns

end

namespace PrunesModifiers

/-- What replaces nothing stays, and stays in order. -/
theorem names {ms ns : List Modifier} : PrunesModifiers ms ns →
    (ns.filter (!·.replaces)).map Modifier.name = (ms.filter (!·.replaces)).map Modifier.name
  | nil => rfl
  | @keep n as bs _ _ _ tail => by
    have hsame : (Modifier.mk n bs).replaces = (Modifier.mk n as).replaces := rfl
    rw [List.filter_cons, List.filter_cons, hsame]
    split
    · rw [List.map_cons, List.map_cons, tail.names]
      rfl
    · exact tail.names
  | delete replaces tail => by
    rw [List.filter_cons_of_neg (by simp [replaces])]
    exact tail.names

/-- Names keep their order. -/
theorem names_sublist {ms ns : List Modifier} : PrunesModifiers ms ns →
    (ns.map Modifier.name).Sublist (ms.map Modifier.name)
  | nil => .slnil
  | keep _ tail => tail.names_sublist.cons_cons _
  | delete _ tail => tail.names_sublist.cons _

end PrunesModifiers

namespace Trim

open Evaluate

variable {r : Registry} {o : Options}

/-! ### The modifiers of one call -/

section Chain

variable {owner : Text} {v : Value} {t : Text} {ms ns kept : List Modifier} {n : Nat}

/-- One modifier is applied and compared; it is left out or kept, and the rest is trimmed behind
what it leaves. -/
theorem keep_cons_cases {m : Modifier} (h : keep r o owner v t (m :: ms) = .ok (kept, n)) :
    ∃ w s, (apply r owner v m).mapError Error.evaluation = .ok w ∧ render o w = .ok s
      ∧ ((s = t ∧ m.replaces = true ∧ ∃ k, keep r o owner v t ms = .ok (kept, k))
        ∨ ((decide (s = t) && m.replaces) = false
          ∧ ∃ rest, kept = m :: rest ∧ keep r o owner w s ms = .ok (rest, n))) := by
  rw [keep] at h
  obtain ⟨w, hw, h⟩ := bind_eq_ok.mp h
  obtain ⟨s, hs, h⟩ := bind_eq_ok.mp h
  refine ⟨w, s, hw, hs, ?_⟩
  split at h
  · next hout =>
    obtain ⟨⟨rest, k⟩, hrest, h⟩ := bind_eq_ok.mp h
    cases h
    rw [Bool.and_eq_true, decide_eq_true_eq] at hout
    exact .inl ⟨hout.1, hout.2, k, hrest⟩
  · next hin =>
    obtain ⟨⟨rest, k⟩, hrest, h⟩ := bind_eq_ok.mp h
    cases h
    exact .inr ⟨Bool.not_eq_true _ ▸ hin, rest, rfl, hrest⟩

theorem keep_cons_kept {m : Modifier} {w : Value} {s : Text}
    (hw : (apply r owner v m).mapError Error.evaluation = .ok w) (hs : render o w = .ok s)
    (hin : (decide (s = t) && m.replaces) = false)
    (h : keep r o owner w s ms = .ok (kept, n)) :
    keep r o owner v t (m :: ms) = .ok (m :: kept, n) := by
  rw [keep, hw]
  show (render o w >>= _) = _
  rw [hs]
  show (if (decide (s = t) && m.replaces) = true then _ else _) = _
  rw [hin, if_neg Bool.false_ne_true, h]
  rfl

/-- What is kept is kept again: it meets the same values in front of it. -/
theorem keep_keep (h : keep r o owner v t ms = .ok (kept, n)) :
    keep r o owner v t kept = .ok (kept, 0) := by
  induction ms generalizing v t kept n with
  | nil =>
    cases h
    rfl
  | cons m ms ih =>
    obtain ⟨w, s, hw, hs, ⟨-, -, k, hrest⟩ | ⟨hin, rest, rfl, hrest⟩⟩ := keep_cons_cases h
    · exact ih hrest
    · exact keep_cons_kept hw hs hin (ih hrest)

/-- Only modifiers that replace something are left out. -/
theorem keep_prunes : ∀ {ms ns kept : List Modifier} {v : Value} {t : Text} {n : Nat},
    PrunesModifiers ms ns → keep r o owner v t ns = .ok (kept, n) → PrunesModifiers ms kept
  | _, _, _, _, _, _, .nil, h => by
    cases h
    exact .nil
  | _, _, _, _, _, _, .keep head tail, h => by
    obtain ⟨w, s, -, -, ⟨-, hreplaces, k, hrest⟩ | ⟨-, rest, rfl, hrest⟩⟩ := keep_cons_cases h
    · exact .delete hreplaces (keep_prunes tail hrest)
    · exact .keep head (keep_prunes tail hrest)
  | _, _, _, _, _, _, .delete hreplaces tail, h => .delete hreplaces (keep_prunes tail h)

/-- A call whose modifiers are trimmed has lost some that replace something. -/
theorem chain_prunes {name : Text} {args : List Call} {kws : List Keyword} {c : Call}
    (h : chain r o name args kws ns = .ok (c, n)) (hms : PrunesModifiers ms ns) :
    ∃ kept, c = .factory name args kws kept ∧ PrunesModifiers ms kept := by
  rw [chain] at h
  split at h
  · obtain ⟨base, -, h⟩ := bind_eq_ok.mp h
    obtain ⟨text, -, h⟩ := bind_eq_ok.mp h
    obtain ⟨⟨kept, k⟩, hkeep, h⟩ := bind_eq_ok.mp h
    cases h
    exact ⟨kept, rfl, keep_prunes hms hkeep⟩
  · cases h
    exact ⟨ns, rfl, hms⟩

/-- Trimmed modifiers are trimmed to themselves. -/
theorem chain_chain {name : Text} {args : List Call} {kws : List Keyword}
    (h : chain r o name args kws ms = .ok (.factory name args kws kept, n)) :
    chain r o name args kws kept = .ok (.factory name args kws kept, 0) := by
  rw [chain] at h
  split at h
  · obtain ⟨base, hbase, h⟩ := bind_eq_ok.mp h
    obtain ⟨text, htext, h⟩ := bind_eq_ok.mp h
    obtain ⟨⟨rest, k⟩, hkeep, h⟩ := bind_eq_ok.mp h
    cases h
    rw [chain]
    split
    · exact bind_eq_ok.mpr ⟨base, hbase, bind_eq_ok.mpr ⟨text, htext,
        bind_eq_ok.mpr ⟨(kept, 0), keep_keep hkeep, rfl⟩⟩⟩
    · rfl
  · next hno =>
    cases h
    rw [chain, if_neg hno]
    rfl

end Chain

/-! ### Trimming only deletes -/

theorem prunes_follows : Follows r o Prunes PrunesList PrunesKeywords PrunesModifiers where
  literal := .literal
  ref := .ref
  hole := .hole
  array := .array
  factory _ _ _ hchain hargs hkws hmods := by
    obtain ⟨kept, rfl, hkept⟩ := chain_prunes hchain hmods
    exact .factory hargs hkws hkept
  nil := .nil
  cons := .cons
  noKeywords := .nil
  keyword := .cons
  noModifiers := .nil
  modifier _ := .keep

/-- What is left of a call is the call without some of its modifiers. -/
theorem trim_prunes {c d : Call} {n : Nat} (h : trim r o c = .ok (d, n)) : Prunes c d :=
  prunes_follows.trim h

/-! ### Trimming twice -/

theorem trimModifiers_cons_settled {n : Text} {as : List Call} {ms : List Modifier}
    (has : trimList r o as = .ok (as, 0)) (hms : trimModifiers r o ms = .ok (ms, 0)) :
    trimModifiers r o (.mk n as :: ms) = .ok (.mk n as :: ms, 0) := by
  rw [trimModifiers, has, hms]
  rfl

theorem settled_of_cons {n : Text} {as : List Call} {ms : List Modifier}
    (h : trimModifiers r o (.mk n as :: ms) = .ok (.mk n as :: ms, 0)) :
    trimList r o as = .ok (as, 0) ∧ trimModifiers r o ms = .ok (ms, 0) := by
  rw [trimModifiers] at h
  obtain ⟨⟨bs, i⟩, hbs, h⟩ := bind_eq_ok.mp h
  obtain ⟨⟨ls, j⟩, hls, h⟩ := bind_eq_ok.mp h
  simp only [pure, Except.pure, Except.ok.injEq, Prod.mk.injEq, List.cons.injEq,
    Modifier.mk.injEq, true_and, Nat.add_eq_zero_iff] at h
  obtain ⟨⟨rfl, rfl⟩, rfl, rfl⟩ := h
  exact ⟨hbs, hls⟩

/-- Modifiers that need no trimming need none when some of them are left out. -/
theorem trimModifiers_sublist {ms ns : List Modifier} (hsub : ms.Sublist ns)
    (h : trimModifiers r o ns = .ok (ns, 0)) : trimModifiers r o ms = .ok (ms, 0) := by
  induction hsub with
  | slnil => rfl
  | @cons ms ns m _ ih =>
    obtain ⟨n, as⟩ := m
    exact ih (settled_of_cons h).2
  | @cons_cons ms ns m _ ih =>
    obtain ⟨n, as⟩ := m
    exact trimModifiers_cons_settled (settled_of_cons h).1 (ih (settled_of_cons h).2)

/-- Nothing more is left out of what is left. -/
theorem settled_follows : Follows r o (fun _ d => trim r o d = .ok (d, 0))
    (fun _ ds => trimList r o ds = .ok (ds, 0)) (fun _ ls => trimKeywords r o ls = .ok (ls, 0))
    (fun _ ns => trimModifiers r o ns = .ok (ns, 0)) where
  literal _ := rfl
  ref _ := rfl
  hole := rfl
  array hitems := by
    rw [trim, hitems]
    rfl
  factory {name _ _ _ as ks ms c _ _ _ n} _ _ _ hchain hargs hkws hmods := by
    obtain ⟨kept, hsub, rfl⟩ := chain_eq_ok hchain
    rw [trim]
    exact bind_eq_ok.mpr ⟨(as, 0), hargs, bind_eq_ok.mpr ⟨(ks, 0), hkws, bind_eq_ok.mpr ⟨(kept, 0),
      trimModifiers_sublist hsub hmods, bind_eq_ok.mpr ⟨_, chain_chain hchain, rfl⟩⟩⟩⟩
  nil := rfl
  cons hhead htail := by
    rw [trimList, hhead, htail]
    rfl
  noKeywords := rfl
  keyword hhead htail := by
    rw [trimKeywords, hhead, htail]
    rfl
  noModifiers := rfl
  modifier _ := trimModifiers_cons_settled

/-- What is left of a call is left again. -/
theorem trim_trim {c d : Call} {n : Nat} (h : trim r o c = .ok (d, n)) : trim r o d = .ok (d, 0) :=
  settled_follows.trim h

/-- **Trimming only deletes, and once is enough.**  If a call can be trimmed, what is left is the
call without some modifiers that replace something; that can be trimmed too, and nothing more is
left out. -/
theorem trim_settles (r : Registry) (o : Options) {c d : Call} {n : Nat}
    (h : trim r o c = .ok (d, n)) : Prunes c d ∧ trim r o d = .ok (d, 0) :=
  ⟨trim_prunes h, trim_trim h⟩

/-- A return statement whose expression is replaced by one with a modifier of its own, and whose
semicolon is replaced by another. -/
def returnX : Call :=
  .factory (Text.of "return_statement") [] []
    [.mk (Text.of "with_expression") [.factory (Text.of "identifier_name") [.ofText (Text.of "x")] []
      [.mk (Text.of "with_identifier") [.plain "identifier" [.ofText (Text.of "x")]]]],
     .mk (Text.of "with_semicolon_token") [.plain "token" [.ofKind .semicolonToken]],
     .normalize]

/-- The name that is replaced by itself and the semicolon are left out, the expression and the
layout are kept. -/
theorem trim_settles_returnX : ∃ d, trim .standard {} returnX = .ok (d, 2)
    ∧ Prunes returnX d ∧ trim .standard {} d = .ok (d, 0) := by
  have htrim : (trim .standard {} returnX).map Prod.snd = .ok 2 := by decide +kernel
  cases h : trim .standard {} returnX with
  | error e =>
    rw [h] at htrim
    cases htrim
  | ok p =>
    obtain ⟨d, n⟩ := p
    rw [h] at htrim
    cases htrim
    exact ⟨d, rfl, trim_settles .standard {} h⟩

end Trim

end TreeQuote
