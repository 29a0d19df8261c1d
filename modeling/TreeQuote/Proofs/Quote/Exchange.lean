/-
TreeQuote/Proofs/Quote/Exchange.lean

What sifting leaves of a node of a repaired text writes the same wherever it stands.  The properties
are exchanged from left to right, each in front of those that are not yet sifted: one that is kept
for what is left of it below, and one that is dropped for its value by default (`Sifting.step`).

Only behind a struct it matters what follows, since its semicolon may have been left out.

Main statement: `Quote.lenient_repairs`.
-/
import TreeQuote.Proofs.Quote.Leaving

namespace TreeQuote

open Grammar Layout

/-! ### What may not follow -/

/-- The kinds that may not follow a node of the type. -/
def NodeType.fence (t : NodeType) : List Kind :=
  if t.holds .structDeclaration || t.holds .compilationUnit then afterStruct else []

/-- The kinds that may not follow what the form says. -/
def Grammar.Form.fence : Form → List Kind
  | .node t => t.fence
  | .optional t => t.fence
  | .nodes t => t.fence
  | .separated t => t.fence
  | _ => []

/-- Lists of structs are lists of members. -/
def Grammar.Form.isOpen : Form → Bool
  | .nodes t => t.fence = [] || t = .category .member
  | .separated t => t.fence = []
  | _ => true

theorem NodeType.fence_cls {t : NodeType} {c : NodeClass} (h : t.holds c = true) :
    (NodeType.cls c).fence ⊆ t.fence := by
  unfold fence
  split
  · next hc =>
    simp only [holds, Bool.or_eq_true, decide_eq_true_eq] at hc
    rcases hc with rfl | rfl <;> simp [h]
  · exact List.nil_subset _

/-- Only members ask for what follows them, and they are followed by the end of the file. -/
def fenced (c : NodeClass) : List Form → Bool
  | [] => true
  | g :: gs => g.isOpen
    && (g.fence = [] || c = .compilationUnit && g = .nodes (.category .member)
      && gs = [.perhaps .endOfFileToken])
    && fenced c gs

theorem slots_fenced (c : NodeClass) : fenced c (slots c) = true := by
  cases c <;> decide

namespace Quote

open Value

variable {o : Options}

/-! ### Values that write the same -/

/-- What is left of a value in a repaired text writes the same, and is the same token or kind. -/
structure Repairs (o : Options) (v w : Value) : Prop where
  token (t : Token) : v = .token t → w = .token (t.reduced o)
  kind (k : Kind) : v = .kind k → w = .kind k
  exchange (f : Form) (c : NodeClass) (slot : Nat) : v.Mended → f.Holds v → f.isOpen = true
    → Exchanges f.fence (placesIn c slot v) (placesIn c slot w)

/-- A token that the form asks for stays. -/
def Stays (g : Form) (u : Value) : Prop := ∀ ks, g = .token ks → IsTokenOf ks u

/-- Where sifting stands in a node: the properties in front, as they were and as they are left, and
those behind, as they were and with what is left below. -/
structure Sifting (o : Options) (c : NodeClass) (gs : List Form) (os done vs ws : List Value) :
    Prop where
  mended : (Value.node c (os ++ vs)).Mended
  admits : c.Admits (os ++ vs)
  fronts : ∃ before, slots c = before ++ gs ∧ List.Forall₂ Stays before done
  fenced : fenced c gs = true
  holds : List.Forall₂ Form.Holds gs vs
  inks : List.Forall₂ (fun v u => u.ink = v.ink) os done
  repairs : List.Forall₂ (Repairs o) vs ws

theorem fieldPlaces_split (c : NodeClass) (done : List Value) (v : Value) (vs : List Value) :
    fieldPlaces c 0 (done ++ v :: vs)
      = fieldPlaces c 0 done
        ++ (placesIn c done.length v ++ fieldPlaces c (done.length + 1) vs) := by
  rw [fieldPlaces_append, fieldPlaces, Nat.zero_add]

namespace Sifting

variable {c : NodeClass} {g : Form} {gs : List Form} {os done vs ws : List Value} {v w u : Value}
  {ks : List Kind}

/-- The next property joins those in front. -/
theorem next (h : Sifting o c (g :: gs) os done (v :: vs) (w :: ws)) (hu : Stays g u)
    (hink : u.ink = v.ink) : Sifting o c gs (os ++ [v]) (done ++ [u]) vs ws := by
  obtain ⟨before, hslots, hbefore⟩ := h.fronts
  cases h.holds with
  | cons _ hvs =>
  cases h.repairs with
  | cons _ hws =>
    have happend : os ++ [v] ++ vs = os ++ v :: vs := by simp
    have hfenced := h.fenced
    rw [TreeQuote.fenced, Bool.and_eq_true] at hfenced
    exact ⟨happend ▸ h.mended, happend ▸ h.admits,
      ⟨before ++ [g], by rw [hslots, List.append_assoc]; rfl, List.rel_append hbefore (.cons hu .nil)⟩,
      hfenced.2, hvs, List.rel_append h.inks (.cons hink .nil), hws⟩

theorem head (h : Sifting o c (g :: gs) os done (v :: vs) (w :: ws)) :
    v.Mended ∧ g.Holds v ∧ g.isOpen = true ∧ Repairs o v w := by
  have hfenced := h.fenced
  simp only [TreeQuote.fenced, Bool.and_eq_true] at hfenced
  cases h.holds with
  | cons hv _ =>
  cases h.repairs with
  | cons hw _ => exact ⟨h.mended.ofNode v (by simp), hv, hfenced.1.1, hw⟩

/-- What is left of the next property writes the same, except in front of what may not follow. -/
theorem exchange (h : Sifting o c (g :: gs) os done (v :: vs) (w :: ws)) (slot : Nat) :
    Exchanges g.fence (placesIn c slot v) (placesIn c slot w) := by
  obtain ⟨hmended, hv, hopen, hw⟩ := h.head
  exact hw.exchange g c slot hmended hv hopen

/-- A property that is kept joins those in front. -/
theorem next_keep (h : Sifting o c (g :: gs) os done (v :: vs) (w :: ws)) :
    Sifting o c gs (os ++ [v]) (done ++ [w]) vs ws := by
  obtain ⟨-, hv, -, hw⟩ := h.head
  refine h.next (fun ks hg => ?_) ?_
  · subst hg
    obtain ⟨t, rfl, ht⟩ := hv
    exact ⟨_, hw.token t rfl, ht⟩
  · have hinks := (h.exchange 0).inks
    rw [inks_places, inks_places] at hinks
    exact hinks.symm

/-- A property that is kept. -/
theorem keep (h : Sifting o c (g :: gs) os done (v :: vs) (w :: ws)) :
    Exchanges (NodeType.cls c).fence (fieldPlaces c 0 (done ++ v :: vs))
      (fieldPlaces c 0 (done ++ w :: vs)) := by
  rw [fieldPlaces_split, fieldPlaces_split]
  refine .behind ?_ _
  have hfenced := h.fenced
  simp only [TreeQuote.fenced, Bool.and_eq_true, Bool.or_eq_true, decide_eq_true_eq] at hfenced
  obtain ⟨⟨-, hfence | ⟨⟨rfl, rfl⟩, rfl⟩⟩, -⟩ := hfenced
  · have hexchange := h.exchange done.length
    rw [hfence] at hexchange
    exact hexchange.front (by simp) (by simp)
  · refine (h.exchange done.length).front (fun q hq hk => ?_) fun _ => List.Subset.refl _
    cases h.holds with
    | @cons _ _ _ _ _ hvs =>
    cases hvs with
    | cons he hnil =>
      cases hnil
      rcases he with rfl | ⟨t, rfl, ht⟩
      · cases hq
      · have hkind := List.mem_singleton.mp ht
        rw [fieldPlaces, placesIn, if_neg (by simp [Token.isAbsent, hkind])] at hq
        obtain rfl := Option.some.inj hq
        change t.kind ∈ _ at hk
        rw [hkind] at hk
        exact absurd hk (by decide)

/-- The last property in front, if it is a token. -/
theorem ends (h : Sifting o c gs os done vs ws) {before : List Form} {k : Kind}
    (hslots : slots c = before ++ .token [k] :: gs) (hk : k ≠ .none) :
    ∃ qs x, fieldPlaces c 0 done = qs ++ [x] ∧ x.token.kind = k ∧ x.parent = c := by
  obtain ⟨fronts, hfronts, hstays⟩ := h.fronts
  obtain rfl : fronts = before ++ [.token [k]] := by
    rw [hslots, List.append_cons] at hfronts
    exact (List.append_cancel_right hfronts).symm
  have hlast := List.forall₂_drop before.length hstays
  rw [List.drop_left] at hlast
  rw [← List.take_append_drop before.length done]
  generalize done.drop before.length = x at hlast ⊢
  cases hlast with
  | cons hx hnil =>
    cases hnil
    exact Ends.fields (fun slot => (hx [k] rfl).ends hk slot) _

/-! ### Properties that are dropped -/

section Drop

variable {d : Value} {rest : List Value}

/-- The text behind the properties in front, if the next one is dropped. -/
theorem text (h : Sifting o c (g :: gs) os done (v :: vs) (w :: ws))
    (hrest : ∀ p ∈ (fieldPlaces c (done.length + 1) rest).head?, p.token.kind ∉ g.fence)
    (htext : textFrom Option.none (fieldPlaces c 0 (done ++ w :: rest))
      = textFrom Option.none (fieldPlaces c 0 (done ++ d :: rest))) :
    textFrom (along Option.none (fieldPlaces c 0 done))
        (placesIn c done.length v ++ fieldPlaces c (done.length + 1) rest)
      = textFrom (along Option.none (fieldPlaces c 0 done))
        (placesIn c done.length d ++ fieldPlaces c (done.length + 1) rest) := by
  rw [fieldPlaces_split, fieldPlaces_split] at htext
  rw [h.exchange done.length _ _ hrest]
  exact textFrom_cancel htext

/-- It is enough to exchange it in front of the properties behind. -/
theorem drop_of_behind (hexchange : Exchanges ks
      (placesIn c done.length v ++ fieldPlaces c (done.length + 1) vs)
      (placesIn c done.length d ++ fieldPlaces c (done.length + 1) vs)) :
    Exchanges ks (fieldPlaces c 0 (done ++ v :: vs)) (fieldPlaces c 0 (done ++ d :: vs)) := by
  rw [fieldPlaces_split, fieldPlaces_split]
  exact hexchange.behind _

theorem slots_drop (h : Sifting o c gs os done vs ws) : (slots c).drop done.length = gs := by
  obtain ⟨before, hslots, hbefore⟩ := h.fronts
  rw [hslots, ← hbefore.length_eq, List.drop_left]

/-- A property that shows nothing is missing. -/
theorem hollow (h : Sifting o c (g :: gs) os done (v :: vs) (w :: ws))
    (hinner : g.isWithin isInner (fun k => k ≠ .endOfFileToken) = true)
    (hd : placesIn c done.length d = [])
    (htext : textFrom (along Option.none (fieldPlaces c 0 done))
        (placesIn c done.length v ++ fieldPlaces c (done.length + 1) rest)
      = textFrom (along Option.none (fieldPlaces c 0 done))
        (placesIn c done.length d ++ fieldPlaces c (done.length + 1) rest)) :
    ∀ p ∈ placesIn c done.length v, p.token.Hollow := by
  obtain ⟨hmended, hv, -, -⟩ := h.head
  refine hollow_of_ink hmended hv hinner ?_
  rw [ink_eq htext, ← inks_places c done.length d, hd]
  rfl

end Drop

end Sifting

/-! ### Properties that may be absent -/

/-- The token of the kind. -/
def isFixed (k : Kind) : Part → Bool
  | .fixed (.token t) => Token.fixed? k = some t
  | _ => false

/-- What stands around a property that may be absent and that no parameter takes.  `n` is its
position, and `fs` and `parts` are behind it. -/
def omits (c : NodeClass) (n : Nat) (fs : List Field) (parts : List Part) : Bool :=
  match c, n, fs, parts with
  | .compilationUnit, 0, _, _ => true
  | .compilationUnit, 1, [f], [part] => part.leaves c f && isFixed .endOfFileToken part
  | .importDirective, 2, _, _ => true
  | .functionDeclaration, 0, f :: _, part :: _ => part.leaves c f && isFixed .fnKeyword part
  | .functionDeclaration, 4, _, _ => true
  | .structDeclaration, 0, f :: _, part :: _ => part.leaves c f && isFixed .structKeyword part
  | .structDeclaration, 4, f :: _, part :: _ => part.leaves c f && isFixed .closeBraceToken part
  | .structDeclaration, 6, _, _ => true
  | .localDeclarationStatement, 2, f :: _, part :: _ => !part.leaves c f
  | _, _, _, _ => false

/-- All properties from position `n` on that may be absent and that no parameter takes. -/
def omitsAll (c : NodeClass) : Nat → List Field → List Part → Bool
  | n, f :: fs, part :: parts =>
    (!(part.leaves c f && f.mayLack c) || omits c n fs parts) && omitsAll c (n + 1) fs parts
  | _, _, _ => true

theorem omits_language : (Registry.language.all fun f => f.overloads.all fun o =>
    match o.recipe with
    | .node c parts => omitsAll c 0 c.fields parts
    | _ => true) = true := by
  decide +kernel

/-- A fixed token by default. -/
theorem baseline_fixed {c : NodeClass} {k j : Kind} {f : Field} {fs : List Field} {part : Part}
    {parts : List Part} {w : Value} {ws : List Value} (hleaves : part.leaves c f = true)
    (hfixed : isFixed j part = true) :
    baseline c k (f :: fs) (part :: parts) (w :: ws)
      = Recipe.fixedToken j :: baseline c k fs parts ws := by
  rw [baseline, if_pos hleaves]
  unfold isFixed at hfixed
  split at hfixed
  · rw [Part.default?, Option.getD_some, Recipe.fixedToken, of_decide_eq_true hfixed, Option.getD_some]
  · cases hfixed

theorem baseline_kept {c : NodeClass} {k : Kind} {f : Field} {fs : List Field} {part : Part}
    {parts : List Part} {w : Value} {ws : List Value} (hleaves : part.leaves c f = false) :
    baseline c k (f :: fs) (part :: parts) (w :: ws) = w :: baseline c k fs parts ws := by
  rw [baseline, if_neg (by simp [hleaves])]

theorem baseline_nil {c : NodeClass} {k : Kind} {fs : List Field} {parts : List Part} :
    baseline c k fs parts [] = [] := by
  cases fs <;> cases parts <;> rfl

theorem fieldPlaces_fixed {c : NodeClass} {j : Kind} {t : Text} (hj : j.fixedText? = some t)
    (slot : Nat) (vs : List Value) :
    fieldPlaces c slot (Recipe.fixedToken j :: vs)
      = fixedPlace c slot j :: fieldPlaces c (slot + 1) vs := by
  have hne : ((Token.fixed? j).getD .absent).isAbsent = false := by
    have htoken := Value.token.inj (Recipe.fixedToken_eq hj)
    rw [htoken]
    simp only [Token.isAbsent, decide_eq_false_iff_not]
    rintro rfl
    cases hj
  rw [fieldPlaces, Recipe.fixedToken, placesIn, if_neg (by simp [hne])]
  rfl

namespace Sifting

variable {c : NodeClass} {k : Kind} {g : Form} {gs : List Form} {fs : List Field}
  {parts : List Part} {os done vs ws rest : List Value} {v w d : Value} {ks : List Kind}

/-- The properties behind have values. -/
theorem behind (h : Sifting o c (g :: g' :: gs) os done (v :: vs) (w :: ws)) :
    ∃ v' vs' w' ws', vs = v' :: vs' ∧ ws = w' :: ws' := by
  cases h.holds with
  | cons _ hvs =>
  cases h.repairs with
  | cons _ hws =>
  cases hvs with
  | cons =>
  cases hws with
  | cons => exact ⟨_, _, _, _, rfl, rfl⟩

theorem last (h : Sifting o c [g] os done (v :: vs) (w :: ws)) : vs = [] ∧ ws = [] := by
  cases h.holds with
  | cons _ hvs =>
  cases h.repairs with
  | cons _ hws =>
    cases hvs
    cases hws
    exact ⟨rfl, rfl⟩

/-- The imports of a unit, and its end. -/
theorem unit {e : Value}
    (h : Sifting o .compilationUnit [.nodes (.category .member), .perhaps .endOfFileToken] os done
      [v, e] ws) :
    ∃ i i' t, os = [i] ∧ done = [i'] ∧ e = .token t ∧ t.kind = .endOfFileToken := by
  obtain ⟨before, hslots, hbefore⟩ := h.fronts
  obtain rfl : [.nodes (.cls .importDirective)] = before := List.append_inj_left' hslots rfl
  have hinks := h.inks
  have hfields := h.admits.fields
  cases hbefore with
  | cons _ hnil =>
  cases hnil
  cases hinks with
  | cons _ hnil =>
  cases hnil
  cases h.holds with
  | cons _ hholds =>
  cases hholds with
  | cons he _ =>
  cases hfields with
  | cons _ hfields =>
  cases hfields with
  | cons _ hfields =>
  cases hfields with
  | cons hfits _ =>
    rcases he with rfl | ⟨t, rfl, ht⟩
    · rcases hfits with ⟨t, ht, hwf⟩ | ⟨hc, -⟩
      · cases ht
        exact absurd rfl hwf.present
      · cases hc
    · exact ⟨_, _, t, rfl, rfl, rfl, List.mem_singleton.mp ht⟩

/-- If all members are missing there are imports, since something was read. -/
theorem imports_ne_nil {i i' : Value} {t : Token}
    (h : Sifting o .compilationUnit [.nodes (.category .member), .perhaps .endOfFileToken] [i] [i']
      [v, .token t] ws) (ht : t.kind = .endOfFileToken)
    (hhollow : ∀ p ∈ placesIn .compilationUnit 1 v, p.token.Hollow)
    (hopens : Opens memberKinds (placesIn .compilationUnit 1 v)) :
    fieldPlaces .compilationUnit 0 [i'] ≠ [] := by
  intro hfront
  have hmended : i.Mended := h.mended.ofNode i (by simp)
  have hi : (Form.nodes (.cls .importDirective)).Holds i := by
    have hslots := h.mended.grown.1.slots
    cases hslots with
    | cons hi _ => exact hi
  have hsame : i'.ink = i.ink := by
    cases h.inks with
    | cons hi _ => exact hi
  rw [fieldPlaces, fieldPlaces, List.append_nil] at hfront
  have hink : i.ink = [] := by
    rw [← hsame, ← inks_places .compilationUnit 0 i', hfront]
    rfl
  have himports : placesIn .compilationUnit 0 i = [] :=
    (starts_or_nil [.importKeyword] (by decide) (.inr (.inl rfl)) hi hmended.grown).resolve_right
      (not_opens hmended (hollow_of_ink hmended hi (by decide) hink) (by decide))
  obtain ⟨p, ps, hps, hp⟩ := hopens
  have hleaf : p.token ∈ v.leaves := mem_leaves (hps ▸ List.mem_cons_self)
  have hkind := h.mended.starts.1 rfl (fun u hu => ?_) p.token (by simp [hleaf])
  · rw [hkind] at hp
    exact absurd hp (by decide)
  · simp only [List.singleton_append, leavesList_cons, List.mem_append] at hu
    rcases hu with hu | hu | hu | hu
    · rw [← placesIn_token .compilationUnit 0 i, himports] at hu
      cases hu
    · rw [← placesIn_token .compilationUnit 1 v] at hu
      obtain ⟨q, hq, rfl⟩ := List.mem_map.mp hu
      exact .inl (hhollow q hq).missing
    · rw [leaves, if_neg (by simp [Token.isAbsent, ht])] at hu
      rw [List.mem_singleton.mp hu]
      exact .inr ht
    · cases hu

section Absent

variable (hd : ∀ slot, placesIn c slot d = [])
  (htext : textFrom Option.none (fieldPlaces c 0 (done ++ w :: baseline c k fs parts ws))
    = textFrom Option.none (fieldPlaces c 0 (done ++ d :: baseline c k fs parts ws)))

include hd htext

/-- Imports, aliases and return clauses are never inserted. -/
theorem drop_started (h : Sifting o c (g :: gs) os done (v :: vs) (w :: ws)) {e : NodeClass} (j : Kind)
    (hg : g = .optional (.cls e) ∨ g = .nodes (.cls e))
    (hinner : g.isWithin isInner (fun k => k ≠ .endOfFileToken) = true) (hfence : g.fence = [])
    (hstarts : opens [j] (slots e) = true) (hj : Repair.isInserted j = false) :
    Exchanges ks (fieldPlaces c 0 (done ++ v :: vs)) (fieldPlaces c 0 (done ++ d :: vs)) := by
  obtain ⟨hmended, hv, -, -⟩ := h.head
  have hhollow := h.hollow hinner (hd _) (h.text (by simp [hfence]) htext)
  have hnil : placesIn c done.length v = [] :=
    (starts_or_nil [j] hstarts (hg.imp_right .inl) hv hmended.grown).resolve_right
      (not_opens hmended hhollow hj)
  exact drop_of_behind (by rw [hd, hnil]; exact .refl _)

/-- Modifiers would show in front of the keyword. -/
theorem drop_modifiers
    (h : Sifting o c (.tokens .pubKeyword :: gs) os done (v :: vs) (w :: ws))
    (hn : done.length = 0) {j : Kind} (hbehind : baseline c k fs parts ws = Recipe.fixedToken j :: rest)
    (hj : j = .fnKeyword ∨ j = .structKeyword)
    (hc : c = .functionDeclaration ∨ c = .structDeclaration) :
    Exchanges ks (fieldPlaces c 0 (done ++ v :: vs)) (fieldPlaces c 0 (done ++ d :: vs)) := by
  have hfixed : ∃ t, j.fixedText? = some t := by rcases hj with rfl | rfl <;> exact ⟨_, rfl⟩
  obtain ⟨t, hfixed⟩ := hfixed
  have htext' := h.text (by simp [Form.fence]) htext
  have hhollow := h.hollow (by decide) (hd _) htext'
  obtain rfl := List.length_eq_zero_iff.mp hn
  rw [hd, hbehind, fieldPlaces_fixed hfixed] at htext'
  have hnil := modifiers_eq_nil hj hc h.head.2.1 hhollow htext'
  exact drop_of_behind (by rw [hd, hnil]; exact .refl _)

/-- Fields would show between the braces. -/
theorem drop_fields
    (h : Sifting o c (.separated (.cls .fieldDeclaration) :: gs) os done (v :: vs) (w :: ws))
    (hn : done.length = 4) (before : List Form)
    (hslots : slots c = before ++ .token [.openBraceToken] :: .separated (.cls .fieldDeclaration) :: gs)
    (hbehind : baseline c k fs parts ws = Recipe.fixedToken .closeBraceToken :: rest) :
    Exchanges ks (fieldPlaces c 0 (done ++ v :: vs)) (fieldPlaces c 0 (done ++ d :: vs)) := by
  obtain ⟨hmended, hv, -, -⟩ := h.head
  obtain ⟨qs, x, hplaces, hx, -⟩ := h.ends hslots nofun
  have htext' := h.text (by simp [Form.fence, NodeType.fence, NodeType.holds]) htext
  have hhollow := h.hollow (by decide) (hd _) htext'
  rw [hd, hplaces, along_concat, hbehind, fieldPlaces_fixed rfl, hn] at htext'
  rw [hn] at hhollow
  have hnil := fields_eq_nil hv hmended.grown hhollow hx htext'
  exact drop_of_behind (by rw [hd, hn, hnil]; exact .refl _)

/-- The semicolon behind a struct. -/
theorem drop_semicolon (h : Sifting o c [.perhaps .semicolonToken] os done [v] [w])
    (before : List Form)
    (hslots : slots c = before ++ .token [.closeBraceToken] :: [.perhaps .semicolonToken])
    (hbehind : baseline c k fs parts ws = []) :
    Exchanges afterStruct (fieldPlaces c 0 (done ++ [v])) (fieldPlaces c 0 (done ++ [d])) := by
  obtain ⟨hmended, hv, -, -⟩ := h.head
  obtain ⟨qs, x, hplaces, hx, -⟩ := h.ends hslots nofun
  rw [hbehind] at htext
  have htext' := h.text (by simp [Form.fence]) htext
  have hhollow := h.hollow (by decide) (hd _) htext'
  rcases hv with rfl | ⟨t, rfl, ht⟩
  · exact drop_of_behind (by rw [hd]; exact .refl _)
  · have hkind := List.mem_singleton.mp ht
    have hv : placesIn c done.length (.token t) = [⟨.token t, t, c, done.length⟩] := by
      rw [placesIn, if_neg (by simp [Token.isAbsent, hkind])]
    rw [hv] at hhollow
    rw [hv, hd, hplaces, along_concat] at htext'
    rw [fieldPlaces_split, fieldPlaces_split, hplaces, hv, hd, List.append_assoc, List.append_assoc]
    refine Exchanges.behind ?_ qs
    exact Exchanges.semicolon hx (hhollow _ List.mem_cons_self) hkind htext'

/-- The annotation in front of the value of a local. -/
theorem drop_annotation {v' w' : Value} {vs' ws' : List Value}
    (h : Sifting o c (.optional (.cls .typeClause) :: .cls .equalsValueClause :: gs) os done
      (v :: v' :: vs') (w :: w' :: ws')) (hc : c = .localDeclarationStatement) (before : List Form)
    (hslots : slots c = before ++ .token [.identifierToken]
      :: .optional (.cls .typeClause) :: .cls .equalsValueClause :: gs)
    (hbehind : baseline c k fs parts ws = w' :: rest) :
    Exchanges ks (fieldPlaces c 0 (done ++ v :: v' :: vs')) (fieldPlaces c 0 (done ++ d :: v' :: vs')) := by
  obtain ⟨hmended, hv, -, -⟩ := h.head
  obtain ⟨qs, x, hplaces, hx, hparent⟩ := h.ends hslots nofun
  have hnext := h.next_keep
  obtain ⟨hmended', hv', -, -⟩ := hnext.head
  have htext' := h.text (by simp [Form.fence, NodeType.fence, NodeType.holds]) htext
  have hhollow := h.hollow (by decide) (hd _) htext'
  -- The value is judged as what is left of it.
  have hvalue : Exchanges [] (placesIn c (done.length + 1) v') (placesIn c (done.length + 1) w') :=
    hnext.exchange _
  have hsame : ∀ s base, textFrom s (placesIn c (done.length + 1) w' ++ base)
      = textFrom s (placesIn c (done.length + 1) v' ++ base) := fun s base =>
    (hvalue s base (by simp)).symm
  rw [hd, List.nil_append, hbehind, fieldPlaces, textFrom_append, hsame, ← textFrom_append, hsame,
    hplaces, along_concat] at htext'
  rw [fieldPlaces_split, fieldPlaces_split, hd, hplaces, fieldPlaces, List.append_assoc,
    List.append_assoc, List.nil_append]
  exact (annotation_exchange hv hmended.grown hhollow hx (hparent.trans hc) hv' hmended'
    htext').behind qs

/-- The members of a unit. -/
theorem drop_members {e w' : Value}
    (h : Sifting o c [.nodes (.category .member), .perhaps .endOfFileToken] os done [v, e] [w, w'])
    (hc : c = .compilationUnit)
    (hbehind : baseline c k fs parts ws = [Recipe.fixedToken .endOfFileToken]) :
    Exchanges ks (fieldPlaces c 0 (done ++ [v, e])) (fieldPlaces c 0 (done ++ [d, e])) := by
  subst hc
  obtain ⟨hmended, hv, -, -⟩ := h.head
  rw [hbehind] at htext
  have htext' := h.text (by
    rw [fieldPlaces_fixed rfl]
    intro p hp hk
    obtain rfl := Option.some.inj hp
    change Kind.endOfFileToken ∈ _ at hk
    exact absurd hk (by decide)) htext
  have hhollow := h.hollow (by decide) (hd _) htext'
  by_cases hnil : placesIn .compilationUnit done.length v = []
  · exact drop_of_behind (by rw [hd, hnil]; exact .refl _)
  have hopens : Opens memberKinds (placesIn .compilationUnit done.length v) := by
    obtain ⟨us, rfl, hus⟩ := hv
    cases us with
    | nil => exact absurd rfl hnil
    | cons u us => exact (member_opens (hus u List.mem_cons_self) hmended.grown.1).append _
  have hgone := gone_of_opens hopens hhollow (holds_level hv hmended.grown (by decide)) (by decide)
  obtain ⟨i, i', t, rfl, rfl, rfl, ht⟩ := h.unit
  have hplace : placesIn .compilationUnit 2 (.token t) = [⟨.token t, t, .compilationUnit, 2⟩] := by
    rw [placesIn, if_neg (by simp [Token.isAbsent, ht])]
  obtain ⟨qs, x, hfront⟩ := (List.eq_nil_or_concat' (fieldPlaces .compilationUnit 0 [i'])).resolve_left
    (h.imports_ne_nil ht hhollow hopens)
  rw [hd, hfront, along_concat, fieldPlaces_fixed rfl] at htext'
  rw [fieldPlaces_split, fieldPlaces_split, hd, hfront, fieldPlaces, fieldPlaces, List.append_nil,
    List.append_assoc, List.append_assoc]
  refine Exchanges.behind ?_ qs
  have hend : Exchanges ks (x :: (placesIn .compilationUnit 1 v ++ [⟨.token t, t, .compilationUnit, 2⟩]))
      [x, ⟨.token t, t, .compilationUnit, 2⟩] := Exchanges.members hgone ht rfl rfl htext'
  rwa [← hplace] at hend

end Absent

/-- **Properties that may be absent.**  A property that is dropped for being absent can be left out
wherever the node stands. -/
theorem drop_blank (h : Sifting o c (g :: gs) os done (v :: vs) (w :: ws))
    (homits : omits c done.length fs parts = true) (hd : ∀ slot, placesIn c slot d = [])
    (htext : textFrom Option.none (fieldPlaces c 0 (done ++ w :: baseline c k fs parts ws))
      = textFrom Option.none (fieldPlaces c 0 (done ++ d :: baseline c k fs parts ws))) :
    Exchanges (NodeType.cls c).fence (fieldPlaces c 0 (done ++ v :: vs))
      (fieldPlaces c 0 (done ++ d :: vs)) := by
  have hslots := h.slots_drop
  unfold omits at homits
  split at homits
  · rename_i hn
    rw [hn] at hslots
    cases hslots
    exact h.drop_started hd htext .importKeyword (.inr rfl) (by decide) (by decide) (by decide)
      (by decide)
  · rename_i hn
    rw [hn] at hslots
    cases hslots
    obtain ⟨e, vs, w', ws, rfl, rfl⟩ := h.behind
    obtain ⟨rfl, rfl⟩ := h.next_keep.last
    rw [Bool.and_eq_true] at homits
    exact h.drop_members hd htext rfl (baseline_fixed homits.1 homits.2)
  · rename_i hn
    rw [hn] at hslots
    cases hslots
    exact h.drop_started hd htext .asKeyword (.inl rfl) (by decide) (by decide) (by decide) (by decide)
  · rename_i hn
    rw [hn] at hslots
    cases hslots
    obtain ⟨v', vs, w', ws, rfl, rfl⟩ := h.behind
    rw [Bool.and_eq_true] at homits
    exact h.drop_modifiers hd htext hn (baseline_fixed homits.1 homits.2) (.inl rfl) (.inl rfl)
  · rename_i hn
    rw [hn] at hslots
    cases hslots
    exact h.drop_started hd htext .returnsKeyword (.inl rfl) (by decide) (by decide) (by decide)
      (by decide)
  · rename_i hn
    rw [hn] at hslots
    cases hslots
    obtain ⟨v', vs, w', ws, rfl, rfl⟩ := h.behind
    rw [Bool.and_eq_true] at homits
    exact h.drop_modifiers hd htext hn (baseline_fixed homits.1 homits.2) (.inr rfl) (.inr rfl)
  · rename_i hn
    rw [hn] at hslots
    cases hslots
    obtain ⟨v', vs, w', ws, rfl, rfl⟩ := h.behind
    rw [Bool.and_eq_true] at homits
    exact h.drop_fields hd htext hn ((slots .structDeclaration).take 3) rfl
      (baseline_fixed homits.1 homits.2)
  · rename_i hn
    rw [hn] at hslots
    cases hslots
    obtain ⟨rfl, rfl⟩ := h.last
    exact h.drop_semicolon hd htext ((slots .structDeclaration).take 5) rfl baseline_nil
  · rename_i hn
    rw [hn] at hslots
    cases hslots
    obtain ⟨v', vs, w', ws, rfl, rfl⟩ := h.behind
    exact h.drop_annotation hd htext rfl ((slots .localDeclarationStatement).take 1) rfl
      (baseline_kept (by simpa using homits))
  · cases homits

/-! ### One step -/

/-- What is left shows what was there. -/
theorem ink_drop (h : Sifting o c (g :: gs) os done (v :: vs) (w :: ws))
    (htext : textFrom Option.none (fieldPlaces c 0 (done ++ w :: rest))
      = textFrom Option.none (fieldPlaces c 0 (done ++ d :: rest))) : d.ink = v.ink := by
  rw [fieldPlaces_split, fieldPlaces_split] at htext
  have hinks := (h.exchange 0).inks
  rw [inks_places, inks_places] at hinks
  rw [hinks]
  exact (ink_eq (textFrom_cancel htext)).symm

theorem placesIn_blank {f : Field} (h : f.isBlank d = true) (slot : Nat) : placesIn c slot d = [] := by
  unfold Field.isBlank at h
  split at h <;> first | rfl | skip
  · simp only [Bool.and_eq_true, decide_eq_true_eq] at h
    rw [h.1]
    rfl
  · cases h

/-- Tokens that the grammar asks for are not among them. -/
theorem stays_of_omits {n : Nat} (homits : omits c n fs parts = true)
    (hslots : (slots c).drop n = g :: gs) : Stays g d := by
  rintro ks rfl
  unfold omits at homits
  split at homits <;> first | cases hslots | cases homits

/-- **One property.**  What is left of a property that is dropped can stand for it. -/
theorem drop {f : Field} {part : Part} (h : Sifting o c (g :: gs) os done (v :: vs) (w :: ws))
    (ho : o.defaultFormatting = true) (hfg : fitsSlot c f g = true)
    (hsized : g.isSized part = true)
    (homits : f.mayLack c = true → omits c done.length fs parts = true)
    (hkind : c.kind? = Option.none → ∀ t, v = .token t → Kind.tokenOf? c.kindTable k = some t.kind)
    (hleaves : part.leaves c f = true) (hdefault : (part.default? c k).getD .none = d)
    (hstandard : Field.Standard c f d) (hfits : Field.Fits c f w)
    (htext : textFrom Option.none (fieldPlaces c 0 (done ++ w :: baseline c k fs parts ws))
      = textFrom Option.none (fieldPlaces c 0 (done ++ d :: baseline c k fs parts ws))) :
    Exchanges (NodeType.cls c).fence (fieldPlaces c 0 (done ++ v :: vs))
        (fieldPlaces c 0 (done ++ d :: vs))
      ∧ Sifting o c gs (os ++ [v]) (done ++ [d]) vs ws := by
  obtain ⟨hmended, hv, -, hw⟩ := h.head
  have hink := h.ink_drop htext
  have hshapes : f.shape = g.shape := by
    simp only [fitsSlot, Bool.and_eq_true, decide_eq_true_eq] at hfg
    exact hfg.1
  cases hstandard with
  | blank hlack hblank =>
    have homits := homits hlack
    exact ⟨h.drop_blank homits (placesIn_blank hblank) htext,
      h.next (stays_of_omits homits h.slots_drop) hink⟩
  | @token j s hlack hshape hj =>
    -- The token is the one by default, so it was not dropped at all.
    obtain ⟨t, rfl⟩ : ∃ t, v = .token t := by
      rw [hshape] at hshapes
      cases g with
      | token ks => exact ⟨_, hv.choose_spec.1⟩
      | perhaps k => exact hv.elim (fun hv => ⟨_, hv⟩) fun hv => ⟨_, hv.choose_spec.1⟩
      | _ => cases hshapes
    obtain rfl := hw.token t rfl
    obtain ⟨t', ht', -, habsent, u, hu, hlen⟩ :=
      token_of_default hlack hshape hfg hleaves hdefault hj hsized hv hfits hkind
    cases ht'
    have hfixed := mended_eq_fixed ho (hmended.tokens t (by simp [leaves, habsent])) hj hu hlen hink.symm
    rw [← hfixed]
    exact ⟨h.keep, h.next_keep⟩
  | @brackets e j l m hlack hshape he =>
    obtain rfl : g = .cls e := by
      rw [hshape] at hshapes
      cases g <;> cases hshapes
      rfl
    have hfence : (NodeType.cls e).fence = [] := by cases e <;> cases he <;> rfl
    have htext' := h.text (by simp [Form.fence, hfence]) htext
    have hexchange : Exchanges [] _ _ := brackets_exchange he hmended hv htext'
    exact ⟨drop_of_behind (hexchange.front (by simp) (by simp)),
      h.next (fun ks hks => by cases hks) hink⟩

/-- **All properties.**  The properties that sifting leaves can stand for those that were there. -/
theorem exchange_sifts {us : List Value} (hsifts : Sifts o c k done fs parts ws us)
    (ho : o.defaultFormatting = true) (h : Sifting o c gs os done vs ws)
    (hfields : List.Forall₂ (fun f g => fitsSlot c f g = true) fs gs)
    (hsized : ∀ x ∈ gs.zip parts, x.1.isSized x.2 = true)
    (homits : omitsAll c done.length fs parts = true)
    (hkind : c.kind? = Option.none → ∀ t, .token t ∈ vs
      → Kind.tokenOf? c.kindTable k = some t.kind) :
    Exchanges (NodeType.cls c).fence (fieldPlaces c 0 (done ++ vs)) (fieldPlaces c 0 (done ++ us)) := by
  have happend : ∀ (done : List Value) (x : Value) (xs : List Value),
      done ++ x :: xs = (done ++ [x]) ++ xs := fun done x xs => by simp
  induction hsifts generalizing gs os vs with
  | nil =>
    cases h.repairs
    exact .refl _
  | @keep done f fs part parts w ws us _ ih =>
    cases hfields with
    | cons hfg hfields =>
    obtain ⟨v, vs, rfl⟩ : ∃ v vs', vs = v :: vs' := by
      cases h.repairs
      exact ⟨_, _, rfl⟩
    rw [List.zip_cons_cons, List.forall_mem_cons] at hsized
    rw [omitsAll, Bool.and_eq_true] at homits
    have hrest := ih h.next_keep hfields hsized.2 (by simpa using homits.2)
      fun hc t ht => hkind hc t (List.mem_cons_of_mem v ht)
    rw [← happend, ← happend] at hrest
    exact h.keep.trans hrest
  | @drop done f fs part parts d w ws us hleaves hd hstandard hfits _ _ htext _ ih =>
    cases hfields with
    | cons hfg hfields =>
    obtain ⟨v, vs, rfl⟩ : ∃ v vs', vs = v :: vs' := by
      cases h.repairs
      exact ⟨_, _, rfl⟩
    rw [List.zip_cons_cons, List.forall_mem_cons] at hsized
    rw [omitsAll, Bool.and_eq_true] at homits
    rw [rendered_places ho, rendered_places ho] at htext
    obtain ⟨hstep, hnext⟩ := h.drop ho hfg hsized.1
      (fun hlack => by simpa [hleaves, hlack] using homits.1)
      (fun hc t ht => hkind hc t (ht ▸ List.mem_cons_self)) hleaves hd hstandard hfits htext
    have hrest := ih hnext hfields hsized.2 (by simpa using homits.2)
      fun hc t ht => hkind hc t (List.mem_cons_of_mem v ht)
    rw [← happend, ← happend] at hrest
    exact hstep.trans hrest

end Sifting

/-! ### Lists -/

section Lists

variable {vs ws : List Value} {c : NodeClass} {slot : Nat}

/-- Members that write the same wherever they stand. -/
theorem exchange_list (h : List.Forall₂ (Repairs o) vs ws) (hmended : ∀ v ∈ vs, v.Mended)
    (hforms : ∀ v ∈ vs, ∃ f : Form, f.Holds v ∧ f.isOpen = true ∧ f.fence = []) :
    Exchanges [] (listPlaces c slot vs) (listPlaces c slot ws) := by
  induction h with
  | nil => exact .refl _
  | @cons v w vs ws hv _ ih =>
    obtain ⟨hm, hms⟩ := List.forall_mem_cons.mp hmended
    obtain ⟨⟨f, hf, hopen, hfence⟩, hfs⟩ := List.forall_mem_cons.mp hforms
    exact (hfence ▸ hv.exchange f c slot hm hf hopen : Exchanges [] _ _).append (ih hms hfs)

/-- Behind a struct another member may follow. -/
theorem exchange_members (h : List.Forall₂ (Repairs o) vs ws) (hmended : ∀ v ∈ vs, v.Mended)
    (hmembers : ∀ v ∈ vs, v.isNodeOf (.category .member) = true) :
    Exchanges afterStruct (listPlaces c slot vs) (listPlaces c slot ws) := by
  induction h with
  | nil => exact .refl _
  | @cons v w vs ws hv _ ih =>
    obtain ⟨hm, hms⟩ := List.forall_mem_cons.mp hmended
    obtain ⟨hf, hfs⟩ := List.forall_mem_cons.mp hmembers
    have hexchange : Exchanges afterStruct _ _ := hv.exchange (.cat .member) c slot hm hf rfl
    refine (hexchange.front (fun q hq hk => ?_) fun _ => List.Subset.refl _).trans
      ((ih hms hfs).behind _)
    cases vs with
    | nil => cases hq
    | cons u us =>
      obtain ⟨p, ps, hps, hp⟩ : Opens memberKinds (placesIn c slot u) :=
        member_opens (hfs u List.mem_cons_self) (hms u List.mem_cons_self).grown
      rw [listPlaces, hps] at hq
      obtain rfl := Option.some.inj hq
      have hapart : (memberKinds.all fun k => !afterStruct.contains k) = true := by decide
      have := List.all_eq_true.mp hapart _ hp
      simp [hk] at this

end Lists

/-! ### Nodes -/

/-- The kind of a node stays. -/
theorem kindOf_repairs {c : NodeClass} {vs ws : List Value} (h : List.Forall₂ (Repairs o) vs ws)
    (hgrown : Grows c vs) : Value.kindOf c ws = Value.kindOf c vs := by
  unfold Value.kindOf
  cases hkind : c.kind? with
  | some k => rfl
  | none =>
    have hslots : slots c = [] ∨ slots c = .nothing :: (slots c).tail := by
      cases c <;> first | exact .inl rfl | exact .inr rfl | cases hkind
    have hholds := hgrown.slots
    rcases hslots with hnil | hcons
    · rw [hnil] at hholds
      cases hholds
      cases h
      rfl
    · rw [hcons] at hholds
      cases hholds with
      | cons hv _ =>
        obtain ⟨k, rfl⟩ := hv
        cases h with
        | cons hw _ => rw [hw.kind k rfl]

/-- What is left of a node of a repaired text writes the same. -/
theorem exchange_node (ho : o.defaultFormatting = true) {c : NodeClass} {vs ws us : List Value}
    {p : Plan} (hadmits : c.Admits vs) (h : List.Forall₂ (Repairs o) vs ws) (hsound : p.Sound c)
    (hsifts : Sifts o c (Value.kindOf c ws) [] c.fields p.overload.recipe.parts ws us)
    (hmended : (Value.node c vs).Mended) :
    Exchanges (NodeType.cls c).fence (fieldPlaces c 0 vs) (fieldPlaces c 0 us) := by
  have hgrown := hmended.grown.1
  have hdoc : c ≠ .documentationComment := by
    rintro rfl
    exact absurd (hgrown.slots.length_eq.trans hadmits.fields.length_eq.symm) (by decide)
  have hpair : c ≠ .pair := by
    rintro rfl
    exact absurd hadmits.class_mem (by decide)
  have hsifting : Sifting o c (slots c) [] [] vs ws :=
    ⟨hmended, hadmits, ⟨[], rfl, .nil⟩, slots_fenced c, hgrown.slots, .nil, h⟩
  refine hsifting.exchange_sifts hsifts ho (fitsSlot_slots hdoc hpair) (sound_isSized hsound)
    (sound_parts (P := fun c parts => omitsAll c 0 c.fields parts) hsound omits_language (by decide))
    fun hnone t ht => ?_
  rw [kindOf_repairs h hgrown]
  exact kind_token hgrown hnone t ht

namespace Repairs

variable {vs ws : List Value}

theorem of_token (t : Token) : Repairs o (.token t) (.token (t.reduced o)) where
  token u hu := by
    cases hu
    rfl
  kind _ hk := by cases hk
  exchange f c slot _ _ _ := by
    have habsent : (t.reduced o).isAbsent = t.isAbsent := rfl
    rw [placesIn, placesIn, habsent]
    split
    · exact .refl _
    · exact (retoken_exchange [⟨.token t, t, c, slot⟩]).mono (List.nil_subset _)

/-- A value that stays, if it is no token. -/
theorem of_same {v : Value} (hv : ∀ t, v ≠ .token t) : Repairs o v v where
  token t ht := absurd ht (hv t)
  kind _ := id
  exchange _ _ _ _ _ _ := .refl _

theorem of_tokens (h : List.Forall₂ (Repairs o) vs ws) : Repairs o (.tokens vs) (.tokens ws) where
  token _ ht := by cases ht
  kind _ hk := by cases hk
  exchange f c slot hmended hf _ := by
    cases f with
    | tokens k =>
      obtain ⟨us, hus, hall⟩ := hf
      cases hus
      exact exchange_list h hmended.ofTokens fun v hv => ⟨.token [k], hall v hv, rfl, rfl⟩
    | _ => simp [Form.Holds, IsTokenOf, Value.isNodeOf, Value.none] at hf

theorem of_nodes (h : List.Forall₂ (Repairs o) vs ws) : Repairs o (.nodes vs) (.nodes ws) where
  token _ ht := by cases ht
  kind _ hk := by cases hk
  exchange f c slot hmended hf hopen := by
    cases f with
    | nodes t =>
      obtain ⟨us, hus, hall⟩ := hf
      cases hus
      rcases (by simpa [Form.isOpen] using hopen : t.fence = [] ∨ t = .category .member) with
        hfence | rfl
      · rw [Form.fence, hfence]
        exact exchange_list h hmended.ofNodes fun v hv => ⟨.node t, hall v hv, rfl, hfence⟩
      · exact exchange_members h hmended.ofNodes hall
    | _ => simp [Form.Holds, IsTokenOf, Value.isNodeOf, Value.none] at hf

theorem of_separated (h : List.Forall₂ (Repairs o) vs ws) :
    Repairs o (.separated vs) (.separated ws) where
  token _ ht := by cases ht
  kind _ hk := by cases hk
  exchange f c slot hmended hf hopen := by
    cases f with
    | separated t =>
      have hfence : t.fence = [] := by simpa [Form.isOpen] using hopen
      obtain ⟨us, hus, hall⟩ := hf
      cases hus
      rw [Form.fence, hfence]
      refine exchange_list h hmended.ofSeparated fun v hv => ?_
      rcases hall with rfl | ⟨w, ws, rfl, hw, hmore⟩
      · cases hv
      · rcases List.mem_cons.mp hv with rfl | hv
        · exact ⟨.node t, hw, rfl, hfence⟩
        · rcases hmore.mem v hv with hv | hv
          · exact ⟨.node t, hv, rfl, hfence⟩
          · exact ⟨.token [.commaToken], hv, rfl, rfl⟩
    | _ => simp [Form.Holds, IsTokenOf, Value.isNodeOf, Value.none] at hf

theorem of_node {c : NodeClass} (h : (Value.node c vs).Mended
    → Exchanges (NodeType.cls c).fence (fieldPlaces c 0 vs) (fieldPlaces c 0 ws)) :
    Repairs o (.node c vs) (.node c ws) where
  token _ ht := by cases ht
  kind _ hk := by cases hk
  exchange f _ _ hmended hf _ := by
    cases f with
    | node t => exact (h hmended).mono (NodeType.fence_cls hf)
    | optional t => exact (h hmended).mono (NodeType.fence_cls (hf.resolve_left nofun))
    | _ => simp [Form.Holds, IsTokenOf] at hf

end Repairs

/-- **What is left of a repaired text writes the same.** -/
theorem lenient_repairs (ho : o.defaultFormatting = true) : Lenient o (Repairs o) where
  none := .of_same fun _ ht => by cases ht
  text _ := .of_same fun _ ht => by cases ht
  kind _ := .of_same fun _ ht => by cases ht
  token _ := .of_token _
  absent := by
    have := Repairs.of_token (o := o) .absent
    rwa [Token.reduced_absent] at this
  tokens := .of_tokens
  nodes := .of_nodes
  separated := .of_separated
  node hadmits _ h hsound hsifts := .of_node (exchange_node ho hadmits h hsound hsifts)

end Quote

end TreeQuote
