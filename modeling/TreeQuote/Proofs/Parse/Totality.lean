/-
TreeQuote/Proofs/Parse/Totality.lean

Which texts cannot be read, and what a tree that was read is made of.  There are three
reasons why a text cannot be read: a character starts no lexeme, repair gives up at the end
of the text, or a literal that was fed has no value.  Building the nodes is no fourth one: the
builder never fails on what the machine hands it.

`Field.Sound` says what a property of such a tree holds: a value that its shape accepts, with
elements of the element type, absent only where that is allowed.

Main statements:
* `parsePure?_eq_none_iff`: the texts that cannot be read;
* `parsePure?_built`: the builder makes the tree of a text from a parse tree;
* `parsePure?_sound`: the two together, and every property of the tree is sound.
-/
import TreeQuote.Factory.Accept
import TreeQuote.Proofs.Grammar.Rederivation
import TreeQuote.Proofs.Parse.Acceptance
import TreeQuote.Proofs.Parse.Builder
import TreeQuote.Proofs.Parse.WellFormed

namespace TreeQuote

open Grammar Dressing

/-! ### Texts that cannot be read -/

namespace Repair

variable {c : Context}

/-- Repair gives up at the end of the text. -/
def GivesUp (c : Context) (ls : List Lexeme) : Prop :=
  attempt c (finish c) (maxFinalInsertions + 1) (feedAll c (initial c) ls).2 = none

/-- The end of the text is never shifted. -/
theorem rows_end : (rows.toList.all fun r => r.shifts.lookup .endOfFileToken = none) = true := by
  decide +kernel

theorem row_end (s : Nat) : (row s).shifts.lookup .endOfFileToken = none := by
  unfold row
  rcases hs : rows[s]? with - | r
  · rfl
  · have hmem : r ∈ rows.toList := List.mem_of_getElem? (by rw [Array.getElem?_toList]; exact hs)
    exact of_decide_eq_true (List.all_eq_true.1 rows_end r hmem)

theorem feedFrom_end_ne_shifted {goal : Nat} {v : Value} {fuel : Nat} {stack next : Stack} :
    feedFrom goal .endOfFileToken v fuel stack ≠ .shifted next := by
  induction fuel generalizing stack with
  | zero => exact Outcome.noConfusion
  | succ fuel ih =>
    simp only [feedFrom, row_end]
    split
    · exact Outcome.noConfusion
    · split
      · exact Outcome.noConfusion
      · exact ih

/-- What an attempt comes to is no rejection. -/
theorem attempt_not_rejected {offer : Stack → Outcome} {tries : Nat} {stack next : Stack}
    {ks : List Kind} : attempt c offer tries stack ≠ some (ks, .rejected next) := by
  induction tries generalizing stack ks with
  | zero =>
    intro h
    cases h
  | succ tries ih =>
    rw [attempt]
    split
    · split
      · intro h
        cases h
      · intro h
        obtain ⟨⟨ks', o⟩, hrest, heq⟩ := Option.map_eq_some_iff.1 h
        cases heq
        exact ih hrest
    · rename_i ho
      intro h
      simp only [Option.some.injEq, Prod.mk.injEq] at h
      exact ho _ h.2

/-- An attempt to end the text gives a single tree. -/
theorem attempt_finish {ls : List Lexeme} {ks : List Kind} {o : Outcome}
    (h : attempt c (finish c) (maxFinalInsertions + 1) (feedAll c (initial c) ls).2 = some (ks, o)) :
    ∃ tree, o = .accepted [tree] := by
  obtain ⟨xs, hstack⟩ := (feedAll_stacked ls (.initial (c := c))).1
  obtain ⟨stack, ys, hstack', ho⟩ := attempt_stacked finish_rejected hstack h
  cases o with
  | shifted next => exact absurd ho feedFrom_end_ne_shifted
  | rejected next => exact absurd h attempt_not_rejected
  | accepted vs =>
    have htakes := (finish_accepted hstack' ho).grown.1
    rw [c.start_form] at htakes
    obtain ⟨tree, rfl, -⟩ := htakes
    exact ⟨tree, rfl⟩

/-- A run fails only if repair gives up at the end. -/
theorem run?_eq_none_iff (ls : List Lexeme) : run? c ls = none ↔ GivesUp c ls := by
  unfold run? GivesUp
  constructor
  · intro h
    by_contra hsome
    obtain ⟨⟨ks, o⟩, hattempt⟩ := Option.ne_none_iff_exists'.1 hsome
    obtain ⟨tree, rfl⟩ := attempt_finish hattempt
    simp [hattempt] at h
  · intro h
    simp [h]

end Repair

namespace Dressing

variable {file : Option Text}

/-- A lexeme has a token exactly when its literal has a value. -/
theorem token?_isSome_iff {l : Lexeme} (hl : Lexeme.Spells l.kind l.text) :
    (∃ t, token? file l = some t) ↔ l.Decodes := by
  refine ⟨fun h => ?_, token?_of_decodes file hl⟩
  obtain ⟨t, ht⟩ := h
  refine ⟨fun hk => ?_, fun hk => ?_⟩
  · simp only [token?, hk] at ht
    obtain ⟨v, hv, -⟩ := Option.bind_eq_some_iff.1 ht
    exact ⟨v, hv⟩
  · cases hdecode : Literal.decodeString l.text with
    | ok s => exact ⟨s, rfl⟩
    | error e => simp [token?, hk, hdecode] at ht

/-- Behind a token that was read, the rest can be dressed if all that was read has tokens. -/
theorem dressAfter_isSome {c : Context} {gaps : Gaps} {stop pos : Nat} {fs : List Fed} :
    (dressAfter file c gaps stop pos fs).isSome
      = (reads fs).all fun l => (token? file l).isSome := by
  induction fs generalizing pos with
  | nil => rfl
  | cons f fs ih =>
    cases f with
    | inserted k => rw [dressAfter, Option.isSome_map, reads_inserted, ih]
    | read l =>
      have hrest : (dressAfter file c gaps stop l.stop.offset fs).isSome = _ := ih
      rw [reads_read, List.all_cons, ← hrest, dressAfter]
      cases token? file l with
      | none => rfl
      | some t => cases dressAfter file c gaps stop l.stop.offset fs <;> rfl

theorem dress_isSome {c : Context} {gaps : Gaps} {stop : Nat} {fs : List Fed} :
    (dress file c gaps stop fs).isSome = (reads fs).all fun l => (token? file l).isSome := by
  induction fs with
  | nil => rfl
  | cons f fs ih =>
    cases f with
    | inserted k =>
      cases fs with
      | nil =>
        rw [dress]
        split <;> rfl
      | cons g fs =>
        rw [reads_inserted, ← ih]
        exact Option.isSome_map
    | read l =>
      have hrest : (dressAfter file c gaps stop l.stop.offset fs).isSome = _ := dressAfter_isSome
      rw [reads_read, List.all_cons, ← hrest, dress]
      cases token? file l with
      | none => rfl
      | some t => cases dressAfter file c gaps stop l.stop.offset fs <;> rfl

end Dressing

/-- The text has a character that starts no lexeme, or repair gives up at its end, or a literal
that was fed has no value. -/
inductive Unreadable (source : Text) (c : Context) : Prop where
  | lexemes (h : Lexeme.scan? source = none)
  | repair {ls : List Lexeme} (hls : Lexeme.scan? source = some ls) (h : Repair.GivesUp c ls)
  | literal {ls : List Lexeme} {r : Repair.Run} {l : Lexeme} (hls : Lexeme.scan? source = some ls)
    (hr : Repair.run? c ls = some r) (hl : l ∈ reads r.fed) (h : ¬ l.Decodes)

/-- A text is read unless one of the three reasons stands against it. -/
theorem parsePure?_eq_none_iff (source : Text) (c : Context) (file : Option Text) :
    parsePure? source c file = none ↔ Unreadable source c := by
  cases hls : Lexeme.scan? source with
  | none =>
    refine ⟨fun _ => .lexemes hls, fun _ => ?_⟩
    simp [parsePure?, hls]
  | some ls =>
    cases hr : Repair.run? c ls with
    | none =>
      refine ⟨fun _ => .repair hls ((Repair.run?_eq_none_iff ls).1 hr), fun _ => ?_⟩
      simp [parsePure?, hls, hr]
    | some r =>
      have htokens : ∀ l ∈ reads r.fed, (token? file l).isSome = true ↔ l.Decodes := fun l hl => by
        rw [Option.isSome_iff_exists]
        exact token?_isSome_iff (Lexeme.scan?_spelled hls l ((reads_sublist hr).subset hl))
      have hdress : (parsePure? source c file).isSome = true ↔ ∀ l ∈ reads r.fed, l.Decodes := by
        have hall : (dress file c (Gap.scan source (skipped r.steps)) source.length r.fed).isSome
            = _ := dress_isSome
        rw [← forall₂_congr htokens, ← List.all_eq_true, ← hall]
        simp only [parsePure?, hls, hr, Option.bind_eq_bind, Option.bind_some, Repair.Run.fed]
        cases dress file c (Gap.scan source (skipped r.steps)) source.length
          (fed r.steps ++ r.final.map .inserted) <;> simp
      rw [← Option.not_isSome_iff_eq_none, hdress]
      constructor
      · intro hnot
        simp only [not_forall] at hnot
        obtain ⟨l, hl, hdec⟩ := hnot
        exact .literal hls hr hl hdec
      · intro h hall
        cases h with
        | lexemes h => rw [hls] at h; cases h
        | repair hls' h =>
          rw [hls] at hls'
          cases hls'
          rw [(Repair.run?_eq_none_iff ls).2 h] at hr
          cases hr
        | literal hls' hr' hl hdec =>
          rw [hls] at hls'
          cases hls'
          rw [hr] at hr'
          cases hr'
          exact hdec (hall _ hl)

/-! ### Building -/

/-- The parse tree of a start symbol is built. -/
theorem build_start {c : Context} {tree : ParseTree} {v : Value}
    (h : GivesAll [.nonterminal c.start] [[tree]] [[v]]) : tree.build = .ok v := by
  obtain ⟨_, _, _, _, hshows, htakes, -, htrees, hparts⟩ := h
  cases htrees
  cases hparts
  rw [Symbol.form, c.start_form] at htakes
  obtain ⟨w, hw, hnode⟩ := htakes
  cases hw
  have hbuilt : ∀ {child : ParseTree}, List.Forall₂ Shows [child] [v] → child.build = .ok v := by
    intro child hall
    cases hall with
    | cons hone _ =>
      cases hone with
      | token t => exact absurd hnode Bool.false_ne_true
      | node hbuild => exact hbuild
  cases c with
  | unit => exact hbuilt hshows
  | _ =>
    obtain ⟨children, htree, hall⟩ := hshows
    cases htree
    obtain ⟨child, rest, hone, hnil, rfl⟩ := List.forall₂_cons_right_iff.1 hall
    cases hnil
    rw [build_rule]
    exact hbuilt (.cons hone .nil)

/-- Every parse tree of a start symbol is built, whatever tokens it is made of. -/
theorem Grammar.Parses.built {c : Context} {tree : ParseTree} {ts : List Token}
    (h : Parses (.nonterminal c.start) tree ts) : ∃ v, tree.build = .ok v := by
  obtain ⟨parts, hyields, hgives⟩ := ParsesAll.built h (by simp)
  obtain ⟨_, vs, _, _, -, htakes, ⟨rfl, rfl⟩, htrees, rfl⟩ := id hgives
  cases htrees
  rw [Symbol.form, c.start_form] at htakes
  obtain ⟨v, rfl, -⟩ := htakes
  exact ⟨v, build_start hgives⟩

/-- The tree of a text is what the builder makes of a parse tree of the dressed tokens; a unit is
closed then. -/
theorem parsePure?_built {source : Text} {c : Context} {file : Option Text} {p : Parsed}
    (h : parsePure? source c file = some p) :
    ∃ tree tokens eof v, Parses (.nonterminal c.start) tree tokens ∧ tree.build = .ok v
      ∧ p.root = Parsed.close c (Parsed.endOfFile file source eof) v := by
  obtain ⟨ls, r, tokens, eof, hls, hr, hdress, hroot⟩ := parsePure?_steps h
  have htiles := dress_run hls hr hdress
  have hyields := Repair.run?_yields hr
  obtain ⟨htakes, hgrown, -⟩ := hyields.grown
  -- The dressed tokens have a derivation of their own, with the tree of the run refilled.
  obtain ⟨parts, hdressed, hsame⟩ := hyields.rederive (by simp) htiles.kinds
  obtain ⟨vs, rest, rfl, hvs, hrest⟩ := List.map_eq_cons_iff.1 hsame
  obtain rfl := List.map_eq_nil_iff.1 hrest
  obtain ⟨w, ws, rfl, hw, hws⟩ := List.map_eq_cons_iff.1 hvs
  obtain rfl := List.map_eq_nil_iff.1 hws
  have hplain : r.tree.Plain := by
    rw [c.start_form] at htakes
    obtain ⟨v, hv, htype⟩ := htakes
    cases hv
    exact (isItem_of_isNodeOf htype).plain
  have hleaves : w.leaves = tokens := by
    simpa using (Yields.grown hdressed).2.2
  have hrefill := refill_of_skeleton r.tree hplain (hgrown _ List.mem_cons_self) w [] hw
  rw [List.append_nil, hleaves] at hrefill
  obtain ⟨trees, hparses, hgives⟩ := hdressed.built (by simp)
  have hgives' := hgives
  obtain ⟨cs, _, others, _, hshows, -, ⟨rfl, -⟩, rfl, hparts⟩ := hgives
  cases hparts
  obtain ⟨tree, rfl⟩ : ∃ tree, cs = [tree] := by
    cases c with
    | unit =>
      obtain ⟨tree, rest, -, hnil, rfl⟩ := List.forall₂_cons_right_iff.1 hshows
      cases hnil
      exact ⟨tree, rfl⟩
    | _ =>
      obtain ⟨children, rfl, -⟩ := hshows
      exact ⟨_, rfl⟩
  exact ⟨tree, tokens, eof, w, hparses, build_start hgives', by rw [hroot, hrefill]⟩

/-! ### What properties hold -/

/-- A token that is not the absent one. -/
def Value.IsPresent (v : Value) : Prop := ∃ t : Token, v = .token t ∧ t.kind ≠ .none

/-- The members of a list are of its element type; nodes and separators take turns, and a list of
them is empty or ends with a node. -/
def Shape.Carries : Shape → Value → Prop
  | .tokens, v => ∃ vs, v = .tokens vs ∧ ∀ w ∈ vs, w.IsPresent
  | .nodes (some t), v => ∃ vs, v = .nodes vs ∧ ∀ w ∈ vs, w.isNodeOf t = true
  | .separated (some t), v =>
    ∃ vs, v = .separated vs ∧ (vs = [] ∨ vs.length % 2 = 1) ∧ Value.alternates vs = true
      ∧ ∀ w ∈ vs, w.isNodeOf t = true ∨ w.IsPresent
  | _, _ => True

/-- The value of a property in a tree that was read. -/
structure Field.Sound (c : NodeClass) (f : Field) (v : Value) : Prop where
  accepted : f.shape.accept v = .ok (some v)
  elements : f.shape.Carries v
  /-- Only a struct lacks a token, its semicolon. -/
  absent : ∀ t : Token, v = .token t → t.kind = .none →
    c = .structDeclaration ∧ f.name = Text.of "semicolon_token"
  omitted : v = .none → ∃ a, f.shape = .optional a

/-- A node of a tree that was read: its properties are sound, and its kind is the one that goes with
its token. -/
structure NodeClass.Sound (c : NodeClass) (vs : List Value) : Prop where
  fields : List.Forall₂ (Field.Sound c) c.fields vs
  kind : c.kindTable ≠ [] → ∃ t : Token, .token t ∈ vs
    ∧ Kind.expressionOf? c.kindTable t.kind = some (Value.kindOf c vs)

namespace Grammar

theorem accept_token (t : Token) : Shape.token.accept (.token t) = .ok (some (.token t)) := rfl

theorem accept_node {t : NodeType} {v : Value} (h : v.isNodeOf t = true) :
    (Shape.node t).accept v = .ok (some v) := by
  simp [Shape.accept, Shape.when, h]

theorem accept_optional {t : NodeType} {v : Value} (h : v = .none ∨ v.isNodeOf t = true) :
    (Shape.optional (.node t)).accept v = .ok (some v) := by
  rcases h with rfl | h
  · rfl
  · unfold Shape.accept
    rw [accept_node h]
    rfl

theorem IsTokenOf.isPresent {ks : List Kind} {v : Value} (h : IsTokenOf ks v)
    (hks : ks.contains .none = false) : v.IsPresent := by
  obtain ⟨t, rfl, ht⟩ := h
  refine ⟨t, rfl, fun hk => ?_⟩
  rw [hk] at ht
  simp_all

theorem More.length {t : NodeType} {vs : List Value} (h : More t vs) : vs.length % 2 = 0 := by
  induction h with
  | nil => rfl
  | cons _ _ _ ih =>
    rw [List.length_cons, List.length_cons]
    omega

/-- What a form holds is sound, but a token that may be absent can be. -/
theorem Form.Holds.sound {f : Form} {v : Value} (h : f.Holds v) (hf : f.isInner = true)
    (c : NodeClass) (name : Text) :
    Field.Sound c ⟨name, f.shape⟩ v ∨ (∃ k, f = .perhaps k) ∧ v = .token .absent := by
  have hnode : ∀ {t : NodeType} {w : Value} {u : Token}, w.isNodeOf t = true → w ≠ .token u := by
    rintro t w u hw rfl
    exact absurd hw Bool.false_ne_true
  have hnone : ∀ {t : NodeType} {w : Value}, w.isNodeOf t = true → w ≠ .none := by
    rintro t w hw rfl
    exact absurd hw Bool.false_ne_true
  have htoken : ∀ {ks : List Kind}, ks.contains .none = false → IsTokenOf ks v
      → Field.Sound c ⟨name, .token⟩ v := by
    intro ks hks hv
    obtain ⟨t, rfl, ht⟩ := hv.isPresent hks
    exact ⟨accept_token t, trivial, fun u hu hk => absurd (by cases hu; exact hk) ht, Value.noConfusion⟩
  cases f with
  | nothing =>
    obtain ⟨k, rfl⟩ := h
    exact .inl ⟨rfl, trivial, fun t ht => Value.noConfusion ht, Value.noConfusion⟩
  | token ks => exact .inl (htoken (by simpa only [Form.isInner, Bool.not_eq_true'] using hf) h)
  | perhaps k =>
    rcases h with h | h
    · exact .inr ⟨⟨k, rfl⟩, h⟩
    · exact .inl (htoken (by simpa only [Form.isInner, Bool.not_eq_true'] using hf) h)
  | tokens k =>
    obtain ⟨vs, rfl, hvs⟩ := h
    have hk : [k].contains Kind.none = false := by
      simpa only [Form.isInner, Bool.not_eq_true'] using hf
    exact .inl ⟨rfl, ⟨vs, rfl, fun w hw => (hvs w hw).isPresent hk⟩,
      fun t ht => Value.noConfusion ht, Value.noConfusion⟩
  | node t =>
    exact .inl ⟨accept_node h, trivial, fun u hu => absurd hu (hnode h),
      fun hv => absurd hv (hnone h)⟩
  | optional t =>
    refine .inl ⟨accept_optional h, trivial, fun u hu => ?_, fun _ => ⟨_, rfl⟩⟩
    rcases h with rfl | h
    · exact Value.noConfusion hu
    · exact absurd hu (hnode h)
  | nodes t =>
    obtain ⟨vs, rfl, hvs⟩ := h
    exact .inl ⟨rfl, ⟨vs, rfl, hvs⟩, fun t ht => Value.noConfusion ht, Value.noConfusion⟩
  | separated t =>
    obtain ⟨vs, rfl, hvs⟩ := h
    refine .inl ⟨rfl, ⟨vs, rfl, ?_⟩, fun t ht => Value.noConfusion ht, Value.noConfusion⟩
    obtain rfl | ⟨v, ws, rfl, hv, hmore⟩ := hvs
    · exact ⟨.inl rfl, rfl, List.forall_mem_nil _⟩
    · refine ⟨.inr ?_, hmore.alternates hv, List.forall_mem_cons.mpr ⟨.inl hv, fun w hw => ?_⟩⟩
      · have hlen := hmore.length
        rw [List.length_cons]
        omega
      · exact (hmore.mem w hw).imp_right fun hc => hc.isPresent (by decide)
  | more t => exact h.elim

/-- Looking a token up in a table of kinds finds the kind that it goes with. -/
theorem expressionOf?_of_mem {c : NodeClass} {k j : Kind} (h : (k, j) ∈ c.kindTable) :
    Kind.expressionOf? c.kindTable j = some k := by
  have hcheck : ∀ d : NodeClass, (d.kindTable.all fun p =>
      Kind.expressionOf? d.kindTable p.2 = some p.1) = true := by
    intro d
    cases d <;> decide
  exact of_decide_eq_true (List.all_eq_true.1 (hcheck c) _ h)

/-- Nodes of the grammar are sound, but the end of a unit may be absent. -/
theorem Grows.sound {c : NodeClass} {vs : List Value} (h : Grows c vs)
    (hdoc : c ≠ .documentationComment) (hpair : c ≠ .pair)
    (hend : c = .compilationUnit → .token .absent ∉ vs) : c.Sound vs := by
  have hfield : ∀ {f g v}, fitsSlot c f g = true → g ∈ Grammar.slots c → v ∈ vs → Form.Holds g v
      → Field.Sound c f v := by
    rintro ⟨name, shape⟩ g v hfg hg hv hholds
    simp only [fitsSlot, Bool.and_eq_true, decide_eq_true_eq] at hfg
    obtain ⟨rfl, hplace⟩ := hfg
    rcases hholds.sound (slots_isInner hg) c name with hsound | ⟨⟨k, rfl⟩, rfl⟩
    · exact hsound
    · simp only [Bool.or_eq_true, Bool.and_eq_true, decide_eq_true_eq] at hplace
      rcases hplace with hc | hc
      · exact absurd hv (hend hc)
      · exact ⟨rfl, trivial, fun _ _ _ => hc, Value.noConfusion⟩
  refine ⟨h.forall_fields hdoc hpair hfield, fun hc => ?_⟩
  obtain ⟨t, ht, hmem⟩ := h.kind hc
  exact ⟨t, ht, expressionOf?_of_mem hmem⟩

end Grammar

/-- **Reading fails for three reasons only.**  Else the builder makes the tree from a parse tree,
as it does from every parse tree of the grammar, and each node of the tree is sound. -/
theorem parsePure?_sound (source : Text) (c : Context) (file : Option Text) :
    (parsePure? source c file = none ↔ Unreadable source c)
      ∧ (∀ tree tokens, Parses (.nonterminal c.start) tree tokens → ∃ v, tree.build = .ok v)
      ∧ ∀ p, parsePure? source c file = some p →
        (∃ tree tokens eof v, Parses (.nonterminal c.start) tree tokens ∧ tree.build = .ok v
          ∧ p.root = Parsed.close c (Parsed.endOfFile file source eof) v)
        ∧ (∃ d vs, p.root = .node d vs) ∧ p.root.All NodeClass.Sound := by
  refine ⟨parsePure?_eq_none_iff source c file, fun tree tokens h => h.built, fun p h => ?_⟩
  refine ⟨parsePure?_built h, parsePure?_all (T := fun _ => True) h (fun _ _ => trivial) ?_⟩
  exact fun hgrows hdoc hpair _ hend => hgrows.sound hdoc hpair hend

end TreeQuote
