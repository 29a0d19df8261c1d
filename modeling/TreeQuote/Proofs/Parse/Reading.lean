/-
TreeQuote/Proofs/Parse/Reading.lean

What is read with one kind of lists, next to what `parsePure?` puts together.  A text is unreadable
for both or for none, and both have the same dressed tokens and the same report.  The trees are the
same with immutable lists; with shared ones they are if no lexeme was skipped, or none was read, and
else the one that is read may repeat tokens, but it has no others.

Main statements:
* `readWith_assembled`: the tree that is read has the tokens of the immutable one;
* `readWith_immutable` and `readWith_iff_pure`: with immutable lists, or where no lexeme is skipped,
  there is no difference;
* `parse?_mended`: trees of repaired texts;
* `parse?_clean_iff`: texts without a diagnostic.
-/
import TreeQuote.Proofs.Parse.Mended
import TreeQuote.Proofs.Parse.Sharing

namespace TreeQuote

open Grammar Dressing

/-! ### Lists -/

theorem mapM_eq_some {α β : Type} {f : α → Option β} {as : List α} {bs : List β} :
    as.mapM f = some bs ↔ List.Forall₂ (fun a b => f a = some b) as bs := by
  induction as generalizing bs with
  | nil => cases bs <;> simp
  | cons a as ih =>
    rw [List.mapM_cons]
    constructor
    · intro h
      obtain ⟨b, hb, h⟩ := Option.bind_eq_some_iff.1 h
      obtain ⟨bs', hbs, h⟩ := Option.bind_eq_some_iff.1 h
      cases h
      exact .cons hb (ih.1 hbs)
    · rintro (_ | ⟨hb, hbs⟩)
      simp [hb, ih.2 hbs]

theorem exists_left_of_mem {α β : Type} {r : α → β → Prop} {as : List α} {bs : List β}
    (h : List.Forall₂ r as bs) {b : β} (hb : b ∈ bs) : ∃ a ∈ as, r a b := by
  induction h with
  | nil => cases hb
  | cons hr _ ih =>
    rcases List.mem_cons.1 hb with rfl | hb
    · exact ⟨_, List.mem_cons_self, hr⟩
    · exact (ih hb).imp fun a ha => ha.imp_left (List.mem_cons_of_mem _)

/-- In a table without repetitions every key finds what stands next to it. -/
theorem lookup_zip {α β : Type} [BEq α] [LawfulBEq α] {as : List α} {bs : List β} (h : as.Nodup)
    (hlen : as.length = bs.length) :
    List.Forall₂ (fun a b => (as.zip bs).lookup a = some b) as bs := by
  induction as generalizing bs with
  | nil =>
    obtain rfl := List.length_eq_zero_iff.1 hlen.symm
    exact .nil
  | cons a as ih =>
    cases bs with
    | nil => cases hlen
    | cons b bs =>
      obtain ⟨ha, has⟩ := List.nodup_cons.1 h
      refine .cons (by simp) ?_
      have hrest := ih has (Nat.succ.inj hlen)
      rw [List.forall₂_iff_zip] at hrest ⊢
      refine ⟨hrest.1, fun {x y} hxy => ?_⟩
      have hne : x ≠ a := fun heq => ha (heq ▸ (List.of_mem_zip hxy).1)
      rw [List.zip_cons_cons, List.lookup_cons, beq_eq_false_iff_ne.2 hne]
      exact hrest.2 hxy

/-! ### Tokens that were fed and dressed -/

/-- Two tokens of one kind, both missing or both there. -/
def Token.Matched (t u : Token) : Prop := u.kind = t.kind ∧ u.missing = t.missing

namespace Repair

theorem inserted_matched (offset : Nat) (ks : List Kind) :
    List.Forall₂ (fun t f => Token.Matched t (Fed.plain f)) (ks.mapIdx (markedMissing offset))
      (ks.map .inserted) := by
  rw [List.forall₂_iff_get]
  refine ⟨by simp, fun i hi hi' => ?_⟩
  simp only [List.get_eq_getElem, List.getElem_mapIdx, List.getElem_map]
  exact ⟨rfl, rfl⟩

theorem markedTokens_matched (steps : List Step) :
    List.Forall₂ (fun t f => Token.Matched t (Fed.plain f)) (markedTokens steps) (fed steps) := by
  induction steps with
  | nil => exact .nil
  | cons s steps ih =>
    cases s with
    | taken ks l =>
      rw [markedTokens, takenTokens, List.append_assoc]
      exact List.rel_append (inserted_matched l.start.offset ks) (.cons ⟨rfl, rfl⟩ ih)
    | skipped l => exact ih

theorem Run.markedTokens_matched (r : Run) (stop : Nat) :
    List.Forall₂ (fun t f => Token.Matched t (Fed.plain f)) (r.markedTokens stop) r.fed :=
  List.rel_append (Repair.markedTokens_matched r.steps) (inserted_matched stop r.final)

/-- Where a token was fed. -/
def placeOf (t : Token) : Option Int := t.span.bind (·.start)

theorem placeOf_inserted {offset : Nat} {ks : List Kind} :
    ∀ t ∈ ks.mapIdx (markedMissing offset), placeOf t = some (offset : Int) := by
  intro t ht
  obtain ⟨i, hi, rfl⟩ := List.mem_mapIdx.1 ht
  rfl

theorem placeOf_taken {ks : List Kind} {l : Lexeme} :
    ∀ t ∈ takenTokens ks l, placeOf t = some (l.start.offset : Int) := by
  intro t ht
  rcases List.mem_append.1 ht with ht | ht
  · exact placeOf_inserted t ht
  · rw [List.mem_singleton.1 ht]
    rfl

theorem placeOf_marked {steps : List Step} :
    ∀ t ∈ markedTokens steps, ∃ l ∈ steps.map Step.lexeme, placeOf t = some (l.start.offset : Int) := by
  induction steps with
  | nil => exact List.forall_mem_nil _
  | cons s steps ih =>
    have hrest : ∀ t ∈ markedTokens steps,
        ∃ l ∈ (s :: steps).map Step.lexeme, placeOf t = some (l.start.offset : Int) := fun t ht =>
      (ih t ht).imp fun l hl => hl.imp_left (List.mem_cons_of_mem _)
    cases s with
    | taken ks l =>
      exact List.forall_mem_append.2 ⟨fun t ht => ⟨l, List.mem_cons_self, placeOf_taken t ht⟩, hrest⟩
    | skipped l => exact hrest

/-- Every token that was fed has a mark. -/
theorem Run.span_ne_none {r : Run} {stop : Nat} : ∀ t ∈ r.markedTokens stop, t.span ≠ none := by
  intro t ht hspan
  have hplace : placeOf t = none := by rw [placeOf, hspan, Option.bind_none]
  rcases List.mem_append.1 ht with ht | ht
  · obtain ⟨l, -, hl⟩ := placeOf_marked t ht
    rw [hplace] at hl
    cases hl
  · have hl := placeOf_inserted t ht
    rw [hplace] at hl
    cases hl

theorem mapIdx_nodup (offset : Nat) (ks : List Kind) : (ks.mapIdx (markedMissing offset)).Nodup := by
  rw [List.Nodup, List.pairwise_iff_getElem]
  intro i j hi hj hij heq
  have hstop := congrArg (fun t : Token => t.span.bind (·.stop)) heq
  simp only [List.getElem_mapIdx, markedMissing, Option.bind_some, Option.some.injEq, Nat.cast_inj]
    at hstop
  omega

theorem takenTokens_nodup (ks : List Kind) (l : Lexeme) : (takenTokens ks l).Nodup := by
  rw [takenTokens, List.nodup_append]
  refine ⟨mapIdx_nodup _ ks, List.nodup_singleton _, fun t ht u hu heq => ?_⟩
  obtain ⟨i, hi, rfl⟩ := List.mem_mapIdx.1 ht
  rw [List.mem_singleton.1 hu] at heq
  have hmissing := congrArg Token.missing heq
  cases hmissing

/-- The marks tell apart all tokens that were fed. -/
theorem markedTokens_nodup {steps : List Step}
    (h : ((steps.map Step.lexeme).map (·.start.offset)).Nodup) : (markedTokens steps).Nodup := by
  induction steps with
  | nil => exact List.nodup_nil
  | cons s steps ih =>
    rw [List.map_cons, List.map_cons, List.nodup_cons] at h
    cases s with
    | taken ks l =>
      rw [markedTokens, List.nodup_append]
      refine ⟨takenTokens_nodup ks l, ih h.2, fun t ht u hu heq => ?_⟩
      obtain ⟨m, hm, hplace⟩ := placeOf_marked u hu
      rw [← heq, placeOf_taken t ht, Option.some.injEq, Nat.cast_inj] at hplace
      exact h.1 (List.mem_map.2 ⟨m, hm, hplace.symm⟩)
    | skipped l => exact ih h.2

theorem Run.markedTokens_nodup {r : Run} {stop : Nat}
    (h : ((r.steps.map Step.lexeme).map (·.start.offset)).Nodup)
    (hstop : ∀ l ∈ r.steps.map Step.lexeme, l.start.offset < stop) : (r.markedTokens stop).Nodup := by
  rw [Run.markedTokens, List.nodup_append]
  refine ⟨Repair.markedTokens_nodup h, mapIdx_nodup stop r.final, fun t ht u hu heq => ?_⟩
  obtain ⟨l, hl, hplace⟩ := placeOf_marked t ht
  rw [heq, placeOf_inserted u hu, Option.some.injEq, Nat.cast_inj] at hplace
  exact absurd (hstop l hl) (by omega)

end Repair

/-! ### Drafts -/

theorem Lexeme.kind_ne_none {source : Text} {ls : List Lexeme} (hls : Lexeme.scan? source = some ls) :
    ∀ l ∈ ls, l.kind ≠ .none := by
  intro l hl hk
  have hspells := Lexeme.scan?_spelled hls l hl
  rw [hk] at hspells
  rcases hspells with (h | h | h) | h <;> cases h

theorem Lexeme.Lies.start_lt {pos : Nat} {t : Text} {ls : List Lexeme} (h : Lies pos t ls) :
    ∀ l ∈ ls, l.start.offset < pos + t.length := by
  induction h with
  | nil => exact List.forall_mem_nil _
  | @cons pos gap rest l ls hstart hstop hne _ ih =>
    have hpos : 0 < l.text.length := List.length_pos_of_ne_nil hne
    refine List.forall_mem_cons.2 ⟨?_, fun m hm => ?_⟩
    · simp only [List.length_append]
      omega
    · have := ih m hm
      simp only [List.length_append]
      omega

namespace Parsed.Draft

variable {m : Repair.Lists} {source : Text} {c : Context} {file : Option Text} {d : Draft} {p : Parsed}

theorem of?_eq_some : of? m source c file = some d ↔ Lexeme.scan? source = some d.lexemes
    ∧ Repair.runLexemes? m c source.length d.lexemes = some d.run
    ∧ dress file c (Gap.scan source (skipped d.run.steps)) source.length d.run.fed
      = some (d.tokens, d.endOfFile) := by
  unfold of?
  simp only [Option.bind_eq_bind, Option.bind_eq_some_iff]
  constructor
  · rintro ⟨ls, hls, r, hr, ⟨tokens, eof⟩, hdress, hd⟩
    cases hd
    exact ⟨hls, hr, hdress⟩
  · rintro ⟨hls, hr, hdress⟩
    exact ⟨_, hls, _, hr, _, hdress, rfl⟩

/-- The run with immutable trees takes the same steps. -/
theorem pure_run (h : of? m source c file = some d) : ∃ r, Repair.run? c d.lexemes = some r
    ∧ r.steps = d.run.steps ∧ r.fed = d.run.fed ∧ r.final = d.run.final
    ∧ (Repair.Kept m c (initial c) d.run.steps → d.run.tree.skeleton = r.tree.skeleton) := by
  obtain ⟨hls, hrun, -⟩ := of?_eq_some.1 h
  have hrel := Repair.runLexemes?_run m c source.length (Lexeme.kind_ne_none hls)
  rw [hrun] at hrel
  generalize Repair.run? c d.lexemes = o at hrel
  cases hrel with
  | some hr =>
    obtain ⟨hsteps, hfinal, htree⟩ := hr
    exact ⟨_, rfl, hsteps.symm, by rw [Repair.Run.fed, Repair.Run.fed, hsteps, hfinal],
      hfinal.symm, htree⟩

/-- The text can be read with immutable trees. -/
theorem pure_parsed (h : of? m source c file = some d) : ∃ r, Repair.run? c d.lexemes = some r
    ∧ parsePure? source c file = some {
      root := Parsed.close c (Parsed.endOfFile file source d.endOfFile) (r.tree.refill d.tokens).1
      diagnostics := (d.close source c file d.tokens).diagnostics } := by
  obtain ⟨hls, -, hdress⟩ := of?_eq_some.1 h
  obtain ⟨r, hr, hsteps, -, hfinal, -⟩ := pure_run h
  rw [Repair.Run.fed] at hdress
  refine ⟨r, hr, ?_⟩
  simp only [parsePure?, hls, hr, hsteps, hfinal, hdress, Option.bind_eq_bind, Option.bind_some]
  rfl

/-- And only such a text has a draft. -/
theorem of_pure {q : Parsed} (h : parsePure? source c file = some q) :
    ∃ d, of? m source c file = some d := by
  obtain ⟨ls, r, tokens, eof, hls, hr, hdress, -⟩ := parsePure?_steps h
  have hrel := Repair.runLexemes?_run m c source.length (Lexeme.kind_ne_none hls)
  rw [hr] at hrel
  generalize hrun : Repair.runLexemes? m c source.length ls = o at hrel
  cases hrel with
  | @some r' _ hr' =>
    obtain ⟨hsteps, hfinal, -⟩ := hr'
    refine ⟨⟨ls, r', tokens, eof⟩, of?_eq_some.2 ⟨hls, hrun, ?_⟩⟩
    rw [show r'.fed = r.fed by rw [Repair.Run.fed, Repair.Run.fed, hsteps, hfinal], hsteps]
    exact hdress

/-! ### Dressed tokens -/

/-- Each token that was fed has a dressed one. -/
theorem tokens_matched (h : of? m source c file = some d) :
    List.Forall₂ Token.Matched (d.run.markedTokens source.length) d.tokens := by
  obtain ⟨hls, -, hdress⟩ := of?_eq_some.1 h
  obtain ⟨r, hr, -, hfed, -⟩ := pure_run h
  have hspells : ∀ l ∈ reads d.run.fed, Lexeme.Spells l.kind l.text := fun l hl =>
    Lexeme.scan?_spelled hls l ((reads_sublist hr).subset (hfed ▸ hl))
  have hmarked := d.run.markedTokens_matched source.length
  have hwears := dress_wears hdress
  generalize d.run.markedTokens source.length = ts, d.tokens = us, d.run.fed = fs
    at hmarked hwears hspells
  induction hmarked generalizing us with
  | nil =>
    cases hwears
    exact .nil
  | cons ht _ ih =>
    cases hwears with
    | @cons f u _ _ hu hus =>
      cases hu with
      | inserted hcore =>
        exact .cons ⟨(congrArg Token.kind hcore).trans ht.1, (congrArg Token.missing hcore).trans ht.2⟩
          (ih _ hus hspells)
      | read hs hcore =>
        rw [reads_read] at hspells
        obtain ⟨hl, hspells⟩ := List.forall_mem_cons.1 hspells
        have hbares := token?_bares hl hs
        exact .cons ⟨((congrArg Token.kind hcore).trans hbares.kind).trans ht.1,
          ((congrArg Token.missing hcore).trans hbares.missing).trans ht.2⟩ (ih _ hus hspells)

/-- The marks find the dressed tokens. -/
theorem tokens_found (h : of? m source c file = some d) :
    List.Forall₂ (fun t u => d.token? source t = some u) (d.run.markedTokens source.length)
      d.tokens := by
  obtain ⟨hls, -, -⟩ := of?_eq_some.1 h
  obtain ⟨r, hr, hsteps, -⟩ := pure_run h
  have hlexemes : d.run.steps.map Repair.Step.lexeme = d.lexemes := hsteps ▸ Repair.run?_steps hr
  refine lookup_zip (Repair.Run.markedTokens_nodup ?_ fun l hl => ?_) (tokens_matched h).length_eq
  · rw [hlexemes]
    exact Lexeme.scan?_starts hls
  · rw [hlexemes] at hl
    have := (Lexeme.scan?_lies hls).start_lt l hl
    omega

/-- What is found for a token is of its kind. -/
theorem token?_matched (h : of? m source c file = some d) {t u : Token}
    (ht : d.token? source t = some u) :
    t ∈ d.run.markedTokens source.length ∧ u ∈ d.tokens ∧ Token.Matched t u := by
  have hmem := mem_of_lookup ht
  exact ⟨(List.of_mem_zip hmem).1, (List.of_mem_zip hmem).2,
    (List.forall₂_iff_zip.1 (tokens_matched h)).2 hmem⟩

/-- The tree of a run has tokens of which holds what is patched, and those inserted at the end. -/
theorem leaves_patched (h : of? m source c file = some d) {P : List Token → Prop}
    (hP : Repair.Patched P) (hnil : P []) (htaken : ∀ ks l, .taken ks l ∈ d.run.steps
      → (∀ k ∈ ks, k ≠ l.kind) → ∀ {us}, P us → P (us ++ Repair.takenTokens ks l)) :
    ∃ ts, d.run.tree.leaves = ts ++ d.run.final.mapIdx (Repair.markedMissing source.length) ∧ P ts := by
  obtain ⟨ts, hyields, hts⟩ := Repair.runLexemes?_yields hP hnil (of?_eq_some.1 h).2.1 htaken
  exact ⟨ts, hyields.tree.2.2, hts⟩

end Parsed.Draft

/-! ### What is read -/

section Reading

variable {m : Repair.Lists} {source : Text} {c : Context} {file : Option Text} {p q : Parsed}

theorem readWith_eq_read : readWith m source c file = .read p
    ↔ ∃ d us, Parsed.Draft.of? m source c file = some d
      ∧ List.Forall₂ (fun t u => d.token? source t = some u) d.run.tree.leaves us
      ∧ d.close source c file us = p := by
  unfold readWith
  constructor
  · intro h
    split at h
    · cases h
    · rename_i d hd
      split at h
      · cases h
      · rename_i us hus
        exact ⟨d, us, hd, mapM_eq_some.1 hus, Reading.read.inj h⟩
  · rintro ⟨d, us, hd, hus, rfl⟩
    simp only [hd, mapM_eq_some.2 hus]

theorem Reading.parsed?_eq_some {r : Reading} : r.parsed? = some p ↔ r = .read p := by
  cases r <;> simp [Reading.parsed?]

theorem read_eq_read : read source c file = .read p ↔ parse? source c file = some p :=
  Reading.parsed?_eq_some.symm

/-- Which texts are unreadable does not depend on the lists. -/
theorem readWith_eq_unreadable :
    readWith m source c file = .unreadable ↔ parsePure? source c file = none := by
  have hread : readWith m source c file = .unreadable ↔ Parsed.Draft.of? m source c file = none := by
    unfold readWith
    cases Parsed.Draft.of? m source c file with
    | none => simp
    | some d =>
      simp only [reduceCtorEq, iff_false]
      split <;> simp
  rw [hread]
  cases hdraft : Parsed.Draft.of? m source c file with
  | none =>
    refine ⟨fun _ => ?_, fun _ => rfl⟩
    by_contra hsome
    obtain ⟨q, hq⟩ := Option.ne_none_iff_exists'.1 hsome
    obtain ⟨d, hd⟩ := Parsed.Draft.of_pure (m := m) hq
    rw [hdraft] at hd
    cases hd
  | some d =>
    obtain ⟨r, -, hpure⟩ := d.pure_parsed hdraft
    simp [hpure]

/-- The tree `p` has the tokens of `q`, which is the immutable one, and no others. -/
structure Parsed.Assembled (c : Context) (q p : Parsed) : Prop where
  diagnostics : p.diagnostics = q.diagnostics
  type : p.root.isNodeOf c.type = true
  grown : p.root.All Grows
  closed : c = .unit → ∀ vs, p.root = .node .compilationUnit vs → .token .absent ∉ vs
  leaves : ∀ t, t ∈ p.root.leaves ↔ t ∈ q.root.leaves

/-- The tokens of a draft, and the immutable tree of its text. -/
theorem Parsed.Draft.leaves {d : Parsed.Draft} (h : Parsed.Draft.of? m source c file = some d) :
    ∃ q, parsePure? source c file = some q
      ∧ q.diagnostics = (d.close source c file d.tokens).diagnostics
      ∧ (∀ t ∈ d.tokens, t.kind ≠ .endOfFileToken)
      ∧ (q.root.leaves = d.tokens ∧ c ≠ .unit
        ∨ q.root.leaves = d.tokens ++ [Parsed.endOfFile file source d.endOfFile] ∧ c = .unit) := by
  obtain ⟨hls, -, hdress⟩ := Parsed.Draft.of?_eq_some.1 h
  obtain ⟨r, hr, hsteps, hfed, -⟩ := d.pure_run h
  obtain ⟨r', hr', hpure⟩ := d.pure_parsed h
  rw [← hsteps, ← hfed] at hdress
  obtain ⟨ls, s, tokens, eof, hls', hs, hdress', hleaves, -⟩ := parsePure?_report hpure
  cases hls.symm.trans hls'
  cases hr.symm.trans hs
  cases hdress.symm.trans hdress'
  exact ⟨_, hpure, rfl, kind_ne_end hr (dress_run hls hr hdress).kinds, hleaves⟩

/-- The tree of a draft with the tokens `us` at its leaves. -/
theorem Parsed.Draft.close_tree {d : Parsed.Draft} {us : List Token}
    (h : Parsed.Draft.of? m source c file = some d)
    (hus : List.Forall₂ (fun t u => d.token? source t = some u) d.run.tree.leaves us) :
    (d.close source c file us).root.isNodeOf c.type = true
      ∧ (d.close source c file us).root.All Grows
      ∧ (c = .unit → ∀ vs, (d.close source c file us).root = .node .compilationUnit vs
        → .token .absent ∉ vs)
      ∧ ((d.close source c file us).root.leaves = us ∧ c ≠ .unit
        ∨ (d.close source c file us).root.leaves = us ++ [Parsed.endOfFile file source d.endOfFile]
          ∧ c = .unit) := by
  obtain ⟨-, -, -, htokens, -⟩ := d.leaves h
  obtain ⟨ts, hyields, -⟩ := Repair.runLexemes?_yields Repair.patched_true trivial
    (Parsed.Draft.of?_eq_some.1 h).2.1 fun _ _ _ _ => fun _ => trivial
  have hkinds : Value.kinds us = Value.kinds d.run.tree.leaves := by
    rw [Value.kinds, Value.kinds, ← List.forall₂_eq_eq_eq, List.forall₂_map_left_iff,
      List.forall₂_map_right_iff]
    exact hus.flip.imp fun u t hu => (d.token?_matched h hu).2.2.1
  obtain ⟨htype, hgrown, hroot⟩ := refill_yields hyields (hyields.tree.2.2 ▸ hkinds)
  have hend : ∀ u ∈ us, u.kind ≠ .endOfFileToken := by
    intro u hu
    obtain ⟨t, -, ht⟩ := exists_left_of_mem hus hu
    exact htokens u (d.token?_matched h ht).2.1
  by_cases hc : c = .unit
  · subst hc
    obtain ⟨htype', hgrown', hclosed⟩ := close_unit htype hgrown (by rwa [hroot])
      (show (Parsed.endOfFile file source d.endOfFile).kind = .endOfFileToken from rfl)
    rw [hroot] at hclosed
    exact ⟨htype', hgrown',
      fun _ vs hvs => Parsed.close_closed (by simp [Parsed.endOfFile]) hgrown' hvs,
      .inr ⟨hclosed, rfl⟩⟩
  · have hclosed : (d.close source c file us).root = (d.run.tree.refill us).1 :=
      close_of_ne_unit hc _ _
    rw [hclosed]
    exact ⟨htype, hgrown, fun h => absurd h hc, .inl ⟨hroot, hc⟩⟩

/-- **What is read has the tokens of the immutable tree.**  It is a tree of the grammar with the same
report; no token is lost, and none is there that was not dressed. -/
theorem readWith_assembled (h : readWith m source c file = .read p) :
    ∃ q, parsePure? source c file = some q ∧ q.Assembled c p := by
  obtain ⟨d, us, hd, hus, rfl⟩ := readWith_eq_read.1 h
  obtain ⟨q, hq, hdiagnostics, -, hpure⟩ := d.leaves hd
  obtain ⟨htype, hgrown, hclosed, hleaves⟩ := d.close_tree hd hus
  -- every leaf is found among the dressed tokens, and each of them is found for some leaf
  have hsame : ∀ u, u ∈ us ↔ u ∈ d.tokens := by
    refine fun u => ⟨fun hu => ?_, fun hu => ?_⟩
    · obtain ⟨t, -, ht⟩ := exists_left_of_mem hus hu
      exact (d.token?_matched hd ht).2.1
    · obtain ⟨t, ht, hfound⟩ := exists_left_of_mem (d.tokens_found hd) hu
      have hleaf := Repair.runLexemes?_complete (Parsed.Draft.of?_eq_some.1 hd).2.1 ht
      obtain ⟨v, hv, hfound'⟩ := exists_left_of_mem hus.flip hleaf
      exact Option.some.inj (hfound.symm.trans hfound') ▸ hv
  refine ⟨q, hq, hdiagnostics.symm, htype, hgrown, hclosed, fun t => ?_⟩
  rcases hleaves with ⟨hleaves, hc⟩ | ⟨hleaves, hc⟩
  · rw [hleaves, (hpure.resolve_right fun h => hc h.2).1, hsame]
  · rw [hleaves, (hpure.resolve_left fun h => h.2 hc).1, List.mem_append, List.mem_append, hsame]

/-! ### Where nothing is lost or repeated -/

/-- The tokens can be put in one by one if nothing is lost or repeated. -/
theorem readWith_of_pure {ls : List Lexeme} {r : Repair.Run} (hls : Lexeme.scan? source = some ls)
    (hr : Repair.run? c ls = some r) (hkept : Repair.Kept m c (initial c) r.steps)
    (h : parsePure? source c file = some q) : readWith m source c file = .read q := by
  obtain ⟨d, hd⟩ := Parsed.Draft.of_pure (m := m) h
  obtain ⟨hls', hrun, hdress⟩ := Parsed.Draft.of?_eq_some.1 hd
  cases hls.symm.trans hls'
  obtain ⟨r', hr', hsteps, hfed, -, htree⟩ := d.pure_run hd
  cases hr.symm.trans hr'
  obtain ⟨s, hs, hpure⟩ := d.pure_parsed hd
  cases hr.symm.trans hs
  cases h.symm.trans hpure
  rw [hsteps] at hkept
  -- the leaves are the marks, and these find the dressed tokens in order
  obtain ⟨htype, hgrown, hleaves⟩ := (Repair.runLexemes?_kept hrun hkept).tree
  refine readWith_eq_read.2 ⟨d, d.tokens, hd, hleaves ▸ d.tokens_found hd, ?_⟩
  -- and a tree of the grammar is its skeleton with the leaves put in
  have hkinds : Value.kinds d.tokens = Value.kinds (r.fed.map Fed.plain) := by
    rw [← hsteps, ← hfed] at hdress
    exact (dress_run hls hr hdress).kinds
  obtain ⟨htype', hgrown', hleaves'⟩ := (Repair.run?_yields hr).tree
  have hskeleton : (r.tree.refill d.tokens).1.skeleton = d.run.tree.skeleton :=
    (skeleton_refill (isItem_of_isNodeOf htype').plain hgrown'
      (hkinds.trans (by rw [hleaves']))).trans (htree hkept).symm
  have hrefilled := refill_of_skeleton d.run.tree (isItem_of_isNodeOf htype).plain hgrown _ [] hskeleton
  rw [(refill_run hr hkinds).2.2, List.append_nil] at hrefilled
  rw [Parsed.Draft.close, hrefilled]

/-- The steps of a text of which nothing is reported as skipped. -/
theorem skipped_eq_nil {steps : List Repair.Step} {ds : List Diagnostic}
    (h : ∀ d ∈ Parsed.report file steps ++ ds, d.isSkipped = false) : skipped steps = [] := by
  have hfilter : (Parsed.report file steps).filter Diagnostic.isSkipped = [] :=
    List.filter_eq_nil_iff.2 fun d hd => by simp [h d (List.mem_append_left _ hd)]
  rw [Parsed.report_skipped] at hfilter
  exact List.map_eq_nil_iff.1 hfilter

/-- **With immutable lists the tokens are put in one by one**, and no tree is lost. -/
theorem readWith_immutable (source : Text) (c : Context) (file : Option Text) :
    readWith .immutable source c file = (parsePure? source c file).elim .unreadable .read := by
  cases h : parsePure? source c file with
  | none => exact readWith_eq_unreadable.2 h
  | some p =>
    obtain ⟨ls, r, -, -, hls, hr, -⟩ := parsePure?_steps h
    exact readWith_of_pure hls hr (.inl rfl) h

/-- A tree is read with immutable lists if the tokens can be put in one by one. -/
theorem readWith_immutable_eq_read :
    readWith .immutable source c file = .read p ↔ parsePure? source c file = some p := by
  rw [readWith_immutable]
  cases parsePure? source c file <;> simp

/-- The tree that was read has the tokens of the immutable one. -/
theorem parse?_assembled (h : parse? source c file = some p) :
    ∃ q, parsePure? source c file = some q ∧ q.Assembled c p :=
  readWith_assembled (read_eq_read.2 h)

/-- **Where no lexeme is skipped, lists may be shared.** -/
theorem readWith_iff_pure (hskipped : ∀ d ∈ p.diagnostics, d.isSkipped = false) :
    readWith m source c file = .read p ↔ parsePure? source c file = some p := by
  have hpure : ∀ {q}, q.diagnostics = p.diagnostics → parsePure? source c file = some q
      → readWith m source c file = .read q := by
    intro q hq h
    obtain ⟨ls, r, tokens, eof, hls, hr, -, -, hreport⟩ := parsePure?_report h
    rw [← hq, hreport] at hskipped
    exact readWith_of_pure hls hr (.inr (.inl (skipped_eq_nil hskipped))) h
  refine ⟨fun h => ?_, hpure rfl⟩
  obtain ⟨q, hq, hassembled⟩ := readWith_assembled h
  have hread := hpure hassembled.diagnostics.symm hq
  rwa [← Reading.read.inj (hread.symm.trans h)]

theorem parse?_iff_pure (hskipped : ∀ d ∈ p.diagnostics, d.isSkipped = false) :
    parse? source c file = some p ↔ parsePure? source c file = some p :=
  read_eq_read.symm.trans (readWith_iff_pure hskipped)

/-- A parenthesis is skipped.  The attempt on it had ended the statement in front of it, so the block
has a semicolon that was never fed. -/
example : (parse? (Text.of "\x7b a; b ); \x7d") .statement none).isNone = true
    ∧ (parsePure? (Text.of "\x7b a; b ); \x7d") .statement none).isSome = true := by
  decide +kernel

end Reading

/-! ### Repaired texts -/

namespace Token

/-- A missing token has no mark, or it is followed, through missing ones only, by one that is there
and of another kind. -/
def Settled : List Token → Prop
  | [] => True
  | t :: ts => (t.missing = true → t.span = none ∨ ∃ u ∈ firstPresent ts, t.kind ≠ u.kind) ∧ Settled ts

theorem Settled.right {ts us : List Token} (h : Settled (ts ++ us)) : Settled us := by
  induction ts with
  | nil => exact h
  | cons t ts ih => exact ih h.2

theorem Settled.append {ts us : List Token} (h : Settled ts) (h' : Settled us) :
    Settled (ts ++ us) := by
  induction ts with
  | nil => exact h'
  | cons t ts ih =>
    refine ⟨fun hmissing => (h.1 hmissing).imp_right ?_, ih h.2⟩
    rintro ⟨u, hu, hne⟩
    refine ⟨u, ?_, hne⟩
    show u ∈ firstPresent (ts ++ us)
    rw [firstPresent, List.find?_append, ← firstPresent, Option.mem_def.1 hu]
    rfl

/-- What follows a missing token does so in every copy of the list. -/
theorem patched_settled : Repair.Patched Settled where
  join hts hus := hts.append hus.right
  insert _ hts := hts.append ⟨fun _ => .inl rfl, trivial⟩

/-- Inserted tokens in front of a lexeme of another kind are settled. -/
theorem settled_inserted {l : Lexeme} {ts : List Token} (hmissing : ∀ t ∈ ts, t.missing = true)
    (hkinds : ∀ t ∈ ts, t.kind ≠ l.kind) : Settled (ts ++ [Repair.marked l]) := by
  induction ts with
  | nil => exact ⟨fun h => (by cases h), trivial⟩
  | cons t ts ih =>
    obtain ⟨-, hts⟩ := List.forall_mem_cons.1 hmissing
    obtain ⟨ht, hkinds⟩ := List.forall_mem_cons.1 hkinds
    refine ⟨fun _ => .inr ⟨Repair.marked l, ?_, ht⟩, ih hts hkinds⟩
    have hnone : ts.find? (fun t => !t.missing) = none :=
      List.find?_eq_none.2 fun t ht => by simp [hts t ht]
    show Repair.marked l ∈ firstPresent (ts ++ [Repair.marked l])
    rw [firstPresent, List.find?_append, hnone]
    rfl

theorem settled_taken {ks : List Kind} {l : Lexeme} (h : ∀ k ∈ ks, k ≠ l.kind) :
    Settled (Repair.takenTokens ks l) := by
  refine settled_inserted (fun t ht => ?_) fun t ht => ?_
  · obtain ⟨i, hi, rfl⟩ := List.mem_mapIdx.1 ht
    rfl
  · obtain ⟨i, hi, rfl⟩ := List.mem_mapIdx.1 ht
    exact h _ (List.getElem_mem hi)

/-- The first token that is there is dressed as the first one. -/
theorem firstPresent_matched {ts us vs : List Token} (h : List.Forall₂ Matched ts us) {w : Token}
    (hw : w ∈ firstPresent ts) : ∃ u ∈ firstPresent (us ++ vs), u.kind = w.kind := by
  induction h with
  | nil => cases hw
  | @cons t u ts us htu _ ih =>
    rw [firstPresent, List.find?_cons] at hw
    rw [List.cons_append, firstPresent, List.find?_cons, htu.2]
    split at hw
    · cases hw
      exact ⟨u, rfl, htu.1⟩
    · exact ih hw

/-- Dressed tokens keep apart if all were settled and had marks; more missing ones may follow. -/
theorem Settled.apart {ts us vs : List Token} (h : Settled ts) (hmarks : ∀ t ∈ ts, t.span ≠ none)
    (hus : List.Forall₂ Matched ts us) (hvs : ∀ v ∈ vs, v.missing = true) : Apart (us ++ vs) := by
  induction hus with
  | nil =>
    clear h hmarks
    induction vs with
    | nil => trivial
    | cons v vs ih =>
      obtain ⟨-, hvs⟩ := List.forall_mem_cons.1 hvs
      have hnone : firstPresent vs = none := List.find?_eq_none.2 fun t ht => by simp [hvs t ht]
      refine ⟨fun _ u hu => ?_, ih hvs⟩
      rw [hnone] at hu
      cases hu
  | @cons t u ts us htu hrest ih =>
    obtain ⟨ht, hmarks⟩ := List.forall_mem_cons.1 hmarks
    refine ⟨fun hmissing w hw => ?_, ih h.2 hmarks⟩
    obtain ⟨x, hx, hne⟩ := (h.1 (htu.2.symm.trans hmissing)).resolve_left ht
    obtain ⟨y, hy, hkind⟩ : ∃ y ∈ firstPresent (us ++ vs), y.kind = x.kind :=
      firstPresent_matched hrest hx
    obtain rfl := Option.some.inj (hw.symm.trans hy)
    rwa [htu.1, hkind]

end Token

section Reading

variable {source : Text} {c : Context} {file : Option Text} {p q : Parsed}

/-- The tokens of what is read keep apart. -/
theorem parse?_apart (h : parse? source c file = some p) : Token.Apart p.root.leaves := by
  obtain ⟨d, us, hd, hus, rfl⟩ := readWith_eq_read.1 (read_eq_read.2 h)
  obtain ⟨ts, hleaves, hts⟩ := d.leaves_patched hd Token.patched_settled trivial
    fun ks l _ hks _ hus => hus.append (Token.settled_taken hks)
  obtain ⟨-, -, -, htokens, -⟩ := d.leaves hd
  obtain ⟨-, -, -, hroot⟩ := d.close_tree hd hus
  have hfound := hus
  rw [hleaves] at hfound
  have hus₁ := (List.forall₂_take_append _ _ _ hfound.flip).flip
  have hus₂ := (List.forall₂_drop_append _ _ _ hfound.flip).flip
  have hapart : Token.Apart us := by
    rw [← List.take_append_drop ts.length us]
    refine hts.apart (fun t ht => ?_) (hus₁.imp fun t u hu => (d.token?_matched hd hu).2.2)
      fun u hu => ?_
    · obtain ⟨u, -, hu⟩ := exists_left_of_mem hus₁.flip ht
      exact Repair.Run.span_ne_none t (d.token?_matched hd hu).1
    · obtain ⟨t, ht, hu⟩ := exists_left_of_mem hus₂ hu
      obtain ⟨i, hi, rfl⟩ := List.mem_mapIdx.1 ht
      exact (d.token?_matched hd hu).2.2.2
  rcases hroot with ⟨hroot, -⟩ | ⟨hroot, -⟩
  · rwa [hroot]
  · rw [hroot]
    refine hapart.concat fun u hu => ?_
    obtain ⟨t, -, ht⟩ := exists_left_of_mem hus hu
    exact htokens u (d.token?_matched hd ht).2.1

/-- What is read is a tree of the grammar with dressed tokens. -/
theorem parse?_tree (h : parse? source c file = some p) :
    p.root.isNodeOf c.type = true ∧ p.root.All Grows ∧ ∀ t ∈ p.root.leaves, Dressed t := by
  obtain ⟨q, hq, hassembled⟩ := parse?_assembled h
  exact ⟨hassembled.type, hassembled.grown, fun t ht =>
    (parsePure?_readFrom hq).dressed t ((hassembled.leaves t).1 ht)⟩

/-- What holds of each node of the grammar, if `T` holds of its leaves and if it is no unit without
an end, holds of all nodes of a tree that is read. -/
theorem parse?_all {Q : NodeClass → List Value → Prop} {T : Token → Prop}
    (h : parse? source c file = some p) (hleaves : ∀ t ∈ p.root.leaves, T t)
    (hQ : ∀ {d vs}, Grows d vs → d ≠ .documentationComment → d ≠ .pair
      → (∀ w ∈ vs, ∀ t ∈ w.leaves, T t) → (d = .compilationUnit → .token .absent ∉ vs)
      → Q d vs) : (∃ d vs, p.root = .node d vs) ∧ p.root.All Q := by
  obtain ⟨q, -, hassembled⟩ := parse?_assembled h
  exact root_all hassembled.type hassembled.grown hassembled.closed hleaves hQ

/-- **Trees that are read are well formed**, if the text can be quoted. -/
theorem parse?_wellFormed (hsource : Quotable source) (h : parse? source c file = some p) :
    p.root.WellFormed := by
  obtain ⟨q, hq, hassembled⟩ := parse?_assembled h
  exact parse?_all h (fun t ht => leaves_wellFormed hsource hq t ((hassembled.leaves t).1 ht))
    Grows.admits

/-- **Trees of repaired texts.**  Either something was read, or the text is a unit, and each token was
read or is missing without trivia; or the tree is one of a few, and only its last token has
trivia. -/
theorem parse?_mended (h : parse? source c file = some p) : p.root.Mended ∨ p.root.Idle := by
  obtain ⟨q, hq, hassembled⟩ := parse?_assembled h
  obtain ⟨ls, r, -, -, hls, hr, -⟩ := parsePure?_steps hq
  by_cases hreads : reads r.fed = []
  · -- nothing was read, so nothing is repeated
    have hkept : Repair.Kept .shared c (initial c) r.steps := by
      rw [Repair.Run.fed, reads_append] at hreads
      exact .inr (.inr ⟨rfl, (List.append_eq_nil_iff.1 hreads).1⟩)
    have hread := read_eq_read.1 (readWith_of_pure hls hr hkept hq)
    rw [Option.some.inj (h.symm.trans hread)]
    exact parsePure?_mended hq
  · obtain ⟨-, hstarts, htokens, -⟩ := root_mended hq hls hr (.inr hreads)
    have htype := (parsePure?_readFrom hq).type
    refine .inl ⟨hassembled.grown, starts_all hassembled.type hassembled.grown fun vs hvs _ hall => ?_,
      fun t ht => htokens t ((hassembled.leaves t).1 ht), parse?_apart h⟩
    -- a unit in which all tokens are missing is one with immutable trees
    have hsame : ∀ t, t ∈ Value.leavesList vs ↔ t ∈ q.root.leaves := by
      rw [show Value.leavesList vs = p.root.leaves by rw [hvs]; rfl]
      exact hassembled.leaves
    have hholds : c.type.holds .compilationUnit = true := by
      have htype := hassembled.type
      rwa [hvs] at htype
    have hunit : c = .unit := by cases c <;> first | rfl | exact absurd hholds (by decide)
    subst hunit
    generalize q.root = w at htype hstarts hsame
    cases w with
    | node d ws =>
      obtain rfl : d = .compilationUnit := of_decide_eq_true htype
      have hall' := hstarts.1 rfl fun t ht => hall t ((hsame t).2 ht)
      exact fun t ht => hall' t ((hsame t).1 ht)
    | _ => exact absurd htype Bool.false_ne_true

/-- A text is read without a diagnostic exactly when the kinds of its lexemes match the start
rule of the context. -/
theorem parse?_clean_iff {source : Text} {ls : List Lexeme} (c : Context) (file : Option Text)
    (hls : Lexeme.scan? source = some ls) (hdec : ∀ l ∈ ls, l.Decodes) :
    (∃ p, parse? source c file = some p ∧ p.diagnostics = [])
      ↔ Matches (.rule c.start) (ls.map (·.kind)) := by
  rw [← parsePure?_clean_iff c file hls hdec]
  refine exists_congr fun p => and_congr_left fun hclean => parse?_iff_pure ?_
  rw [hclean]
  exact List.forall_mem_nil _

/-- A function without statements in a unit. -/
theorem parse?_clean_iff_function :
    (∃ p, parse? (Text.of "fn f(x: int) \x7b \x7d // end") .unit none = some p
        ∧ p.diagnostics = [])
      ↔ Matches (.rule .compilationUnit) [.fnKeyword, .identifierToken, .openParenToken,
          .identifierToken, .colonToken, .identifierToken, .closeParenToken, .openBraceToken,
          .closeBraceToken] := by
  obtain ⟨ls, hls, hkinds⟩ : ∃ ls, Lexeme.scan? (Text.of "fn f(x: int) \x7b \x7d // end") = some ls
      ∧ ls.map (·.kind) = [.fnKeyword, .identifierToken, .openParenToken, .identifierToken,
          .colonToken, .identifierToken, .closeParenToken, .openBraceToken, .closeBraceToken] :=
    Option.map_eq_some_iff.1 (by decide +kernel : (Lexeme.scan?
      (Text.of "fn f(x: int) \x7b \x7d // end")).map (List.map (·.kind)) = some _)
  have hdec : ∀ l ∈ ls, l.Decodes := by
    intro l hl
    have hk : l.kind ∈ ls.map (·.kind) := List.mem_map_of_mem hl
    rw [hkinds] at hk
    refine ⟨fun h => ?_, fun h => ?_⟩ <;> rw [h] at hk <;> exact absurd hk (by decide)
  rw [← hkinds]
  exact parse?_clean_iff .unit none hls hdec

end Reading

end TreeQuote
