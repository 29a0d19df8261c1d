/-
TreeQuote/Proofs/Parse/Mended.lean

Trees of texts that were repaired.  A token was read, with its kind shown by its first character, or it
is missing, without trivia and of a kind that may be inserted; and no missing token is followed,
through missing ones only, by one of its kind that was read (`Value.Mended`).

Where nothing was read there is only one tree for each kind of text, and its last token carries all
trivia (`Value.Idle`).

Main statement: `parsePure?_mended`.
-/
import TreeQuote.Proofs.Layout.Omission
import TreeQuote.Proofs.Parse.Insertion
import TreeQuote.Proofs.Parse.Readable

namespace TreeQuote

open Grammar Dressing

/-! ### Tokens that keep apart -/

namespace Token

/-- The first token that is there. -/
def firstPresent (ts : List Token) : Option Token := ts.find? fun t => !t.missing

/-- No missing token is followed, through missing ones only, by one of its kind that is there. -/
def Apart : List Token → Prop
  | [] => True
  | t :: ts => (t.missing = true → ∀ u ∈ firstPresent ts, t.kind ≠ u.kind) ∧ Apart ts

theorem Apart.left {ts us : List Token} (h : Apart (ts ++ us)) : Apart ts := by
  induction ts with
  | nil => trivial
  | cons t ts ih =>
    refine ⟨fun ht u hu => h.1 ht u ?_, ih h.2⟩
    show u ∈ firstPresent (ts ++ us)
    rw [firstPresent, List.find?_append]
    exact Option.mem_def.2 (by rw [← firstPresent, Option.mem_def.1 hu, Option.some_or])

theorem Apart.right {ts us : List Token} (h : Apart (ts ++ us)) : Apart us := by
  induction ts with
  | nil => exact h
  | cons t ts ih => exact ih h.2

/-- One more token at the end, of a kind of its own. -/
theorem Apart.concat {ts : List Token} {u : Token} (h : Apart ts) (hu : ∀ t ∈ ts, t.kind ≠ u.kind) :
    Apart (ts ++ [u]) := by
  induction ts with
  | nil => exact ⟨fun _ v hv => (by cases hv), trivial⟩
  | cons t ts ih =>
    obtain ⟨ht, hts⟩ := List.forall_mem_cons.1 hu
    refine ⟨fun hmissing v hv => ?_, ih h.2 hts⟩
    have hv' : v ∈ firstPresent (ts ++ [u]) := hv
    rw [firstPresent, List.find?_append, Option.mem_def, Option.or_eq_some_iff] at hv'
    rcases hv' with hv' | ⟨-, hv'⟩
    · exact h.1 hmissing v hv'
    · obtain rfl := List.mem_singleton.1 (List.mem_of_find?_eq_some hv')
      exact ht

/-- A token of a repaired text. -/
inductive Mended (t : Token) : Prop where
  | missing (h : t.Hollow) (hk : Repair.isInserted t.kind = true) (hend : t.kind ≠ .endOfFileToken)
  | read (h : t.Whole) (hlexeme : Lexeme.IsLexeme t.kind t.text) (hend : t.kind ≠ .endOfFileToken)
  | ending (h : t.Whole) (hk : t.kind = .endOfFileToken)

/-- A missing token of a text of which nothing was read. -/
structure Idle (t : Token) : Prop extends t.Unseen where
  dressed : Dressed t

end Token

/-! ### Values -/

namespace Value

/-- A unit in which nothing was read has no other tokens than its end. -/
def Starts (c : NodeClass) (vs : List Value) : Prop :=
  c = .compilationUnit → (∀ t ∈ leavesList vs, t.missing = true ∨ t.kind = .endOfFileToken)
    → ∀ t ∈ leavesList vs, t.kind = .endOfFileToken

/-- A value in the tree of a repaired text. -/
structure Mended (v : Value) : Prop where
  grown : v.All Grows
  starts : v.All Starts
  tokens : ∀ t ∈ v.leaves, t.Mended
  apart : Token.Apart v.leaves

namespace Mended

variable {v : Value} {vs : List Value} {c : NodeClass}

theorem members (hgrown : AllList Grows vs) (hstarts : AllList Starts vs)
    (htokens : ∀ t ∈ leavesList vs, t.Mended) (hapart : Token.Apart (leavesList vs)) :
    ∀ v ∈ vs, v.Mended := by
  induction vs with
  | nil => exact List.forall_mem_nil _
  | cons v vs ih =>
    rw [leavesList_cons] at htokens hapart
    obtain ⟨hv, hvs⟩ := List.forall_mem_append.1 htokens
    exact List.forall_mem_cons.2 ⟨⟨hgrown.1, hstarts.1, hv, hapart.left⟩,
      ih hgrown.2 hstarts.2 hvs hapart.right⟩

theorem ofTokens (h : (Value.tokens vs).Mended) : ∀ v ∈ vs, v.Mended :=
  members h.grown h.starts h.tokens h.apart

theorem ofNodes (h : (Value.nodes vs).Mended) : ∀ v ∈ vs, v.Mended :=
  members h.grown h.starts h.tokens h.apart

theorem ofSeparated (h : (Value.separated vs).Mended) : ∀ v ∈ vs, v.Mended :=
  members h.grown h.starts h.tokens h.apart

theorem ofNode (h : (Value.node c vs).Mended) : ∀ v ∈ vs, v.Mended :=
  members h.grown.2 h.starts.2 h.tokens h.apart

end Mended

/-- The classes of the nodes in the tree of a text of which nothing was read. -/
def idleClasses : List NodeClass := [.identifierName, .expressionStatement, .constDeclaration]

/-- A value in the tree of a text of which nothing was read: only the last token has trivia. -/
structure Idle (v : Value) : Prop where
  grown : v.All Grows
  classes : v.All fun c _ => c ∈ idleClasses
  tokens : ∀ t ∈ v.leaves, t.Idle
  last : ∀ ts t us, v.leaves = ts ++ t :: us → us ≠ [] → t.Hollow

namespace Idle

variable {v : Value} {vs : List Value} {c : NodeClass}

theorem members (hgrown : AllList Grows vs) (hclasses : AllList (fun c _ => c ∈ idleClasses) vs)
    (htokens : ∀ t ∈ leavesList vs, t.Idle)
    (hlast : ∀ ts t us, leavesList vs = ts ++ t :: us → us ≠ [] → t.Hollow) :
    ∀ v ∈ vs, v.Idle := by
  intro v hv
  obtain ⟨as, bs, rfl⟩ := List.append_of_mem hv
  rw [leavesList_append, leavesList_cons] at htokens hlast
  refine ⟨allList_iff.1 hgrown v hv, allList_iff.1 hclasses v hv, fun t ht => htokens t (by simp [ht]),
    fun ts t us heq hus => hlast (leavesList as ++ ts) t (us ++ leavesList bs) ?_ (by simp [hus])⟩
  rw [heq]
  simp

theorem ofTokens (h : (Value.tokens vs).Idle) : ∀ v ∈ vs, v.Idle :=
  members h.grown h.classes h.tokens h.last

theorem ofNodes (h : (Value.nodes vs).Idle) : ∀ v ∈ vs, v.Idle :=
  members h.grown h.classes h.tokens h.last

theorem ofSeparated (h : (Value.separated vs).Idle) : ∀ v ∈ vs, v.Idle :=
  members h.grown h.classes h.tokens h.last

theorem ofNode (h : (Value.node c vs).Idle) : ∀ v ∈ vs, v.Idle :=
  members h.grown.2 h.classes.2 h.tokens h.last

end Idle

end Value

/-! ### Tokens that were dressed -/

namespace Dressing

variable {file : Option Text} {fs : List Fed} {ts : List Token}

theorem Apart.isInserted (h : Apart fs) {k : Kind} (hk : .inserted k ∈ fs) :
    Repair.isInserted k = true := by
  induction fs with
  | nil => cases hk
  | cons f fs ih =>
    cases f with
    | inserted j =>
      rcases List.mem_cons.1 hk with heq | hk
      · cases heq
        exact h.1
      · exact ih h.2.2 hk
    | read l =>
      rcases List.mem_cons.1 hk with heq | hk
      · cases heq
      · exact ih h hk

/-- The first token that is there is that of the first lexeme. -/
theorem firstPresent_wears (h : List.Forall₂ (Wears file) fs ts)
    (hspells : ∀ l ∈ reads fs, Lexeme.Spells l.kind l.text) :
    ∀ u ∈ Token.firstPresent ts, ∃ l ∈ (reads fs).head?, u.kind = l.kind := by
  induction h with
  | nil => exact fun u hu => by cases hu
  | @cons f t fs ts hf _ ih =>
    cases hf with
    | @inserted k _ h =>
      have hmissing : t.missing = true := congrArg Token.missing h
      rw [Token.firstPresent, List.find?_cons_of_neg (by simp [hmissing])]
      exact ih hspells
    | @read l _ s hs h hspan =>
      rw [reads_read] at hspells ⊢
      have hbares := token?_bares (hspells l List.mem_cons_self) hs
      have hmissing : t.missing = false := (congrArg Token.missing h).trans hbares.missing
      rw [Token.firstPresent, List.find?_cons_of_pos (by simp [hmissing])]
      intro u hu
      obtain rfl : t = u := Option.some.inj hu
      exact ⟨l, rfl, (congrArg Token.kind h).trans hbares.kind⟩

/-- What keeps apart when it is fed keeps apart when it is dressed. -/
theorem Apart.tokens (h : Apart fs) (hwears : List.Forall₂ (Wears file) fs ts)
    (hspells : ∀ l ∈ reads fs, Lexeme.Spells l.kind l.text) : Token.Apart ts := by
  induction hwears with
  | nil => trivial
  | @cons f t fs ts hf hts ih =>
    cases hf with
    | @inserted k _ hcore =>
      refine ⟨fun _ u hu => ?_, ih h.2.2 hspells⟩
      obtain ⟨l, hl, hkind⟩ := firstPresent_wears hts hspells u hu
      rw [show t.kind = k from congrArg Token.kind hcore, hkind]
      exact h.2.1 l hl
    | @read l _ s hs hcore hspan =>
      rw [reads_read] at hspells
      obtain ⟨hl, hspells⟩ := List.forall_mem_cons.1 hspells
      have hmissing : t.missing = false :=
        (congrArg Token.missing hcore).trans (token?_bares hl hs).missing
      exact ⟨fun htrue => absurd htrue (by simp [hmissing]), ih h hspells⟩

end Dressing

/-! ### Trees -/

section Trees

variable {source : Text} {c : Context} {file : Option Text} {p : Parsed} {ls : List Lexeme}
  {r : Repair.Run} {tokens : List Token} {eof : List Trivia}

/-- The tokens of a text of which something was read. -/
theorem tokens_mended (hls : Lexeme.scan? source = some ls) (hr : Repair.run? c ls = some r)
    (hdress : dress file c (Gap.scan source (skipped r.steps)) source.length r.fed
      = some (tokens, eof)) (hreads : reads r.fed ≠ []) :
    (∀ t ∈ tokens, t.Mended) ∧ Token.Apart tokens := by
  have htiles := dress_run hls hr hdress
  have hend := kind_ne_end hr htiles.kinds
  have hlexemes : ∀ l ∈ reads r.fed, Lexeme.IsLexeme l.kind l.text := fun l hl =>
    (Lexeme.scan?_iff.1 hls).isLexeme l ((reads_sublist hr).subset hl)
  have hspells := fun l hl => (hlexemes l hl).spells
  have hapart := Repair.run?_apart hr
  refine ⟨fun t ht => ?_, hapart.tokens (dress_wears hdress) hspells⟩
  cases dress_origin hdress t ht with
  | @inserted k hk hcore hlead htrail =>
    have hkind : t.kind = k := congrArg Token.kind hcore
    refine .missing ⟨⟨congrArg Token.missing hcore, congrArg Token.text hcore, hlead⟩, ?_⟩ ?_ (hend t ht)
    · exact htrail.resolve_right hreads
    · exact hkind ▸ hapart.isInserted hk
  | @read l s hl hs hcore =>
    have hbares := token?_bares (hspells l hl) hs
    have hkind : t.kind = l.kind := (congrArg Token.kind hcore).trans hbares.kind
    have htext : t.text = l.text := (congrArg Token.text hcore).trans hbares.text
    have hlexeme : Lexeme.IsLexeme t.kind t.text := by
      rw [hkind, htext]
      exact hlexemes l hl
    obtain ⟨d, rest, hd, hgap, -⟩ := hlexeme.starts
    exact .read ⟨htiles.dressed t ht, (congrArg Token.missing hcore).trans hbares.missing,
      .inr ⟨d, rest, hd, hgap⟩⟩ hlexeme (hend t ht)

/-- The end of the file is a whole token. -/
theorem endOfFile_whole (heof : ∀ c ∈ eof, c.Scanned) :
    (Parsed.endOfFile file source eof).Whole :=
  ⟨⟨.fixed rfl, heof, by simp [Parsed.endOfFile]⟩, rfl, .inl rfl⟩

/-- Only the root can be a unit. -/
theorem starts_all {v : Value} (htype : v.isNodeOf c.type = true) (hgrown : v.All Grows)
    (hroot : ∀ vs, v = .node .compilationUnit vs → Value.Starts .compilationUnit vs) :
    v.All Value.Starts := by
  have hinner : ∀ w : Value, w.Plain → w.All Grows
      → InnerAll Value.Starts w ∧ ∀ u ∈ w.children, InnerAll Value.Starts u := by
    intro w hw hgrown
    refine innerAll (T := fun _ => True) (fun {d vs} _ hd _ hunit => ?_) w hw hgrown fun _ _ => trivial
    subst hunit
    cases hd
  cases v with
  | node d vs =>
    have hplain : (Value.node d vs).Plain := trivial
    by_cases hd : isInner d = true
    · exact (hinner _ hplain hgrown).1 d vs rfl hd
    · obtain rfl : d = .compilationUnit := by
        have hholds : c.type.holds d = true := htype
        cases c with
        | unit => exact of_decide_eq_true hholds
        | _ => exact absurd (isInner_of_holds (by decide) hholds) hd
      refine Value.all_node.2 ⟨hroot vs rfl, hgrown.1.all fun w hw => ?_⟩
      exact hinner w (plain_children hplain hgrown hw) (hgrown.children w hw)
  | _ => exact absurd htype Bool.false_ne_true

/-- What is read from a unit, or from a text of which something was read. -/
theorem root_mended (h : parsePure? source c file = some p) (hls : Lexeme.scan? source = some ls)
    (hr : Repair.run? c ls = some r) (hread : c = .unit ∨ reads r.fed ≠ []) : p.root.Mended := by
  obtain ⟨ls', r', tokens, eof, hls', hr', hdress, hleaves, -⟩ := parsePure?_report h
  cases hls.symm.trans hls'
  cases hr.symm.trans hr'
  have hfrom := parsePure?_readFrom h
  have htiles := dress_run hls hr hdress
  have hend := kind_ne_end hr htiles.kinds
  have heof : (Parsed.endOfFile file source eof).Whole := endOfFile_whole htiles.eof_scanned
  by_cases hreads : reads r.fed = []
  · -- Nothing was read from a unit, so nothing was inserted.
    obtain rfl : c = .unit := hread.resolve_right (not_not_intro hreads)
    obtain ⟨hempty, hfed⟩ := Repair.run?_of_reads hr hreads
    have hfinal : r.final = [] := by
      have hnone : (Repair.run? .unit []).map (·.final) = some [] := by decide +kernel
      rw [hempty] at hnone
      exact Option.some.inj hnone
    rw [hfed, hfinal] at hdress
    cases hdress
    have hroot : p.root.leaves
        = [Parsed.endOfFile file source (Gap.scan source (skipped r.steps) 0 source.length)] :=
      (hleaves.resolve_left fun h => h.2 rfl).1
    refine ⟨hfrom.grown, starts_all hfrom.type hfrom.grown fun vs hvs _ => ?_, ?_, ?_⟩
    · rw [show Value.leavesList vs = p.root.leaves by rw [hvs]; rfl, hroot]
      exact fun _ => List.forall_mem_singleton.2 rfl
    · rw [hroot]
      exact List.forall_mem_singleton.2 (.ending heof rfl)
    · rw [hroot]
      exact ⟨fun h => (by cases h), trivial⟩
  · obtain ⟨htokens, hapart⟩ := tokens_mended hls hr hdress hreads
    obtain ⟨t, ht, hpresent⟩ : ∃ t ∈ tokens, t.missing = false := by
      have hlen := (reads_tokens (dress_wears hdress)
        (fun l hl => Lexeme.scan?_spelled hls l ((reads_sublist hr).subset hl)) hend).length_eq
      obtain ⟨t, ht⟩ := List.exists_mem_of_length_pos
        (hlen ▸ List.length_pos_of_ne_nil hreads)
      obtain ⟨hmem, hisRead⟩ := List.mem_filter.1 ht
      simp only [Token.isRead, Bool.and_eq_true, Bool.not_eq_true'] at hisRead
      exact ⟨t, hmem, hisRead.1⟩
    have hsub : ∀ t ∈ tokens, t ∈ p.root.leaves := by
      intro t ht
      rcases hleaves with ⟨hroot, -⟩ | ⟨hroot, -⟩
      · exact hroot ▸ ht
      · exact hroot ▸ List.mem_append_left _ ht
    refine ⟨hfrom.grown, starts_all hfrom.type hfrom.grown fun vs hvs _ hall => ?_, ?_, ?_⟩
    · have hmem := hsub t ht
      rw [hvs] at hmem
      rcases hall t hmem with hmissing | hkind
      · rw [hpresent] at hmissing
        cases hmissing
      · exact absurd hkind (hend t ht)
    · rcases hleaves with ⟨hroot, -⟩ | ⟨hroot, -⟩
      · rwa [hroot]
      · rw [hroot]
        exact List.forall_mem_append.2 ⟨htokens, List.forall_mem_singleton.2 (.ending heof rfl)⟩
    · rcases hleaves with ⟨hroot, -⟩ | ⟨hroot, -⟩
      · rwa [hroot]
      · rw [hroot]
        exact hapart.concat hend

/-! ### Texts of which nothing was read -/

/-- The tree that is inserted for a text, if it has the classes of one. -/
def isSpare : Value → Bool
  | .node .identifierName [.token _] => true
  | .node .expressionStatement [.node .identifierName [.token _], .token _] => true
  | .node .constDeclaration [.token _, .token _, .token _, .node .identifierName [.token _],
      .token _, .node .identifierName [.token _], .token _] => true
  | _ => false

theorem run?_nil (hc : c ≠ .unit) :
    ((Repair.run? c []).all fun r => isSpare r.tree) = true := by
  cases c with
  | unit => exact absurd rfl hc
  | _ => decide +kernel

theorem isSpare_classes {v : Value} (h : isSpare v = true) :
    v.All fun c _ => c ∈ Value.idleClasses := by
  unfold isSpare at h
  split at h
  · simp [Value.All, Value.AllList, Value.idleClasses]
  · simp [Value.All, Value.AllList, Value.idleClasses]
  · simp [Value.All, Value.AllList, Value.idleClasses]
  · cases h

/-- Only the last of the inserted tokens has trivia. -/
theorem dress_inserted {gaps : Gaps} {stop : Nat} (hc : c ≠ .unit) {ks : List Kind}
    {ts : List Token} (h : dress file c gaps stop (ks.map .inserted) = some (ts, eof)) :
    ∀ us t vs, ts = us ++ t :: vs → vs ≠ [] → t.Hollow := by
  induction ks generalizing ts eof with
  | nil =>
    cases h
    intro us t vs heq
    exact absurd heq (by simp)
  | cons k ks ih =>
    cases ks with
    | nil =>
      simp only [List.map_cons, List.map_nil, dress, hc, if_false, Option.some.injEq,
        Prod.mk.injEq] at h
      intro us t vs heq hvs
      have hlen := congrArg List.length (h.1.trans heq)
      have := List.length_pos_of_ne_nil hvs
      simp only [List.length_cons, List.length_nil, List.length_append] at hlen
      omega
    | cons j ks =>
      obtain ⟨⟨ts', eof'⟩, hrest, heq⟩ := Option.map_eq_some_iff.1 h
      cases heq
      intro us t vs heq hvs
      cases us with
      | nil =>
        obtain ⟨rfl, -⟩ := List.cons.inj heq
        exact ⟨⟨rfl, rfl, rfl⟩, rfl⟩
      | cons u us => exact ih hrest us t vs (List.cons.inj heq).2 hvs

/-- What is read from a text of which nothing was read. -/
theorem root_idle (h : parsePure? source c file = some p) (hr : Repair.run? c ls = some r)
    (hls : Lexeme.scan? source = some ls) (hc : c ≠ .unit) (hreads : reads r.fed = []) :
    p.root.Idle := by
  obtain ⟨ls', r', tokens, eof, hls', hr', hdress, hroot⟩ := parsePure?_steps h
  cases hls.symm.trans hls'
  cases hr.symm.trans hr'
  rw [close_of_ne_unit hc] at hroot
  have hfrom := parsePure?_readFrom h
  have htiles := dress_run hls hr hdress
  have hleaves : p.root.leaves = tokens := by
    rw [hroot]
    exact (refill_run hr htiles.kinds).2.2
  obtain ⟨hempty, hfed⟩ := Repair.run?_of_reads hr hreads
  have hspare : isSpare r.tree = true := by
    have hnil := run?_nil hc
    rwa [hempty] at hnil
  refine ⟨hfrom.grown, ?_, fun t ht => ?_, fun ts t us heq hus => ?_⟩
  · -- Refilling keeps the classes.
    have hyields := (Repair.run?_yields hr).grown.2.2
    rw [Value.leavesList_cons, Value.leavesList_nil, List.append_nil] at hyields
    have hkinds : Value.kinds tokens = Value.kinds r.tree.leaves := by
      rw [hyields]
      exact htiles.kinds
    have halike := (Value.refill_of_kinds hkinds).1
    rw [hroot]
    exact Alike.all (fun _ _ _ _ h => h) _ _ halike (isSpare_classes hspare)
  · rw [hleaves] at ht
    cases dress_origin hdress t ht with
    | inserted hk hcore hlead _ =>
      exact ⟨⟨congrArg Token.missing hcore, congrArg Token.text hcore, hlead⟩, htiles.dressed t ht⟩
    | read hl => rw [hreads] at hl; cases hl
  · rw [hfed] at hdress
    exact dress_inserted hc hdress ts t us (hleaves ▸ heq) hus

/-- **Trees of repaired texts.**  Either something was read, or the text is a unit, and each token was
read or is missing without trivia; or the tree is one of a few, and only its last token has
trivia. -/
theorem parsePure?_mended (h : parsePure? source c file = some p) : p.root.Mended ∨ p.root.Idle := by
  obtain ⟨ls, r, -, -, hls, hr, -⟩ := parsePure?_steps h
  by_cases hreads : reads r.fed = []
  · by_cases hc : c = .unit
    · exact .inl (root_mended h hls hr (.inl hc))
    · exact .inr (root_idle h hr hls hc hreads)
  · exact .inl (root_mended h hls hr (.inr hreads))

end Trees

end TreeQuote
