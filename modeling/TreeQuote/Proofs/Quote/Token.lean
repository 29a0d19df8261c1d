/-
TreeQuote/Proofs/Quote/Token.lean

Quoting and evaluation of trivia and tokens.  The call for a token builds the token again,
without its span and with the trivia that the options keep (`Token.reduced`): all of them, or
under default formatting only comments and skipped text.

What the calls for tokens are made of is said once (`Inherits`).

Main statements: `Quote.eval_quoteTriviaList`, `Quote.eval_quoteToken` and
`Quote.Inherits.quoteToken`.
-/
import TreeQuote.Proofs.Evaluate.Call
import TreeQuote.Quote.Quoter

namespace TreeQuote

/-- The trivia that quoting keeps. -/
def Options.keep (o : Options) (ts : List Trivia) : List Trivia :=
  if o.defaultFormatting then Layout.kept ts else ts

/-- The token that a quoted token evaluates to. -/
def Token.reduced (o : Options) (t : Token) : Token :=
  t.core.withTrivia (o.keep t.leading) (o.keep t.trailing)

namespace Quote

open Evaluate

/-! ### Lists -/

/-- A list call builds what its factory makes of one member, or of an array of several. -/
theorem eval_listCall {name : Text} {cs : List Call} {vs : List Value} {v : Value}
    (hcs : evalList .standard cs = .ok vs)
    (hone : ∀ w, vs = [w] → call .standard name [w] [] = .ok v)
    (hmany : 2 ≤ vs.length → call .standard name [.array vs] [] = .ok v) :
    (vs = [] ∧ listCall name cs = none)
      ∨ vs ≠ [] ∧ ∃ c, listCall name cs = some c ∧ eval .standard c = .ok v := by
  rcases cs with _ | ⟨c, _ | ⟨d, cs⟩⟩
  · rw [evalList, Except.ok.injEq] at hcs
    exact .inl ⟨hcs.symm, rfl⟩
  · right
    obtain ⟨w, ws, hw, hws, rfl⟩ := evalList_cons_eq_ok hcs
    rw [evalList, Except.ok.injEq] at hws
    subst hws
    exact ⟨List.cons_ne_nil _ _, _, rfl, eval_factory hcs (hone w rfl)⟩
  · right
    obtain ⟨w, ws, -, hws, rfl⟩ := evalList_cons_eq_ok hcs
    obtain ⟨u, us, -, -, rfl⟩ := evalList_cons_eq_ok hws
    refine ⟨List.cons_ne_nil _ _, _, rfl, eval_factory (evalList_cons ?_ rfl) (hmany (by simp))⟩
    rw [eval, hcs]
    rfl

/-! ### Trivia -/

section Trivia

/-- A call of a factory of trivia or tokens, at position `i`, builds what the overloads build. -/
theorem call_leaf {f : Factory} {args : List Value} {v : Value} (i : Nat)
    (hf : (Catalogue.triviaFactories ++ Catalogue.tokenFactories)[i]? = some f)
    (hbuild : Factory.build? args [] f.overloads = .ok (some (.ok v))) :
    call .standard f.name args [] = .ok v := call_language (Registry.leaf_mem i hf) hbuild

/-- The call of a factory of trivia that takes a text. -/
theorem eval_ofTextFactory {name : String} {recipe : Recipe} {t : Text} {v : Value} (i : Nat)
    (hf : (Catalogue.triviaFactories ++ Catalogue.tokenFactories)[i]?
      = some (Catalogue.node name [⟨[Catalogue.req "text" .text], .trivia, recipe⟩]))
    (ht : t.Unmixed) (hrun : recipe.run [.str t] = .ok v) :
    eval .standard (Call.plain name [.ofText t]) = .ok v := by
  refine eval_factory (evalList_cons (eval_ofText ht) rfl) (call_leaf i hf ?_)
  show (Except.ok (some (recipe.run [.str t])) : Except OutOfRange _) = _
  rw [hrun]

theorem reference_constant :
    ∀ p ∈ Catalogue.constants, reference .standard p.1 = .ok (.trivia p.2) := by
  simp only [Catalogue.constants, List.forall_mem_cons]
  refine ⟨rfl, rfl, rfl, rfl, rfl, ?_⟩
  simp

/-- A trivia with a name is written by its name. -/
theorem eval_constantName {t : Trivia} {n : Text}
    (h : Registry.standard.constantName? t = some n) : eval .standard (.ref n) = .ok (.trivia t) := by
  rw [Registry.constantName?, Registry.standard_constants, Option.map_eq_some_iff] at h
  obtain ⟨p, hp, rfl⟩ := h
  have ht : p.2 = t := by simpa using List.find?_some hp
  rw [eval, reference_constant p (List.mem_of_find?_eq_some hp), ht]

theorem producing_documentation : Registry.standard.producing (.cls .documentationComment)
    = [⟨Catalogue.node "documentation_comment"
          [Catalogue.makes .documentationComment [Catalogue.req "content" .text] [.argument 0]],
        Catalogue.makes .documentationComment [Catalogue.req "content" .text] [.argument 0]⟩] := by
  rw [Registry.producing, Registry.makers_standard]
  rfl

theorem quoteDocumentation_eq (content : Text) : quoteDocumentation .standard content
    = .ok (Call.plain "documentation_comment" [.ofText content]) := by
  rw [quoteDocumentation, quoteClass, producing_documentation]
  rfl

theorem eval_documentation {content : Text} (h : content.Unmixed) :
    eval .standard (Call.plain "documentation_comment" [.ofText content])
      = .ok (.documentation content) := by
  refine eval_factory (evalList_cons (eval_ofText h) rfl) ?_
  exact call_leaf 4 rfl rfl

theorem unmixed_of_append {s t : Text} (h : Text.Unmixed (s ++ t)) : t.Unmixed := by
  intro hs c hc
  refine h ?_ c (List.mem_append_right s hc)
  rw [List.any_append, hs, Bool.or_true]

/-- A comment is told from its first two characters. -/
theorem commentOf_built {t : Trivia} (h : t.Built) (hc : t.kind = .singleLineCommentTrivia
    ∨ t.kind = .multiLineCommentTrivia) : Recipe.commentOf t.text = .ok (.trivia t) := by
  cases h with
  | lineComment t h =>
    have hblock : (Text.of "/*").isPrefixOf t = false := by
      obtain ⟨rest, rfl⟩ := h
      rfl
    have hline : (Text.of "//").isPrefixOf t = true := List.isPrefixOf_iff_prefix.mpr h
    rw [Recipe.commentOf, hblock, hline]
    rfl
  | blockComment t h =>
    have hblock : (Text.of "/*").isPrefixOf t = true := List.isPrefixOf_iff_prefix.mpr h
    rw [Recipe.commentOf, hblock]
    rfl
  | _ => simp [Trivia.whitespace, Trivia.endOfLine, Trivia.skipped, Trivia.documentation] at hc

variable {o : Options}

/-- A trivia that is kept is built again. -/
theorem eval_quoteTrivia {t : Trivia} (h : t.WellFormed)
    (hkeep : (o.defaultFormatting && t.isWhitespace) = false) :
    ∃ c, quoteTrivia .standard o t = .ok (some c) ∧ eval .standard c = .ok (.trivia t) := by
  have hflaw : (t.flaw = some .isToken || t.flaw = some .noText) = false := by
    rw [h.built.flaw]
    rfl
  rw [quoteTrivia, if_neg (by rw [hflaw]; decide), if_neg (by rw [hkeep]; decide)]
  cases hn : Registry.standard.constantName? t with
  | some n => exact ⟨.ref n, rfl, eval_constantName hn⟩
  | none =>
    have hunmixed := h.unmixed
    have hcomment := commentOf_built h.built
    cases h.built with
    | whitespace t =>
      exact ⟨_, rfl, eval_ofTextFactory 0 rfl hunmixed rfl⟩
    | endOfLine t =>
      exact ⟨_, rfl, eval_ofTextFactory 1 rfl hunmixed rfl⟩
    | skipped t =>
      exact ⟨_, rfl, eval_ofTextFactory 3 rfl hunmixed rfl⟩
    | lineComment t ht =>
      exact ⟨_, rfl, eval_ofTextFactory 2 rfl hunmixed (hcomment (.inl rfl))⟩
    | blockComment t ht =>
      exact ⟨_, rfl, eval_ofTextFactory 2 rfl hunmixed (hcomment (.inr rfl))⟩
    | documentation content =>
      have hcontent : content.Unmixed := unmixed_of_append hunmixed
      refine ⟨Call.plain "trivia" [Call.plain "documentation_comment" [.ofText content]], ?_, ?_⟩
      · simp only [Trivia.documentation, quoteDocumentation_eq]
        rfl
      · refine eval_factory (evalList_cons (eval_documentation hcontent) rfl) ?_
        exact call_leaf 5 rfl rfl

/-- Only white space is left out, and only under default formatting. -/
theorem quoteTrivia_none {t : Trivia} (h : t.WellFormed)
    (hdrop : (o.defaultFormatting && t.isWhitespace) = true) :
    quoteTrivia .standard o t = .ok none := by
  have hflaw : (t.flaw = some .isToken || t.flaw = some .noText) = false := by
    rw [h.built.flaw]
    rfl
  rw [quoteTrivia, if_neg (by rw [hflaw]; decide), if_pos hdrop]

theorem keep_cons (t : Trivia) (ts : List Trivia) : o.keep (t :: ts)
    = if o.defaultFormatting && t.isWhitespace then o.keep ts else t :: o.keep ts := by
  simp only [Options.keep, Layout.kept]
  cases o.defaultFormatting with
  | false => rfl
  | true => cases ht : t.isWhitespace <;> simp [ht]

theorem evalList_quoteEach {ts : List Trivia} (h : ∀ t ∈ ts, t.WellFormed) :
    ∃ cs, quoteEach (quoteTrivia .standard o) ts = .ok cs
      ∧ evalList .standard cs = .ok ((o.keep ts).map .trivia) := by
  induction ts with
  | nil =>
    refine ⟨[], rfl, ?_⟩
    rw [Options.keep, Layout.kept]
    split <;> rfl
  | cons t ts ih =>
    obtain ⟨cs, hcs, heval⟩ := ih fun u hu => h u (List.mem_cons_of_mem t hu)
    have ht := h t List.mem_cons_self
    rw [quoteEach, keep_cons]
    cases hk : (o.defaultFormatting && t.isWhitespace) with
    | true =>
      rw [quoteTrivia_none ht hk]
      exact ⟨cs, hcs, heval⟩
    | false =>
      obtain ⟨c, hc, hceval⟩ := eval_quoteTrivia ht hk
      rw [hc]
      refine ⟨c :: cs, ?_, evalList_cons hceval heval⟩
      show (do return c :: (← quoteEach (quoteTrivia .standard o) ts)) = _
      rw [hcs]
      rfl

theorem call_triviaList (ts : List Trivia) :
    call .standard (Text.of "trivia_list") [.array (ts.map .trivia)] [] = .ok (.triviaList ts) := by
  refine call_leaf 6 rfl ?_
  have hrun : Recipe.triviaList.run [.array (ts.map .trivia)] = .ok (.triviaList ts) := by
    simp [Recipe.run, Recipe.spread, List.filterMap_map]
  -- The array is no trivia, so only the last overload takes it.
  have haccept : (Shape.sequence .trivia).accept (.array (ts.map .trivia))
      = .ok (some (.array (ts.map .trivia))) := by
    refine Shape.accept_sequence fun v hv => ?_
    obtain ⟨t, -, rfl⟩ := List.mem_map.mp hv
    rfl
  have hbind : Overload.bind? ⟨[Catalogue.req "trivia" (.sequence .trivia)], .triviaList, .triviaList⟩
      [.array (ts.map .trivia)] [] = .ok (some [.array (ts.map .trivia)]) :=
    Overload.bind?_one rfl haccept
  refine (@Factory.build?_accept _ _ _ [] _ hbind).trans ?_
  rw [hrun]

/-- What is written for a side of a token: nothing for no trivia. -/
def WritesSide (q : Option Call) (ts : List Trivia) : Prop :=
  (q = none ∧ ts = []) ∨ ∃ c, q = some c ∧ ts ≠ [] ∧ eval .standard c = .ok (.triviaList ts)

/-- The list of trivia is built again, without what is left out. -/
theorem eval_quoteTriviaList {ts : List Trivia} (h : ∀ t ∈ ts, t.WellFormed) :
    ∃ q, quoteTriviaList .standard o ts = .ok q ∧ WritesSide q (o.keep ts) := by
  obtain ⟨cs, hcs, heval⟩ := evalList_quoteEach (o := o) h
  have hlist : quoteTriviaList .standard o ts = .ok (listCall (Text.of "trivia_list") cs) := by
    rw [quoteTriviaList, hcs]
    rfl
  have hone : ∀ w, (o.keep ts).map Value.trivia = [w]
      → call .standard (Text.of "trivia_list") [w] [] = .ok (.triviaList (o.keep ts)) := by
    intro w hw
    obtain ⟨t, ht, rfl⟩ := List.map_eq_singleton_iff.mp hw
    rw [ht]
    exact call_leaf 6 rfl rfl
  refine ⟨_, hlist, ?_⟩
  rcases eval_listCall heval hone fun _ => call_triviaList (o.keep ts) with
    ⟨hnil, hnone⟩ | ⟨hne, c, hsome, hc⟩
  · exact .inl ⟨hnone, List.map_eq_nil_iff.mp hnil⟩
  · exact .inr ⟨c, hsome, mt List.map_eq_nil_iff.mpr hne, hc⟩

end Trivia

/-! ### Tokens -/

section Tokens

variable {o : Options} {t : Token}

/-- What the arguments of a token between its trivia evaluate to. -/
def surroundedBy (leading trailing : List Trivia) (vs : List Value) : List Value :=
  if leading = [] ∧ trailing = [] then vs
  else .triviaList leading :: vs ++ [.triviaList trailing]

theorem eval_noTrivia : eval .standard (Call.plain "trivia_list" []) = .ok (.triviaList []) :=
  eval_factory rfl (call_leaf 6 rfl rfl)

theorem WritesSide.eval {q : Option Call} {ts : List Trivia} (h : WritesSide q ts) :
    Evaluate.eval .standard (q.getD (Call.plain "trivia_list" [])) = .ok (.triviaList ts) := by
  rcases h with ⟨rfl, rfl⟩ | ⟨c, rfl, -, hc⟩
  · exact eval_noTrivia
  · exact hc

theorem evalList_surround {l r : Option Call} {ls rs : List Trivia} {cs : List Call}
    {vs : List Value} (hl : WritesSide l ls) (hr : WritesSide r rs)
    (hcs : evalList .standard cs = .ok vs) :
    evalList .standard (surround l r cs) = .ok (surroundedBy ls rs vs) := by
  have hboth : evalList .standard (l.getD (.plain "trivia_list" []) :: cs
      ++ [r.getD (.plain "trivia_list" [])]) = .ok (.triviaList ls :: vs ++ [.triviaList rs]) :=
    evalList_append (evalList_cons hl.eval hcs) (evalList_cons hr.eval rfl)
  rcases hl with ⟨rfl, rfl⟩ | ⟨a, rfl, ha, -⟩
  · rcases hr with ⟨rfl, rfl⟩ | ⟨b, rfl, hb, -⟩
    · exact hcs
    · rw [surroundedBy, if_neg (by simp [hb])]
      exact hboth
  · rw [surroundedBy, if_neg (by simp [ha])]
    exact hboth

theorem tokenOf_fixed {k : Kind} (hk : k ≠ .none) (h : Token.fixed? k = some t)
    (ls rs : List Trivia) : Recipe.tokenOf k ls rs = .ok (.token (t.withTrivia ls rs)) := by
  rw [Recipe.tokenOf, if_neg hk, h]

theorem call_token {k : Kind} (hk : k ≠ .none) (h : Token.fixed? k = some t) (ls rs : List Trivia) :
    call .standard (Text.of "token") (surroundedBy ls rs [.kind k]) []
      = .ok (.token (t.withTrivia ls rs)) := by
  have hbuild : ∀ ls rs, (Except.ok (some (Recipe.tokenOf k ls rs)) : Except OutOfRange _)
      = .ok (some (.ok (.token (t.withTrivia ls rs)))) := by
    intro ls rs
    rw [tokenOf_fixed hk h]
  rw [surroundedBy]
  split
  · next hnil =>
    obtain ⟨rfl, rfl⟩ := hnil
    exact call_leaf 7 rfl (hbuild [] [])
  · exact call_leaf 7 rfl (hbuild ls rs)

theorem call_missing (k : Kind) (ls rs : List Trivia) :
    call .standard (Text.of "missing_token") (surroundedBy ls rs [.kind k]) []
      = .ok (.token ((Token.missingOf k).withTrivia ls rs)) := by
  rw [surroundedBy]
  split
  · next hnil =>
    obtain ⟨rfl, rfl⟩ := hnil
    exact call_leaf 8 rfl rfl
  · exact call_leaf 8 rfl rfl

theorem call_identifier (text : Text) (ls rs : List Trivia) :
    call .standard (Text.of "identifier") (surroundedBy ls rs [.str text]) []
      = .ok (.token ((Token.identifier text).withTrivia ls rs)) := by
  rw [surroundedBy]
  split
  · next hnil =>
    obtain ⟨rfl, rfl⟩ := hnil
    exact call_leaf 9 rfl rfl
  · exact call_leaf 9 rfl rfl

/-- A literal is built from its text and its value. -/
theorem call_literal {text : Text} {s : Scalar} (h : Token.literal? text s = some t)
    (ls rs : List Trivia) : call .standard (Text.of "literal")
      (surroundedBy ls rs [.str text, .scalar s]) [] = .ok (.token (t.withTrivia ls rs)) := by
  have hbuild : ∀ ls rs, (Except.ok (some (Except.ok (Value.token
      (((Token.literal? text s).getD .absent).withTrivia ls rs)))) :
        Except OutOfRange (Option (Except BuildError Value)))
      = .ok (some (.ok (.token (t.withTrivia ls rs)))) := by
    intro ls rs
    rw [h]
    rfl
  rw [surroundedBy]
  -- The shape of the value says which overload takes it.
  split
  · next hnil =>
    obtain ⟨rfl, rfl⟩ := hnil
    cases s with
    | int n => exact call_leaf 10 rfl (hbuild [] [])
    | float x => exact call_leaf 10 rfl (hbuild [] [])
    | str u => exact call_leaf 10 rfl (hbuild [] [])
    | none => cases h
    | bool b => cases h
  · cases s with
    | int n => exact call_leaf 10 rfl (hbuild ls rs)
    | float x => exact call_leaf 10 rfl (hbuild ls rs)
    | str u => exact call_leaf 10 rfl (hbuild ls rs)
    | none => cases h
    | bool b => cases h

/-- A literal with its canonical text is built from its value alone. -/
theorem call_canonical {text : Text} {s : Scalar} (hrender : Literal.render? s = some text)
    (h : Token.literal? text s = some t) :
    call .standard (Text.of "literal") [.scalar s] [] = .ok (.token (t.withTrivia [] [])) := by
  have hof : Recipe.literalOf [.scalar s] = .ok t := by
    simp only [Recipe.literalOf, hrender, h, Option.getD_some]
  have hbuild : (Except.ok (some (Recipe.literal.run [.scalar s])) : Except OutOfRange _)
      = .ok (some (.ok (.token (t.withTrivia [] [])))) := by
    rw [Recipe.run]
    simp only [Recipe.surrounded, hof]
    rfl
  cases s with
  | int n =>
    exact call_leaf 10 rfl ((Factory.build?_accept (Overload.bind?_one rfl rfl)).trans hbuild)
  | float x =>
    exact call_leaf 10 rfl ((Factory.build?_reject rfl).trans
      ((Factory.build?_accept (Overload.bind?_one rfl rfl)).trans hbuild))
  | str u =>
    exact call_leaf 10 rfl ((Factory.build?_reject rfl).trans ((Factory.build?_reject rfl).trans
      ((Factory.build?_accept (Overload.bind?_one rfl rfl)).trans hbuild)))
  | none => cases h
  | bool b => cases h

theorem render?_writable {s : Scalar} (h : s.Writable) : ∃ text, Literal.render? s = some text := by
  cases s with
  | int n =>
    rw [Scalar.Writable] at h
    exact ⟨Text.decimalInt n, by rw [Literal.render?, Integer.text?, if_pos h]⟩
  | _ => exact ⟨_, rfl⟩

/-- The arguments of a literal build it. -/
theorem eval_literal (hb : Token.literal? t.text t.value = some t.core) (htext : t.text.Unmixed)
    (hvalue : t.value.Writable) {l r : Option Call} {ls rs : List Trivia} (hl : WritesSide l ls)
    (hr : WritesSide r rs) : ∃ args, literalArguments t (l.isSome || r.isSome) = .ok args
      ∧ eval .standard (.plain "literal" (surround l r args)) = .ok (.token (t.core.withTrivia ls rs)) := by
  have hkind : (Token.literalKind? t.value).isSome = true := by
    rw [Token.literal?] at hb
    cases hk : Token.literalKind? t.value with
    | none => rw [hk] at hb; cases hb
    | some k => rfl
  obtain ⟨v, hv, hveval⟩ := eval_ofScalar hvalue hkind
  obtain ⟨text, hrender⟩ := render?_writable hvalue
  have hscalar : quoteScalar t.value = .ok v := by
    rw [quoteScalar, hv]
    rfl
  have hboth : ∀ args, args = [.ofText t.text, v] → eval .standard (.plain "literal" (surround l r args))
      = .ok (.token (t.core.withTrivia ls rs)) := by
    rintro args rfl
    exact eval_factory (evalList_surround hl hr (evalList_cons (eval_ofText htext)
      (evalList_cons hveval rfl))) (call_literal hb ls rs)
  rw [literalArguments, hscalar]
  cases htrivia : l.isSome || r.isSome with
  | true => exact ⟨_, rfl, hboth _ rfl⟩
  | false =>
    rw [Bool.or_eq_false_iff, Option.isSome_eq_false_iff, Option.isSome_eq_false_iff,
      Option.isNone_iff_eq_none, Option.isNone_iff_eq_none] at htrivia
    by_cases hcanonical : text = t.text
    · refine ⟨[v], ?_, ?_⟩
      · simp only [Bool.false_eq_true, if_false, hrender, hcanonical, if_true]
        rfl
      · rcases hl with ⟨rfl, rfl⟩ | ⟨c, rfl, -, -⟩
        · rcases hr with ⟨rfl, rfl⟩ | ⟨d, rfl, -, -⟩
          · exact eval_factory (evalList_cons hveval rfl) (call_canonical (hcanonical ▸ hrender) hb)
          · cases htrivia.2
        · cases htrivia.1
    · refine ⟨[.ofText t.text, v], ?_, hboth _ rfl⟩
      simp only [Bool.false_eq_true, if_false, hrender, hcanonical]
      rfl

/-- The call for a token whose sides are quoted. -/
theorem quoteToken_eq (hpresent : t.kind ≠ .none) {l r : Option Call}
    (hl : quoteTriviaList .standard o t.leading = .ok l)
    (hr : quoteTriviaList .standard o t.trailing = .ok r) :
    quoteToken .standard o t =
      if t.missing then .ok (some (.plain "missing_token" (surround l r [.ofKind t.kind])))
      else match t.kind with
        | .identifierToken => .ok (some (.plain "identifier" (surround l r [.ofText t.text])))
        | .numericLiteralToken | .stringLiteralToken => do
          let args ← literalArguments t (l.isSome || r.isSome)
          return some (.plain "literal" (surround l r args))
        | _ => .ok (some (.plain "token" (surround l r [.ofKind t.kind]))) := by
  have habsent : t.isAbsent = false := by simpa [Token.isAbsent] using hpresent
  rw [quoteToken, tokenCall, habsent, hl, hr]
  rfl

/-- The kinds with a fixed text are neither names nor literals. -/
theorem fixed?_kind {k : Kind} (h : Token.fixed? k = some t) (hk : k ≠ .none) :
    k ≠ .identifierToken ∧ k ≠ .numericLiteralToken ∧ k ≠ .stringLiteralToken
      ∧ t.missing = false := by
  rw [Token.fixed?, if_neg hk, Option.map_eq_some_iff] at h
  obtain ⟨text, htext, rfl⟩ := h
  refine ⟨?_, ?_, ?_, rfl⟩ <;> rintro rfl <;> cases htext

/-- A token is built again, with the trivia that are kept. -/
theorem eval_quoteToken (h : t.WellFormed) :
    ∃ c, quoteToken .standard o t = .ok (some c)
      ∧ eval .standard c = .ok (.token (t.reduced o)) := by
  obtain ⟨l, hl, hls⟩ := eval_quoteTriviaList (o := o) h.leading
  obtain ⟨r, hr, hrs⟩ := eval_quoteTriviaList (o := o) h.trailing
  have hkindCall : evalList .standard [Call.ofKind t.kind] = .ok [.kind t.kind] :=
    evalList_cons (eval_ofKind _ _) rfl
  rw [quoteToken_eq h.present hl hr, Token.reduced]
  cases h.built with
  | fixed hb =>
    obtain ⟨hid, hnum, hstr, hmissing⟩ := fixed?_kind hb h.present
    rw [show t.missing = false from hmissing]
    refine ⟨.plain "token" (surround l r [.ofKind t.kind]), ?_,
      eval_factory (evalList_surround hls hrs hkindCall) (call_token h.present hb _ _)⟩
    split
    · contradiction
    · split <;> first | contradiction | rfl
  | identifier hb =>
    have hmissing : t.missing = false := congrArg Token.missing hb
    have hkind : t.kind = .identifierToken := congrArg Token.kind hb
    rw [hmissing, hkind, hb]
    exact ⟨_, rfl, eval_factory (evalList_surround hls hrs (evalList_cons (eval_ofText h.text) rfl))
      (call_identifier t.text _ _)⟩
  | literal hb =>
    obtain ⟨args, hargs, heval⟩ := eval_literal hb h.text h.value hls hrs
    obtain ⟨k, hk, hcore⟩ := Option.map_eq_some_iff.mp hb
    have hmissing : t.missing = false := (congrArg Token.missing hcore).symm
    have hkind : t.kind = k := (congrArg Token.kind hcore).symm
    refine ⟨_, ?_, heval⟩
    rw [hmissing, hkind, hargs]
    cases hv : t.value with
    | int n => rw [hv] at hk; cases hk; rfl
    | float x => rw [hv] at hk; cases hk; rfl
    | str u => rw [hv] at hk; cases hk; rfl
    | none => rw [hv] at hk; cases hk
    | bool b => rw [hv] at hk; cases hk
  | missing hb =>
    have hmissing : t.missing = true := congrArg Token.missing hb
    rw [hmissing, hb]
    exact ⟨_, rfl, eval_factory (evalList_surround hls hrs hkindCall) (call_missing t.kind _ _)⟩

end Tokens

/-! ### What the calls for tokens are made of -/

/-- A property of calls that the call for a token has if the calls in it have it. -/
structure Inherits (P : Call → Prop) : Prop where
  text {t : Text} : t.Unmixed → P (.ofText t)
  kind (k : Kind) : P (.ofKind k)
  constant {t : Trivia} {n : Text} : Registry.standard.constantName? t = some n → P (.ref n)
  scalar {s : Scalar} {q : Call} : s.Writable → Call.ofScalar s = .ok q → P q
  array {cs : List Call} : (∀ q ∈ cs, P q) → P (.array cs)
  factory {f : Factory} {cs : List Call} : f ∈ Registry.language → (∀ q ∈ cs, P q)
    → P (.factory f.name cs [] [])

namespace Inherits

variable {P : Call → Prop} (hP : Inherits P) {o : Options}

theorem one {q : Call} (h : P q) : ∀ d ∈ [q], P d := List.forall_mem_singleton.mpr h

include hP

/-- A call of a factory of trivia or tokens, at position `i`. -/
theorem leaf {f : Factory} {cs : List Call} (i : Nat)
    (hf : (Catalogue.triviaFactories ++ Catalogue.tokenFactories)[i]? = some f)
    (h : ∀ q ∈ cs, P q) : P (.factory f.name cs [] []) := hP.factory (Registry.leaf_mem i hf) h

theorem quoteTrivia {t : Trivia} {q : Call} (ht : t.WellFormed)
    (h : Quote.quoteTrivia .standard o t = .ok (some q)) : P q := by
  unfold Quote.quoteTrivia at h
  split at h
  · cases h
  split at h
  · cases h
  split at h
  · next n hn =>
    cases h
    exact hP.constant hn
  have hunmixed := ht.unmixed
  cases ht.built with
  | whitespace t => cases h; exact hP.leaf 0 rfl (one (hP.text hunmixed))
  | endOfLine t => cases h; exact hP.leaf 1 rfl (one (hP.text hunmixed))
  | skipped t => cases h; exact hP.leaf 3 rfl (one (hP.text hunmixed))
  | lineComment t => cases h; exact hP.leaf 2 rfl (one (hP.text hunmixed))
  | blockComment t => cases h; exact hP.leaf 2 rfl (one (hP.text hunmixed))
  | documentation content =>
    simp only [Trivia.documentation, quoteDocumentation_eq] at h
    cases h
    exact hP.leaf 5 rfl (one (hP.leaf 4 rfl (one (hP.text (unmixed_of_append hunmixed)))))

omit hP in
theorem quoteEach {α : Type} {f : α → Except Error (Option Call)} {as : List α} {cs : List Call}
    (hf : ∀ a ∈ as, ∀ q, f a = .ok (some q) → P q) (h : Quote.quoteEach f as = .ok cs) :
    ∀ q ∈ cs, P q := by
  induction as generalizing cs with
  | nil =>
    cases h
    exact List.forall_mem_nil _
  | cons a as ih =>
    rw [Quote.quoteEach] at h
    obtain ⟨q, hq, h⟩ := bind_eq_ok.mp h
    have hrest := fun b hb => hf b (List.mem_cons_of_mem a hb)
    cases q with
    | none => exact ih hrest h
    | some q =>
      obtain ⟨ds, hds, h⟩ := bind_eq_ok.mp h
      cases h
      exact List.forall_mem_cons.mpr ⟨hf a List.mem_cons_self q hq, ih hrest hds⟩

theorem listCall {f : Factory} {cs : List Call} {q : Call} (hf : f ∈ Registry.language)
    (h : ∀ q ∈ cs, P q) (hq : Quote.listCall f.name cs = some q) : P q := by
  rcases cs with _ | ⟨c, _ | ⟨d, cs⟩⟩
  · cases hq
  · cases hq
    exact hP.factory hf h
  · cases hq
    exact hP.factory hf (one (hP.array h))

theorem quoteTriviaList {ts : List Trivia} {q : Call} (hts : ∀ t ∈ ts, t.WellFormed)
    (h : Quote.quoteTriviaList .standard o ts = .ok (some q)) : P q := by
  obtain ⟨cs, hcs, hq⟩ := bind_eq_ok.mp h
  have heach := quoteEach (fun t ht q hq => hP.quoteTrivia (hts t ht) hq) hcs
  exact hP.listCall (Registry.leaf_mem 6 rfl) heach (Except.ok.inj hq)

theorem surround {l r : Option Call} {cs : List Call} (hl : ∀ q, l = some q → P q)
    (hr : ∀ q, r = some q → P q) (hcs : ∀ q ∈ cs, P q) : ∀ q ∈ Quote.surround l r cs, P q := by
  have hside : ∀ {s : Option Call}, (∀ q, s = some q → P q)
      → P (s.getD (.plain "trivia_list" [])) := by
    intro s hs
    cases s with
    | none => exact hP.leaf 6 rfl (List.forall_mem_nil _)
    | some q => exact hs q rfl
  unfold Quote.surround
  split
  · exact hcs
  · rw [List.cons_append, List.forall_mem_cons, List.forall_mem_append]
    exact ⟨hside hl, hcs, one (hside hr)⟩

theorem literalArguments {t : Token} {b : Bool} {cs : List Call} (ht : t.WellFormed)
    (h : Quote.literalArguments t b = .ok cs) : ∀ q ∈ cs, P q := by
  rw [Quote.literalArguments] at h
  obtain ⟨v, hv, h⟩ := bind_eq_ok.mp h
  have hscalar : P v := by
    cases hof : Call.ofScalar t.value with
    | error e => rw [quoteScalar, hof] at hv; cases hv
    | ok c =>
      rw [quoteScalar, hof] at hv
      cases hv
      exact hP.scalar ht.value hof
  have hboth : ∀ q ∈ [Call.ofText t.text, v], P q :=
    List.forall_mem_cons.mpr ⟨hP.text ht.text, one hscalar⟩
  split at h
  · cases h
    exact hboth
  · split at h
    · cases h
      split
      · exact one hscalar
      · exact hboth
    · cases h

/-- The call for a token has the property. -/
theorem quoteToken {t : Token} {q : Call} (ht : t.WellFormed)
    (h : Quote.quoteToken .standard o t = .ok (some q)) : P q := by
  rw [Quote.quoteToken, tokenCall] at h
  split at h
  · cases h
  obtain ⟨l, hl, h⟩ := bind_eq_ok.mp h
  obtain ⟨r, hr, h⟩ := bind_eq_ok.mp h
  have hsides : ∀ {cs : List Call}, (∀ q ∈ cs, P q) → ∀ q ∈ Quote.surround l r cs, P q :=
    hP.surround (fun _ hq => hP.quoteTriviaList ht.leading (hq ▸ hl))
      fun _ hq => hP.quoteTriviaList ht.trailing (hq ▸ hr)
  split at h
  · cases h
    exact hP.leaf 8 rfl (hsides (one (hP.kind t.kind)))
  · split at h
    · cases h
      exact hP.leaf 9 rfl (hsides (one (hP.text ht.text)))
    · obtain ⟨cs, hcs, h⟩ := bind_eq_ok.mp h
      cases h
      exact hP.leaf 10 rfl (hsides (hP.literalArguments ht hcs))
    · obtain ⟨cs, hcs, h⟩ := bind_eq_ok.mp h
      cases h
      exact hP.leaf 10 rfl (hsides (hP.literalArguments ht hcs))
    · cases h
      exact hP.leaf 7 rfl (hsides (one (hP.kind t.kind)))

end Inherits

end Quote

end TreeQuote
