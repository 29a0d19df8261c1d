/-
TreeQuote/Proofs/Tree/Trace.lean

What a call can see of a value (`Value.trace`).  A factory looks at plain values, kinds, trivia and
the members of lists, but of a token it sees only what the token is, and of a node only its class.
The trace adds to this the texts of what cannot be seen: those of the two sides of a token and those
of the properties of a node.  It passes every text through a function `f` that respects
concatenation, so that texts can be compared exactly or up to some characters.

The name of a value's type and its texts can be read off the trace.

Main statements: `Value.fullText?_trace`, `Value.tokenText?_trace` and `Value.coincide_of_trace`.
-/
import TreeQuote.Tree.Places

namespace TreeQuote

/-- What can be seen of a value, and the texts of the rest. -/
inductive Trace where
  | scalar (s : Scalar)
  | kind (k : Kind)
  | trivia (t : Trivia)
  | triviaList (ts : List Trivia)
  /-- A token without trivia, and the texts of its sides. -/
  | token (t : Token) (leading trailing : Except Fault Text)
  | tokens (items : List Trace)
  /-- A node, the texts of its properties, and the content of a documentation comment. -/
  | node (cls : NodeClass) (texts : List (Except Fault Text)) (content : List Trace)
  | nodes (items : List Trace)
  | separated (items : List Trace)
  | array (items : List Trace)

namespace Trace

/-- The name of the type. -/
def typeName : Trace → Text
  | .scalar s => (Value.scalar s).typeName
  | .kind k => (Value.kind k).typeName
  | .trivia t => (Value.trivia t).typeName
  | .triviaList ts => (Value.triviaList ts).typeName
  | .token t _ _ => (Value.token t).typeName
  | .tokens _ => (Value.tokens []).typeName
  | .node c _ _ => c.name
  | .nodes _ => (Value.nodes []).typeName
  | .separated _ => (Value.separated []).typeName
  | .array _ => (Value.array []).typeName

/-- Texts one after the other. -/
def joined : List (Except Fault Text) → Except Fault Text
  | [] => .ok []
  | t :: ts => do
    let text ← t
    let rest ← joined ts
    return text ++ rest

variable (f : Text → Text)

/-- The text of a documentation comment. -/
def documentationText : List Trace → Except Fault Text
  | [.scalar (.str content)] => .ok (f (Text.of "///" ++ content))
  | t :: _ => .error (.notAppendable t.typeName)
  | [] => .error .noProperty

mutual

/-- The exact text. -/
def fullText? : Trace → Except Fault Text
  | .trivia t => .ok (f t.text)
  | .triviaList ts => (Trivia.fullText? ts).map f
  | .token t l r => joined [l, .ok (f t.text), r]
  | .tokens ts => fullTextList? ts
  | .node c ts content =>
    if c = .documentationComment then documentationText f content else joined ts
  | .nodes ts => fullTextList? ts
  | .separated ts => fullTextList? ts
  | _ => .error .noProperty

/-- The exact texts of members, one after the other. -/
def fullTextList? : List Trace → Except Fault Text
  | [] => .ok []
  | t :: ts => do
    let text ← fullText? t
    let rest ← fullTextList? ts
    return text ++ rest

end

mutual

/-- The exact texts of the tokens. -/
def tokenText? : Trace → Except Fault Text
  | .token t l r => if t.isAbsent then .ok [] else joined [l, .ok (f t.text), r]
  | .tokens ts => tokenTextList? ts
  | .node _ ts _ => joined ts
  | .nodes ts => tokenTextList? ts
  | .separated ts => tokenTextList? ts
  | _ => .ok []

/-- The exact texts of the tokens of members, one after the other. -/
def tokenTextList? : List Trace → Except Fault Text
  | [] => .ok []
  | t :: ts => do
    let text ← tokenText? t
    let rest ← tokenTextList? ts
    return text ++ rest

end

end Trace

namespace Value

variable (f : Text → Text)

mutual

/-- The trace of a value. -/
def trace : Value → Trace
  | .scalar s => .scalar s
  | .kind k => .kind k
  | .trivia t => .trivia t
  | .triviaList ts => .triviaList ts
  | .token t =>
    .token t.bare ((Trivia.fullText? t.leading).map f) ((Trivia.fullText? t.trailing).map f)
  | .framed t l r => .token t.bare (l.fullText?.map f) (r.fullText?.map f)
  | .tokens vs => .tokens (traceList vs)
  | .node c vs =>
    .node c (vs.map fun v => v.tokenText?.map f)
      (if c = .documentationComment then traceList vs else [])
  | .nodes vs => .nodes (traceList vs)
  | .separated vs => .separated (traceList vs)
  | .array vs => .array (traceList vs)

/-- The traces of some values. -/
def traceList : List Value → List Trace
  | [] => []
  | v :: vs => trace v :: traceList vs

end

theorem traceList_eq_map (vs : List Value) : traceList f vs = vs.map (trace f) := by
  induction vs with
  | nil => rfl
  | cons v vs ih => rw [traceList, ih, List.map_cons]

@[simp] theorem trace_typeName (v : Value) : (v.trace f).typeName = v.typeName := by
  cases v <;> rfl

/-! ### Texts -/

theorem map_joined {f : Text → Text} (hf : ∀ a b, f (a ++ b) = f a ++ f b)
    (x y : Except Fault Text) :
    (do let a ← x; let b ← y; return a ++ b : Except Fault Text).map f
      = (do let a ← x.map f; let b ← y.map f; return a ++ b : Except Fault Text) := by
  cases x with
  | error e => rfl
  | ok a =>
    cases y with
    | error e => rfl
    | ok b => exact congrArg Except.ok (hf a b)

variable {f}

section Text

variable (hf : ∀ a b, f (a ++ b) = f a ++ f b)

include hf

theorem map_nil : f [] = [] := by
  have h : f [] ++ f [] = f [] ++ [] := by rw [← hf, List.append_nil, List.append_nil]
  exact List.append_cancel_left h

/-- The text between two sides. -/
theorem map_between (x y : Except Fault Text) (t : Text) :
    (do let a ← x; let b ← y; return a ++ t ++ b : Except Fault Text).map f
      = Trace.joined [x.map f, .ok (f t), y.map f] := by
  cases x with
  | error e => rfl
  | ok a =>
    cases y with
    | error e => rfl
    | ok b =>
      refine congrArg Except.ok ?_
      show f (a ++ t ++ b) = f a ++ (f t ++ (f b ++ []))
      rw [hf, hf, List.append_nil, List.append_assoc]

/-- The texts of the properties are the text of the node. -/
theorem map_tokenTextList? (vs : List Value) :
    (tokenTextList? vs).map f = Trace.joined (vs.map fun v => v.tokenText?.map f) := by
  induction vs with
  | nil => exact congrArg Except.ok (map_nil hf)
  | cons v vs ih =>
    rw [tokenTextList?, map_joined hf, ih]
    rfl

mutual

theorem tokenText?_trace : ∀ v : Value, (v.trace f).tokenText? f = v.tokenText?.map f
  | .token t => by
    rw [trace, tokenText?, Trace.tokenText?]
    show (if t.isAbsent then _ else _) = Except.map f (if t.isAbsent then _ else _)
    split
    · exact congrArg Except.ok (map_nil hf).symm
    · exact (map_between hf _ _ _).symm
  | .framed t l r => by
    rw [trace, tokenText?, Trace.tokenText?]
    show (if t.isAbsent then _ else _) = Except.map f (if t.isAbsent then _ else _)
    split
    · exact congrArg Except.ok (map_nil hf).symm
    · exact (map_between hf _ _ _).symm
  | .tokens vs => tokenTextList?_trace vs
  | .node c vs => (map_tokenTextList? hf vs).symm
  | .nodes vs => tokenTextList?_trace vs
  | .separated vs => tokenTextList?_trace vs
  | .scalar _ => congrArg Except.ok (map_nil hf).symm
  | .kind _ => congrArg Except.ok (map_nil hf).symm
  | .trivia _ => congrArg Except.ok (map_nil hf).symm
  | .triviaList _ => congrArg Except.ok (map_nil hf).symm
  | .array _ => congrArg Except.ok (map_nil hf).symm

theorem tokenTextList?_trace :
    ∀ vs : List Value, Trace.tokenTextList? f (traceList f vs) = (tokenTextList? vs).map f
  | [] => congrArg Except.ok (map_nil hf).symm
  | v :: vs => by
    rw [traceList, Trace.tokenTextList?, tokenTextList?, map_joined hf, tokenText?_trace v,
      tokenTextList?_trace vs]

end

omit hf in
/-- The text of a documentation comment is that of its content. -/
theorem documentationText_trace (vs : List Value) :
    Trace.documentationText f (traceList f vs)
      = (fullText? (.node .documentationComment vs)).map f := by
  match vs with
  | [] => rfl
  | v :: w :: vs =>
    simp [traceList, Trace.documentationText, fullText?, Except.map]
  | [v] =>
    cases v with
    | scalar s => cases s <;> rfl
    | _ => rfl

mutual

theorem fullText?_trace : ∀ v : Value, (v.trace f).fullText? f = v.fullText?.map f
  | .trivia t => rfl
  | .triviaList ts => rfl
  | .token t => (map_between hf _ _ _).symm
  | .framed t l r => by
    rw [trace, fullText?, Trace.fullText?]
    exact (map_between hf _ _ _).symm
  | .tokens vs => fullTextList?_trace vs
  | .node c vs => by
    rw [trace, Trace.fullText?]
    split
    · next hc =>
      rw [hc]
      exact documentationText_trace vs
    · next hc =>
      rw [fullText?]
      · exact (map_tokenTextList? hf vs).symm
      · exact hc
  | .nodes vs => fullTextList?_trace vs
  | .separated vs => fullTextList?_trace vs
  | .scalar _ => rfl
  | .kind _ => rfl
  | .array _ => rfl

theorem fullTextList?_trace :
    ∀ vs : List Value, Trace.fullTextList? f (traceList f vs) = (fullTextList? vs).map f
  | [] => congrArg Except.ok (map_nil hf).symm
  | v :: vs => by
    rw [traceList, Trace.fullTextList?, fullTextList?, map_joined hf, fullText?_trace v,
      fullTextList?_trace vs]

end

end Text

/-! ### Values with one trace -/

variable (f)

/-- Two values with one trace, by what they are. -/
inductive Coincide : Value → Value → Prop
  | scalar (s : Scalar) : Coincide (.scalar s) (.scalar s)
  | kind (k : Kind) : Coincide (.kind k) (.kind k)
  | trivia (t : Trivia) : Coincide (.trivia t) (.trivia t)
  | triviaList (ts : List Trivia) : Coincide (.triviaList ts) (.triviaList ts)
  | token {t u : Token} (h : trace f (.token t) = trace f (.token u)) :
      Coincide (.token t) (.token u)
  | tokenFramed {t u : Token} {l r : Value} (h : trace f (.token t) = trace f (.framed u l r)) :
      Coincide (.token t) (.framed u l r)
  | framedToken {t u : Token} {l r : Value} (h : trace f (.framed t l r) = trace f (.token u)) :
      Coincide (.framed t l r) (.token u)
  | framed {t u : Token} {l r m s : Value}
      (h : trace f (.framed t l r) = trace f (.framed u m s)) :
      Coincide (.framed t l r) (.framed u m s)
  | tokens {vs ws : List Value} (h : vs.map (trace f) = ws.map (trace f)) :
      Coincide (.tokens vs) (.tokens ws)
  | node {c : NodeClass} {vs ws : List Value}
      (h : (vs.map fun v => v.tokenText?.map f) = ws.map fun w => w.tokenText?.map f)
      (hc : c = .documentationComment → vs.map (trace f) = ws.map (trace f)) :
      Coincide (.node c vs) (.node c ws)
  | nodes {vs ws : List Value} (h : vs.map (trace f) = ws.map (trace f)) :
      Coincide (.nodes vs) (.nodes ws)
  | separated {vs ws : List Value} (h : vs.map (trace f) = ws.map (trace f)) :
      Coincide (.separated vs) (.separated ws)
  | array {vs ws : List Value} (h : vs.map (trace f) = ws.map (trace f)) :
      Coincide (.array vs) (.array ws)

variable {f}

theorem coincide_of_trace {v w : Value} (h : v.trace f = w.trace f) : Coincide f v w := by
  have htrace := h
  cases v <;> cases w <;>
    simp only [trace, traceList_eq_map, reduceCtorEq, Trace.scalar.injEq, Trace.kind.injEq,
      Trace.trivia.injEq, Trace.triviaList.injEq, Trace.tokens.injEq, Trace.node.injEq,
      Trace.nodes.injEq, Trace.separated.injEq, Trace.array.injEq] at h
  case scalar.scalar => exact h ▸ .scalar _
  case kind.kind => exact h ▸ .kind _
  case trivia.trivia => exact h ▸ .trivia _
  case triviaList.triviaList => exact h ▸ .triviaList _
  case tokens.tokens => exact .tokens h
  case nodes.nodes => exact .nodes h
  case separated.separated => exact .separated h
  case array.array => exact .array h
  case node.node =>
    obtain ⟨rfl, htexts, hcontent⟩ := h
    refine .node htexts ?_
    intro hc
    rwa [if_pos hc, if_pos hc] at hcontent
  case token.token => exact .token htrace
  case token.framed => exact .tokenFramed htrace
  case framed.token => exact .framedToken htrace
  case framed.framed => exact .framed htrace

/-- The trace says what two values with one trace have in common. -/
theorem Coincide.trace_eq {v w : Value} (h : Coincide f v w) : v.trace f = w.trace f := by
  cases h with
  | token h => exact h
  | tokenFramed h => exact h
  | framedToken h => exact h
  | framed h => exact h
  | node h hc =>
    next c vs ws =>
    rw [trace, trace, h, traceList_eq_map, traceList_eq_map]
    split
    · next hdoc => rw [hc hdoc]
    · rfl
  | tokens h => simp only [trace, traceList_eq_map, h]
  | nodes h => simp only [trace, traceList_eq_map, h]
  | separated h => simp only [trace, traceList_eq_map, h]
  | array h => simp only [trace, traceList_eq_map, h]
  | _ => rfl

end Value

end TreeQuote
