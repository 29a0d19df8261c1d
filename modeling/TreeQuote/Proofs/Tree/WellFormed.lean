/-
TreeQuote/Proofs/Tree/WellFormed.lean

Well-formed trees.  A property can hold any value, and a token any text; a tree is well
formed when each property holds what its shape says, each token and each trivia is one
that the builders make, and each plain value can be written as a literal:

* a text does not hold both a surrogate and a code point beyond `0xFFFF`, because an
  escaped text writes the second as two of the first;
* an integer has at most `Integer.maxDigits` digits;
* a double is not undefined.

The absent token is no token of a well-formed tree, but it may stand as a separator and
behind a struct.

`Value.All Q` says that every node of a value satisfies `Q`, which looks at one node and
the heads of its children; `Value.WellFormed` is made with it.
-/
import Mathlib.Data.List.Forall2
import TreeQuote.Proofs.Tree.Spelling
import TreeQuote.Tree.Places

namespace TreeQuote

/-! ### Plain values -/

/-- The text does not mix surrogates with code points beyond `0xFFFF`. -/
def Text.Unmixed (t : Text) : Prop :=
  t.any CodePoint.isSurrogate = true → ∀ c ∈ t, c.val ≤ 0xFFFF

instance (t : Text) : Decidable t.Unmixed := by unfold Text.Unmixed; infer_instance

/-- A double in canonical form: all 53 bits are used unless the exponent is the least. -/
def Double.Canonical : Double → Prop
  | .nan _ => False
  | .infinite _ => True
  | .finite _ m e =>
    m < Nat.pow 2 53 ∧ minExponent ≤ e ∧ e ≤ maxExponent ∧ (e = minExponent ∨ Nat.pow 2 52 ≤ m)

/-- A plain value that can be written as a literal and read again. -/
def Scalar.Writable : Scalar → Prop
  | .none => True
  | .bool _ => True
  | .int n => n.natAbs < Integer.decimalBound
  | .float x => x.Canonical
  | .str t => t.Unmixed

/-! ### Trivia and tokens -/

/-- A trivia that the factories of trivia build. -/
inductive Trivia.Built : Trivia → Prop where
  | whitespace (t : Text) : Built (.whitespace t)
  | endOfLine (t : Text) : Built (.endOfLine t)
  | skipped (t : Text) : Built (.skipped t)
  | documentation (content : Text) : Built (.documentation content)
  | lineComment (t : Text) (h : Text.of "//" <+: t) :
    Built { kind := .singleLineCommentTrivia, text := t }
  | blockComment (t : Text) (h : Text.of "/*" <+: t) :
    Built { kind := .multiLineCommentTrivia, text := t }

/-- The builders make no trivia with a flaw. -/
theorem Trivia.Built.flaw {t : Trivia} (h : t.Built) : t.flaw = none := by
  cases h <;> rfl

/-- A trivia of a well-formed tree. -/
structure Trivia.WellFormed (t : Trivia) : Prop where
  built : t.Built
  unmixed : t.text.Unmixed

/-- The token without trivia and span. -/
def Token.core (t : Token) : Token := { t with leading := [], trailing := [], span := none }

/-- A token that the builders make: with a fixed text, a name, a literal or a missing one. -/
inductive Token.Built : Token → Prop where
  | fixed {t : Token} (h : Token.fixed? t.kind = some t.core) : Built t
  | identifier {t : Token} (h : t.core = Token.identifier t.text) : Built t
  | literal {t : Token} (h : Token.literal? t.text t.value = some t.core) : Built t
  | missing {t : Token} (h : t.core = Token.missingOf t.kind) : Built t

/-- A token of a well-formed tree. -/
structure Token.WellFormed (t : Token) : Prop where
  built : t.Built
  present : t.kind ≠ .none
  leading : ∀ c ∈ t.leading, c.WellFormed
  trailing : ∀ c ∈ t.trailing, c.WellFormed
  text : t.text.Unmixed
  value : t.value.Writable

/-- A text without surrogates is unmixed. -/
theorem Text.unmixed_of_plain {t : Text} (h : t.any CodePoint.isSurrogate = false) : t.Unmixed := by
  intro hs
  rw [h] at hs
  cases hs

/-- Fixed texts have no surrogates. -/
theorem Kind.fixedText_plain : (Kind.all.all fun k =>
    (k.fixedText?.getD []).any CodePoint.isSurrogate = false) = true := by decide +kernel

theorem Kind.fixedText_unmixed {k : Kind} {t : Text} (h : k.fixedText? = some t) : t.Unmixed := by
  have hplain := List.all_eq_true.mp Kind.fixedText_plain k k.mem_all
  rw [h, decide_eq_true_eq] at hplain
  exact Text.unmixed_of_plain hplain

namespace Token.WellFormed

variable {k : Kind} {ls rs : List Trivia} {span : Option Span}
  (hls : ∀ c ∈ ls, c.WellFormed) (hrs : ∀ c ∈ rs, c.WellFormed)

include hls hrs

/-- A token with a fixed text between well-formed trivia. -/
theorem of_fixed {t : Text} (hk : k.fixedText? = some t) :
    Token.WellFormed ⟨k, t, .str t, ls, rs, false, span⟩ where
  built := .fixed (by
    have hne : k ≠ .none := by rintro rfl; cases hk
    show Token.fixed? k = _
    rw [Token.fixed?, if_neg hne, hk]
    rfl)
  present := by rintro rfl; cases hk
  leading := hls
  trailing := hrs
  text := Kind.fixedText_unmixed hk
  value := Kind.fixedText_unmixed hk

/-- A token that the source lacks between well-formed trivia. -/
theorem of_missing (hk : k ≠ .none) : Token.WellFormed ⟨k, [], .none, ls, rs, true, span⟩ where
  built := .missing rfl
  present := hk
  leading := hls
  trailing := hrs
  text := Text.unmixed_of_plain rfl
  value := trivial

end Token.WellFormed

/-! ### Nodes -/

namespace Value

/-- A token of a well-formed tree. -/
def IsToken (v : Value) : Prop := ∃ t : Token, v = .token t ∧ t.WellFormed

/-- What may stand between two nodes: a token, or the absent one. -/
def IsSeparator (v : Value) : Prop := v = .token .absent ∨ v.IsToken

mutual

/-- Every node in the value satisfies `Q`, which sees its class and its properties. -/
def All (Q : NodeClass → List Value → Prop) : Value → Prop
  | .node c vs => Q c vs ∧ AllList Q vs
  | .tokens vs => AllList Q vs
  | .nodes vs => AllList Q vs
  | .separated vs => AllList Q vs
  | .array vs => AllList Q vs
  | .framed _ l r => All Q l ∧ All Q r
  | _ => True

/-- Every node in the values satisfies `Q`. -/
def AllList (Q : NodeClass → List Value → Prop) : List Value → Prop
  | [] => True
  | v :: vs => All Q v ∧ AllList Q vs

end

/-- The values right below a value. -/
def children : Value → List Value
  | .framed _ l r => [l, r]
  | .tokens vs => vs
  | .node _ vs => vs
  | .nodes vs => vs
  | .separated vs => vs
  | .array vs => vs
  | _ => []

mutual

/-- What holds of a value when it holds of those right below it holds of all values. -/
theorem induction {P : Value → Prop} (h : ∀ v, (∀ w ∈ v.children, P w) → P v) : ∀ v, P v
  | .scalar s => h (.scalar s) nofun
  | .kind k => h (.kind k) nofun
  | .trivia t => h (.trivia t) nofun
  | .triviaList ts => h (.triviaList ts) nofun
  | .token t => h (.token t) nofun
  | .framed t l r =>
    h (.framed t l r) (List.forall_mem_cons.mpr ⟨induction h l,
      List.forall_mem_cons.mpr ⟨induction h r, nofun⟩⟩)
  | .tokens vs => h (.tokens vs) (inductionList h vs)
  | .node c vs => h (.node c vs) (inductionList h vs)
  | .nodes vs => h (.nodes vs) (inductionList h vs)
  | .separated vs => h (.separated vs) (inductionList h vs)
  | .array vs => h (.array vs) (inductionList h vs)

theorem inductionList {P : Value → Prop} (h : ∀ v, (∀ w ∈ v.children, P w) → P v) :
    ∀ vs : List Value, ∀ w ∈ vs, P w
  | [] => nofun
  | v :: vs => List.forall_mem_cons.mpr ⟨induction h v, inductionList h vs⟩

end

theorem allList_iff {Q : NodeClass → List Value → Prop} {vs : List Value} :
    AllList Q vs ↔ ∀ v ∈ vs, All Q v := by
  induction vs with
  | nil => simp [AllList]
  | cons v vs ih => simp [AllList, ih]

/-- What holds of every node in a value holds of every node right below it. -/
theorem All.children {Q : NodeClass → List Value → Prop} {v : Value} (h : v.All Q) :
    ∀ w ∈ v.children, w.All Q := by
  cases v with
  | framed t l r =>
    rw [All] at h
    simpa [Value.children] using h
  | node c vs => exact allList_iff.mp h.2
  | tokens vs => exact allList_iff.mp h
  | nodes vs => exact allList_iff.mp h
  | separated vs => exact allList_iff.mp h
  | array vs => exact allList_iff.mp h
  | _ => exact nofun

theorem all_node {Q : NodeClass → List Value → Prop} {c : NodeClass} {vs : List Value} :
    All Q (.node c vs) ↔ Q c vs ∧ ∀ v ∈ vs, All Q v := by
  rw [All, allList_iff]

end Value

/-- The value is one that the shape of a property asks for, judged by its head. -/
def Shape.Fits : Shape → Value → Prop
  | .text, v => ∃ t : Text, v = .str t ∧ t.Unmixed
  | .kind, v => ∃ k, v = .kind k
  | .token, v => v.IsToken
  | .tokens, v => ∃ vs, v = .tokens vs ∧ ∀ w ∈ vs, w.IsToken
  | .node t, v => v.isNodeOf t = true
  | .nodes (some t), v => ∃ vs, v = .nodes vs ∧ ∀ w ∈ vs, w.isNodeOf t = true
  | .separated (some t), v =>
    ∃ vs, v = .separated vs ∧ Value.alternates vs = true
      ∧ ∀ w ∈ vs, w.isNodeOf t = true ∨ w.IsSeparator
  | .optional a, v => v = .none ∨ Fits a v
  | _, _ => False

/-- The value is one that the property of a class holds; a struct may lack its semicolon. -/
def Field.Fits (c : NodeClass) (f : Field) (v : Value) : Prop :=
  f.shape.Fits v
    ∨ (c = .structDeclaration ∧ f.name = Text.of "semicolon_token" ∧ v = .token .absent)

/-- A node is well formed at its head: of a class of the language, with the right properties,
and with a kind that the class has. -/
structure NodeClass.Admits (c : NodeClass) (vs : List Value) : Prop where
  class_mem : c ∈ NodeClass.all
  fields : List.Forall₂ (Field.Fits c) c.fields vs
  kind : c.kind? = none → Kind.isIn c.kindTable (Value.kindOf c vs) = true

namespace Value

/-- A well-formed tree. -/
def WellFormed (v : Value) : Prop := (∃ c vs, v = .node c vs) ∧ v.All NodeClass.Admits

/-- A value in a well-formed tree. -/
inductive Formed : Value → Prop where
  | none : Formed .none
  | text {t : Text} (h : t.Unmixed) : Formed (.str t)
  | kind (k : Kind) : Formed (.kind k)
  | token {t : Token} (h : t.WellFormed) : Formed (.token t)
  | absent : Formed (.token .absent)
  | tokens {vs : List Value} (h : ∀ w ∈ vs, w.IsToken) (hvs : ∀ w ∈ vs, Formed w) :
    Formed (.tokens vs)
  | nodes {t : NodeType} {vs : List Value} (h : ∀ w ∈ vs, w.isNodeOf t = true)
    (hvs : ∀ w ∈ vs, Formed w) : Formed (.nodes vs)
  | separated {t : NodeType} {vs : List Value} (halternates : alternates vs = true)
    (h : ∀ w ∈ vs, w.isNodeOf t = true ∨ w.IsSeparator) (hvs : ∀ w ∈ vs, Formed w) :
    Formed (.separated vs)
  | node {c : NodeClass} {vs : List Value} (h : c.Admits vs) (hvs : ∀ w ∈ vs, Formed w) :
    Formed (.node c vs)

theorem IsToken.formed {v : Value} (h : v.IsToken) : v.Formed := by
  obtain ⟨t, rfl, ht⟩ := h
  exact .token ht

/-- What fits a shape is formed, if the nodes in it are. -/
theorem formed_of_fits {s : Shape} {v : Value} (h : s.Fits v)
    (hnode : ∀ c vs, v = .node c vs → v.Formed)
    (hchildren : ∀ w ∈ v.children, ∀ c vs, w = .node c vs → w.Formed) : v.Formed := by
  have hmember : ∀ {t : NodeType} {w : Value}, w ∈ v.children → w.isNodeOf t = true → w.Formed := by
    intro t w hw ht
    cases w with
    | node c vs => exact hchildren _ hw c vs rfl
    | _ => cases ht
  induction s with
  | text => obtain ⟨t, rfl, ht⟩ := h; exact .text ht
  | kind => obtain ⟨k, rfl⟩ := h; exact .kind k
  | token => exact h.formed
  | tokens => obtain ⟨vs, rfl, hvs⟩ := h; exact .tokens hvs fun w hw => (hvs w hw).formed
  | node t =>
    cases v with
    | node c vs => exact hnode c vs rfl
    | _ => cases h
  | nodes t =>
    cases t with
    | none => exact h.elim
    | some t => obtain ⟨vs, rfl, hvs⟩ := h; exact .nodes hvs fun w hw => hmember hw (hvs w hw)
  | separated t =>
    cases t with
    | none => exact h.elim
    | some t =>
      obtain ⟨vs, rfl, halternates, hvs⟩ := h
      refine .separated halternates hvs fun w hw => ?_
      rcases hvs w hw with hw' | rfl | hw'
      · exact hmember hw hw'
      · exact .absent
      · exact hw'.formed
  | optional a ih =>
    rcases h with rfl | h
    · exact .none
    · exact ih h
  | _ => exact h.elim

theorem exists_fits {c : NodeClass} {fs : List Field} {vs : List Value}
    (h : List.Forall₂ (Field.Fits c) fs vs) : ∀ v ∈ vs, ∃ f, Field.Fits c f v := by
  induction h with
  | nil => nofun
  | cons hfits _ ih => exact List.forall_mem_cons.mpr ⟨⟨_, hfits⟩, ih⟩

/-- All values in a well-formed tree are formed. -/
theorem WellFormed.formed {v : Value} (h : v.WellFormed) : v.Formed := by
  have hall : ∀ v : Value, v.All NodeClass.Admits
      → (∀ c vs, v = .node c vs → v.Formed) ∧ ∀ w ∈ v.children, ∀ c vs, w = .node c vs → w.Formed := by
    intro v
    refine induction (P := fun v => v.All NodeClass.Admits → (∀ c vs, v = .node c vs → v.Formed)
      ∧ ∀ w ∈ v.children, ∀ c vs, w = .node c vs → w.Formed) ?_ v
    intro v ih hall
    have hchildren := fun w hw => ih w hw (hall.children w hw)
    refine ⟨?_, fun w hw => (hchildren w hw).1⟩
    rintro c vs rfl
    refine .node hall.1 fun w hw => ?_
    obtain ⟨hnode, hbelow⟩ := hchildren w hw
    obtain ⟨f, hfits | ⟨-, -, rfl⟩⟩ := exists_fits hall.1.fields w hw
    · exact formed_of_fits hfits hnode hbelow
    · exact .absent
  obtain ⟨⟨c, vs, rfl⟩, h⟩ := h
  exact (hall _ h).1 c vs rfl

/-- A value is formed only if all nodes in it are. -/
theorem Formed.all {v : Value} (h : v.Formed) : v.All NodeClass.Admits := by
  induction h with
  | tokens _ _ ih => exact allList_iff.mpr ih
  | nodes _ _ ih => exact allList_iff.mpr ih
  | separated _ _ _ ih => exact allList_iff.mpr ih
  | node h _ ih => exact all_node.mpr ⟨h, ih⟩
  | _ => trivial

end Value

end TreeQuote
