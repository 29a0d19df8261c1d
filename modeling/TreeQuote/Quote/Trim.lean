/-
TreeQuote/Quote/Trim.lean

Leaving out modifiers that change nothing.  A modifier that replaces a property is kept
only if it changes the text of what the chain has built so far; arguments are trimmed
before the call that holds them.  Evaluation is the only judge.

Each modifier that is kept was kept against exactly the modifiers that still stand in
front of it, so trimming twice is trimming once.
-/
import TreeQuote.Call.Printer
import TreeQuote.Evaluate.Basic

namespace TreeQuote.Trim

/-- Why a call cannot be trimmed. -/
inductive Error where
  | evaluation (e : EvaluationError)
  /-- An integer has too many digits to be shown. -/
  | unshowable
  /-- A tree has no layout or no text. -/
  | fault (f : Fault)
  deriving DecidableEq

/-- The text of a value: of a node in the layout that the options ask for, of a token, trivia
or list its exact text, of anything else what a message shows. -/
def render (o : Options) (v : Value) : Except Error Text :=
  match v with
  | .node .. =>
    if o.defaultFormatting then do
      let w ← (v.normalized? {}).mapError .fault
      w.fullText?.mapError .fault
    else v.fullText?.mapError .fault
  | .trivia _ | .triviaList _ | .token _ | .framed .. | .tokens _ | .nodes _ | .separated _ =>
    v.fullText?.mapError .fault
  | _ => match v.shown? with
    | some t => .ok t
    | none => .error .unshowable

variable (r : Registry) (o : Options)

/-- The modifiers that are kept behind `current`, whose text is `text`, and the number of
those that are not. -/
def keep (owner : Text) (current : Value) (text : Text) :
    List Modifier → Except Error (List Modifier × Nat)
  | [] => .ok ([], 0)
  | m :: ms => do
    let candidate ← (Evaluate.apply r owner current m).mapError .evaluation
    let candidateText ← render o candidate
    if candidateText = text && m.replaces then
      let (kept, n) ← keep owner current text ms
      return (kept, n + 1)
    else
      let (kept, n) ← keep owner candidate candidateText ms
      return (m :: kept, n)

/-- A call whose arguments are trimmed, with its modifiers trimmed. -/
def chain (name : Text) (args : List Call) (kws : List Keyword) (mods : List Modifier) :
    Except Error (Call × Nat) := do
  if mods.any Modifier.replaces then
    let base ← (Evaluate.eval r (.factory name args kws [])).mapError .evaluation
    let (kept, n) ← keep r o name base (← render o base) mods
    return (.factory name args kws kept, n)
  else return (.factory name args kws mods, 0)

mutual

/-- A call without modifiers that change nothing, and the number of those left out. -/
def trim : Call → Except Error (Call × Nat)
  | .literal t => .ok (.literal t, 0)
  | .ref n => .ok (.ref n, 0)
  | .hole => .ok (.hole, 0)
  | .array items => do
    let (cs, n) ← trimList items
    return (.array cs, n)
  | .factory name args kws mods => do
    let (as, i) ← trimList args
    let (ks, j) ← trimKeywords kws
    let (ms, k) ← trimModifiers mods
    let (c, n) ← chain r o name as ks ms
    return (c, i + j + k + n)

/-- Trims some calls. -/
def trimList : List Call → Except Error (List Call × Nat)
  | [] => .ok ([], 0)
  | c :: cs => do
    let (d, i) ← trim c
    let (ds, j) ← trimList cs
    return (d :: ds, i + j)

/-- Trims arguments by name. -/
def trimKeywords : List Keyword → Except Error (List Keyword × Nat)
  | [] => .ok ([], 0)
  | .mk n c :: ks => do
    let (d, i) ← trim c
    let (ds, j) ← trimKeywords ks
    return (.mk n d :: ds, i + j)

/-- Trims the arguments of modifiers. -/
def trimModifiers : List Modifier → Except Error (List Modifier × Nat)
  | [] => .ok ([], 0)
  | .mk n as :: ms => do
    let (bs, i) ← trimList as
    let (ds, j) ← trimModifiers ms
    return (.mk n bs :: ds, i + j)

end

end TreeQuote.Trim
