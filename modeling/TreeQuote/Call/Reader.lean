/-
TreeQuote/Call/Reader.lean

Code back to calls.  Reading has two stages: a draft, which only follows the brackets
and commas, and the call, which checks the arguments.  So a fault in the brackets is
found before any other.

The module name in front of public names is optional and left out of the call.
-/
import TreeQuote.Call.Printer
import TreeQuote.Call.Token

namespace TreeQuote.Code

/-- Why a text is no code. -/
inductive Error where
  /-- A token that cannot stand where it does, or a character that starts none. -/
  | unexpected (t : Token)
  /-- A dot in the name of a parameter. -/
  | badKeyword (name : Token)
  | positionalAfterKeyword (owner : Token)
  | keywordInModifier (name : Token)
  deriving DecidableEq

namespace Error

/-- The token that an error is about. -/
def token : Error → Token
  | .unexpected t => t
  | .badKeyword t => t
  | .positionalAfterKeyword t => t
  | .keywordInModifier t => t

/-- The wording of an error. -/
def message : Error → Text
  | .unexpected t =>
    if t.sort = .unreadable then
      Text.of "No terminal matches '" ++ t.text
        ++ Text.of "' in the current parser context, at line " ++ Text.decimal t.line
        ++ Text.of " col " ++ Text.decimal t.column
    else
      Text.of "Unexpected token Token(" ++ t.sort.label.shown ++ Text.of ", " ++ t.text.shown
        ++ Text.of ") at line " ++ Text.decimal t.line ++ Text.of ", column "
        ++ Text.decimal t.column ++ Text.of "."
  | .badKeyword t => Text.of "bad keyword " ++ t.text
  | .positionalAfterKeyword t => Text.of "positional argument after keyword in " ++ t.text
  | .keywordInModifier t => Text.of "keyword argument in ." ++ t.text ++ Text.of "()"

end Error

/-! ### Drafts -/

mutual

/-- A value whose arguments are not checked yet. -/
inductive Draft where
  | literal (text : Text)
  | name (t : Token)
  | array (items : List Draft)
  | call (name : Token) (type : Option Token) (arguments : List DraftArgument)
      (modifiers : List DraftModifier)

/-- An argument, with its name if it has one. -/
inductive DraftArgument where
  | mk (name : Option Token) (value : Draft)

/-- A modifier. -/
inductive DraftModifier where
  | mk (name : Token) (arguments : List DraftArgument)

end

/-- The first token is of the given class; the tokens after it. -/
def expect (s : TokenClass) : List Token → Except Error (Token × List Token)
  | t :: ts => if t.sort = s then .ok (t, ts) else .error (.unexpected t)
  | [] => .error (.unexpected ⟨.finish, [], 1, 1⟩)

/-- The class of the first token. -/
def next (ts : List Token) : TokenClass := (ts.head?.map (·.sort)).getD .finish

/-- The error at the first token. -/
def stuck (ts : List Token) : Error := .unexpected (ts.headD ⟨.finish, [], 1, 1⟩)

/-- The type in square brackets behind a name. -/
def type? (ts : List Token) : Except Error (Option Token × List Token) := do
  if next ts = .openBracket then
    let (_, ts) ← expect .openBracket ts
    let (t, ts) ← expect .name ts
    let (_, ts) ← expect .closeBracket ts
    return (some t, ts)
  else return (none, ts)

mutual

/-- A value at the start of the tokens, and the tokens after it. -/
def value : Nat → List Token → Except Error (Draft × List Token)
  | 0, ts => .error (stuck ts)
  | fuel + 1, ts =>
    match ts with
    | [] => .error (stuck ts)
    | t :: rest =>
      match t.sort with
      | .string => .ok (.literal t.text, rest)
      | .number => .ok (.literal t.text, rest)
      | .openBracket => do
        let (items, rest) ← items fuel rest
        return (.array items, rest)
      | .name =>
        if next rest = .openParen || next rest = .openBracket then do
          let (type, rest) ← type? rest
          let (_, rest) ← expect .openParen rest
          let (args, rest) ← arguments fuel rest
          let (mods, rest) ← modifiers fuel rest
          return (.call t type args mods, rest)
        else .ok (.name t, rest)
      | _ => .error (stuck ts)

/-- The items of an array up to its closing bracket; a comma may follow the last. -/
def items : Nat → List Token → Except Error (List Draft × List Token)
  | 0, ts => .error (stuck ts)
  | fuel + 1, ts => do
    if next ts = .closeBracket then return ([], ts.drop 1)
    let (v, ts) ← value fuel ts
    if next ts = .closeBracket then return ([v], ts.drop 1)
    let (_, ts) ← expect .comma ts
    let (vs, ts) ← items fuel ts
    return (v :: vs, ts)

/-- Arguments up to the closing parenthesis; a comma may follow the last. -/
def arguments : Nat → List Token → Except Error (List DraftArgument × List Token)
  | 0, ts => .error (stuck ts)
  | fuel + 1, ts => do
    if next ts = .closeParen then return ([], ts.drop 1)
    let (a, ts) ← argument fuel ts
    if next ts = .closeParen then return ([a], ts.drop 1)
    let (_, ts) ← expect .comma ts
    let (as, ts) ← arguments fuel ts
    return (a :: as, ts)

/-- An argument, with or without its name. -/
def argument : Nat → List Token → Except Error (DraftArgument × List Token)
  | 0, ts => .error (stuck ts)
  | fuel + 1, ts => do
    if next ts = .name && next (ts.drop 1) = .equals then
      let (n, ts) ← expect .name ts
      let (_, ts) ← expect .equals ts
      let (v, ts) ← value fuel ts
      return (.mk (some n) v, ts)
    else
      let (v, ts) ← value fuel ts
      return (.mk none v, ts)

/-- Modifiers, as long as there are any. -/
def modifiers : Nat → List Token → Except Error (List DraftModifier × List Token)
  | 0, ts => .error (stuck ts)
  | fuel + 1, ts => do
    if next ts = .dot then
      let (_, ts) ← expect .dot ts
      let (n, ts) ← expect .name ts
      let (_, ts) ← expect .openParen ts
      let (args, ts) ← arguments fuel ts
      let (mods, ts) ← modifiers fuel ts
      return (.mk n args :: mods, ts)
    else return ([], ts)

end

/-! ### Calls -/

/-- A public name without the module in front. -/
def unqualified (t : Text) : Text :=
  if Call.qualifier.isPrefixOf t then t.drop Call.qualifier.length else t

/-- Names that stand for plain values. -/
def literalNames : List Text := [Text.of "True", Text.of "False", Text.of "None"]

mutual

/-- The call of a draft. -/
def Draft.call? : Draft → Except Error Call
  | .literal t => .ok (.literal t)
  | .name t =>
    let n := unqualified t.text
    .ok (if literalNames.contains n then .literal n else .ref n)
  | .array items => do return .array (← calls? items)
  | .call name type args mods => do
    let (as, ks) ← arguments? name false args
    let ms ← modifiers? mods
    let suffix := match type with
      | some t => Text.of "[" ++ unqualified t.text ++ Text.of "]"
      | none => []
    return .factory (unqualified name.text ++ suffix) as ks ms

/-- The calls of some drafts. -/
def calls? : List Draft → Except Error (List Call)
  | [] => .ok []
  | d :: ds => do
    let c ← d.call?
    return c :: (← calls? ds)

/-- The arguments of `owner`, by position and by name.  `named` says that an argument by name
went before. -/
def arguments? (owner : Token) (named : Bool) :
    List DraftArgument → Except Error (List Call × List Keyword)
  | [] => .ok ([], [])
  | .mk none d :: rest => do
    if named then throw (.positionalAfterKeyword owner)
    let c ← d.call?
    let (as, ks) ← arguments? owner named rest
    return (c :: as, ks)
  | .mk (some n) d :: rest => do
    if n.text.contains (CodePoint.ofChar '.') then throw (.badKeyword n)
    let c ← d.call?
    let (as, ks) ← arguments? owner true rest
    return (as, .mk n.text c :: ks)

/-- Modifiers, which have no arguments by name. -/
def modifiers? : List DraftModifier → Except Error (List Modifier)
  | [] => .ok []
  | .mk n args :: rest => do
    let (as, ks) ← arguments? n false args
    if !ks.isEmpty then throw (.keywordInModifier n)
    return .mk n.text as :: (← modifiers? rest)

end

/-- More steps than reading some tokens takes: each level of the recursion that takes no
token is followed by one that does. -/
def stepBound (ts : List Token) : Nat := 4 * (ts.length + 1)

/-- Reads a call from code. -/
def read (t : Text) : Except Error Call := do
  let ts := scan t
  let (draft, rest) ← value (stepBound ts) ts
  let _ ← expect .finish rest
  draft.call?

end TreeQuote.Code
