/-
TreeQuote/Call/Printer.lean

Calls as code.  A call without arguments, or with one literal or named value, stays on
one line; otherwise each argument has its own line, four spaces deeper than the call.
Modifiers start a new line at the depth of the call they modify.
-/
import TreeQuote.Call.Basic
import TreeQuote.Factory.Catalogue

namespace TreeQuote

/-- How quoting goes about its work and how the code is laid out. -/
structure Options where
  /-- Spaces are left out and the tree is laid out at the end. -/
  defaultFormatting : Bool := true
  /-- Modifiers that change nothing are left out. -/
  removeRedundant : Bool := true
  /-- Names are written without the module in front. -/
  staticImport : Bool := false
  /-- The opening parenthesis of a long call has its own line. -/
  openOnNewLine : Bool := false
  /-- The closing parenthesis of a long call has its own line. -/
  closeOnNewLine : Bool := false
  deriving DecidableEq

namespace Call

/-- What stands in front of public names. -/
def qualifier : Text := Text.of "factory."

/-- One level of indentation. -/
def indentation : Text := Text.of "    "

/-- The value constructors, which belong to no module. -/
def conversions : List Text := [Text.of "str", Text.of "int", Text.of "float", Text.of "bool"]

/-- A public name as code. -/
def qualified (o : Options) (name : Text) : Text :=
  if o.staticImport then name else qualifier ++ name

/-- The name of a factory as code, with its type. -/
def printName (o : Options) (name : Text) : Text :=
  if conversions.contains (baseName name) then name
  else qualified o (baseName name) ++ (match typeArgument? name with
    | some t => Text.of "[" ++ qualified o t ++ Text.of "]"
    | none => [])

/-- A named value as code. -/
def printRef (o : Options) (name : Text) : Text :=
  if Catalogue.constants.any fun p => p.1 = name then qualified o name else name

/-- The start of a line at a depth. -/
def pad (depth : Nat) : Text := Text.copies depth indentation

/-- Arguments in parentheses, each on a line that starts at `depth + 1`. -/
def printLines (o : Options) (depth : Nat) (lines : List Text) : Text :=
  (if o.openOnNewLine then Text.of "\n" ++ pad depth ++ Text.of "(\n" else Text.of "(\n")
    ++ Text.join (Text.of ",\n") (lines.map fun l => pad (depth + 1) ++ l)
    ++ (if o.closeOnNewLine then Text.of "\n" ++ pad depth ++ Text.of ")" else Text.of ")")

/-- Arguments in parentheses: a single literal or named value stays on the line. -/
def printArguments (o : Options) (depth : Nat) (args : List Call) (lines : List Text)
    (keywords : List Text) : Text :=
  match args, lines, keywords with
  | [], _, [] => Text.of "()"
  | [a], [l], [] =>
    if a.isLeaf then Text.of "(" ++ l ++ Text.of ")" else printLines o depth [l]
  | _, _, _ => printLines o depth (lines ++ keywords)

mutual

/-- A call as code, at a depth; nothing if it has a hole. -/
def printAt? (o : Options) (depth : Nat) : Call → Option Text
  | .literal t => some t
  | .ref n => some (printRef o n)
  | .hole => none
  | .array items => do
    let ts ← printList? o (depth + 1) items
    if items.isEmpty then return Text.of "[]"
    return Text.of "[\n" ++ Text.join (Text.of ",\n") (ts.map fun t => pad (depth + 1) ++ t)
      ++ Text.of "\n" ++ pad depth ++ Text.of "]"
  | .factory name args kws mods => do
    let ts ← printList? o (depth + 1) args
    let ks ← printKeywords? o (depth + 1) kws
    let ms ← printModifiers? o depth mods
    return printName o name ++ printArguments o depth args ts ks ++ ms

/-- Some calls as code. -/
def printList? (o : Options) (depth : Nat) : List Call → Option (List Text)
  | [] => some []
  | c :: cs => do return (← printAt? o depth c) :: (← printList? o depth cs)

/-- Arguments by name as code. -/
def printKeywords? (o : Options) (depth : Nat) : List Keyword → Option (List Text)
  | [] => some []
  | .mk n v :: ks => do
    return (n ++ Text.of "=" ++ (← printAt? o depth v)) :: (← printKeywords? o depth ks)

/-- Modifiers as code, each on a line of its own. -/
def printModifiers? (o : Options) (depth : Nat) : List Modifier → Option Text
  | [] => some []
  | .mk n as :: ms => do
    let ts ← printList? o (depth + 1) as
    return Text.of "\n" ++ pad depth ++ Text.of "." ++ n ++ printArguments o depth as ts []
      ++ (← printModifiers? o depth ms)

end

/-- A call as code; nothing if it has a hole. -/
def print? (o : Options) (c : Call) : Option Text := printAt? o 0 c

end Call

end TreeQuote
