/-
TreeQuote/Command/Basic.lean

A command: what the words of a command line ask for.  Options of the program come before
the name of the action, options of the action behind it, in any order with the one plain
value, the name of the source.

All words are classified before any of them takes effect, and a word that nobody wants is
reported only at the end; so a call for help wins over stray words, and an ambiguous
option wins over a call for help.
-/
import TreeQuote.Call.Printer
import TreeQuote.Command.Words
import TreeQuote.Grammar.Table
import TreeQuote.Number.Integer

namespace TreeQuote

namespace Command

/-- What the program can do. -/
inductive Action where
  /-- Write the code that builds a source text. -/
  | quote
  /-- Run code and write the text of what it builds. -/
  | eval
  /-- Quote, run the code, and compare. -/
  | roundtrip
  deriving DecidableEq

namespace Action

/-- The name of an action. -/
def name : Action → Text
  | .quote => Text.of "quote"
  | .eval => Text.of "eval"
  | .roundtrip => Text.of "roundtrip"

/-- The action with the given name. -/
def ofName? (t : Text) : Option Action :=
  [Action.quote, .eval, .roundtrip].find? fun a => a.name = t

/-- The options of an action. -/
def flags : Action → List Flag
  | .eval => [.help, .json]
  | _ => [.help, .json, .maxLength, .parseAs, .preserveWhitespace, .keepRedundantCalls,
      .staticImport, .openParenOnNewLine, .closeParenOnNewLine]

end Action

/-- Why a command line is no command.  The argument parser has its own words for each, which are
left out like its usage and help texts: only the exit code depends on the reason. -/
inductive Refusal where
  /-- Help was asked for, which is no fault. -/
  | help
  | ambiguous (word : Text)
  | noCommand
  | unknownCommand (name : Text)
  | missingValue (f : Flag)
  | needlessValue (f : Flag) (value : Text)
  | badValue (f : Flag) (value : Text)
  | strayWords (words : List Text)
  deriving DecidableEq

end Command

/-- What a command line asks for. -/
structure Command where
  action : Command.Action
  /-- The name of the source; a dash is the standard input. -/
  source : Text := Text.of "-"
  json : Bool := false
  /-- The longest text that is quoted. -/
  maxLength : Int := 2000
  /-- What the source text is. -/
  context : Grammar.Context := .unit
  options : Options := {}
  /-- Progress is reported while the program works. -/
  verbose : Bool := false

namespace Command

/-- A command on which an option without a value has taken effect. -/
def withSwitch (c : Command) : Flag → Except Refusal Command
  | .help => .error .help
  | .verbose => .ok { c with verbose := true }
  | .json => .ok { c with json := true }
  | .preserveWhitespace => .ok { c with options := { c.options with defaultFormatting := false } }
  | .keepRedundantCalls => .ok { c with options := { c.options with removeRedundant := false } }
  | .staticImport => .ok { c with options := { c.options with staticImport := true } }
  | .openParenOnNewLine => .ok { c with options := { c.options with openOnNewLine := true } }
  | .closeParenOnNewLine => .ok { c with options := { c.options with closeOnNewLine := true } }
  | f => .error (.missingValue f)

/-- A command on which an option with a value has taken effect. -/
def withValue (c : Command) (f : Flag) (t : Text) : Except Refusal Command :=
  match f with
  | .maxLength => match Integer.read? 10 t with
    | some n => .ok { c with maxLength := n }
    | none => .error (.badValue f t)
  | .parseAs => match Grammar.Context.ofName? t with
    | some k => .ok { c with context := k }
    | none => .error (.badValue f t)
  | _ => .error (.needlessValue f t)

/-- Reads the words behind the name of the action.  `unnamed` says that the source is still
to be named; words that have no place are collected. -/
def readWords (c : Command) (unnamed : Bool) : List Word → Except Refusal (Command × List Text)
  | [] => .ok (c, [])
  | .flag f (some v) :: ws => do readWords (← withValue c f v) unnamed ws
  | .flag f none :: .value v :: ws => do
    if f.takesValue then readWords (← withValue c f v) unnamed ws
    else readWords (← withSwitch c f) unnamed (.value v :: ws)
  | .flag f none :: ws => do readWords (← withSwitch c f) unnamed ws
  | .unknown t :: ws => do
    let (c, stray) ← readWords c unnamed ws
    return (c, t :: stray)
  | .value v :: .divider :: ws =>
    if unnamed then readWords { c with source := v } false ws
    else do
      let (c, stray) ← readWords c false ws
      return (c, v :: Text.of "--" :: stray)
  | .value v :: ws =>
    if unnamed then readWords { c with source := v } false ws
    else do
      let (c, stray) ← readWords c false ws
      return (c, v :: stray)
  | .divider :: .value v :: ws =>
    if unnamed then readWords { c with source := v } false ws
    else do
      let (c, stray) ← readWords c false ws
      return (c, Text.of "--" :: v :: stray)
  | .divider :: ws => do
    let (c, stray) ← readWords c false ws
    return (c, if unnamed then stray else Text.of "--" :: stray)

/-- Reads the command line of an action: its words, behind which nothing may be left. -/
def readAction (a : Action) (verbose : Bool) (args : List Text) :
    Except Refusal (Command × List Text) := do
  let words ← (Word.classifyAll a.flags args).mapError .ambiguous
  readWords { action := a, verbose := verbose } true words

/-- The options that come before the action. -/
def topFlags : List Flag := [.help, .verbose]

/-- Reads a command line whose words are classified: `args` and `words` belong together. -/
def readTop (verbose : Bool) : List Text → List Word → Except Refusal (Command × List Text)
  | _ :: args, .value name :: _ =>
    match Action.ofName? name with
    | some a => readAction a verbose args
    | none => .error (.unknownCommand name)
  | _ :: args, .flag f none :: ws =>
    if f = .help then .error .help else readTop true args ws
  | _, .flag f (some v) :: _ => .error (.needlessValue f v)
  | _ :: args, .unknown t :: ws => do
    let (c, stray) ← readTop verbose args ws
    return (c, t :: stray)
  | _, .divider :: .value _ :: _ => .error (.unknownCommand (Text.of "--"))
  | _, _ => .error .noCommand

/-- Reads a command line. -/
def read (args : List Text) : Except Refusal Command := do
  let words ← (Word.classifyAll topFlags args).mapError .ambiguous
  let (c, stray) ← readTop false args words
  if stray.isEmpty then return c else throw (.strayWords stray)

/-- The longest text that the command takes; code to run may have any length. -/
def limit? (c : Command) : Option Int := if c.action = .eval then none else some c.maxLength

end Command

end TreeQuote
