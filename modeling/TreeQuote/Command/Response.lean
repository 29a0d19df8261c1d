/-
TreeQuote/Command/Response.lean

What the program answers: an exit code and what it writes.  A text that is blank, too long
or nested too deeply is answered with advice instead of a result.

Faults of the input are reported with their place, one line each or as JSON.  What the
program has no report for is a `Failure` and ends it.  What the argument parser writes about a
command line that it refuses is not part of the answer.
-/
import TreeQuote.Command.Basic
import TreeQuote.Command.JsonText
import TreeQuote.Command.Source
import TreeQuote.Quote.Basic

namespace TreeQuote.Command

/-- What a run of the program leaves behind. -/
structure Response where
  exit : Nat
  output : Text := []
  errors : Text := []
  deriving DecidableEq

/-- Why the program ends without a response. -/
inductive Failure where
  /-- The bytes of the source are no text. -/
  | undecodable
  | quote (e : QuoteError)
  | evaluation (e : EvaluationError)
  /-- A value has no text. -/
  | unshowable (e : Trim.Error)
  deriving DecidableEq

/-- A text and a line end. -/
def line (t : Text) : Text := t ++ Text.of "\n"

/-! ### Advice -/

/-- How deep trees and calls may nest.  The program has no such number: it gives its advice when the
recursion of the parser, the quoter or the interpreter reaches the limit of the runtime, which
depends on how much of it the caller has used up.  With the runtime's usual limit of 1000 calls,
nestings of up to about 25 levels always pass and 400 never do; 150 lies in between.  Only the
command line asks for it; no statement about trees does. -/
def maxDepth : Nat := 150

/-- Why a text is not looked at. -/
inductive Advice where
  | blank
  | tooLong (length : Nat) (limit : Int)
  | tooDeep
  deriving DecidableEq

namespace Advice

/-- The wording of an advice. -/
def message : Advice → Text
  | .blank => Text.of "Please specify the source text."
  | .tooLong n limit =>
    Text.of "Input is " ++ Text.decimal n ++ Text.of " characters long; the limit is "
      ++ Text.decimalInt limit ++ Text.of " (see --max-length)."
  | .tooDeep => Text.of "Input nests too deeply to quote; split it into smaller pieces."

/-- The advice as a response. -/
def response (a : Advice) : Response := { exit := 1, output := line a.message }

/-- The advice that a text calls for before anything is done with it. -/
def of? (limit : Option Int) (t : Text) : Option Advice :=
  if t.all CodePoint.isBlank then some .blank
  else match limit with
    | some n => if n < t.length then some (.tooLong t.length n) else none
    | none => none

end Advice

/-! ### Reports -/

/-- One line about a diagnostic. -/
def diagnosticLine (name severity : Text) (d : Diagnostic) : Text :=
  line ((Span.fileOr d.span.file (some name)).getD [] ++ Text.of ":" ++ d.span.text
    ++ Text.of ": " ++ severity ++ Text.of ": " ++ d.message)

/-- The report of a fault. -/
def fault (c : Command) (name : Text) (d : Diagnostic) : Response :=
  if c.json then
    { exit := 1
      output := line (JsonValue.object [
        (Text.of "diagnostics", .array [d.json (some name)]),
        (Text.of "ok", .bool false)]).compact }
  else { exit := 1, errors := diagnosticLine name d.severity d }

/-- The fault of a text that cannot be parsed. -/
def unparsable : Diagnostic where
  message := parseErrorText
  code := some (Text.of "parse-error")
  phase := some (Text.of "parser")

/-- The fault that an evaluation error is, unless it is a failure. -/
def evaluationFault (phase : Text) (e : EvaluationError) : Except Failure Diagnostic :=
  match e with
  | .unresolved .. =>
    .ok { message := e.message, code := some (Text.of "ResolutionError"), phase := some phase }
  | e => .error (.evaluation e)

/-- The fault that a quoting error is, unless it is a failure. -/
def quoteFault (e : QuoteError) : Except Failure Diagnostic :=
  let phase := Text.of "quoter"
  match e with
  | .quote q => match q with
    | .unsupportedNode _ =>
      .ok { message := q.message, code := some (Text.of "UnsupportedNodeError"), phase := some phase }
    | .unsupportedModifier .. =>
      .ok { message := q.message, code := some (Text.of "UnsupportedModifierError"), phase := some phase }
    | .literal _ => .error (.quote e)
    | .fault _ => .error (.quote e)
  | .trim (.evaluation x) => evaluationFault phase x
  | .trim x => .error (.unshowable x)

/-- The fault of code that cannot be read. -/
def unreadable (e : Code.Error) : Diagnostic where
  message := e.message
  code := some (Text.of "CallTextError")
  phase := some (Text.of "reader")
  span := { line := some e.token.line, column := some e.token.column }

/-! ### Actions -/

/-- The text of a value, or a failure. -/
def shownValue (o : Options) (v : Value) : Except Failure Text :=
  (Trim.render o v).mapError .unshowable

/-- The code of a tree. -/
def respondQuote (c : Command) (name : Text) (p : Parsed) : Except Failure Response :=
  match quote .standard c.options p.root with
  | .error e => do return fault c name (← quoteFault e)
  | .ok call =>
    let code := (call.print? c.options).getD []
    if c.json then
      .ok {
        exit := 0
        output := line (JsonValue.object [
          (Text.of "code", .text code),
          (Text.of "diagnostics", .array (p.diagnostics.map fun d => d.json (some name))),
          (Text.of "ok", .bool true)]).compact }
    else
      .ok {
        exit := 0
        output := line code
        errors := p.diagnostics.flatMap (diagnosticLine name (Text.of "warning")) }

/-- What comes back when the code of a tree is run. -/
def respondRoundtrip (c : Command) (name : Text) (p : Parsed) : Except Failure Response :=
  match quote .standard c.options p.root with
  | .error e => do return fault c name (← quoteFault e)
  | .ok call => match Evaluate.eval .standard call with
    | .error e => do return fault c name (← evaluationFault (Text.of "quoter") e)
    | .ok rebuilt => do
      let expected ← shownValue c.options p.root
      let actual ← shownValue c.options rebuilt
      let same := expected = actual
      let exit := if same then 0 else 1
      if c.json then
        return {
          exit := exit
          output := line (JsonValue.object [
            (Text.of "actual", .text actual),
            (Text.of "expected", .text expected),
            (Text.of "ok", .bool same)]).compact }
      else if same then
        return { exit := exit, output := line (name ++ Text.of ": round trip ok") }
      else
        return {
          exit := exit
          errors := line (name ++ Text.of ": round trip mismatch")
            ++ line (Text.of "--- expected\n" ++ expected ++ Text.of "\n--- actual\n" ++ actual) }

/-- The text of what code builds. -/
def respondEval (c : Command) (name source : Text) : Except Failure Response :=
  match Code.read source with
  | .error e => .ok (fault c name (unreadable e))
  | .ok call =>
    if maxDepth < call.depth then .ok Advice.tooDeep.response
    else match Evaluate.eval .standard call with
      | .error e => do return fault c name (← evaluationFault (Text.of "interpreter") e)
      | .ok v => do
        let text ← shownValue { defaultFormatting := false } v
        if c.json then
          return {
            exit := 0
            output := line (JsonValue.object [
              (Text.of "ok", .bool true), (Text.of "text", .text text)]).compact }
        else if text.getLast? = some (CodePoint.ofChar '\n') then
          return { exit := 0, output := text }
        else return { exit := 0, output := line text }

/-- The answer to a command whose source, called `name`, has the given text. -/
def respond (c : Command) (name source : Text) : Except Failure Response :=
  match Advice.of? c.limit? source with
  | some a => .ok a.response
  | none => match c.action with
    | .eval => respondEval c name source
    | .quote => onTree respondQuote
    | .roundtrip => onTree respondRoundtrip
where
  onTree (answer : Command → Text → Parsed → Except Failure Response) : Except Failure Response :=
    match TreeQuote.read source c.context (some name) with
    | .unreadable => .ok (fault c name unparsable)
    | .lost => .error (.quote (.quote (.fault .noEntry)))
    | .read p =>
      if maxDepth < p.root.depth then .ok Advice.tooDeep.response else answer c name p

/-- The answer to a command line that is refused. -/
def Refusal.response : Refusal → Response
  | .help => { exit := 0 }
  | _ => { exit := 2 }

/-- The answer to a source that cannot be opened. -/
def unopened : Response := { exit := 2 }

/-- The text of some bytes, with line feeds as line ends. -/
def decode (bytes : List UInt8) : Except Failure Text :=
  match Text.ofUtf8? bytes with
  | some t => .ok t.universalLines
  | none => .error .undecodable

/-- The answer to a command, given the bytes of its source if that can be opened. -/
def receive (c : Command) (bytes : Option (List UInt8)) : Except Failure Response :=
  match bytes with
  | none => .ok unopened
  | some bytes => do c.respond (Source.ofName c.source).label (← decode bytes)

/-- The answer to a command line, where `contents` gives the bytes of what can be opened. -/
def answer (contents : Source → Option (List UInt8)) (args : List Text) :
    Except Failure Response :=
  match read args with
  | .error r => .ok r.response
  | .ok c => c.receive (contents (.ofName c.source))

end TreeQuote.Command
