/-
TreeQuote/Parse/Basic.lean

Reading a text as a tree.  The lexemes go through the machine with repair, which gives
the shape of the tree; the tokens are dressed apart from it and put in for those that were
fed.  The result is the tree with a diagnostic for every inserted token and every skipped
lexeme, in source order.

A text is unreadable when a character starts no lexeme, when a literal has no value, or
when repair gives up at the end.

The parser shares lists, so behind a skipped lexeme the tree may repeat tokens, or have some that
were never fed.  With parse trees as immutable values the tokens of the tree are those that were
fed, in order, and can be put in one by one (`parsePure?`).
-/
import TreeQuote.Parse.Dressing
import TreeQuote.Parse.Trial
import TreeQuote.Tree.Places

namespace TreeQuote

open Grammar

/-- A tree that was read, and what was wrong with the text. -/
structure Parsed where
  root : Value
  diagnostics : List Diagnostic

namespace Parsed

/-- An inserted token, reported at the position of what it stands in front of. -/
def missing (file : Option Text) (p : Cursor) (k : Kind) : Diagnostic where
  message := Text.of "'" ++ shownKind k ++ Text.of "' expected"
  code := some (Text.of "missing-token")
  phase := some (Text.of "parser")
  span := {
    file := Span.fileOr file none
    line := some p.line
    column := some p.column
    start := some p.offset }
where
  /-- The fixed text of a kind that has one, and else its name. -/
  shownKind (k : Kind) : Text :=
    match k.fixedText? with
    | some (c :: t) => c :: t
    | _ => k.name

/-- A skipped lexeme. -/
def unexpected (file : Option Text) (l : Lexeme) : Diagnostic where
  message := Text.of "unexpected '" ++ l.text ++ Text.of "'"
  code := some (Text.of "skipped-token")
  phase := some (Text.of "parser")
  span := l.span file

/-- What the steps have to report. -/
def report (file : Option Text) : List Repair.Step → List Diagnostic
  | [] => []
  | .taken ks l :: rest => ks.map (missing file l.start) ++ report file rest
  | .skipped l :: rest => unexpected file l :: report file rest

/-- The position of the end of the text: where the last lexeme ends, but the offset is that
of the text itself. -/
def endCursor (source : Text) (ls : List Lexeme) : Cursor :=
  match ls.getLast? with
  | some l => { l.stop with offset := source.length }
  | none => { Cursor.start with offset := source.length }

/-- The end-of-file token. -/
def endOfFile (file : Option Text) (source : Text) (leading : List Trivia) : Token where
  kind := .endOfFileToken
  text := []
  value := .str []
  leading := leading
  span := some { file := file, start := some source.length, stop := some source.length }

/-- A unit ends with its end-of-file token. -/
def close (c : Context) (eof : Token) : Value → Value
  | .node .compilationUnit fields =>
    if c = .unit then .node .compilationUnit (fields.set 2 (.token eof))
    else .node .compilationUnit fields
  | v => v

end Parsed

/-- Reads a text as a tree with immutable lists, putting the tokens in one by one. -/
def parsePure? (source : Text) (c : Context) (file : Option Text) : Option Parsed := do
  let ls ← Lexeme.scan? source
  let run ← Repair.run? c ls
  let fed := Dressing.fed run.steps ++ run.final.map .inserted
  let gaps := Gap.scan source (Dressing.skipped run.steps)
  let (tokens, eof) ← Dressing.dress file c gaps source.length fed
  let tree := (run.tree.refill tokens).1
  return {
    root := Parsed.close c (Parsed.endOfFile file source eof) tree
    diagnostics :=
      Parsed.report file run.steps
        ++ run.final.map (Parsed.missing file (Parsed.endCursor source ls)) }

/-! ### Readings -/

/-- What reading a text comes to. -/
inductive Reading where
  | unreadable
  /-- The tree has a token of an attempt that was given up, for which there is no dressed one. -/
  | lost
  | read (p : Parsed)

/-- The tree that was read. -/
def Reading.parsed? : Reading → Option Parsed
  | .read p => some p
  | _ => none

/-- What is known of a text before its tree is put together. -/
structure Parsed.Draft where
  lexemes : List Lexeme
  run : Repair.Run
  tokens : List Token
  endOfFile : List Trivia

namespace Parsed.Draft

/-- Feeds the lexemes of a text and dresses the tokens. -/
def of? (m : Repair.Lists) (source : Text) (c : Context) (file : Option Text) : Option Draft := do
  let ls ← Lexeme.scan? source
  let run ← Repair.runLexemes? m c source.length ls
  let fed := Dressing.fed run.steps ++ run.final.map .inserted
  let gaps := Gap.scan source (Dressing.skipped run.steps)
  let (tokens, eof) ← Dressing.dress file c gaps source.length fed
  return ⟨ls, run, tokens, eof⟩

/-- The dressed token for one that was fed. -/
def token? (d : Draft) (source : Text) (t : Token) : Option Token :=
  ((d.run.markedTokens source.length).zip d.tokens).lookup t

/-- The tree with the tokens `us` at its leaves, and the diagnostics. -/
def close (d : Draft) (source : Text) (c : Context) (file : Option Text) (us : List Token) :
    Parsed where
  root := Parsed.close c (Parsed.endOfFile file source d.endOfFile) (d.run.tree.refill us).1
  diagnostics :=
    Parsed.report file d.run.steps
      ++ d.run.final.map (Parsed.missing file (Parsed.endCursor source d.lexemes))

end Parsed.Draft

/-- Reads a text as a tree, with one kind of lists. -/
def readWith (m : Repair.Lists) (source : Text) (c : Context) (file : Option Text) : Reading :=
  match Parsed.Draft.of? m source c file with
  | none => .unreadable
  | some d =>
    match d.run.tree.leaves.mapM (d.token? source) with
    | none => .lost
    | some us => .read (d.close source c file us)

/-- Reads a text as a tree. -/
def read (source : Text) (c : Context) (file : Option Text) : Reading :=
  readWith .shared source c file

/-- The tree of a text, if it has one. -/
def parse? (source : Text) (c : Context) (file : Option Text) : Option Parsed :=
  (read source c file).parsed?

end TreeQuote
