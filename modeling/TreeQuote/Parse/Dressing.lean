/-
TreeQuote/Parse/Dressing.lean

Tokens with their trivia.  The text between two lexemes that were taken is a gap; what
it holds up to the first line end trails the token before, the rest leads the token
after.  A text that is a whole unit gives the end of the last gap to the end-of-file
token; any other text gives it to its last token.  Inserted tokens carry no trivia,
unless there is nothing else to carry it.
-/
import TreeQuote.Grammar.Table
import TreeQuote.Parse.Repair
import TreeQuote.Source.Gap
import TreeQuote.Source.Literal

namespace TreeQuote.Dressing

open Grammar

/-- A token in front of its dressing: inserted, or read from the source. -/
inductive Fed where
  | inserted (k : Kind)
  | read (l : Lexeme)
  deriving DecidableEq

/-- The tokens that the steps fed, in order. -/
def fed : List Repair.Step → List Fed
  | [] => []
  | .taken ks l :: rest => ks.map .inserted ++ .read l :: fed rest
  | .skipped _ :: rest => fed rest

/-- The lexemes that were passed over. -/
def skipped : List Repair.Step → List Lexeme
  | [] => []
  | .taken .. :: rest => skipped rest
  | .skipped l :: rest => l :: skipped rest

/-- The lexeme of a token that was read. -/
def Fed.lexeme? : Fed → Option Lexeme
  | .inserted _ => none
  | .read l => some l

/-- The token of a lexeme, without trivia; a literal may have no value. -/
def token? (file : Option Text) (l : Lexeme) : Option Token :=
  let span := some (l.span file)
  if l.kind = .identifierToken then some { Token.identifier l.text with span := span }
  else if l.kind = .numericLiteralToken then do
    let v ← Literal.parseNumber? l.text
    return { ← Token.literal? l.text v with span := span }
  else if l.kind = .stringLiteralToken then
    match Literal.decodeString l.text with
    | .ok s => some { kind := l.kind, text := l.text, value := .str s, span := span }
    | .error _ => none
  else (Token.fixed? l.kind).map fun t => { t with span := span }

/-- The trivia between two offsets. -/
abbrev Gaps := Nat → Nat → List Trivia

/-- Where the trivia behind the last token goes. -/
structure Rest where
  trailing : List Trivia
  endOfFile : List Trivia

/-- In a unit the last gap is split like any other. -/
def lastGap (c : Context) (gap : List Trivia) : Rest :=
  if c = .unit then
    let r := Gap.splitTrailing gap
    ⟨r.1, r.2⟩
  else ⟨gap, []⟩

/-- Dresses the tokens after one that was read and ends at `pos`.  Gives the trivia that
trails that token, the dressed tokens, and the trivia of the end-of-file token. -/
def dressAfter (file : Option Text) (c : Context) (gaps : Gaps) (stop : Nat) :
    Nat → List Fed → Option (List Trivia × List Token × List Trivia)
  | pos, [] =>
    let r := lastGap c (gaps pos stop)
    some (r.trailing, [], r.endOfFile)
  | pos, .inserted k :: rest =>
    (dressAfter file c gaps stop pos rest).map fun (trail, ts, eof) =>
      (trail, Token.missingOf k :: ts, eof)
  | pos, .read l :: rest => do
    let (trail, lead) := Gap.splitTrailing (gaps pos l.start.offset)
    let t ← token? file l
    let (trailing, ts, eof) ← dressAfter file c gaps stop l.stop.offset rest
    return (trail, t.withTrivia lead trailing :: ts, eof)

/-- Dresses all tokens up to and including the first that was read, which leads with the
whole gap in front of it; without one, the whole text is one gap. -/
def dress (file : Option Text) (c : Context) (gaps : Gaps) (stop : Nat) :
    List Fed → Option (List Token × List Trivia)
  | [] => some ([], if c = .unit then gaps 0 stop else [])
  | [.inserted k] =>
    if c = .unit then some ([.missingOf k], gaps 0 stop)
    else some ([{ Token.missingOf k with trailing := gaps 0 stop }], [])
  | .inserted k :: rest =>
    (dress file c gaps stop rest).map fun (ts, eof) => (.missingOf k :: ts, eof)
  | .read l :: rest => do
    let lead := gaps 0 l.start.offset
    let t ← token? file l
    let (trailing, ts, eof) ← dressAfter file c gaps stop l.stop.offset rest
    return (t.withTrivia lead trailing :: ts, eof)

end TreeQuote.Dressing
