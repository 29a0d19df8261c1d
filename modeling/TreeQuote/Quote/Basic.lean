/-
TreeQuote/Quote/Basic.lean

Quoting as a whole: a tree, or a source text, to the code that builds it.
-/
import TreeQuote.Call.Reader
import TreeQuote.Parse.Basic
import TreeQuote.Quote.Quoter
import TreeQuote.Quote.Trim

namespace TreeQuote

/-- Why quoting fails. -/
inductive QuoteError where
  | quote (e : Quote.Error)
  | trim (e : Trim.Error)
  deriving DecidableEq

/-- The call that builds a tree, trimmed if the options ask for it. -/
def quote (r : Registry) (o : Options) (v : Value) : Except QuoteError Call := do
  let c ← (Quote.quoteRoot r o v).mapError .quote
  if o.removeRedundant then return (← (Trim.trim r o c).mapError .trim).1
  else return c

/-- What stands for the code of a text that cannot be parsed. -/
def parseErrorText : Text := Text.of "Parse error"

/-- The code that builds the tree of a source text. -/
def quoteText (r : Registry) (o : Options) (source : Text) (c : Grammar.Context) :
    Except QuoteError Text :=
  match read source c none with
  | .unreadable => .ok parseErrorText
  | .lost => .error (.quote (.fault .noEntry))
  | .read p => do return ((← quote r o p.root).print? o).getD []

end TreeQuote
