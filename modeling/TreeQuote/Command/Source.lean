/-
TreeQuote/Command/Source.lean

Where the text of a command comes from: the standard input, or a file.  The name of a file
is put into its plain form before it is used or shown: no empty steps and no steps to where
one is already.
-/
import TreeQuote.Text.Utf8

namespace TreeQuote.Command

/-- Where a text comes from. -/
inductive Source where
  | standardInput
  | file (name : Text)
  deriving DecidableEq

namespace Source

/-- The slashes that a path starts with: two of them are kept, more count as one. -/
def root (t : Text) : Text :=
  match (t.takeWhile (· = CodePoint.ofChar '/')).length with
  | 0 => []
  | 2 => Text.of "//"
  | _ => Text.of "/"

/-- The plain form of a path. -/
def plainPath (t : Text) : Text :=
  let steps := (Text.split '/' t).filter fun s => !s.isEmpty && s ≠ Text.of "."
  let path := root t ++ Text.join (Text.of "/") steps
  if path.isEmpty then Text.of "." else path

/-- The source with the given name; a dash is the standard input. -/
def ofName (t : Text) : Source :=
  if t = Text.of "-" then .standardInput else .file (plainPath t)

/-- What a source is called in messages. -/
def label : Source → Text
  | .standardInput => Text.of "<stdin>"
  | .file name => name

end Source

end TreeQuote.Command
