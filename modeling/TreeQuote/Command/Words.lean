/-
TreeQuote/Command/Words.lean

The words of a command line.  A word is an option, the divider `--`, or a plain value;
behind the divider every word is plain.

An option may be cut short as long as one option only starts that way, and its value may
follow an equals sign.  A dash alone, a negative number, and an unknown option with a
space in it are plain values.
-/
import TreeQuote.Text.Digit

namespace TreeQuote.Command

/-- The options of the program. -/
inductive Flag where
  | help
  | verbose
  | json
  | maxLength
  | parseAs
  | preserveWhitespace
  | keepRedundantCalls
  | staticImport
  | openParenOnNewLine
  | closeParenOnNewLine
  deriving DecidableEq

namespace Flag

/-- The full spelling of an option. -/
def spelling : Flag → Text
  | .help => Text.of "--help"
  | .verbose => Text.of "--verbose"
  | .json => Text.of "--json"
  | .maxLength => Text.of "--max-length"
  | .parseAs => Text.of "--parse-as"
  | .preserveWhitespace => Text.of "--preserve-whitespace"
  | .keepRedundantCalls => Text.of "--keep-redundant-calls"
  | .staticImport => Text.of "--static-import"
  | .openParenOnNewLine => Text.of "--open-paren-on-new-line"
  | .closeParenOnNewLine => Text.of "--close-paren-on-new-line"

/-- The option has a value. -/
def takesValue : Flag → Bool
  | .maxLength | .parseAs => true
  | _ => false

end Flag

/-- What a word of the command line is. -/
inductive Word where
  | value (t : Text)
  | divider
  /-- An option, with the value that is written in the same word. -/
  | flag (f : Flag) (given : Option Text)
  | unknown (t : Text)
  deriving DecidableEq

namespace Word

/-- The part before the first equals sign, and the part behind it. -/
def splitValue (t : Text) : Text × Option Text :=
  match Text.cut? '=' t with
  | some (name, given) => (name, some given)
  | none => (t, none)

/-- Digits of any script, at least one. -/
def isDigits (t : Text) : Bool := !t.isEmpty && t.all CodePoint.isDecimal

/-- A dash and a number, with or without a fraction; a line end behind it does not count. -/
def isNegativeNumber (t : Text) : Bool :=
  let t := if t.getLast? = some (CodePoint.ofChar '\n') then t.dropLast else t
  match t with
  | c :: rest =>
    c = '-' && (isDigits rest || match Text.cut? '.' rest with
      | some (whole, fraction) => whole.all CodePoint.isDecimal && isDigits fraction
      | none => false)
  | [] => false

/-- The short spelling of the help option, repeated or with more behind it. -/
def shortHelp? : Text → Option Word
  | c :: rest =>
    if c = '-' && rest.head? = some (CodePoint.ofChar 'h') then
      match rest.dropWhile (· = CodePoint.ofChar 'h') with
      | [] => some (.flag .help none)
      | d :: more =>
        some (.flag .help (if d = '=' || d = '-' then some (d :: more) else none))
    else none
  | [] => none

/-- A word that is no option at all. -/
def stray (t : Text) : Word :=
  if isNegativeNumber t || t.contains (CodePoint.ofChar ' ') then .value t else .unknown t

/-- What a word in front of the divider is, where the given options are known; nothing if
several of them start like it. -/
def classify? (flags : List Flag) (t : Text) : Option Word :=
  if (Text.of "--").isPrefixOf t then
    let (name, given) := splitValue t
    match flags.filter (fun f => f.spelling = name) with
    | f :: _ => some (.flag f given)
    | [] => match flags.filter (fun f => name.isPrefixOf f.spelling) with
      | [] => some (stray t)
      | [f] => some (.flag f given)
      | _ => none
  else if (Text.of "-").isPrefixOf t && t.length ≠ 1 then
    some ((shortHelp? t).getD (stray t))
  else some (.value t)

/-- What the words of a command line are, or the word that could be several options. -/
def classifyAll (flags : List Flag) : List Text → Except Text (List Word)
  | [] => .ok []
  | t :: ts =>
    if t = Text.of "--" then .ok (.divider :: ts.map .value)
    else match classify? flags t with
      | none => .error t
      | some w => (classifyAll flags ts).map (w :: ·)

end Word

end TreeQuote.Command
