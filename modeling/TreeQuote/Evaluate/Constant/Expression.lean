/-
TreeQuote/Evaluate/Constant/Expression.lean

Expressions as they are written.  A literal may stand among other expressions, and it is only
said later what each of them is worth; so everything that is well written is read here, but what
can be no literal is kept as `other`, without its parts.

The reader goes down from conditions to operators, from operators to signs, and from signs to
names, constants and brackets.  An operator has a level, and what stands on its right side
binds more tightly than the level.
-/
import TreeQuote.Evaluate.Constant.Piece
import TreeQuote.Text.Utf8

namespace TreeQuote.Constant

mutual

/-- An expression. -/
inductive Expression where
  | constant (c : Constant)
  | name (t : Text)
  | tuple (items : List Expression)
  | list (items : List Expression)
  | set (items : List Expression)
  | dictionary (items : List Entry)
  /-- A number with a sign. -/
  | signed (negative : Bool) (operand : Expression)
  /-- A sum or a difference. -/
  | sum (left right : Expression)
  /-- A call without arguments. -/
  | call (function : Expression)
  /-- An expression that is no literal, whatever its parts are. -/
  | other

/-- A key of a dictionary with its value. -/
inductive Entry where
  | mk (key value : Expression)

end

/-- What reading leaves of the pieces. -/
abbrev Rest := List Piece

/-! ### Single pieces -/

/-- What stands behind a symbol. -/
def after? (s : String) : List Piece → Option Rest
  | .symbol t :: rest => if t = Text.of s then some rest else none
  | _ => none

/-- What stands behind a word. -/
def afterWord? (s : String) : List Piece → Option Rest
  | .name t :: rest => if t = Text.of s then some rest else none
  | _ => none

/-- Words that are no names. -/
def keywords : List Text :=
  ["False", "None", "True", "and", "as", "assert", "async", "await", "break", "class", "continue",
   "def", "del", "elif", "else", "except", "finally", "for", "from", "global", "if", "import", "in",
   "is", "lambda", "nonlocal", "not", "or", "pass", "raise", "return", "try", "while", "with",
   "yield"].map Text.of

/-- What stands behind a name. -/
def afterName? : List Piece → Option Rest
  | .name t :: rest => if keywords.contains t then none else some rest
  | _ => none

/-- The levels of the symbols that are operators between two operands. -/
def levels : List (Text × Nat) :=
  [("==", 4), ("!=", 4), ("<", 4), (">", 4), ("<=", 4), (">=", 4), ("|", 5), ("^", 6), ("&", 7),
   ("<<", 8), (">>", 8), ("+", 9), ("-", 9), ("*", 10), ("/", 10), ("//", 10), ("%", 10),
   ("@", 10)].map fun p : String × Nat => (Text.of p.1, p.2)

/-- The levels of operators that are words. -/
def wordLevels : List (Text × Nat) :=
  [("or", 1), ("and", 2), ("in", 4), ("is", 4)].map fun p : String × Nat => (Text.of p.1, p.2)

/-- An operator between two operands: its level, whether it is a plus or a minus, and what
stands behind it. -/
def operator? : List Piece → Option (Nat × Bool × Rest)
  | .symbol t :: rest =>
    (levels.lookup t).map fun l => (l, t = Text.of "+" || t = Text.of "-", rest)
  | .name t :: rest =>
    if t = Text.of "not" then (afterWord? "in" rest).map fun rest => (4, false, rest)
    else if t = Text.of "is" then some (4, false, (afterWord? "not" rest).getD rest)
    else (wordLevels.lookup t).map fun l => (l, false, rest)
  | _ => none

/-- A string of any sort. -/
def isString : Piece → Bool
  | .string _ => true
  | .bytes => true
  | .formatted => true
  | _ => false

/-- The text of a plain string. -/
def stringText : Piece → Text
  | .string t => t
  | _ => []

/-- What strings side by side stand for; bytes and texts do not mix. -/
def strings? (ps : List Piece) : Option Expression :=
  if ps.contains .bytes then
    if ps.all (· = .bytes) then some (.constant (.other (Text.of "bytes"))) else none
  else if ps.contains .formatted then some .other
  else some (.constant (.scalar (.str (ps.flatMap stringText))))

/-- What a single word stands for. -/
def word (t : Text) : Option Expression :=
  if t = Text.of "True" then some (.constant (.scalar (.bool true)))
  else if t = Text.of "False" then some (.constant (.scalar (.bool false)))
  else if t = Text.of "None" then some (.constant (.scalar .none))
  else if keywords.contains t then none
  else some (.name t)

/-- The first piece is a symbol. -/
def startsWith (s : String) (ps : List Piece) : Bool := (after? s ps).isSome

/-- The pieces start a clause that runs over items. -/
def startsClause (ps : List Piece) : Bool :=
  (afterWord? "for" ps).isSome || ((afterWord? "async" ps).bind (afterWord? "for")).isSome

/-! ### The reader -/

mutual

/-- An expression: operators with a condition or without one, or a function without a name. -/
def expression? : Nat → List Piece → Option (Expression × Rest)
  | 0, _ => none
  | fuel + 1, ps =>
    match afterWord? "lambda" ps with
    | some rest => do
      let (_, rest) ← expression? fuel (← parameters? fuel rest)
      return (.other, rest)
    | none => do
      let (e, rest) ← level? fuel 1 ps
      match afterWord? "if" rest with
      | none => return (e, rest)
      | some rest => do
        let (_, rest) ← level? fuel 1 rest
        let (_, rest) ← expression? fuel (← afterWord? "else" rest)
        return (.other, rest)

/-- Operands with operators of at least the given level between them. -/
def level? : Nat → Nat → List Piece → Option (Expression × Rest)
  | 0, _, _ => none
  | fuel + 1, l, ps => do
    let (e, rest) ← operand? fuel l ps
    more? fuel l e rest

/-- Operators of at least the given level behind an operand. -/
def more? : Nat → Nat → Expression → List Piece → Option (Expression × Rest)
  | 0, _, _, _ => none
  | fuel + 1, l, e, ps =>
    match operator? ps with
    | none => some (e, ps)
    | some (k, isSum, rest) =>
      if k < l then some (e, ps)
      else do
        let (r, rest) ← level? fuel (k + 1) rest
        more? fuel l (if isSum then .sum e r else .other) rest

/-- An operand, which may be denied where its level allows it. -/
def operand? : Nat → Nat → List Piece → Option (Expression × Rest)
  | 0, _, _ => none
  | fuel + 1, l, ps =>
    match afterWord? "not" ps with
    | none => factor? fuel ps
    | some rest =>
      if 3 < l then none
      else do
        let (_, rest) ← level? fuel 3 rest
        return (.other, rest)

/-- A power with signs in front of it. -/
def factor? : Nat → List Piece → Option (Expression × Rest)
  | 0, _ => none
  | fuel + 1, ps =>
    match after? "-" ps, after? "+" ps, after? "~" ps with
    | some rest, _, _ => do
      let (e, rest) ← factor? fuel rest
      return (.signed true e, rest)
    | _, some rest, _ => do
      let (e, rest) ← factor? fuel rest
      return (.signed false e, rest)
    | _, _, some rest => do
      let (_, rest) ← factor? fuel rest
      return (.other, rest)
    | _, _, _ => do
      let awaited := afterWord? "await" ps
      let (e, rest) ← atom? fuel (awaited.getD ps)
      let (e, rest) ← trailers? fuel e rest
      match after? "**" rest with
      | some rest => do
        let (_, rest) ← factor? fuel rest
        return (.other, rest)
      | none => return (if awaited.isSome then .other else e, rest)

/-- Calls, items and properties behind an expression. -/
def trailers? : Nat → Expression → List Piece → Option (Expression × Rest)
  | 0, _, _ => none
  | fuel + 1, e, ps =>
    match after? "." ps, after? "(" ps, after? "[" ps with
    | some rest, _, _ => do trailers? fuel .other (← afterName? rest)
    | _, some rest, _ =>
      match after? ")" rest with
      | some rest => trailers? fuel (.call e) rest
      | none => do trailers? fuel .other (← arguments? fuel rest)
    | _, _, some rest =>
      if startsWith "]" rest then none
      else do trailers? fuel .other (← subscripts? fuel true rest)
    | _, _, _ => some (e, ps)

/-- The arguments of a call, up to the closing bracket. -/
def arguments? : Nat → List Piece → Option Rest
  | 0, _ => none
  | fuel + 1, ps => do
    let start := ((after? "*" ps).orElse fun _ => after? "**" ps).getD
      (((afterName? ps).bind (after? "=")).getD ps)
    let (_, rest) ← named? fuel start
    let rest ← if startsClause rest then clauses? fuel rest else some rest
    match after? ")" rest with
    | some rest => return rest
    | none => do
      let rest ← after? "," rest
      match after? ")" rest with
      | some rest => return rest
      | none => arguments? fuel rest

/-- Items and slices, up to the closing bracket; `fresh` says that an expression may follow. -/
def subscripts? : Nat → Bool → List Piece → Option Rest
  | 0, _, _ => none
  | fuel + 1, fresh, ps =>
    match after? "]" ps with
    | some rest => some rest
    | none =>
      match (after? ":" ps).orElse fun _ => after? "," ps with
      | some rest => subscripts? fuel true rest
      | none =>
        if fresh then do
          let (_, rest) ← member? fuel ps
          subscripts? fuel false rest
        else none

/-- The parameters of a function without a name, up to the colon. -/
def parameters? : Nat → List Piece → Option Rest
  | 0, _ => none
  | fuel + 1, ps =>
    match after? ":" ps with
    | some rest => some rest
    | none =>
      match afterName? ps with
      | some rest =>
        match after? "=" rest with
        | some rest => do
          let (_, rest) ← expression? fuel rest
          parameters? fuel rest
        | none => parameters? fuel rest
      | none =>
        match ps with
        | .symbol s :: rest =>
          if ["*", "**", "/", ","].any fun x => Text.of x = s then parameters? fuel rest else none
        | _ => none

/-- Clauses that run over items. -/
def clauses? : Nat → List Piece → Option Rest
  | 0, _ => none
  | fuel + 1, ps => do
    let rest ← afterWord? "for" ((afterWord? "async" ps).getD ps)
    let rest ← targets? fuel rest
    let (_, rest) ← level? fuel 1 (← afterWord? "in" rest)
    let rest ← conditions? fuel rest
    if startsClause rest then clauses? fuel rest else return rest

/-- The names that a clause gives to its items. -/
def targets? : Nat → List Piece → Option Rest
  | 0, _ => none
  | fuel + 1, ps => do
    let (_, rest) ← level? fuel 5 ((after? "*" ps).getD ps)
    match after? "," rest with
    | none => return rest
    | some rest => if (afterWord? "in" rest).isSome then return rest else targets? fuel rest

/-- Conditions behind a clause. -/
def conditions? : Nat → List Piece → Option Rest
  | 0, _ => none
  | fuel + 1, ps =>
    match afterWord? "if" ps with
    | none => some ps
    | some rest => do
      let (_, rest) ← level? fuel 1 rest
      conditions? fuel rest

/-- An expression that may be given a name. -/
def named? : Nat → List Piece → Option (Expression × Rest)
  | 0, _ => none
  | fuel + 1, ps =>
    match (afterName? ps).bind (after? ":=") with
    | some rest => do
      let (_, rest) ← expression? fuel rest
      return (.other, rest)
    | none => expression? fuel ps

/-- A member of a display, which may be one that is spread out. -/
def member? : Nat → List Piece → Option (Expression × Rest)
  | 0, _ => none
  | fuel + 1, ps =>
    match after? "*" ps with
    | some rest => do
      let (_, rest) ← level? fuel 5 rest
      return (.other, rest)
    | none => named? fuel ps

/-- The members of a display behind its first, up to the closing bracket. -/
def members? : Nat → String → List Piece → Option (List Expression × Rest)
  | 0, _, _ => none
  | fuel + 1, close, ps =>
    match after? close ps with
    | some rest => some ([], rest)
    | none => do
      let rest ← after? "," ps
      match after? close rest with
      | some rest => return ([], rest)
      | none => do
        let (e, rest) ← member? fuel rest
        let (es, rest) ← members? fuel close rest
        return (e :: es, rest)

/-- An entry of a dictionary; one that is spread out has no key. -/
def entry? : Nat → List Piece → Option (Entry × Rest)
  | 0, _ => none
  | fuel + 1, ps =>
    match after? "**" ps with
    | some rest => do
      let (v, rest) ← level? fuel 5 rest
      return (.mk .other v, rest)
    | none => do
      let (k, rest) ← expression? fuel ps
      let (v, rest) ← expression? fuel (← after? ":" rest)
      return (.mk k v, rest)

/-- The entries of a dictionary behind its first, up to the closing brace. -/
def entries? : Nat → List Piece → Option (List Entry × Rest)
  | 0, _ => none
  | fuel + 1, ps =>
    match after? "\x7d" ps with
    | some rest => some ([], rest)
    | none => do
      let rest ← after? "," ps
      match after? "\x7d" rest with
      | some rest => return ([], rest)
      | none => do
        let (e, rest) ← entry? fuel rest
        let (es, rest) ← entries? fuel rest
        return (e :: es, rest)

/-- What stands in round brackets. -/
def group? : Nat → List Piece → Option (Expression × Rest)
  | 0, _ => none
  | fuel + 1, ps =>
    match after? ")" ps, afterWord? "yield" ps with
    | some rest, _ => some (.tuple [], rest)
    | none, some rest =>
      match after? ")" rest, afterWord? "from" rest with
      | some rest, _ => some (.other, rest)
      | none, some rest => do
        let (_, rest) ← expression? fuel rest
        return (.other, ← after? ")" rest)
      | none, none => do
        let (_, rest) ← member? fuel rest
        let (_, rest) ← members? fuel ")" rest
        return (.other, rest)
    | none, none => do
      let (e, rest) ← member? fuel ps
      if startsClause rest then return (.other, ← after? ")" (← clauses? fuel rest))
      else match after? ")" rest with
        | some rest => if startsWith "*" ps then none else return (e, rest)
        | none => do
          let (es, rest) ← members? fuel ")" rest
          return (.tuple (e :: es), rest)

/-- What stands in square brackets. -/
def list? : Nat → List Piece → Option (Expression × Rest)
  | 0, _ => none
  | fuel + 1, ps =>
    match after? "]" ps with
    | some rest => some (.list [], rest)
    | none => do
      let (e, rest) ← member? fuel ps
      if startsClause rest then return (.other, ← after? "]" (← clauses? fuel rest))
      else do
        let (es, rest) ← members? fuel "]" rest
        return (.list (e :: es), rest)

/-- What stands in braces. -/
def braces? : Nat → List Piece → Option (Expression × Rest)
  | 0, _ => none
  | fuel + 1, ps =>
    match after? "\x7d" ps with
    | some rest => some (.dictionary [], rest)
    | none =>
      if startsWith "**" ps then do
        let (e, rest) ← entry? fuel ps
        let (es, rest) ← entries? fuel rest
        return (.dictionary (e :: es), rest)
      else do
        let (e, rest) ← member? fuel ps
        if startsClause rest then return (.other, ← after? "\x7d" (← clauses? fuel rest))
        else match after? ":" rest with
          | none => do
            let (es, rest) ← members? fuel "\x7d" rest
            return (.set (e :: es), rest)
          | some rest => do
            let (v, rest) ← expression? fuel rest
            if startsClause rest then return (.other, ← after? "\x7d" (← clauses? fuel rest))
            else do
              let (es, rest) ← entries? fuel rest
              return (.dictionary (.mk e v :: es), rest)

/-- A constant, a name, or something in brackets. -/
def atom? : Nat → List Piece → Option (Expression × Rest)
  | 0, _ => none
  | fuel + 1, ps =>
    match ps with
    | .number c :: rest => some (.constant c, rest)
    | .name t :: rest => (word t).map fun e => (e, rest)
    | .symbol s :: rest =>
      if s = Text.of "(" then group? fuel rest
      else if s = Text.of "[" then list? fuel rest
      else if s = Text.of "\x7b" then braces? fuel rest
      else if s = Text.of "..." then some (.constant (.other (Text.of "ellipsis")), rest)
      else none
    | p :: _ =>
      if isString p then (strings? (ps.takeWhile isString)).map fun e => (e, ps.dropWhile isString)
      else none
    | [] => none

end

/-! ### Whole texts -/

/-- Nothing but line ends. -/
def onlyLines (ps : List Piece) : Bool := ps.all (· = .line)

/-- Expressions behind commas outside brackets, to the end. -/
def open? : Nat → List Piece → Option (List Expression)
  | 0, _ => none
  | fuel + 1, ps =>
    if onlyLines ps then some []
    else do
      let rest ← after? "," ps
      if onlyLines rest then return []
      else do
        let (e, rest) ← expression? fuel rest
        return e :: (← open? fuel rest)

/-- The expression that some pieces are; a comma makes it a tuple. -/
def whole? (ps : List Piece) : Option Expression := do
  let fuel := 16 * (ps.length + 2)
  let (e, rest) ← expression? fuel (ps.dropWhile (· = .line))
  if onlyLines rest then return e
  else return .tuple (e :: (← open? fuel rest))

/-- The expression that a text is. -/
def parse? (t : Text) : Option Expression :=
  if t.any fun c => c.val = 0 || CodePoint.isSurrogate c then none
  else
    let source := Text.universalLines (t.dropWhile fun c => c = ' ' || c = '\t')
    if isIndented 0 0 source then none
    else (pieces? source.length 0 source).bind whole?

end TreeQuote.Constant
