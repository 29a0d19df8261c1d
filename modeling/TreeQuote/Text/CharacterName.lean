/-
TreeQuote/Text/CharacterName.lean

Characters by their names.  Most names stand in tables, as runs of code points that follow
one another.  The names of Korean syllables are put together from the names of their sounds,
and those of ideographs and of a few more end with the number of the character.

A run is written in several strings, to be read as one.  In it, each name is written after a
small letter, which says how many characters are those of the name before, counted in pairs:
`a` none, `b` two, `c` four.  So `aDIGIT ZEROdONE` are `DIGIT ZERO` and `DIGIT ONE`.

Names in tables may be written in letters of either case.
-/
import TreeQuote.Text.Basic
import TreeQuote.Text.CharacterName.Alias
import TreeQuote.Text.CharacterName.Ancient
import TreeQuote.Text.CharacterName.EastAsian
import TreeQuote.Text.CharacterName.European
import TreeQuote.Text.CharacterName.Indic
import TreeQuote.Text.CharacterName.Notation
import TreeQuote.Text.CharacterName.Patterns
import TreeQuote.Text.CharacterName.Pictographs
import TreeQuote.Text.CharacterName.Presentation
import TreeQuote.Text.CharacterName.Syllabic
import TreeQuote.Text.CharacterName.Symbols

namespace TreeQuote.CharacterName

/-! ### Tables -/

/-- One more character, from the right: it starts an entry if it is a small letter, and belongs
to the entry that is being collected otherwise. -/
def collect (c : Char) (state : List Char × List (Nat × List Char)) :
    List Char × List (Nat × List Char) :=
  if c.isLower then ([], (2 * (c.toNat - 97), state.1) :: state.2) else (c :: state.1, state.2)

/-- The entries of a run: how much of the name before is kept, and what follows it. -/
def entries (run : List Char) : List (Nat × List Char) := (run.foldr collect ([], [])).2

/-- The names of entries behind the name `before`. -/
def names (before : List Char) : List (Nat × List Char) → List (List Char)
  | [] => []
  | (kept, rest) :: more =>
    let name := before.take kept ++ rest
    name :: names name more

/-- The number of the character with the given name in a run that starts at `first`. -/
def inRun? (name : List Char) (first : Nat) (run : List String) : Option Nat :=
  ((names [] (entries (run.flatMap String.toList))).findIdx? (· = name)).map (first + ·)

/-- All runs. -/
def tables : List (List (Nat × List String)) :=
  [european, indic, syllabic, symbols, patterns, eastAsian, presentation, ancient, notationMarks,
   pictographs]

/-- The number of the character with the given name in the tables. -/
def inTables? (name : List Char) : Option Nat :=
  tables.findSome? fun runs => runs.findSome? fun r => inRun? name r.1 r.2

/-- The number of the character with the given second name. -/
def inAliases? (name : List Char) : Option Nat :=
  (aliases.find? fun a => a.2.toList = name).map (·.1)

/-! ### Numbered names -/

/-- The value of a digit, or of one of the capitals `A` to `F`. -/
def capitalHex? (c : Char) : Option Nat :=
  if c.isDigit then some (c.toNat - 48)
  else if 'A' ≤ c && c ≤ 'F' then some (c.toNat - 55)
  else none

/-- The number with the given four or five hexadecimal digits. -/
def hexNumber? (ds : List Char) : Option Nat :=
  if ds.length = 4 || ds.length = 5 then
    (ds.mapM capitalHex?).map fun vs => vs.foldl (fun n d => n * 16 + d) 0
  else none

/-- The number behind a beginning, if it is in one of the ranges. -/
def numbered? (beginning : String) (ranges : List (Nat × Nat)) (name : List Char) : Option Nat :=
  if beginning.toList.isPrefixOf name then
    (hexNumber? (name.drop beginning.length)).filter fun n =>
      ranges.any fun r => r.1 ≤ n && n ≤ r.2
  else none

/-- What the name of an ideograph starts with. -/
def ideographMark : String := "CJK UNIFIED IDEOGRAPH-"

/-- The ideographs with numbered names. -/
def ideographs : List (Nat × Nat) :=
  [(0x3400, 0x4DBF), (0x4E00, 0x9FFF), (0x20000, 0x2A6DF), (0x2A700, 0x2B738), (0x2B740, 0x2B81D),
   (0x2B820, 0x2CEA1), (0x2CEB0, 0x2EBE0), (0x30000, 0x3134A)]

/-- Other characters with numbered names: what the names start with, and the numbers. -/
def numberedNames : List (String × List (Nat × Nat)) :=
  [("CJK COMPATIBILITY IDEOGRAPH-", [(0xF900, 0xFA6D), (0xFA70, 0xFAD9), (0x2F800, 0x2FA1D)]),
   ("KHITAN SMALL SCRIPT CHARACTER-", [(0x18B00, 0x18CD5)]),
   ("NUSHU CHARACTER-", [(0x1B170, 0x1B2FB)])]

/-- The number of one of those characters. -/
def inNumbered? (name : List Char) : Option Nat :=
  numberedNames.findSome? fun p =>
    if (name.drop p.1.length).head? = some '0' then none else numbered? p.1 p.2 name

/-- The number of a variation selector: `VS1` to `VS256`. -/
def selector? : List Char → Option Nat
  | 'V' :: 'S' :: ds =>
    if ds.isEmpty || 3 < ds.length || !ds.all Char.isDigit || ds.head? = some '0' then none
    else
      let n := ds.foldl (fun n d => n * 10 + (d.toNat - 48)) 0
      if n ≤ 16 then some (0xFE00 + n - 1)
      else if n ≤ 256 then some (0xE0100 + n - 17)
      else none
  | _ => none

/-! ### Korean syllables -/

/-- What the name of a syllable starts with. -/
def syllableMark : String := "HANGUL SYLLABLE "

/-- The first sounds of a syllable. -/
def initials : List String :=
  ["G", "GG", "N", "D", "DD", "R", "M", "B", "BB", "S", "SS", "", "J", "JJ", "C", "K", "T", "P", "H"]

/-- The vowels of a syllable. -/
def vowels : List String :=
  ["A", "AE", "YA", "YAE", "EO", "E", "YEO", "YE", "O", "WA", "WAE", "OE", "YO", "U", "WEO", "WE",
   "WI", "YU", "EU", "YI", "I"]

/-- The last sounds of a syllable. -/
def finals : List String :=
  ["", "G", "GG", "GS", "N", "NJ", "NH", "D", "L", "LG", "LM", "LB", "LS", "LT", "LP", "LH", "M",
   "B", "BS", "S", "SS", "NG", "J", "C", "K", "T", "P", "H"]

/-- The position of the longest sound at the start of a text, and the text after it. -/
def sound? (sounds : List String) (t : List Char) : Option (Nat × List Char) :=
  let longest := (sounds.filter fun s => s.toList.isPrefixOf t).foldl
    (fun (best : Option String) s => match best with
      | some b => if b.length < s.length then some s else some b
      | none => some s) none
  longest.bind fun s => (sounds.findIdx? (· = s)).map fun i => (i, t.drop s.length)

/-- The number of a syllable, from the names of its sounds. -/
def syllable? (t : List Char) : Option Nat := do
  let (i, t) ← sound? initials t
  let (v, t) ← sound? vowels t
  let (f, t) ← sound? finals t
  if t.isEmpty then some (0xAC00 + (i * 21 + v) * 28 + f) else none

/-! ### Look-up -/

/-- The number of the character with the given name. -/
def number? (name : List Char) : Option Nat :=
  if syllableMark.toList.isPrefixOf name then syllable? (name.drop syllableMark.length)
  else if ideographMark.toList.isPrefixOf name then numbered? ideographMark ideographs name
  else
    let capitals := name.map Char.toUpper
    inNumbered? capitals <|> selector? capitals <|> inAliases? capitals <|> inTables? capitals

/-- The character with the given name. -/
def find? (name : Text) : Option CodePoint := do
  CodePoint.ofNat? (← number? (← name.mapM CodePoint.toChar?))

end TreeQuote.CharacterName
