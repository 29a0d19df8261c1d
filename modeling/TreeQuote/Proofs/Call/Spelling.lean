/-
TreeQuote/Proofs/Call/Spelling.lean

Printed calls as tokens.  The layout of code, where its lines break and how deep they are
indented, is made of blanks; so the tokens of a printed call depend on the call and on the
names that are qualified, and on nothing else.

Main statement: `scan_print?`, the code of a legible call scans to the pieces of the call.
-/
import Mathlib.Data.List.Forall2
import Mathlib.Data.List.TakeWhile
import TreeQuote.Call.Reader
import TreeQuote.Proofs.Call.Terminal

namespace TreeQuote.Code

/-! ### Tokens without their places -/

/-- The class and the text of a token. -/
abbrev Piece := TokenClass × Text

/-- A token without its place. -/
def Token.piece (t : Token) : Piece := (t.sort, t.text)

/-- A text that is matched from its start to its end, and the pieces that this gives. -/
inductive Scans : Text → List Piece → Prop where
  | nil : Scans [] []
  | blank {t : Text} {n : Nat} {ps : List Piece} (hm : match? t = some (none, n)) (hn : 0 < n)
      (hrest : Scans (t.drop n) ps) : Scans t ps
  | piece {t : Text} {s : TokenClass} {n : Nat} {ps : List Piece}
      (hm : match? t = some (some s, n)) (hn : 0 < n) (hrest : Scans (t.drop n) ps) :
      Scans t ((s, t.take n) :: ps)

/-- The scanner finds the pieces of a text. -/
theorem Scans.scanFrom {t : Text} {ps : List Piece} (h : Scans t ps) {fuel : Nat} (p : Cursor)
    (last : Nat × Nat) (hfuel : t.length ≤ fuel) :
    (scanFrom fuel p last t).map Token.piece = ps ++ [(.finish, [])] := by
  induction h generalizing fuel p last with
  | nil => cases fuel <;> rfl
  | @blank t n ps hm hn _ ih =>
    cases t with
    | nil => cases hm
    | cons c t =>
      obtain ⟨fuel, rfl⟩ : ∃ k, fuel = k + 1 := ⟨fuel - 1, by simp at hfuel; omega⟩
      simp only [Code.scanFrom, hm]
      exact ih _ _ (by simp only [List.length_drop, List.length_cons] at hfuel ⊢; omega)
  | @piece t s n ps hm hn _ ih =>
    cases t with
    | nil => cases hm
    | cons c t =>
      obtain ⟨fuel, rfl⟩ : ∃ k, fuel = k + 1 := ⟨fuel - 1, by simp at hfuel; omega⟩
      simp only [Code.scanFrom, hm, List.map_cons, List.cons_append]
      congr 1
      exact ih _ _ (by simp only [List.length_drop, List.length_cons] at hfuel ⊢; omega)

/-- A text that gives its pieces in front of any other. -/
def Stands (t : Text) (ps : List Piece) : Prop :=
  ∀ r qs, Scans r qs → Scans (t ++ r) (ps ++ qs)

/-- A text that gives its pieces in front of a delimiter and at the end. -/
def Scannable (t : Text) (ps : List Piece) : Prop :=
  ∀ r qs, Bounded r → Scans r qs → Scans (t ++ r) (ps ++ qs)

variable {t u : Text} {ps qs : List Piece}

theorem Stands.scannable (h : Stands t ps) : Scannable t ps := fun r qs _ => h r qs

theorem Stands.append (ht : Stands t ps) (hu : Stands u qs) : Stands (t ++ u) (ps ++ qs) := by
  intro r rs hr
  rw [List.append_assoc, List.append_assoc]
  exact ht _ _ (hu r rs hr)

theorem Stands.append_scannable (ht : Stands t ps) (hu : Scannable u qs) :
    Scannable (t ++ u) (ps ++ qs) := by
  intro r rs hb hr
  rw [List.append_assoc, List.append_assoc]
  exact ht _ _ (hu r rs hb hr)

theorem Bounded.append (ht : Bounded t) (hu : Bounded u) : Bounded (t ++ u) := by
  cases t with
  | nil => exact hu
  | cons c t => exact ht

theorem bounded_nil : Bounded [] := by
  rintro c ⟨⟩

/-- A text that starts with a delimiter. -/
theorem bounded_cons {c : CodePoint} (t : Text) (hc : c ∈ delimiters) : Bounded (c :: t) := by
  rintro d ⟨⟩
  exact hc

/-- What follows only has to keep its distance. -/
theorem Scannable.append (ht : Scannable t ps) (hu : Scannable u qs) (hb : Bounded u) :
    Scannable (t ++ u) (ps ++ qs) := by
  intro r rs hr hs
  rw [List.append_assoc, List.append_assoc]
  exact ht _ _ (hb.append hr) (hu r rs hr hs)

/-! ### Blanks and marks -/

/-- Blanks in front of a text are skipped together with those that it starts with. -/
theorem stands_blanks (ht : ∀ c ∈ t, c.isBlank = true) : Stands t [] := by
  intro r qs hr
  cases t with
  | nil => exact hr
  | cons c t =>
    have hrun : Lexeme.run CodePoint.isBlank (c :: t ++ r)
        = (c :: t).length + Lexeme.run CodePoint.isBlank r := by
      rw [Lexeme.run, List.takeWhile_append_of_pos ht, List.length_append, Lexeme.run]
    have hmatch : match? (c :: t ++ r)
        = some (none, (c :: t).length + Lexeme.run CodePoint.isBlank r) := by
      rw [← hrun, List.cons_append, match?, if_pos (ht c List.mem_cons_self)]
    refine .blank hmatch (by simp only [List.length_cons]; omega) ?_
    rw [← List.drop_drop, List.drop_left]
    -- the blanks at the start of the rest are one match of their own
    cases r with
    | nil => exact hr
    | cons d r =>
      cases hd : d.isBlank with
      | false => rwa [Lexeme.run, List.takeWhile_cons_of_neg (by simp [hd])]
      | true =>
        cases hr with
        | blank hm _ hrest =>
          rw [match?, if_pos hd] at hm
          cases hm
          exact hrest
        | piece hm _ _ =>
          rw [match?, if_pos hd] at hm
          cases hm

/-- No number starts with anything but a sign, a point or a digit. -/
theorem numberLength_eq_zero {c : CodePoint} (r : Text) (hsign : c ≠ CodePoint.ofChar '-')
    (hdot : c ≠ CodePoint.ofChar '.') (hdec : c.isDecimal = false) :
    numberLength (c :: r) = 0 := by
  have hdigits : digitsLength (c :: r) = 0 := by
    simp [digitsLength, Lexeme.run, hdec, hdot]
  simp [numberLength, hsign, hdigits]

/-- The marks that are tokens wherever they stand. -/
def marks : List (CodePoint × TokenClass) :=
  [('(', .openParen), (')', .closeParen), ('[', .openBracket), (']', .closeBracket),
   (',', .comma), ('=', .equals)]

/-- A mark is punctuation and starts nothing that is tried before. -/
theorem marks_match : ∀ m ∈ marks, m.1.isBlank = false ∧ m.1 ≠ CodePoint.ofChar '#'
    ∧ Lexeme.startsWord m.1 = false
    ∧ (m.1 = CodePoint.ofChar '"' || m.1 = CodePoint.ofChar '\'') = false
    ∧ m.1 ≠ CodePoint.ofChar '-' ∧ m.1 ≠ CodePoint.ofChar '.' ∧ m.1.isDecimal = false
    ∧ punctuation.lookup m.1 = some m.2 := by
  decide

/-- A mark is a token whatever follows. -/
theorem stands_mark {c : CodePoint} {s : TokenClass} (h : (c, s) ∈ marks) :
    Stands [c] [(s, [c])] := by
  intro r qs hr
  obtain ⟨hblank, hcomment, hword, hquote, hsign, hdot, hdec, hlook⟩ := marks_match _ h
  have hnum := numberLength_eq_zero r hsign hdot hdec
  have hmatch : match? (c :: r) = some (some s, 1) := by
    simp only [match?, hblank, hcomment, hword, hquote, hnum, hlook, Bool.false_eq_true, if_false,
      ne_eq, not_true_eq_false, Option.map_some]
  exact Scans.piece hmatch Nat.one_pos hr

/-- The dot in front of a name is a token of its own. -/
theorem scannable_dot (ht : Scannable t ps) (hname : t ∈ Terminal.name) :
    Scannable (CodePoint.ofChar '.' :: t) ((.dot, Text.of ".") :: ps) := by
  intro r qs hb hr
  obtain ⟨c, u, hc, rfl⟩ := head_name hname
  have hdec : c.isDecimal = false := by
    by_contra h
    have := (starts_number (Or.inr (Or.inr (Bool.not_eq_false _ ▸ h)))).2.2.1
    simp [hc] at this
  have hnum : numberLength (CodePoint.ofChar '.' :: (c :: u ++ r)) = 0 := by
    have hdigits : digitsLength (CodePoint.ofChar '.' :: (c :: u ++ r)) = 0 := by
      have hpoint : CodePoint.isDecimal (CodePoint.ofChar '.') = false := by decide
      simp [digitsLength, Lexeme.run, hdec, hpoint]
    have hsign : CodePoint.ofChar '.' ≠ CodePoint.ofChar '-' := by decide
    simp only [numberLength, hsign, if_false, List.drop_zero, hdigits, if_true]
  have hmatch : match? (CodePoint.ofChar '.' :: (c :: u ++ r)) = some (some .dot, 1) := by
    rw [match?, if_neg (by decide), if_neg (by decide), if_neg (by decide), if_neg (by decide),
      if_neg (by simp only [hnum, ne_eq, not_true_eq_false, not_false_eq_true])]
    rfl
  exact Scans.piece hmatch Nat.one_pos (ht r qs hb hr)

/-! ### Terminals -/

/-- A text that is matched as a whole is one piece. -/
theorem scannable_of_match? {s : TokenClass} (hne : t ≠ [])
    (h : ∀ r, Bounded r → match? (t ++ r) = some (some s, t.length)) :
    Scannable t [(s, t)] := by
  intro r qs hb hr
  have hrest : Scans ((t ++ r).drop t.length) qs := by rwa [List.drop_left]
  have hpiece := Scans.piece (h r hb) (List.length_pos_of_ne_nil hne) hrest
  rwa [List.take_left] at hpiece

theorem scannable_name (ht : t ∈ Terminal.name) : Scannable t [(.name, t)] := by
  refine scannable_of_match? ?_ fun r hr => match?_name ht hr
  obtain ⟨c, u, -, rfl⟩ := head_name ht
  exact List.cons_ne_nil _ _

theorem scannable_number (ht : t ∈ Terminal.number) : Scannable t [(.number, t)] := by
  refine scannable_of_match? ?_ fun r hr => match?_number ht hr
  obtain ⟨c, u, -, rfl⟩ := head_number ht
  exact List.cons_ne_nil _ _

theorem scannable_string (ht : t ∈ Terminal.string) : Scannable t [(.string, t)] := by
  refine scannable_of_match? ?_ fun r _ => match?_string ht
  rintro rfl
  simpa [match?] using match?_string (r := []) ht

end TreeQuote.Code

namespace TreeQuote.Call

open Code

/-! ### Calls that code can say -/

/-- A name without the module in front. -/
def IsPublic (n : Text) : Prop := n ∈ Terminal.name ∧ ¬ qualifier <+: n

/-- The name of a factory: a name, or a name with another in square brackets. -/
def IsFactoryName (name : Text) : Prop :=
  IsPublic name
    ∨ ∃ b t, IsPublic b ∧ IsPublic t ∧ name = b ++ (Text.of "[" ++ (t ++ Text.of "]"))

mutual

/-- A call whose names and literals are terminals of code, and which has no hole. -/
def Legible : Call → Prop
  | .literal t => t ∈ literalNames ∨ t ∈ Terminal.string ∨ t ∈ Terminal.number
  | .ref n => IsPublic n ∧ n ∉ literalNames
  | .array items => LegibleAll items
  | .factory name args kws mods =>
    IsFactoryName name ∧ LegibleAll args ∧ LegibleKeywords kws ∧ LegibleModifiers mods
  | .hole => False

/-- Every one of some calls is legible. -/
def LegibleAll : List Call → Prop
  | [] => True
  | c :: cs => Legible c ∧ LegibleAll cs

/-- Arguments by name whose names have no dots. -/
def LegibleKeywords : List Keyword → Prop
  | [] => True
  | .mk n v :: ks =>
    (n ∈ Terminal.name ∧ CodePoint.ofChar '.' ∉ n) ∧ Legible v ∧ LegibleKeywords ks

/-- Modifiers with names and legible arguments. -/
def LegibleModifiers : List Modifier → Prop
  | [] => True
  | .mk n as :: ms => n ∈ Terminal.name ∧ LegibleAll as ∧ LegibleModifiers ms

end

/-! ### The pieces of a call -/

/-- The class of a literal in code: some are names. -/
def literalClass (t : Text) : TokenClass :=
  if literalNames.contains t then .name
  else if t.head? = some (CodePoint.ofChar '"') || t.head? = some (CodePoint.ofChar '\'') then .string
  else .number

/-- The name of a factory, or the type in it, as code. -/
def printPart (o : Options) (name part : Text) : Text :=
  if conversions.contains (baseName name) then part else qualified o part

/-- The pieces of the name of a factory. -/
def namePieces (o : Options) (name : Text) : List Piece :=
  (.name, printPart o name (baseName name)) :: (match typeArgument? name with
    | some t =>
      [(.openBracket, Text.of "["), (.name, printPart o name t), (.closeBracket, Text.of "]")]
    | none => [])

/-- Pieces with commas between them. -/
def commaPieces (pss : List (List Piece)) : List Piece :=
  List.intercalate [(.comma, Text.of ",")] pss

/-- Arguments in parentheses. -/
def argumentPieces (pss : List (List Piece)) : List Piece :=
  (.openParen, Text.of "(") :: (commaPieces pss ++ [(.closeParen, Text.of ")")])

mutual

/-- The pieces of a call. -/
def pieces (o : Options) : Call → List Piece
  | .literal t => [(literalClass t, t)]
  | .ref n => [(.name, printRef o n)]
  | .hole => []
  | .array items =>
    (.openBracket, Text.of "[") :: (commaPieces (piecesList o items)
      ++ [(.closeBracket, Text.of "]")])
  | .factory name args kws mods =>
    namePieces o name ++ (argumentPieces (piecesList o args ++ piecesKeywords o kws)
      ++ piecesModifiers o mods)

/-- The pieces of each of some calls. -/
def piecesList (o : Options) : List Call → List (List Piece)
  | [] => []
  | c :: cs => pieces o c :: piecesList o cs

/-- The pieces of each of some arguments by name. -/
def piecesKeywords (o : Options) : List Keyword → List (List Piece)
  | [] => []
  | .mk n v :: ks => ((.name, n) :: (.equals, Text.of "=") :: pieces o v) :: piecesKeywords o ks

/-- The pieces of modifiers. -/
def piecesModifiers (o : Options) : List Modifier → List Piece
  | [] => []
  | .mk n as :: ms =>
    (.dot, Text.of ".") :: (.name, n) :: (argumentPieces (piecesList o as) ++ piecesModifiers o ms)

end

/-! ### Names -/

/-- A word is a name. -/
theorem name_of_word {t : Text}
    (h : (Lexeme.startsWord (t.headD 0) && t.tail.all Lexeme.continuesWord) = true) :
    t ∈ Terminal.name := by
  obtain ⟨hhead, htail⟩ := Bool.and_eq_true_iff.1 h
  cases t with
  | nil => exact absurd hhead (by decide)
  | cons c t =>
    have hword : c :: t ∈ Terminal.word :=
      Terminal.mem_single_mul.2
        ⟨c, t, hhead, Terminal.mem_kstar_single.2 (List.all_eq_true.1 htail), rfl⟩
    simpa [Terminal.name] using Language.append_mem_mul hword (Language.nil_mem_kstar _)

/-- A code point of a name is a dot or part of a word. -/
theorem mem_name {t : Text} (ht : t ∈ Terminal.name) :
    ∀ c ∈ t, c = CodePoint.ofChar '.' ∨ Lexeme.continuesWord c = true := by
  obtain ⟨w, hw, u, hu, rfl⟩ := Language.mem_mul.1 ht
  obtain ⟨ws, rfl, hws⟩ := Language.mem_kstar.1 hu
  obtain ⟨c, cs, hc, hcs, rfl⟩ := Terminal.mem_single_mul.1 hw
  have hstart : ∀ c, Lexeme.startsWord c = true → Lexeme.continuesWord c = true := by
    intro c hc
    simp [Lexeme.continuesWord, hc]
  intro d hd
  rcases List.mem_append.1 hd with hd | hd
  · rcases List.mem_cons.1 hd with rfl | hd
    · exact Or.inr (hstart d hc)
    · exact Or.inr (Terminal.mem_kstar_single.1 hcs d hd)
  · obtain ⟨w, hw, hd⟩ := List.mem_flatten.1 hd
    obtain ⟨c, cs, hc, hcs, rfl⟩ := mem_dotted (hws w hw)
    rcases List.mem_cons.1 hd with rfl | hd
    · exact Or.inl rfl
    rcases List.mem_cons.1 hd with rfl | hd
    · exact Or.inr (hstart d hc)
    · exact Or.inr (hcs d hd)

/-- No bracket is in a name. -/
theorem not_mem_name {t : Text} (ht : t ∈ Terminal.name) :
    CodePoint.ofChar '[' ∉ t ∧ CodePoint.ofChar ']' ∉ t := by
  constructor <;> intro h <;> rcases mem_name ht _ h with h | h <;> exact absurd h (by decide)

/-- A word and a dot in front of a name. -/
theorem dotted_name {w t : Text}
    (hw : (Lexeme.startsWord (w.headD 0) && w.tail.all Lexeme.continuesWord) = true)
    (ht : t ∈ Terminal.name) : w ++ CodePoint.ofChar '.' :: t ∈ Terminal.name := by
  obtain ⟨hhead, htail⟩ := Bool.and_eq_true_iff.1 hw
  obtain ⟨v, hv, u, hu, rfl⟩ := Language.mem_mul.1 ht
  obtain ⟨vs, rfl, hvs⟩ := Language.mem_kstar.1 hu
  have hword : w ∈ Terminal.word := by
    cases w with
    | nil => exact absurd hhead (by decide)
    | cons c w =>
      exact Terminal.mem_single_mul.2
        ⟨c, w, hhead, Terminal.mem_kstar_single.2 (List.all_eq_true.1 htail), rfl⟩
  have hdot : CodePoint.ofChar '.' :: v
      ∈ Terminal.single (· = CodePoint.ofChar '.') * Terminal.word :=
    Terminal.mem_single_mul.2 ⟨_, v, by decide, hv, rfl⟩
  have hrest := Language.join_mem_kstar (List.forall_mem_cons.2 ⟨hdot, hvs⟩)
  have hname := Language.append_mem_mul hword hrest
  rwa [List.flatten_cons, List.cons_append] at hname

/-- A qualified name is a name. -/
theorem qualifier_append {t : Text} (ht : t ∈ Terminal.name) : qualifier ++ t ∈ Terminal.name :=
  dotted_name (w := Text.of "factory") (by decide) ht

theorem qualified_name {t : Text} (o : Options) (ht : t ∈ Terminal.name) :
    qualified o t ∈ Terminal.name := by
  unfold qualified
  split
  · exact ht
  · exact qualifier_append ht

theorem printPart_name {name t : Text} (o : Options) (ht : t ∈ Terminal.name) :
    printPart o name t ∈ Terminal.name := by
  unfold printPart
  split
  · exact ht
  · exact qualified_name o ht

/-- A name without a type is its own base. -/
theorem baseName_of_name {t : Text} (ht : t ∈ Terminal.name) :
    baseName t = t ∧ typeArgument? t = none := by
  have hall : ∀ c ∈ t, (decide (c ≠ CodePoint.ofChar '[')) = true := by
    intro c hc
    rw [decide_eq_true_eq]
    rintro rfl
    exact (not_mem_name ht).1 hc
  refine ⟨?_, ?_⟩
  · rw [baseName]
    exact List.takeWhile_eq_self_iff.2 hall
  · have hdrop : t.dropWhile (fun c => c ≠ CodePoint.ofChar '[') = [] :=
      List.dropWhile_eq_nil_iff.2 hall
    rw [typeArgument?, Text.cut?, hdrop]
    rfl

/-- The base and the type of a name with a type. -/
theorem baseName_of_generic {b t : Text} (hb : b ∈ Terminal.name) (ht : t ∈ Terminal.name) :
    baseName (b ++ (Text.of "[" ++ (t ++ Text.of "]"))) = b
      ∧ typeArgument? (b ++ (Text.of "[" ++ (t ++ Text.of "]"))) = some t := by
  have hall : ∀ c ∈ b, (decide (c ≠ CodePoint.ofChar '[')) = true := by
    intro c hc
    rw [decide_eq_true_eq]
    rintro rfl
    exact (not_mem_name hb).1 hc
  have hopen : Text.of "[" = [CodePoint.ofChar '['] := by decide
  have hclose : Text.of "]" = [CodePoint.ofChar ']'] := by decide
  refine ⟨?_, ?_⟩
  · rw [baseName, List.takeWhile_append_of_pos hall, hopen]
    simp
  · have hdrop : (b ++ (Text.of "[" ++ (t ++ Text.of "]"))).dropWhile
        (fun c => c ≠ CodePoint.ofChar '[') = CodePoint.ofChar '[' :: (t ++ Text.of "]") := by
      rw [List.dropWhile_append_of_pos hall, hopen]
      simp
    have htrim : Text.trimRight (· = CodePoint.ofChar ']') (t ++ Text.of "]") = t := by
      rw [Text.trimRight, hclose, List.reverse_append]
      cases hrev : t.reverse with
      | nil => simpa using hrev
      | cons c u =>
        have hc : c ≠ CodePoint.ofChar ']' := by
          rintro rfl
          exact (not_mem_name ht).2 (List.mem_reverse.1 (hrev ▸ List.mem_cons_self))
        have hback : (c :: u).reverse = t := by rw [← hrev, List.reverse_reverse]
        simp only [List.reverse_singleton, List.singleton_append, decide_true,
          List.dropWhile_cons_of_pos, List.dropWhile_cons_of_neg, decide_eq_true_eq, hc,
          not_false_eq_true, hback]
    rw [typeArgument?, Text.cut?, hdrop]
    simp only [Option.map_some, htrim]

/-! ### Layout -/

theorem isBlank_pad (depth : Nat) : ∀ c ∈ pad depth, c.isBlank = true := by
  have hall : indentation.all CodePoint.isBlank = true := by decide
  induction depth with
  | zero => exact List.forall_mem_nil _
  | succ depth ih =>
    intro c hc
    rcases List.mem_append.1 hc with hc | hc
    · exact List.all_eq_true.1 hall c hc
    · exact ih c hc

theorem stands_pad (depth : Nat) : Stands (pad depth) [] := stands_blanks (isBlank_pad depth)

theorem stands_lineEnd : Stands (Text.of "\n") [] :=
  stands_blanks (List.all_eq_true.1 (by decide : (Text.of "\n").all CodePoint.isBlank = true))

theorem stands_openParen : Stands (Text.of "(") [(.openParen, Text.of "(")] :=
  stands_mark (by decide)

theorem stands_closeParen : Stands (Text.of ")") [(.closeParen, Text.of ")")] :=
  stands_mark (by decide)

theorem stands_openBracket : Stands (Text.of "[") [(.openBracket, Text.of "[")] :=
  stands_mark (by decide)

theorem stands_closeBracket : Stands (Text.of "]") [(.closeBracket, Text.of "]")] :=
  stands_mark (by decide)

theorem stands_comma : Stands (Text.of ",") [(.comma, Text.of ",")] := stands_mark (by decide)

theorem stands_equals : Stands (Text.of "=") [(.equals, Text.of "=")] := stands_mark (by decide)

theorem commaPieces_cons_cons (ps qs : List Piece) (pss : List (List Piece)) :
    commaPieces (ps :: qs :: pss) = ps ++ ((.comma, Text.of ",") :: commaPieces (qs :: pss)) := by
  simp [commaPieces, List.intercalate]

theorem join_cons_cons (sep t u : Text) (ts : List Text) :
    Text.join sep (t :: u :: ts) = t ++ (sep ++ Text.join sep (u :: ts)) := by
  simp [Text.join, List.intercalate]

variable {ts us : List Text} {pss qss : List (List Piece)}

/-- Lines with commas behind all but the last. -/
theorem scannable_join (depth : Nat) (h : List.Forall₂ Scannable ts pss) :
    Scannable (Text.join (Text.of ",\n") (ts.map fun t => pad depth ++ t)) (commaPieces pss) := by
  induction h with
  | nil => exact fun r qs _ hr => hr
  | @cons t ps ts pss ht hts ih =>
    have hline : Scannable (pad depth ++ t) ps := (stands_pad depth).append_scannable ht
    cases hts with
    | nil => simpa [Text.join, commaPieces, List.intercalate] using hline
    | @cons u qs us qss hu hus =>
      have hsep : Stands (Text.of ",\n") [(.comma, Text.of ",")] :=
        stands_comma.append stands_lineEnd
      rw [commaPieces_cons_cons, List.map_cons, List.map_cons, join_cons_cons]
      exact hline.append (hsep.append_scannable ih) (bounded_cons _ (by decide))

/-- Arguments, each on its own line. -/
theorem scannable_printLines (o : Options) (depth : Nat) (h : List.Forall₂ Scannable ts pss) :
    Scannable (printLines o depth ts) (argumentPieces pss) := by
  have hopen : Stands (if o.openOnNewLine then Text.of "\n" ++ pad depth ++ Text.of "(\n"
      else Text.of "(\n") [(.openParen, Text.of "(")] := by
    have hparen : Stands (Text.of "(\n") [(.openParen, Text.of "(")] :=
      stands_openParen.append stands_lineEnd
    split
    · exact (stands_lineEnd.append (stands_pad depth)).append hparen
    · exact hparen
  have hclose : Stands (if o.closeOnNewLine then Text.of "\n" ++ pad depth ++ Text.of ")"
      else Text.of ")") [(.closeParen, Text.of ")")] := by
    split
    · exact (stands_lineEnd.append (stands_pad depth)).append stands_closeParen
    · exact stands_closeParen
  have hb : Bounded (if o.closeOnNewLine then Text.of "\n" ++ pad depth ++ Text.of ")"
      else Text.of ")") := by
    split
    · exact bounded_cons _ (by decide)
    · exact bounded_cons _ (by decide)
  rw [printLines, List.append_assoc]
  exact hopen.append_scannable ((scannable_join _ h).append hclose.scannable hb)

theorem bounded_printLines (o : Options) (depth : Nat) (ts : List Text) :
    Bounded (printLines o depth ts) := by
  rw [printLines, List.append_assoc]
  split
  · exact bounded_cons _ (by decide)
  · exact bounded_cons _ (by decide)

/-- Arguments in parentheses, on one line or on several. -/
theorem scannable_printArguments (o : Options) (depth : Nat) {args : List Call}
    (hlen : args.length = ts.length) (hts : List.Forall₂ Scannable ts pss)
    (hus : List.Forall₂ Scannable us qss) :
    Scannable (printArguments o depth args ts us) (argumentPieces (pss ++ qss))
      ∧ Bounded (printArguments o depth args ts us) := by
  have hlines : Scannable (printLines o depth (ts ++ us)) (argumentPieces (pss ++ qss)) :=
    scannable_printLines o depth (List.rel_append hts hus)
  unfold printArguments
  split
  · obtain rfl := List.eq_nil_of_length_eq_zero hlen.symm
    cases hts
    cases hus
    exact ⟨(stands_openParen.append stands_closeParen).scannable, bounded_cons _ (by decide)⟩
  · cases hus
    split
    · cases hts with
      | cons hl hnil =>
        cases hnil
        refine ⟨?_, bounded_cons _ (by decide)⟩
        rw [List.append_assoc, List.append_nil, argumentPieces, commaPieces,
          List.intercalate_singleton]
        exact stands_openParen.append_scannable
          (hl.append stands_closeParen.scannable (bounded_cons _ (by decide)))
    · exact ⟨by simpa using hlines, bounded_printLines _ _ _⟩
  · exact ⟨hlines, bounded_printLines _ _ _⟩

/-! ### Printing -/

/-- The name of a factory as code. -/
theorem scannable_printName (o : Options) {name : Text} (h : IsFactoryName name) :
    Scannable (printName o name) (namePieces o name) := by
  rcases h with ⟨hname, -⟩ | ⟨b, t, ⟨hb, -⟩, ⟨ht, -⟩, rfl⟩
  · obtain ⟨hbase, htype⟩ := baseName_of_name hname
    have hprint : printName o name = printPart o name name := by
      rw [printName, printPart, htype, hbase, List.append_nil]
    rw [hprint, namePieces, htype, hbase]
    exact scannable_name (printPart_name o hname)
  · obtain ⟨hbase, htype⟩ := baseName_of_generic hb ht
    generalize hn : b ++ (Text.of "[" ++ (t ++ Text.of "]")) = name at hbase htype ⊢
    have hprint : printName o name
        = printPart o name b ++ (Text.of "[" ++ (printPart o name t ++ Text.of "]")) := by
      simp only [printName, printPart, htype, hbase]
      split
      · exact hn.symm
      · rw [List.append_assoc (Text.of "[")]
    rw [hprint, namePieces, htype, hbase]
    have htype : printPart o name t ∈ Terminal.name := printPart_name o ht
    have hclose := (scannable_name htype).append stands_closeBracket.scannable
      (bounded_cons _ (by decide))
    exact (scannable_name (printPart_name o hb)).append
      (stands_openBracket.append_scannable hclose) (bounded_cons _ (by decide))

/-- The names of plain values are names. -/
theorem literalNames_name : ∀ t ∈ literalNames, t ∈ Terminal.name := by
  have hwords : ∀ t ∈ literalNames,
      (Lexeme.startsWord (t.headD 0) && t.tail.all Lexeme.continuesWord) = true := by
    decide
  exact fun t ht => name_of_word (hwords t ht)

/-- A text that starts no word is no name. -/
theorem not_mem_literalNames {c : CodePoint} {t : Text} (hc : Lexeme.startsWord c = false) :
    c :: t ∉ literalNames := by
  intro h
  obtain ⟨d, u, hd, heq⟩ := head_name (literalNames_name _ h)
  rw [List.cons.injEq] at heq
  rw [heq.1, hd] at hc
  cases hc

/-- A literal as code. -/
theorem scannable_literal {t : Text}
    (h : t ∈ literalNames ∨ t ∈ Terminal.string ∨ t ∈ Terminal.number) :
    Scannable t [(literalClass t, t)] := by
  rcases h with h | h | h
  · have hclass : literalClass t = .name := by simp [literalClass, h]
    rw [hclass]
    exact scannable_name (literalNames_name t h)
  · have hclass : literalClass t = .string := by
      rcases (Language.mem_add _ _ _).1 h with h | h
      · obtain ⟨u, rfl, -⟩ := stringEnd?_quoted (r := []) (by decide) h
        have hword : Lexeme.startsWord (CodePoint.ofChar '"') = false := by decide
        simp [literalClass, not_mem_literalNames hword]
      · obtain ⟨u, rfl, -⟩ := stringEnd?_quoted (r := []) (by decide) h
        have hword : Lexeme.startsWord (CodePoint.ofChar '\'') = false := by decide
        simp [literalClass, not_mem_literalNames hword]
    rw [hclass]
    exact scannable_string h
  · have hclass : literalClass t = .number := by
      obtain ⟨c, u, hc, rfl⟩ := head_number h
      obtain ⟨-, -, hword, hdouble, hsingle⟩ := starts_number hc
      simp [literalClass, not_mem_literalNames hword, hdouble, hsingle]
    rw [hclass]
    exact scannable_number h

/-- A named value as code. -/
theorem printRef_name {n : Text} (o : Options) (h : n ∈ Terminal.name) :
    printRef o n ∈ Terminal.name := by
  unfold printRef
  split
  · exact qualified_name o h
  · exact h

mutual

/-- A legible call has code, and the code scans to the pieces of the call. -/
theorem scannable_printAt? (o : Options) (depth : Nat) :
    ∀ c : Call, c.Legible → ∃ t, printAt? o depth c = some t ∧ Scannable t (pieces o c)
  | .literal t, h => ⟨t, rfl, scannable_literal h⟩
  | .ref n, h => ⟨_, rfl, scannable_name (printRef_name o h.1.1)⟩
  | .hole, h => h.elim
  | .array items, h => by
    obtain ⟨ts, hprint, hlen, hts⟩ := scannable_printList? o (depth + 1) items h
    have hjoin := scannable_join (depth + 1) hts
    cases items with
    | nil => exact ⟨_, rfl, (stands_openBracket.append stands_closeBracket).scannable⟩
    | cons c cs =>
      have hopen : Stands (Text.of "[\n") [(.openBracket, Text.of "[")] :=
        stands_openBracket.append stands_lineEnd
      have hclose : Stands (Text.of "\n" ++ (pad depth ++ Text.of "]"))
          [(.closeBracket, Text.of "]")] :=
        stands_lineEnd.append ((stands_pad depth).append stands_closeBracket)
      refine ⟨Text.of "[\n" ++ (Text.join (Text.of ",\n") (ts.map fun t => pad (depth + 1) ++ t)
        ++ (Text.of "\n" ++ (pad depth ++ Text.of "]"))), ?_, ?_⟩
      · simp [printAt?, hprint]
      · exact hopen.append_scannable (hjoin.append hclose.scannable (bounded_cons _ (by decide)))
  | .factory name args kws mods, h => by
    obtain ⟨hname, hargs, hkws, hmods⟩ := h
    obtain ⟨ts, hpts, hlen, hts⟩ := scannable_printList? o (depth + 1) args hargs
    obtain ⟨us, hpus, hus⟩ := scannable_printKeywords? o (depth + 1) kws hkws
    obtain ⟨m, hpm, hm, hmb⟩ := scannable_printModifiers? o depth mods hmods
    obtain ⟨harg, hargb⟩ := scannable_printArguments o depth hlen hts hus
    refine ⟨printName o name ++ (printArguments o depth args ts us ++ m), ?_, ?_⟩
    · simp [printAt?, hpts, hpus, hpm]
    · exact (scannable_printName o hname).append (harg.append hm hmb) (hargb.append hmb)

theorem scannable_printList? (o : Options) (depth : Nat) :
    ∀ cs : List Call, LegibleAll cs → ∃ ts, printList? o depth cs = some ts
      ∧ cs.length = ts.length ∧ List.Forall₂ Scannable ts (piecesList o cs)
  | [], _ => ⟨[], rfl, rfl, .nil⟩
  | c :: cs, h => by
    obtain ⟨t, hpt, ht⟩ := scannable_printAt? o depth c h.1
    obtain ⟨ts, hpts, hlen, hts⟩ := scannable_printList? o depth cs h.2
    exact ⟨t :: ts, by simp [printList?, hpt, hpts], by simp [hlen], .cons ht hts⟩

theorem scannable_printKeywords? (o : Options) (depth : Nat) :
    ∀ ks : List Keyword, LegibleKeywords ks → ∃ ts, printKeywords? o depth ks = some ts
      ∧ List.Forall₂ Scannable ts (piecesKeywords o ks)
  | [], _ => ⟨[], rfl, .nil⟩
  | .mk n v :: ks, h => by
    obtain ⟨t, hpt, ht⟩ := scannable_printAt? o depth v h.2.1
    obtain ⟨ts, hpts, hts⟩ := scannable_printKeywords? o depth ks h.2.2
    refine ⟨(n ++ (Text.of "=" ++ t)) :: ts, by simp [printKeywords?, hpt, hpts], .cons ?_ hts⟩
    exact (scannable_name h.1.1).append (stands_equals.append_scannable ht)
      (bounded_cons _ (by decide))

theorem scannable_printModifiers? (o : Options) (depth : Nat) :
    ∀ ms : List Modifier, LegibleModifiers ms → ∃ t, printModifiers? o depth ms = some t
      ∧ Scannable t (piecesModifiers o ms) ∧ Bounded t
  | [], _ => ⟨[], rfl, fun _ _ _ hr => hr, bounded_nil⟩
  | .mk n as :: ms, h => by
    obtain ⟨ts, hpts, hlen, hts⟩ := scannable_printList? o (depth + 1) as h.2.1
    obtain ⟨m, hpm, hm, hmb⟩ := scannable_printModifiers? o depth ms h.2.2
    obtain ⟨harg, hargb⟩ := scannable_printArguments o depth hlen hts .nil
    rw [List.append_nil] at harg
    refine ⟨Text.of "\n" ++ (pad depth ++ (Text.of "." ++ n
      ++ (printArguments o depth as ts [] ++ m))), ?_, ?_, bounded_cons _ (by decide)⟩
    · simp [printModifiers?, hpts, hpm]
    · refine stands_lineEnd.append_scannable ((stands_pad depth).append_scannable ?_)
      exact (scannable_dot (scannable_name h.1) h.1).append (harg.append hm hmb)
        (hargb.append hmb)

end

/-- The code of a legible call scans to the pieces of the call. -/
theorem scan_print? (o : Options) {c : Call} (h : c.Legible) :
    ∃ t, c.print? o = some t ∧ (scan t).map Token.piece = pieces o c ++ [(.finish, [])] := by
  obtain ⟨t, hprint, ht⟩ := scannable_printAt? o 0 c h
  have hscans : Scans t (pieces o c) := by simpa using ht [] [] bounded_nil .nil
  exact ⟨t, hprint, hscans.scanFrom _ _ (Nat.le_refl _)⟩

end TreeQuote.Call
