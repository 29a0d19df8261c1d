/-
TreeQuote/Proofs/Tree/Spelling.lean

The texts of kinds and types by their characters.  A fixed text is made of the characters of its
string, and they are at hand where the string is written down: `letters` and `fixedLetters` give
them, so that what is decided about all these texts does not decode a string each time.

Main statements: `Kind.names_nodup`, `NodeType.names_nodup`, `NodeClass.fields_eq`.
-/
import Mathlib.Data.List.Nodup
import TreeQuote.Tree.NodeClass

namespace TreeQuote

namespace Text

/-- A fixed text is made of the characters of its string. -/
theorem of_ofList (cs : List Char) : of (String.ofList cs) = cs.map CodePoint.ofChar := by
  rw [of, String.toList_ofList]

/-- One number for characters. -/
def number (cs : List Char) : Nat := cs.foldl (fun n c => 0x110000 * n + c.toNat) 1

/-- Texts are distinct if their characters have distinct numbers. -/
theorem nodup_of_letters {α : Type} {l : List α} {f : α → Text} {g : α → List Char}
    (hf : ∀ a, f a = (g a).map CodePoint.ofChar) (hg : ((l.map g).map number).Nodup) :
    (l.map f).Nodup := by
  have hmap : l.map f = (l.map g).map (·.map CodePoint.ofChar) := by
    rw [List.map_map]
    exact List.map_congr_left fun a _ => hf a
  rw [hmap]
  exact hg.of_map.map (List.map_injective_iff.mpr fun _ _ => ofChar_injective)

end Text

namespace Kind

theorem mem_all (k : Kind) : k ∈ all := by
  have hindex : all[k.ctorIdx]? = some k := by cases k <;> rfl
  exact List.mem_of_getElem? hindex

/-- The name by its characters. -/
def letters (k : Kind) : { cs : List Char // k.name = cs.map CodePoint.ofChar } := by
  cases k <;> exact ⟨_, Text.of_ofList _⟩

/-- The fixed text, if there is one, by its characters. -/
def fixedLetters (k : Kind) :
    { cs : Option (List Char) // k.fixedText? = cs.map (·.map CodePoint.ofChar) } := by
  cases k <;> first | exact ⟨Option.none, rfl⟩ | exact ⟨some _, congrArg some (Text.of_ofList _)⟩

/-- No two kinds have the same name. -/
theorem names_nodup : (all.map name).Nodup :=
  Text.nodup_of_letters (fun k => k.letters.property) (by decide +kernel)

end Kind

namespace NodeClass

/-- Every class is one of the language, but for the one of pairs. -/
theorem mem_pair_all (c : NodeClass) : c ∈ .pair :: NodeClass.all := by
  cases c <;> decide

/-- Properties with their names by their characters. -/
structure Lettered (fs : List Field) where
  fields : List Field
  eq : fs = fields

namespace Lettered

def nil : Lettered [] := ⟨[], rfl⟩

def cons {cs : List Char} {s : Shape} {fs : List Field} (h : Lettered fs) :
    Lettered (⟨Text.of (String.ofList cs), s⟩ :: fs) :=
  ⟨⟨cs.map CodePoint.ofChar, s⟩ :: h.fields, by rw [Text.of_ofList, ← h.eq]⟩

end Lettered

/-- The properties of a class with their names by their characters. -/
def lettered (c : NodeClass) : Lettered c.fields := by
  cases c
  all_goals repeat' first | refine .cons ?_ | exact .nil

/-- The same properties, so that what is decided about all of them decodes no string. -/
def letteredFields (c : NodeClass) : List Field := c.lettered.fields

theorem fields_eq (c : NodeClass) : c.fields = c.letteredFields := c.lettered.eq

end NodeClass

namespace NodeType

/-- The name by its characters. -/
def letters : (t : NodeType) → { cs : List Char // t.name = cs.map CodePoint.ofChar }
  | .cls c => by cases c <;> exact ⟨_, Text.of_ofList _⟩
  | .category c => by cases c <;> exact ⟨_, Text.of_ofList _⟩

/-- No two types have the same name. -/
theorem names_nodup : (all.map name).Nodup :=
  Text.nodup_of_letters (fun t => t.letters.property) (by decide +kernel)

end NodeType

end TreeQuote
