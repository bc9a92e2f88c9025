/-
# Case mapping of single characters

The upper and lower case of a character by the full Unicode mapping, which may be several characters
long (`ß` becomes `SS`).  No mapping here looks at neighbouring characters, so that a text is mapped
character by character.

* `upperChar_ascii`, `lowerChar_ascii`: on the ASCII letters the mapping is the familiar one;
* `raiseFirst`, `lowerFirst`: what a case flag does to the value of a token.
-/
import Stencil.Text.CaseTable

namespace Stencil.Text

/-! ## 1. One character -/

/-- The image of a character: its expansion, else its place in a run, else itself. -/
def CaseTable.image (t : CaseTable) (c : Char) : List Char :=
  match t.expansions.lookup c.toNat with
  | some ns => ns.map Char.ofNat
  | none => [Char.ofNat ((t.runs.findSome? (·.image? c.toNat)).getD c.toNat)]

def upperChar (c : Char) : List Char := upperTable.image c

def lowerChar (c : Char) : List Char := lowerTable.image c

theorem upperChar_ascii : ∀ n < 26, upperChar (Char.ofNat (97 + n)) = [Char.ofNat (65 + n)] := by
  decide +kernel

theorem lowerChar_ascii : ∀ n < 26, lowerChar (Char.ofNat (65 + n)) = [Char.ofNat (97 + n)] := by
  decide +kernel

/-! ## 2. Texts -/

/-- The upper case of a whole text. -/
def upper (s : String) : String :=
  String.ofList (s.toList.flatMap upperChar)

/-- The text with its first character in upper case and the rest as it is. -/
def raiseFirst (s : String) : String :=
  match s.toList with
  | [] => ""
  | c :: cs => String.ofList (upperChar c ++ cs)

/-- The text with its first character in lower case and the rest as it is. -/
def lowerFirst (s : String) : String :=
  match s.toList with
  | [] => ""
  | c :: cs => String.ofList (lowerChar c ++ cs)

end Stencil.Text
