/-
# Lines of a template

Every line begins with a control code in columns 1 to 3, and column 4 is blank:

    ###  header of a segment, whose name starts in column 5
    ///  comment
         (three blanks) text line that keeps the current column
    @+n  text line, n tabs right of the current column
    @-n  text line, n tabs left of the current column
    @=n  text line, exactly n tabs from the margin
    O+n  like @+n, but for this line alone (also O-n and O=n)

The text of a text line starts in column 5.  A line shorter than a control code is passed over; any
other line without one ends the reading.

* `Line.ofString_written`: the line that a text item is written as reads back as that item.
-/
import Stencil.Log.Basic
import Stencil.Text.Integer

namespace Stencil

/-! ## 1. Control codes -/

/-- A control code; an indent code carries what it says about the text. -/
inductive ControlCode where
  | header
  | comment
  | indent (amount : Int) (isRelative isOneTime : Bool)
  deriving DecidableEq, Repr

namespace ControlCode

/-- Whether an indent code is for its line alone. -/
def oneTime? : Char → Option Bool
  | '@' => some false
  | 'O' => some true
  | _ => none

/-- The sign of an indent code, and whether the indent is relative. -/
def direction? : Char → Option (Int × Bool)
  | '+' => some (1, true)
  | '-' => some (-1, true)
  | '=' => some (1, false)
  | _ => none

/-- The code that three characters are. -/
def ofChars? (a b c : Char) : Option ControlCode :=
  if (a, b, c) = ('#', '#', '#') then some header
  else if (a, b, c) = ('/', '/', '/') then some comment
  else if (a, b, c) = (' ', ' ', ' ') then some (indent 0 true false)
  else
    match oneTime? a, direction? b, Text.asciiDigit? c with
    | some isOneTime, some (sign, isRelative), some n =>
      some (indent (sign * n) isRelative isOneTime)
    | _, _, _ => none

theorem oneTime?_letter (isOneTime : Bool) :
    oneTime? (if isOneTime then 'O' else '@') = some isOneTime := by
  cases isOneTime <;> rfl

theorem direction?_mark (isRelative : Bool) (n : Int) :
    direction? (if !isRelative then '=' else if n < 0 then '-' else '+')
      = some (if isRelative ∧ n < 0 then -1 else 1, isRelative) := by
  cases isRelative
  · rfl
  · by_cases hn : n < 0 <;> simp [hn, direction?]

/-- The letter of an indent code sets it apart from the other codes. -/
theorem ofChars?_of_indent {a b c : Char} {isOneTime isRelative : Bool} {sign : Int} {n : Nat}
    (ha : oneTime? a = some isOneTime) (hb : direction? b = some (sign, isRelative))
    (hc : Text.asciiDigit? c = some n) :
    ofChars? a b c = some (indent (sign * n) isRelative isOneTime) := by
  have hletter : a = '@' ∨ a = 'O' := by
    unfold oneTime? at ha
    split at ha
    · exact .inl rfl
    · exact .inr rfl
    · exact absurd ha (by simp)
  have hother : a ≠ '#' ∧ a ≠ '/' ∧ a ≠ ' ' := by
    rcases hletter with rfl | rfl <;> decide
  simp [ofChars?, hother, ha, hb, hc]

end ControlCode

/-! ## 2. Reading a line -/

/-- Why a line ends the reading of a template. -/
inductive LineFault where
  | fourthColumn
  | controlCode
  deriving DecidableEq, Repr

/-- What a line is. -/
inductive Line where
  | header
  | comment
  | text (item : TextItem)
  | short
  | faulty (fault : LineFault)
  deriving DecidableEq, Repr

namespace Line

/-- The control code at the head of a line, whatever follows it. -/
def code? (s : String) : Option ControlCode :=
  match s.toList with
  | a :: b :: c :: _ => ControlCode.ofChars? a b c
  | _ => none

def ofChars : List Char → Line
  | a :: b :: c :: rest =>
    if rest.head?.any (· ≠ ' ') then faulty .fourthColumn
    else
      match ControlCode.ofChars? a b c with
      | none => faulty .controlCode
      | some .header => header
      | some .comment => comment
      | some (.indent amount isRelative isOneTime) =>
        text ⟨amount, isRelative, isOneTime, String.ofList rest.tail⟩
  | _ => short

def ofString (s : String) : Line := ofChars s.toList

/-- The kind of a line in one word. -/
def kind : Line → String
  | header => "header"
  | comment => "comment"
  | text _ => "text"
  | short => "short"
  | faulty _ => "invalid"

/-- The text item of a line, if it is a text line. -/
def item? : Line → Option TextItem
  | text item => some item
  | _ => none

/-- A header is its code, and a blank if anything follows that. -/
theorem toList_of_header {s : String} (h : ofString s = header) :
    ∃ rest, s.toList = '#' :: '#' :: '#' :: rest ∧ ∀ c ∈ rest.head?, c = ' ' := by
  unfold ofString ofChars at h
  split at h
  · rename_i a b c rest hs
    split at h
    · exact absurd h (by simp)
    · rename_i hfourth
      by_cases hc : (a, b, c) = ('#', '#', '#')
      · obtain ⟨rfl, rfl, rfl⟩ : a = '#' ∧ b = '#' ∧ c = '#' := by simpa using hc
        refine ⟨rest, hs, fun d hd => ?_⟩
        simpa [Option.mem_def.mp hd] using hfourth
      · exfalso
        rw [ControlCode.ofChars?, if_neg hc] at h
        grind
  · exact absurd h (by simp)

/-- What there is to say about a line, given how it is written. -/
def notices (s : String) : Line → List Notice
  | short => [.warning .parsing .lineTooShort]
  | faulty .fourthColumn => [.error .parsing (.fourthColumnNotBlank s)]
  | faulty .controlCode => [.error .parsing (.invalidControlCode s)]
  | _ => []

/-! ## 3. Writing a line -/

/-- The control code of a text item: blanks for a line that keeps the column, else its kind, its
direction and its distance. -/
def written (item : TextItem) : List Char :=
  if item.indent = 0 ∧ item.isRelative ∧ !item.isOneTime then [' ', ' ', ' ']
  else
    [if item.isOneTime then 'O' else '@',
      if !item.isRelative then '=' else if item.indent < 0 then '-' else '+',
      Nat.digitChar item.indent.natAbs]

theorem ofChars?_written {item : TextItem} (hlow : -9 ≤ item.indent) (hhigh : item.indent ≤ 9)
    (habs : item.isRelative = false → 0 ≤ item.indent) :
    ∃ a b c, written item = [a, b, c] ∧
      ControlCode.ofChars? a b c = some (.indent item.indent item.isRelative item.isOneTime) := by
  rcases item with ⟨n, isRelative, isOneTime, text⟩
  by_cases hblank : n = 0 ∧ isRelative = true ∧ (!isOneTime) = true
  · obtain ⟨rfl, rfl, hone⟩ := hblank
    obtain rfl : isOneTime = false := by simpa using hone
    exact ⟨_, _, _, rfl, rfl⟩
  · have hdistance : Text.asciiDigit? (Nat.digitChar n.natAbs) = some n.natAbs :=
      Text.asciiDigit?_digitChar _ (by dsimp only at hlow hhigh; omega)
    refine ⟨_, _, _, if_neg hblank, ?_⟩
    rw [ControlCode.ofChars?_of_indent (ControlCode.oneTime?_letter isOneTime)
      (ControlCode.direction?_mark isRelative n) hdistance]
    have hindent : (if isRelative ∧ n < 0 then -1 else 1) * (n.natAbs : Int) = n := by
      dsimp only at habs
      split
      · omega
      · rename_i hforward
        have hright : 0 ≤ n := by
          cases isRelative
          · exact habs rfl
          · simpa using hforward
        omega
    rw [hindent]

/-- **The line that a text item is written as reads back as that item.** -/
theorem ofString_written {item : TextItem} (hlow : -9 ≤ item.indent) (hhigh : item.indent ≤ 9)
    (habs : item.isRelative = false → 0 ≤ item.indent) :
    ofString (String.ofList (written item ++ ' ' :: item.text.toList)) = text item := by
  obtain ⟨a, b, c, hw, hc⟩ := ofChars?_written hlow hhigh habs
  simp [ofString, ofChars, hw, hc]

end Line

end Stencil
