/-
# The running column

Where the next line of output begins.  The column carries over from line to line and from segment to
segment; indents move it in steps of the tab size.  A stack keeps the column and the tab size of a
segment while its pad is rendered.

* `advance_nonneg`, `advanceFirst_nonneg`: no line begins left of the margin;
* `tabSize_setTabSize`: a tab size that is set is pulled into 1 to 9.
-/
import Stencil.Log.Basic
import Stencil.Text.Integer

namespace Stencil

/-- The column and the tab size, both saved and current; `home` is the tab size to go back to. -/
structure Column where
  column : Int := 0
  tabSize : Int
  saved : List (Int × Int) := []
  home : Int
  deriving DecidableEq, Repr

namespace Column

/-! ## 1. Bounds -/

/-- The least and the greatest tab size. -/
def leastTabSize : Int := 1

def greatestTabSize : Int := 9

/-- The farthest indent of an option, in either direction. -/
def farthestIndent : Int := 9

/-- A tab size pulled to the nearer bound, with what there is to say about that. -/
def clampTabSize (n : Int) : Int × List Message :=
  if n < leastTabSize then (leastTabSize, [.tabSizeTooSmall leastTabSize])
  else if greatestTabSize < n then (greatestTabSize, [.tabSizeTooLarge greatestTabSize])
  else (n, [])

theorem clampTabSize_bounds (n : Int) :
    leastTabSize ≤ (clampTabSize n).1 ∧ (clampTabSize n).1 ≤ greatestTabSize := by
  unfold clampTabSize leastTabSize greatestTabSize
  split
  · decide
  · split
    · decide
    · constructor <;> dsimp <;> omega

theorem clampTabSize_of_mem {n : Int} (hlow : leastTabSize ≤ n) (hhigh : n ≤ greatestTabSize) :
    clampTabSize n = (n, []) := by
  simp [clampTabSize, Int.not_lt.mpr hlow, Int.not_lt.mpr hhigh]

/-! ## 2. The values of options -/

/-- Reads an integer that may not have been given. -/
def givenInt (text : Option String) : Except Text.DigitOverflow (Option Int) :=
  match text with
  | none => .ok none
  | some text => Text.parseInt text

/-- Reads an indent, or says what is wrong with it. -/
def readIndent (text : Option String) : Except Text.DigitOverflow (Except Message Int) :=
  (givenInt text).map fun
    | none => .error (.indentNotANumber text)
    | some n =>
      if -farthestIndent ≤ n ∧ n ≤ farthestIndent then .ok n else .error (.indentOutOfRange n)

/-- Reads a tab size, or says what is wrong with it. -/
def readTabSize (text : Option String) : Except Text.DigitOverflow (Except Message Int) :=
  (givenInt text).map fun
    | none => .error (.tabSizeNotANumber text)
    | some n =>
      if leastTabSize ≤ n ∧ n ≤ greatestTabSize then .ok n else .error (.tabSizeOutOfRange n)

/-- Reads the tab size of a segment header: a number is pulled to the nearer bound, anything else is
refused. -/
def tabSizeOption (text : Option String) : Except Text.DigitOverflow (Option Int × List Message) :=
  (givenInt text).map fun
    | none => (none, [.tabSizeNotANumber text])
    | some n => ((clampTabSize n).map some id)

/-! ## 3. Moving -/

/-- A column that is not left of the margin, with what there is to say about one that was. -/
def atMargin (n : Int) (truncated : Message) : Int × List Message :=
  if n < 0 then (0, [truncated]) else (n, [])

/-- The column of a line of the given segment, and the state after it. -/
def advance (c : Column) (segment : String) (item : TextItem) : Int × Column × List Message :=
  let target := if item.isRelative then c.column + item.indent * c.tabSize
    else item.indent * c.tabSize
  let (n, ms) := atMargin target (.indentTruncated segment)
  (n, if item.isOneTime then c else { c with column := n }, ms)

/-- The column of the line that begins the first render of a segment.  An indent of zero is none;
any other counts from the margin. -/
def advanceFirst (c : Column) (segment : String) (firstTimeIndent : Int) (item : TextItem) :
    Int × Column × List Message :=
  if firstTimeIndent = 0 then c.advance segment item
  else
    let (n, ms) := atMargin (firstTimeIndent * c.tabSize) (.firstTimeIndentTruncated segment)
    (n, { c with column := n }, ms)

/-- Sets the tab size, as far as the bounds let it. -/
def setTabSize (c : Column) (n : Int) : Column × List Message :=
  let (n, ms) := clampTabSize n
  ({ c with tabSize := n }, ms)

theorem atMargin_nonneg (n : Int) (m : Message) : 0 ≤ (atMargin n m).1 := by
  unfold atMargin
  split
  · exact Int.le_refl 0
  · omega

theorem advance_nonneg (c : Column) (segment : String) (item : TextItem) :
    0 ≤ (c.advance segment item).1 := atMargin_nonneg _ _

theorem advanceFirst_nonneg (c : Column) (segment : String) (n : Int) (item : TextItem) :
    0 ≤ (c.advanceFirst segment n item).1 := by
  unfold advanceFirst
  split
  · exact advance_nonneg c segment item
  · exact atMargin_nonneg _ _

theorem tabSize_setTabSize (c : Column) (n : Int) :
    leastTabSize ≤ (c.setTabSize n).1.tabSize ∧ (c.setTabSize n).1.tabSize ≤ greatestTabSize :=
  clampTabSize_bounds n

/-! ## 4. Saving and starting over -/

/-- The column as it is before anything is rendered. -/
def start (tabSize : Int) : Column := { tabSize, home := tabSize }

/-- Saves the column and the tab size. -/
def save (c : Column) : Column := { c with saved := (c.column, c.tabSize) :: c.saved }

/-- Goes back to what was saved last; `none` if nothing is saved. -/
def restore? (c : Column) : Option Column :=
  match c.saved with
  | [] => none
  | (column, tabSize) :: saved => some { c with column, tabSize, saved }

/-- Goes back to what was saved last, if anything was. -/
def restore (c : Column) : Column := c.restore?.getD c

/-- Back to the margin and the tab size of the beginning, with nothing saved. -/
def reset (c : Column) : Column := start c.home

end Column

end Stencil
