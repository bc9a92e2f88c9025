/-
# Positions and failures

Where in a template the work is: the segment and the line within it (or within the template, while
that is being read).  A failure names the position that it belongs to, if it has one.
-/
import Stencil.Name

namespace Stencil

/-! ## 1. Positions -/

/-- The segment and line being read or rendered. -/
structure Position where
  segment : String := ""
  line : Int := 0
  deriving DecidableEq, Repr

namespace Position

/-- Whether a segment is current. -/
def hasSegment (p : Position) : Bool := p.segment ≠ ""

/-- The position as it precedes a message. -/
def text (p : Position) : String := s!"{p.segment}[{p.line}]"

/-- The position with its segment in quotes. -/
def quoted (p : Position) : String :=
  "Position(" ++ Text.quote p.segment ++ s!", {p.line})"

end Position

/-! ## 2. Failures -/

/-- A failure, with the segment and the line that it belongs to. -/
structure Failure where
  message : String
  segment : Option String := none
  line : Option Int := none
  deriving DecidableEq, Repr

/-- The failure in words; the position follows the message if there is a segment. -/
def Failure.text (f : Failure) : String :=
  match f.segment with
  | none | some "" => f.message
  | some segment => f.message ++ " (" ++ Position.text ⟨segment, f.line.getD 0⟩ ++ ")"

/-- Running out of default names, as a failure of no particular segment. -/
def NameLimit.failure (l : NameLimit) : Failure := { message := l.message }

end Stencil
