/-
# Paths

A path is its parts; empty parts and single dots are not parts.  Two dots are one, because what they
mean depends on the directories that are there.  `Path.resolved` takes them out for comparing paths.
A file system takes names and paths up to a length, which it counts in bytes.

A leading tilde is a part like any other here, and stands for nobody's home.
-/
import Stencil.Text.Blank

namespace Stencil

/-- A path, from the root or from the working directory. -/
structure Path where
  isRooted : Bool := false
  parts : List String
  deriving DecidableEq, Repr

namespace Path

/-- The parts that the characters of a path write. -/
def partsOf (cs : List Char) : List String :=
  ((cs.splitOnP (· = '/')).filter fun p => p ≠ [] ∧ p ≠ ['.']).map String.ofList

def ofString (s : String) : Path := ⟨s.toList.head? = some '/', partsOf s.toList⟩

def text (p : Path) : String :=
  if p.isRooted then "/" ++ "/".intercalate p.parts
  else if p.parts = [] then "."
  else "/".intercalate p.parts

/-- The last part. -/
def name (p : Path) : String := p.parts.getLast?.getD ""

/-- The path without its last part. -/
def parent (p : Path) : Path := { p with parts := p.parts.dropLast }

/-- One step from a place whose parts are given, to a part of it or back up.  Above the working
directory the steps are kept; there is nothing above the root. -/
def enter (place : List String) (part : String) : List String :=
  if part = ".." then
    match place.getLast? with
    | none | some ".." => place ++ [".."]
    | some "/" => place
    | some _ => place.dropLast
  else place ++ [part]

/-- The place where a path begins. -/
def start (p : Path) : List String := if p.isRooted then ["/"] else []

/-- The path with every step back up carried out. -/
def resolved (p : Path) : Path :=
  { p with parts := (p.parts.foldl enter p.start).filter (· ≠ "/") }

/-- Whether the path has a null character in it. -/
def hasNull (p : Path) : Bool := p.parts.any fun part => part.toList.contains '\x00'

/-- Whether the name of a file or directory has more bytes than any can have. -/
def isLongName (name : String) : Bool := 255 < name.utf8ByteSize

/-- Whether the path as a whole has more bytes than a request takes. -/
def isLong (p : Path) : Bool := 4095 < p.text.utf8ByteSize

end Path

end Stencil
