/-
# Refusals of the file system

What the file system answers to a request that it refuses, with the path that was requested.  Some
paths are no request at all (`PathFault`).
-/
import Stencil.Text.Quoted

namespace Stencil

/-- A refused request. -/
inductive FileFault where
  | notFound (path : String)
  | alreadyExists (path : String)
  | notADirectory (path : String)
  | isADirectory (path : String)
  | nameTooLong (path : String)
  deriving DecidableEq, Repr

namespace FileFault

/-- The number of the fault among the errors of the system. -/
def number : FileFault → Nat
  | notFound _ => 2
  | alreadyExists _ => 17
  | notADirectory _ => 20
  | isADirectory _ => 21
  | nameTooLong _ => 36

def description : FileFault → String
  | notFound _ => "No such file or directory"
  | alreadyExists _ => "File exists"
  | notADirectory _ => "Not a directory"
  | isADirectory _ => "Is a directory"
  | nameTooLong _ => "File name too long"

/-- The path that was requested. -/
def path : FileFault → String
  | notFound p | alreadyExists p | notADirectory p | isADirectory p | nameTooLong p => p

def message (f : FileFault) : String :=
  s!"[Errno {f.number}] {f.description}: " ++ Text.quote f.path

end FileFault

/-- What is wrong with a path that is not put to the file system. -/
inductive PathFault where
  | nullCharacter
  | tooManyDirectories
  deriving DecidableEq, Repr

def PathFault.message : PathFault → String
  | nullCharacter => "embedded null byte"
  | tooManyDirectories => "maximum recursion depth exceeded while calling a Python object"

end Stencil
