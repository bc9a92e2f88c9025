/-
# Writing the output

The output of a session goes into a file, after which rendering starts over unless the caller wants
to keep the output.
-/
import Stencil.Files.TextFile
import Stencil.Session.Basic

namespace Stencil

namespace Session

/-- Writes the output to a file, and answers whether that was done. -/
def writeOutput (s : Session) (t : FileTree) (path : String) (reset : Bool) :
    Session × FileTree × Except Abort Bool :=
  let outcome := TextFile.write t path s.output
  let s := s.report outcome.notices
  match outcome.isWritten with
  | .error fault => (s, outcome.tree, .error (.badPath fault))
  | .ok false => (s, outcome.tree, .ok false)
  | .ok true =>
    let s := if reset then s.resetOutput true else s
    ({ s with isWritten := true }, outcome.tree, .ok true)

end Session

end Stencil
