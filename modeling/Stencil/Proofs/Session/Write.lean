/-
# Writing the output

Output is written only if there is any and the file takes it.  Then the file holds its lines, and the
session is marked as written, with the output still there or reset.  Otherwise nothing comes of it but
records in the log.  What comes of it is told once, so that no proof after this file takes
`Session.writeOutput` apart.

* `writing`: how writing ends.
-/
import Stencil.Session.Write

namespace Stencil

namespace Session

/-- What comes of writing the output: the session, the files, and what is answered. -/
inductive Writing (s : Session) (path : String) : Bool → Session → FileTree → Except Abort Bool → Prop
  | broken {new : Log} {reset : Bool} {files : FileTree} {a : Abort} :
      Writing s path reset { s with log := s.log ++ new } files (.error a)
  | failed {new : Log} {reset : Bool} {files : FileTree} :
      Writing s path reset { s with log := s.log ++ new } files (.ok false)
  | kept {new : Log} {files : FileTree} :
      TextFile.find files (Path.ofString path) = .ok (some (TextFile.bytesOf s.output)) →
      Writing s path false { s with log := s.log ++ new, isWritten := true } files (.ok true)
  | dropped {new : Log} {files : FileTree} :
      TextFile.find files (Path.ofString path) = .ok (some (TextFile.bytesOf s.output)) →
      Writing s path true
        { { s with log := s.log ++ new }.resetOutput true with isWritten := true } files (.ok true)

/-- **Writing ends in one of these ways.** -/
theorem writing (s : Session) (files : FileTree) (path : String) (reset : Bool) :
    Writing s path reset (s.writeOutput files path reset).1 (s.writeOutput files path reset).2.1
      (s.writeOutput files path reset).2.2 := by
  unfold writeOutput
  dsimp only
  split
  · exact .broken
  · exact .failed
  · rename_i hwritten
    have hfile := TextFile.find_of_write hwritten
    cases reset with
    | false => exact .kept hfile
    | true => exact .dropped hfile

end Session

end Stencil
