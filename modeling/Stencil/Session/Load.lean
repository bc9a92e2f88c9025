/-
# Loading a template

A session takes a template from given lines or from a file, in place of the one before.  Whatever
keeps a template from being loaded is noted and leaves the session without one.  A file that is
loaded already is not loaded again.
-/
import Stencil.Files.TextFile
import Stencil.Session.Basic
import Stencil.Template.Loading

namespace Stencil

namespace Session

/-! ## 1. From lines -/

/-- Whether lines are no template at all: none, or a single blank one. -/
def isEmptyTemplate : List String → Bool
  | [] => true
  | [line] => Text.isBlank line
  | _ => false

/-- The draft in which a session reads a template. -/
def draft (s : Session) : Draft :=
  { namer := s.namer, tokens := s.tokens, log := s.log }

/-- The session with what a draft has changed apart from the segments. -/
def adopt (s : Session) (d : Draft) : Session :=
  { s with position := d.position, namer := d.namer, tokens := d.tokens, log := d.log }

/-- Loads a template, and answers whether there is one now. -/
def load (s : Session) (lines : List String) (name : String) :
    Session × Except Text.DigitOverflow Bool :=
  let s := s.clear
  if isEmptyTemplate lines then
    ({ s.warn .loading [.emptyTemplate name] with lastFault := some .empty }, .ok false)
  else
    let s := s.report [.info .loading (.loading name)]
    match s.draft.load s.delimiters lines with
    | (d, .ok result) =>
      match result.fault with
      | none =>
        ({ s.adopt d with template := result.segments, isLoaded := true, lastFault := none },
          .ok true)
      | some f =>
        let s := (s.adopt d).clear.report [.error .loading (.loadFailed name f result.line)]
        ({ s with lastFault := some f }, .ok false)
    | (d, .error o) => (s.adopt d, .error o)

/-! ## 2. From a file -/

/-- The file at a path; a blank path is none. -/
def fileAt (path : String) : Option Path :=
  if Text.isBlank path then none else some (Path.ofString path).resolved

/-- Whether the template is that of the file at a path. -/
def isCurrent (s : Session) (path : String) : Bool :=
  s.isLoaded && (fileAt path).isSome && fileAt path == s.path

/-- The session in which a file is read: output that would be lost unwritten has been noted. -/
def noted (s : Session) (path : String) : Session :=
  match s.path with
  | some previous =>
    if s.output ≠ [] ∧ !s.isWritten then s.warn .loading [.loadBeforeWrite path previous.name] else s
  | none => s

/-- The session after a file that could not be read. -/
def unreadable (s : Session) (m : Message) : Session :=
  { (s.report [.error .loading m]).clear with path := none, lastFault := some .unreadable }

/-- Reads a file and loads its lines, whatever is loaded already. -/
def readFile (s : Session) (t : FileTree) (path : String) : Session × Except Abort Bool :=
  match TextFile.read t (some path), fileAt path with
  | .error fault, _ => (s, .error (.refused fault))
  | .ok (.ok lines), some target =>
    let s := { s with
      log := s.log.record (.linesRead lines.length (Path.ofString path).text) }
    match s.load lines target.name with
    | (s, .ok loaded) => ({ s with path := if loaded then some target else none }, .ok loaded)
    | (s, .error o) => (s, .error (.overflow o))
  | .ok (.error m), _ => (s.unreadable m, .ok false)
  | .ok (.ok _), none => (s.unreadable .blankPath, .ok false)

/-- Loads a template from a file, unless that is the template already, and answers whether there is
one now. -/
def loadFile (s : Session) (t : FileTree) (path : String) : Session × Except Abort Bool :=
  if (Path.ofString path).hasNull then (s, .error (.badPath .nullCharacter))
  else if s.isCurrent path then (s.warn .loading [.repeatedLoad s.templateName], .ok true)
  else (s.noted path).readFile t path

end Session

end Stencil
