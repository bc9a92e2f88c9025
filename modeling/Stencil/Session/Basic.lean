/-
# Sessions

A session holds one template at a time, the output rendered from it so far, and everything that
loading and rendering share: the position, the running column, the tokens, the namer and the log.

Here are the state, how a session begins, and how all or part of it starts over.
-/
import Stencil.Files.Fault
import Stencil.Files.Path
import Stencil.Settings
import Stencil.Template.Draft

namespace Stencil

/-! ## 1. The state -/

structure Session where
  position : Position := {}
  log : Log := []
  namer : Namer
  column : Column
  home : Delimiters
  delimiters : Delimiters
  tokens : Tokens := {}
  template : Template := []
  output : List String := []
  isLoaded : Bool := false
  isWritten : Bool := false
  path : Option Path := none
  lastFault : Option LoadFault := none
  deriving DecidableEq

/-- Why an operation breaks off.  What it did until then stays done. -/
inductive Abort where
  | overflow (o : Text.DigitOverflow)
  | badPath (fault : PathFault)
  | refused (fault : FileFault)
  deriving DecidableEq, Repr

def Abort.message : Abort → String
  | overflow o => o.message
  | badPath fault => fault.message
  | refused fault => fault.message

namespace Session

/-- The session that settings begin. -/
def ofSettings (s : Settings) : Session where
  namer := { stem := s.stem, ceiling := s.ceiling }
  column := .start s.tabSize
  home := s.delimiters
  delimiters := s.delimiters

/-- The session with notices at the current position. -/
def report (s : Session) (ns : List Notice) : Session :=
  { s with log := s.log.report s.position ns }

/-- The session with warnings of a category at the current position. -/
def warn (s : Session) (c : Category) (ms : List Message) : Session :=
  s.report (ms.map (Notice.warning c))

/-- The name of a template that does not come from a file. -/
def inlineName : String := "<lines>"

def templateName (s : Session) : String :=
  (s.path.map Path.name).getD inlineName

def controls (s : Session) : Table String Control :=
  s.template.map fun (name, segment) => (name, segment.control)

def texts (s : Session) : Table String (List String) :=
  s.template.map fun (name, segment) => (name, segment.items.map (·.text))

/-! ## 2. Starting over -/

/-- The session without its template, output and tokens; delimiters, path and log stay. -/
def clear (s : Session) : Session :=
  { s with
    output := []
    template := []
    position := {}
    namer := s.namer.reset
    column := s.column.reset
    tokens := {}
    isLoaded := false
    isWritten := false }

/-- Forgets everything but the log. -/
def resetAll (s : Session) : Session :=
  let s := { s.clear with delimiters := s.home }
  { s.report [.info .reset (.templateReset s.templateName)] with path := none }

/-- Drops the output, so that every segment is rendered as if for the first time. -/
def resetOutput (s : Session) (mention : Bool) : Session :=
  let s := { s with
    output := []
    position := {}
    column := s.column.reset
    template := s.template.startOver }
  if mention then s.report [.info .reset (.outputReset s.templateName)] else s

/-- Makes the next render of one segment like its first. -/
def resetSegment (s : Session) (name : Option String) : Session :=
  let segment := name.getD ""
  let s := { s with position := ⟨segment, 0⟩ }
  if name.any (· ∈ s.template.keys) then
    { s with
      template := s.template.modify segment fun seg =>
        { seg with control := { seg.control with isFirstTime := true } } }.report
      [.info .reset (.segmentReset segment)]
  else s.warn .reset [.segmentNotReset segment]

/-! ## 3. Setting up -/

/-- Sets the tab size, as far as the bounds let it. -/
def setTabSize (s : Session) (n : Int) : Session :=
  let (column, ms) := s.column.setTabSize n
  { s with column }.warn .setup ms

/-- Changes the delimiters and looks for tokens anew.  A set that is refused resets the session. -/
def setDelimiters (s : Session) (start stop escape : Option String) : Session × Bool :=
  let (accepted, ms) := Delimiters.change start stop escape
  let s := s.warn .setup ms
  match accepted with
  | none => ((s.report [.error .setup .delimitersRejected]).resetAll, false)
  | some d => ({ s with delimiters := d, tokens := s.tokens.rescan d s.texts }, true)

/-- Supplies values for the tokens of a segment. -/
def loadValues (s : Session) (segment : Option String) (values : Option Values) : Session :=
  let (tokens, ms) := s.tokens.load segment values
  { s with tokens }.warn .generating ms

end Session

end Stencil
