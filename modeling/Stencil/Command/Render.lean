/-
# The render command

Loads a template, renders segments in the order in which they are asked for, and writes the output to
a file or to the standard output.  The problems of the log go to the error console.

The lines for the two output streams are sent without control sequences, since what reads them need
not be a terminal; a file gets them as they are.
-/
import Stencil.Command.TokenValues
import Stencil.Session.Load
import Stencil.Session.Render
import Stencil.Session.Write
import Stencil.Text.ControlSequence

namespace Stencil

namespace Command

structure RenderRequest where
  template : String
  segments : List String
  token : List String := []
  tokens : Option String := none
  output : Option String := none
  tabSize : Option Int := none
  start : Option String := none
  stop : Option String := none
  escape : Option String := none
  verbose : Bool := false

namespace RenderRequest

/-- An option that is given and not empty. -/
def given (option : Option String) : Option String :=
  option.filter (· ≠ "")

/-- The session with the delimiters of the request, if it has any; those it leaves out are those of
the settings. -/
def withDelimiters (r : RenderRequest) (s : Session) : Session × Bool :=
  if (given r.start).isSome || (given r.stop).isSome || (given r.escape).isSome then
    s.setDelimiters (some ((given r.start).getD s.home.start))
      (some ((given r.stop).getD s.home.stop)) (some ((given r.escape).getD s.home.escape))
  else (s, true)

/-- The session with the segments of the request rendered. -/
def renderAll (r : RenderRequest) (args : Table String String) (file : SegmentValues)
    (s : Session) : Session :=
  r.segments.foldl
    (fun s segment =>
      s.render (some segment) (valuesFor (s.tokens.knownOf segment) args file segment))
    s

/-- A line as it is sent to an output stream. -/
def sent (line : String) : String := Text.plainText line ++ "\n"

/-- The text on the error stream: the trace of a verbose run. -/
def traceOf (r : RenderRequest) (s : Session) : String :=
  if r.verbose then s.log.trace else ""

/-- An outcome that shows the log of a session. -/
def finish (r : RenderRequest) (level : Level) (files : FileTree) (s : Session) (code : Nat) :
    Outcome :=
  { ending := .ok code
    stderr := r.traceOf s
    shown := shownLog s.log r.verbose
    level
    files }

/-- Delivers the output of a session. -/
def deliver (r : RenderRequest) (level : Level) (files : FileTree) (s : Session) : Outcome :=
  match r.output with
  | none =>
    { r.finish level files s 0 with stdout := String.join (s.output.map sent) }
  | some path =>
    let path := (Path.ofString path).text
    match s.writeOutput files path true with
    | (s, files, .error reason) =>
      { ending := .error (.aborted reason), stderr := r.traceOf s, level, files }
    | (s, files, .ok isWritten) =>
      let outcome := r.finish level files s 0
      if isWritten then { outcome with stderr := outcome.stderr ++ sent s!"✓ Wrote {path}" }
      else outcome

/-- Loads the template, renders the segments and delivers the output. -/
def process (r : RenderRequest) (level : Level) (files : FileTree) (args : Table String String)
    (file : SegmentValues) (settings : Settings) : Outcome :=
  match r.withDelimiters (.ofSettings settings) with
  | (s, false) => r.finish level files s 1
  | (s, true) =>
    let path := (Path.ofString r.template).text
    match s.loadFile files path with
    | (s, .error reason) =>
      { ending := .error (.aborted reason), stderr := r.traceOf s, level, files }
    | (s, .ok false) =>
      let outcome := r.finish level files s 1
      let complaint : Shown := ⟨none, .text s!"[red]Error: unable to load {path}[/red]"⟩
      { outcome with shown := outcome.shown ++ [complaint] }
    | (s, .ok true) =>
      let s := match r.tabSize with
        | none => s
        | some n => s.setTabSize n
      r.deliver level files (r.renderAll args file s)

end RenderRequest

def render (r : RenderRequest) (env : Settings.Environment) (files : FileTree) : Outcome :=
  let failed (fault : Fault) (level : Level) : Outcome := { ending := .error fault, level, files }
  match Settings.load env {} with
  | .error fault => failed (.settings fault) ⟨0⟩
  | .ok settings =>
    match logLevel r.verbose settings.logLevel with
    | .error fault => failed fault ⟨0⟩
    | .ok level =>
      match parseArgs r.token with
      | .error fault => failed fault level
      | .ok args =>
        match r.tokens.elim (.ok []) (readValues files) with
        | .error fault => failed fault level
        | .ok file => r.process level files args file settings

end Command

end Stencil
