/-
# The trace of a verbose run

Every record of the log in one line, behind the part of the library that it comes from and its
level.
-/
import Stencil.Log.Basic

namespace Stencil

/-- The part of the library that a detail comes from. -/
def Detail.origin : Detail → String
  | .linesRead _ _ => "segtext.files"
  | .segmentsLoaded _ => "segtext.loader"
  | .nothingSaved => "segtext.indent"

def Detail.text : Detail → String
  | .linesRead count path => s!"Read {count} lines from {path}"
  | .segmentsLoaded count => s!"Loaded {count} segments"
  | .nothingSaved => "restore_state called with nothing saved"

def Record.traceLine : Record → String
  | .entry e => s!"segtext.logbook {e.level.name} {e.text}"
  | .detail d => s!"{d.origin} {Level.debug.name} {d.text}"

/-- The lines of a log, each ended by a newline. -/
def Log.trace (l : Log) : String :=
  String.join (l.map fun r => r.traceLine ++ "\n")

end Stencil
