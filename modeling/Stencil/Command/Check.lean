/-
# The check command

Loads a template and shows a table of its segments, followed by the problems found.
-/
import Stencil.Command.Outcome
import Stencil.Session.Load

namespace Stencil

namespace Command

/-- What the check command is asked to do. -/
structure CheckRequest where
  template : String
  verbose : Bool := false

/-- The columns of the table of segments. -/
def columns : List (String × Bool) :=
  [("Segment", false), ("Lines", true), ("FTI", true), ("PAD", false), ("TAB", true)]

def row (name : String) (s : Segment) : List String :=
  let c := s.control
  [name, toString s.items.length,
    if c.firstTimeIndent = 0 then "" else toString c.firstTimeIndent,
    c.padSegment,
    match c.tabSize with
    | none => ""
    | some n => toString n]

/-- The table of the segments of a template. -/
def grid (title : String) (t : Template) : Grid :=
  ⟨title, columns, t.map fun (name, s) => row name s⟩

def check (r : CheckRequest) (env : Settings.Environment) (files : FileTree) : Outcome :=
  let failed (fault : Fault) (level : Level) : Outcome :=
    { ending := .error fault, level, files, channel := .output }
  match Settings.load env {} with
  | .error fault => failed (.settings fault) ⟨0⟩
  | .ok settings =>
    match logLevel r.verbose settings.logLevel with
    | .error fault => failed fault ⟨0⟩
    | .ok level =>
      let path := (Path.ofString r.template).text
      let (s, result) := (Session.ofSettings settings).loadFile files path
      let stderr := if r.verbose then s.log.trace else ""
      match result with
      | .error reason => { failed (.aborted reason) level with stderr }
      | .ok loaded =>
        let table : List Shown := if loaded then [⟨none, .grid (grid path s.template)⟩] else []
        { ending := .ok (if loaded then 0 else 1)
          stderr
          channel := .output
          shown := table ++ shownLog s.log r.verbose
          level
          files }

end Command

end Stencil
