/-
# The program

Reads the files that a command needs, runs it, writes the file that it produced, and shows what there
is to show.  Everything else is in `Stencil.Command`.
-/
import Stencil.Command.Arguments

namespace Stencil

/-! ## 1. The environment and the files -/

/-- The environment variables of the settings that are set. -/
def readEnvironment : IO Settings.Environment := do
  let settings : List Setting := [.tabSize, .start, .stop, .escape, .stem, .ceiling, .logLevel]
  settings.filterMapM fun s => do
    return (← IO.getEnv s.variableName).map fun text => (s.variableName, text)

/-- What stands at a path on the disk, if anything. -/
def nodeOnDisk (path : String) : IO (Option Node) := do
  try
    let real ← IO.FS.realPath path
    if ← real.isDir then return some .directory
    return some (.file (← IO.FS.readBinFile real).toList)
  catch _ => return none

/-- Takes what a path leads to into a tree, along with the directories on the way. -/
def takeIn (files : FileTree) (path : String) : IO FileTree := do
  let p := Path.ofString path
  let mut files := files
  for n in [0:p.parts.length] do
    let step : Path := { p with parts := p.parts.take (n + 1) }
    match files.place step, ← nodeOnDisk step.text with
    | .ok place, some node => files := ⟨files.nodes.put place node⟩
    | _, _ => pure ()
  return files

/-- Writes the file at a path to the disk, if it is not what it was before. -/
def putOut (before after : FileTree) (path : String) : IO Unit := do
  let p := Path.ofString path
  match after.read? p with
  | none => return
  | some bytes =>
    if before.read? p = some bytes then return
    IO.FS.createDirAll p.parent.text
    IO.FS.writeBinFile p.text bytes.toByteArray

/-! ## 2. Display -/

/-- A text filled up with blanks to a width. -/
def padded (width : Nat) (flushRight : Bool) (s : String) : String :=
  let blanks := String.ofList (List.replicate (width - s.length) ' ')
  if flushRight then blanks ++ s else s ++ blanks

def gridLines (g : Command.Grid) : List String :=
  let table := g.columns.map (·.1) :: g.rows
  let widths := (List.range g.columns.length).map fun i =>
    (table.map fun r => (r.getD i "").length).foldl max 0
  g.title :: table.map fun r =>
    "  ".intercalate ((r.zip (widths.zip (g.columns.map (·.2)))).map fun (s, width, right) =>
      padded width right s)

/-- The lines of an item for the console, without the markup of an item that has no style. -/
def shownLines (s : Command.Shown) : List String :=
  match s.display with
  | .grid g => gridLines g
  | .text text =>
    if s.style.isSome then [text] else [(text.replace "[red]" "").replace "[/red]" ""]

/-- Shows an outcome and answers how the program ends. -/
def present (o : Command.Outcome) : IO UInt32 := do
  IO.print o.stdout
  IO.eprint o.stderr
  for s in o.shown do
    for line in shownLines s do
      match o.channel with
      | .output => IO.println line
      | .error => IO.eprintln line
  match o.ending with
  | .ok code => return code.toUInt32
  | .error fault =>
    IO.eprintln (fault.message?.getD "The file of token values is not valid JSON.")
    return 2

end Stencil

def main (words : List String) : IO UInt32 := do
  match Stencil.Command.parse words with
  | .error fault =>
    IO.eprintln fault.message
    return 2
  | .ok invocation =>
    let env ← Stencil.readEnvironment
    let files ← invocation.paths.foldlM Stencil.takeIn {}
    let outcome := invocation.run env files
    match invocation.output? with
    | some path => Stencil.putOut files outcome.files path
    | none => pure ()
    Stencil.present outcome
