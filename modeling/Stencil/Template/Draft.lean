/-
# Reading a template

A template is read line by line into a draft: the segments so far, the position, the namer, and the
token names that the text has shown.  A header closes the segment before it and opens its own; text
goes to the segment that is open; comments and short lines change nothing but the line number.

Reading stops at the first faulty line, when the namer reaches its ceiling, or at a number too long
to be read (`Stop`).  What was read up to there remains in the draft; it is for the caller to drop, and
what loading returns (`LoadResult`) has nothing of it.

Here a segment is one record, with its options and its text lines.  The tables in which a template is
kept while it is loaded are those of `Template.Loading`.

* `addText_of_hasSegment`: text joins the segment that is open.
-/
import Stencil.Header
import Stencil.Line
import Stencil.Token.Tokens

namespace Stencil

/-! ## 1. Drafts -/

/-- Why reading stops before the end. -/
inductive Stop where
  | fault (f : LoadFault)
  | overflow (o : Text.DigitOverflow)
  deriving DecidableEq, Repr

/-- Why a header is not read to its end. -/
inductive HeaderFault where
  | nameLimit (limit : NameLimit)
  | overflow (o : Text.DigitOverflow)
  deriving DecidableEq, Repr

/-- What the loading of a template returns: its segments, or the fault for which there are none, and
the number of the line at which the reading has ended. -/
structure LoadResult where
  segments : Template := []
  fault : Option LoadFault := none
  line : Int := 0
  deriving DecidableEq, Repr

/-- The result of a loading that a fault has stopped. -/
def LoadResult.failed (fault : LoadFault) (line : Int) : LoadResult :=
  { fault := some fault, line }

/-- A template that is being read. -/
structure Draft where
  position : Position := {}
  namer : Namer := {}
  tokens : Tokens := {}
  segments : Template := []
  log : Log := []

namespace Draft

/-- The draft with notices at the current position. -/
def report (d : Draft) (ns : List Notice) : Draft :=
  { d with log := d.log.report d.position ns }

/-- The draft with warnings at the current position. -/
def warn (d : Draft) (ms : List Message) : Draft :=
  d.report (ms.map (Notice.warning .parsing))

/-- The draft with another segment current. -/
def moveTo (d : Draft) (segment : String) : Draft :=
  { d with position := { d.position with segment } }

/-- A draft that ran out of default names. -/
def exhausted (d : Draft) (limit : NameLimit) : Draft × Option Stop :=
  (d.report [.error .parsing (.namesExhausted limit)], some (.fault .nameLimit))

/-- Goes on with the next default name. -/
def withNextName (d : Draft) (go : Draft → String → Draft × Option Stop) : Draft × Option Stop :=
  match d.namer.next d.segments.keys with
  | (.error limit, namer) => { d with namer }.exhausted limit
  | (.ok name, namer) => go ({ d with namer }.moveTo name) name

/-! ## 2. Segments -/

/-- Drops the current segment if it has no text lines. -/
def closeSegment (d : Draft) : Draft :=
  let name := d.position.segment
  if d.position.hasSegment && ((d.segments.get? name).all fun s => s.items.isEmpty) then
    { d.warn [.noTextLines name] with segments := d.segments.erase name }
  else d

/-- The control of a segment with its pad checked.  A pad is another segment that stands earlier and
has no pad itself; any other is dropped. -/
def checkPad (segments : Template) (name : String) (c : Control) : Control × List Message :=
  let pad := c.padSegment
  let dropped : Control := { c with padSegment := "" }
  if pad = "" then (c, [])
  else if pad = name then (dropped, [.padIsItself name])
  else
    match segments.get? pad with
    | none => (dropped, [.padNotDefinedEarlier name pad])
    | some s => if s.control.padSegment = "" then (c, []) else (dropped, [.padHasPad name pad])

/-- Opens a segment under a name that is free. -/
def openSegment (d : Draft) (name : String) (c : Control) : Draft :=
  let (c, ms) := checkPad d.segments name c
  let d := d.warn ms
  { d with segments := d.segments.put name { control := c } }.report
    [.info .parsing (.segmentAdded name)]

/-- Opens a segment under its name, or under a default name if that is not free. -/
def addNamed (d : Draft) (name : String) (c : Control) : Draft × Option Stop :=
  if name ∈ d.segments.keys then
    d.withNextName fun d default =>
      ((d.warn [.duplicateSegmentName name default]).openSegment default c, none)
  else (d.openSegment name c, none)

/-- Reads a header line: the name that its segment gets, which is also made current, and the
control.  Default names pass over those that are taken. -/
def readHeader (d : Draft) (taken : List String) (line : String) :
    Draft × Except HeaderFault (String × Control) :=
  let header := Header.ofString line
  match header.settle d.namer taken with
  | (.error limit, namer) => ({ d with namer }, .error (.nameLimit limit))
  | (.ok (name, ms), namer) =>
    let d := ({ d with namer }.moveTo name).warn ms
    let (ms, result) := Header.readOptions name header.options
    let result := match result with
      | .ok control => .ok (name, control)
      | .error overflow => .error (.overflow overflow)
    (d.warn ms, result)

/-- Opens the segment of a header line. -/
def addHeader (d : Draft) (line : String) : Draft × Option Stop :=
  match d.readHeader d.segments.keys line with
  | (d, .ok (name, control)) => d.addNamed name control
  | (d, .error (.nameLimit limit)) => d.exhausted limit
  | (d, .error (.overflow overflow)) => (d, some (.overflow overflow))

/-! ## 3. Text -/

/-- Appends a text line to the current segment and records its tokens. -/
def append (d : Draft) (delimiters : Delimiters) (item : TextItem) : Draft :=
  let name := d.position.segment
  { d with
    segments := d.segments.modify name fun s => { s with items := s.items ++ [item] }
    tokens := d.tokens.extract delimiters name item.text }

/-- Adds a text line; one that no header precedes opens a default segment. -/
def addText (d : Draft) (delimiters : Delimiters) (item : TextItem) : Draft × Option Stop :=
  if d.position.hasSegment then (d.append delimiters item, none)
  else
    d.withNextName fun d name =>
      ({ d with segments := d.segments.put name {} }.warn
        [.missingFirstHeader name] |>.append delimiters item, none)

/-! ## 4. Reading -/

def readLine (d : Draft) (delimiters : Delimiters) (s : String) : Draft × Option Stop :=
  let d := { d with position := { d.position with line := d.position.line + 1 } }
  let line := Line.ofString s
  let d := d.report (line.notices s)
  match line with
  | .faulty _ =>
    (d.report [.error .parsing (.loadingStopped d.position.line)], some (.fault .syntaxError))
  | .header => d.closeSegment.addHeader s
  | .text item => d.addText delimiters item
  | .comment | .short => (d, none)

/-- Reads lines until one stops the reading. -/
def readLines (d : Draft) (delimiters : Delimiters) : List String → Draft × Option Stop
  | [] => (d, none)
  | s :: lines =>
    match d.readLine delimiters s with
    | (d, none) => d.readLines delimiters lines
    | (d, some stop) => (d, some stop)

/-- Reads a whole template, with the namer, the token names and the log of the draft. -/
def read (d : Draft) (delimiters : Delimiters) (lines : List String) : Draft × Option Stop :=
  match { d with position := {}, segments := [] }.readLines delimiters lines with
  | (d, none) =>
    let d := d.closeSegment
    ({ d with log := d.log.record (.segmentsLoaded d.segments.length) }, none)
  | stopped => stopped

theorem addText_of_hasSegment {d : Draft} (h : d.position.hasSegment = true)
    (delimiters : Delimiters) (item : TextItem) :
    d.addText delimiters item = (d.append delimiters item, none) := by
  simp [addText, h]

end Draft

end Stencil
