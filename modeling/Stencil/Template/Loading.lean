/-
# Loading a template

While a template is loaded its segments stand in two tables, one of their text lines and one of their
options.  A header opens a segment in both, a segment without text goes from both, and text is
appended in the one table alone; default names and pads are looked up in the other.

That the two tables stay in step is nothing that their types see to.  As long as they do, a loading
does what reading does to a draft, where a segment is one record (`Template.Draft`).

* `tables_texts`, `tables_controls`: a draft taken apart;
* `tables_warn`: what is noted is the same in both forms.
-/
import Stencil.Template.Draft

namespace Stencil

/-! ## 1. The two tables -/

/-- A template that is being loaded, with the text lines and the options of its segments apart. -/
structure Loading where
  position : Position := {}
  namer : Namer := {}
  tokens : Tokens := {}
  texts : Table String (List TextItem) := []
  controls : Table String Control := []
  log : Log := []

namespace Loading

def report (l : Loading) (ns : List Notice) : Loading :=
  { l with log := l.log.report l.position ns }

def warn (l : Loading) (ms : List Message) : Loading :=
  l.report (ms.map (Notice.warning .parsing))

def moveTo (l : Loading) (segment : String) : Loading :=
  { l with position := { l.position with segment } }

def exhausted (l : Loading) (limit : NameLimit) : Loading × Option Stop :=
  (l.report [.error .parsing (.namesExhausted limit)], some (.fault .nameLimit))

/-- Goes on with the next default name that no options are stored under. -/
def withNextName (l : Loading) (go : Loading → String → Loading × Option Stop) :
    Loading × Option Stop :=
  match l.namer.next l.controls.keys with
  | (.error limit, namer) => { l with namer }.exhausted limit
  | (.ok name, namer) => go ({ l with namer }.moveTo name) name

/-! ## 2. Segments -/

/-- Drops the current segment from both tables if it has no text lines. -/
def closeSegment (l : Loading) : Loading :=
  let name := l.position.segment
  if l.position.hasSegment && ((l.texts.get? name).all List.isEmpty) then
    { l.warn [.noTextLines name] with
      texts := l.texts.erase name
      controls := l.controls.erase name }
  else l

/-- The control of a segment with its pad checked against the options that are stored. -/
def checkPad (controls : Table String Control) (name : String) (c : Control) :
    Control × List Message :=
  let pad := c.padSegment
  let dropped : Control := { c with padSegment := "" }
  if pad = "" then (c, [])
  else if pad = name then (dropped, [.padIsItself name])
  else
    match controls.get? pad with
    | none => (dropped, [.padNotDefinedEarlier name pad])
    | some other => if other.padSegment = "" then (c, []) else (dropped, [.padHasPad name pad])

/-- Opens a segment in both tables. -/
def openSegment (l : Loading) (name : String) (c : Control) : Loading :=
  let (c, ms) := checkPad l.controls name c
  let l := l.warn ms
  { l with
    controls := l.controls.put name c
    texts := l.texts.put name [] }.report [.info .parsing (.segmentAdded name)]

/-- Opens a segment under its name, or under a default name if there are options under that. -/
def addNamed (l : Loading) (name : String) (c : Control) : Loading × Option Stop :=
  if name ∈ l.controls.keys then
    l.withNextName fun l default =>
      ((l.warn [.duplicateSegmentName name default]).openSegment default c, none)
  else (l.openSegment name c, none)

/-- Reads a header line, for which neither table matters but the names that are taken. -/
def readHeader (l : Loading) (line : String) : Loading × Except HeaderFault (String × Control) :=
  let d : Draft := { position := l.position, namer := l.namer, log := l.log }
  let (d, result) := d.readHeader l.controls.keys line
  ({ l with position := d.position, namer := d.namer, log := d.log }, result)

/-- Opens the segment of a header line. -/
def addHeader (l : Loading) (line : String) : Loading × Option Stop :=
  match l.readHeader line with
  | (l, .ok (name, control)) => l.addNamed name control
  | (l, .error (.nameLimit limit)) => l.exhausted limit
  | (l, .error (.overflow overflow)) => (l, some (.overflow overflow))

/-! ## 3. Text -/

/-- Appends a text line to those of the current segment, which are there, and records its tokens. -/
def append (l : Loading) (delimiters : Delimiters) (item : TextItem) : Loading :=
  let name := l.position.segment
  { l with
    texts := l.texts.adjust name (· ++ [item])
    tokens := l.tokens.extract delimiters name item.text }

/-- Adds a text line; one that no header precedes opens a default segment in both tables. -/
def addText (l : Loading) (delimiters : Delimiters) (item : TextItem) : Loading × Option Stop :=
  if l.position.hasSegment then (l.append delimiters item, none)
  else
    l.withNextName fun l name =>
      ({ l with
          controls := l.controls.put name {}
          texts := l.texts.put name [] }.warn
        [.missingFirstHeader name] |>.append delimiters item, none)

/-! ## 4. Loading -/

def readLine (l : Loading) (delimiters : Delimiters) (s : String) : Loading × Option Stop :=
  let l := { l with position := { l.position with line := l.position.line + 1 } }
  let line := Line.ofString s
  let l := l.report (line.notices s)
  match line with
  | .faulty _ =>
    (l.report [.error .parsing (.loadingStopped l.position.line)], some (.fault .syntaxError))
  | .header => l.closeSegment.addHeader s
  | .text item => l.addText delimiters item
  | .comment | .short => (l, none)

/-- Reads lines until one stops the loading. -/
def readLines (l : Loading) (delimiters : Delimiters) : List String → Loading × Option Stop
  | [] => (l, none)
  | s :: lines =>
    match l.readLine delimiters s with
    | (l, none) => l.readLines delimiters lines
    | (l, some stop) => (l, some stop)

/-- Reads a whole template into two new tables. -/
def read (l : Loading) (delimiters : Delimiters) (lines : List String) : Loading × Option Stop :=
  match { l with position := {}, texts := [], controls := [] }.readLines delimiters lines with
  | (l, none) =>
    let l := l.closeSegment
    ({ l with log := l.log.record (.segmentsLoaded l.texts.length) }, none)
  | stopped => stopped

/-! ## 5. What is loaded -/

/-- The segments of both tables, in the order of their options. -/
def template (l : Loading) : Template :=
  l.controls.map fun (name, control) =>
    (name, { control, items := (l.texts.get? name).getD [] })

/-- The draft that both tables come to. -/
def draft (l : Loading) : Draft where
  position := l.position
  namer := l.namer
  tokens := l.tokens
  segments := l.template
  log := l.log

end Loading

namespace Draft

/-- The draft with the text lines and the options of its segments apart. -/
def tables (d : Draft) : Loading where
  position := d.position
  namer := d.namer
  tokens := d.tokens
  texts := d.segments.mapValues Segment.items
  controls := d.segments.mapValues Segment.control
  log := d.log

/-- Loads a whole template and returns it, or the fault that has stopped the loading. -/
def load (d : Draft) (delimiters : Delimiters) (lines : List String) :
    Draft × Except Text.DigitOverflow LoadResult :=
  match d.tables.read delimiters lines with
  | (l, none) => (l.draft, .ok { segments := l.template, line := l.position.line })
  | (l, some (.fault f)) => (l.draft, .ok (.failed f l.position.line))
  | (l, some (.overflow o)) => (l.draft, .error o)

@[simp] theorem tables_position (d : Draft) : d.tables.position = d.position := rfl

@[simp] theorem tables_namer (d : Draft) : d.tables.namer = d.namer := rfl

@[simp] theorem tables_texts (d : Draft) :
    d.tables.texts = d.segments.mapValues Segment.items := rfl

@[simp] theorem tables_controls (d : Draft) :
    d.tables.controls = d.segments.mapValues Segment.control := rfl

theorem tables_warn (d : Draft) (ms : List Message) : d.tables.warn ms = (d.warn ms).tables := rfl

end Draft

end Stencil
