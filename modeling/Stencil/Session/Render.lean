/-
# Rendering segments

Rendering a segment appends its lines to the output: each text line at its column, with the values of
its tokens.  From the second time on the pad of the segment goes first; it is rendered like any
segment, and then the column, the tab size and the position are what they were before it.

A request that cannot be met is noted and moves nothing but the position.
-/
import Stencil.Session.Basic
import Stencil.Token.Substitution

namespace Stencil

namespace Session

/-! ## 1. One line -/

/-- A line of output: blanks up to the column, then the text. -/
def outputLine (column : Int) (text : String) : String :=
  String.ofList (List.replicate column.toNat ' ' ++ text.toList)

/-- Renders one text line of the current segment, given the column that it moves to. -/
def renderLine (s : Session) (name : String) (text : String)
    (move : Column → Int × Column × List Message) : Session :=
  let s := { s with position := { s.position with line := s.position.line + 1 } }
  let (n, column, ms) := move s.column
  let s := { s with column }.warn .generating ms
  let (text, ms) := substitute s.delimiters name (s.tokens.bindingsOf (some name)) text
  let s := s.warn .generating ms
  { s with output := s.output ++ [outputLine n text] }

/-- Renders one text line that is not the first of a first render. -/
def renderNext (s : Session) (name : String) (item : TextItem) : Session :=
  s.renderLine name item.text fun c => c.advance name item

def renderItems (s : Session) (name : String) (c : Control) (items : List TextItem) : Session :=
  if c.isFirstTime then
    match items with
    | [] => s
    | item :: items =>
      let s := s.renderLine name item.text fun col =>
        col.advanceFirst name c.firstTimeIndent item
      items.foldl (fun s item => s.renderNext name item) s
  else items.foldl (fun s item => s.renderNext name item) s

/-! ## 2. One segment -/

/-- The session with a segment marked as rendered, if it has lines. -/
def markRendered (s : Session) (name : String) : Session :=
  { s with
    template := s.template.modify name fun seg =>
      if seg.items = [] then seg
      else { seg with control := { seg.control with isFirstTime := false } } }

/-- Comes to a segment, with values for its tokens if any are given. -/
def enter (s : Session) (name : String) (values : Option Values) : Session :=
  let s := { s with position := ⟨name, 0⟩ }.report [.info .generating (.rendering name)]
  if values.isSome then s.loadValues (some name) values else s

/-- Renders a segment, its pad apart. -/
def renderOwn (s : Session) (name : String) (seg : Segment) : Session :=
  let s := match seg.control.tabSize with
    | none => s
    | some n => s.setTabSize n
  (s.renderItems name seg.control seg.items).markRendered name

/-- Renders something else before going on: it begins at the column that is saved, and then the column,
the tab size and the position are what they were. -/
def aside (s : Session) (go : Session → Option Session) : Option Session :=
  (go { s with column := s.column.save }).map fun r =>
    { r with column := r.column.restore, position := s.position }

/-- Renders a segment of the template with its pads, nested less than `depth` levels deep.  There is
no result if a segment is missing or the pads are nested deeper. -/
def renderAt : Nat → Session → String → Option Values → Option Session
  | 0, _, _, _ => none
  | depth + 1, s, name, values => do
    let segment ← s.template.get? name
    let s := s.enter name values
    let s ← if segment.control.padIsDue then
        s.aside fun s => renderAt depth s segment.control.padSegment none
      else some s
    some (s.renderOwn name segment)

/-! ## 3. Requests -/

/-- Why a request to render a segment is refused, if it is. -/
def refusal? (s : Session) (name : String) : Option Message :=
  if Text.isBlank name then some .blankSegmentName
  else if !s.isLoaded then some (.renderBeforeLoad name)
  else
    match s.template.get? name with
    | none => some (.unknownSegment name)
    | some segment => if segment.items = [] then some (.segmentWithoutLines name) else none

/-- Renders a segment, with values for its tokens if any are given.  Pads stand earlier in the
template than the segments they belong to, so that there are fewer levels than segments. -/
def render (s : Session) (name : Option String) (values : Option Values) : Session :=
  let name := name.getD ""
  let s := { s with position := ⟨name, 0⟩ }
  match s.refusal? name with
  | some m => s.warn .generating [m]
  | none =>
    { (s.renderAt (s.template.length + 1) name values).getD s with isWritten := false }

end Session

end Stencil
