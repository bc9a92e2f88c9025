/-
# What a header leaves alone

A header is read in many small operations, and each of them changes one of four things: the log, the
segments, which of them is open, and how many default names have been tried.  What depends on none of
these (`Draft.Untouched`) is the same before a header and after it, and before a text line and after it
if the record of token names makes no difference either.  So nothing has to be shown of the operations
one by one for the record of tokens, the values, the namer at the start of its count and the line
number.

* `Untouched.closeSegment`, `Untouched.addHeader`: the operations of a header;
* `Untouched.readLine`: a line of any kind;
* `Untouched.read`: a whole template, for what does not depend on the position.
-/
import Stencil.Proofs.Template.Reading

namespace Stencil

namespace Draft

/-- A part of drafts that depends neither on the log, nor on the segments, nor on which of them is open,
nor on how many default names have been tried. -/
structure Untouched {α : Type} (part : Draft → α) : Prop where
  log : ∀ d log, part { d with log } = part d
  segments : ∀ d segments, part { d with segments } = part d
  moveTo : ∀ d name, part (Draft.moveTo d name) = part d
  namer : ∀ d taken, part { d with namer := (d.namer.next taken).2 } = part d

namespace Untouched

variable {α : Type} {part : Draft → α}

/-! ## 1. Segments and their names -/

theorem warn (h : Untouched part) (d : Draft) (ms : List Message) : part (d.warn ms) = part d :=
  h.log d _

/-- Closing drops a segment at most, and says so. -/
theorem closeSegment (h : Untouched part) (d : Draft) : part d.closeSegment = part d := by
  unfold Draft.closeSegment
  dsimp only
  split
  · exact (h.segments _ _).trans (h.warn d _)
  · rfl

theorem withNextName (h : Untouched part) {go : Draft → String → Draft × Option Stop}
    (hgo : ∀ d name, part (go d name).1 = part d) (d : Draft) :
    part (d.withNextName go).1 = part d := by
  have hnamer := h.namer d d.segments.keys
  unfold Draft.withNextName
  generalize d.namer.next d.segments.keys = result at hnamer ⊢
  -- no name is left, which is noted, or the draft moves to it
  rcases result with ⟨limit | name, namer⟩
  · exact (h.log _ _).trans hnamer
  · calc part (go ({ d with namer }.moveTo name) name).1
        = part ({ d with namer }.moveTo name) := hgo _ name
      _ = part { d with namer } := h.moveTo _ name
      _ = part d := hnamer

theorem openSegment (h : Untouched part) (d : Draft) (name : String) (c : Control) :
    part (d.openSegment name c) = part d :=
  ((h.log _ _).trans (h.segments _ _)).trans (h.warn d _)

theorem addNamed (h : Untouched part) (d : Draft) (name : String) (c : Control) :
    part (d.addNamed name c).1 = part d := by
  unfold Draft.addNamed
  split
  · exact h.withNextName (fun d default => (h.openSegment _ default c).trans (h.warn d _)) d
  · exact h.openSegment d name c

/-! ## 2. Headers -/

theorem settle (h : Untouched part) (d : Draft) (header : Header) (taken : List String) :
    part { d with namer := (header.settle d.namer taken).2 } = part d := by
  unfold Header.settle
  split
  · exact h.namer d taken
  · split
    · rfl
    · exact h.namer d taken

/-- Reading a header moves to its segment, and notes what there is to say. -/
theorem readHeader (h : Untouched part) (d : Draft) (taken : List String) (s : String) :
    part (d.readHeader taken s).1 = part d := by
  have hsettle := h.settle d (Header.ofString s) taken
  unfold Draft.readHeader
  dsimp only
  generalize (Header.ofString s).settle d.namer taken = result at hsettle ⊢
  rcases result with ⟨limit | ⟨name, ms⟩, namer⟩
  · exact hsettle
  · calc part ((({ d with namer }.moveTo name).warn ms).warn _)
        = part (({ d with namer }.moveTo name).warn ms) := h.warn _ _
      _ = part ({ d with namer }.moveTo name) := h.warn _ ms
      _ = part { d with namer } := h.moveTo _ name
      _ = part d := hsettle

theorem addHeader (h : Untouched part) (d : Draft) (s : String) :
    part (d.addHeader s).1 = part d := by
  have hread := h.readHeader d d.segments.keys s
  unfold Draft.addHeader
  generalize d.readHeader d.segments.keys s = result at hread ⊢
  rcases result with ⟨d', (limit | overflow) | ⟨name, c⟩⟩
  · exact (h.log d' _).trans hread
  · exact hread
  · exact (h.addNamed d' name c).trans hread

/-! ## 3. Lines -/

variable {delimiters : Delimiters}

theorem addText (h : Untouched part)
    (hrecord : ∀ d segment text,
      part { d with tokens := d.tokens.extract delimiters segment text } = part d)
    (d : Draft) (item : TextItem) : part (d.addText delimiters item).1 = part d := by
  have happend : ∀ d : Draft, part (d.append delimiters item) = part d := by
    intro d
    have hsegments := h.segments d (d.segments.modify d.position.segment fun seg =>
      { seg with items := seg.items ++ [item] })
    exact (hrecord _ d.position.segment item.text).trans hsegments
  unfold Draft.addText
  split
  · exact happend d
  · refine h.withNextName (fun d name => ?_) d
    exact (happend _).trans ((h.warn _ _).trans (h.segments d _))

/-- **A line leaves alone** what it does not touch, but for the line number, which goes up with every
line before anything else is done. -/
theorem readLine (h : Untouched part)
    (hrecord : ∀ d segment text,
      part { d with tokens := d.tokens.extract delimiters segment text } = part d)
    (d : Draft) (s : String) : part (d.readLine delimiters s).1 = part (d.atLine s) := by
  -- each kind of line, with the lemma on what it does
  cases hs : Line.ofString s with
  | header =>
    rw [readLine_header hs]
    exact (h.addHeader _ s).trans (h.closeSegment (d.atLine s))
  | comment => rw [readLine_pass (.inl hs)]
  | text item =>
    rw [readLine_text hs]
    exact h.addText hrecord (d.atLine s) item
  | short => rw [readLine_pass (.inr hs)]
  | faulty fault =>
    rw [readLine_of_faulty d hs]
    exact h.log (d.atLine s) _

/-! ## 4. Whole texts -/

/-- What does not depend on the position either is left alone by any number of lines. -/
theorem readLines (h : Untouched part)
    (hrecord : ∀ d segment text,
      part { d with tokens := d.tokens.extract delimiters segment text } = part d)
    (hposition : ∀ d position, part { d with position } = part d) (d : Draft)
    (lines : List String) : part (d.readLines delimiters lines).1 = part d := by
  induction lines generalizing d with
  | nil => rfl
  | cons s lines ih =>
    have hline : part (d.readLine delimiters s).1 = part d :=
      calc part (d.readLine delimiters s).1
          = part (d.atLine s) := h.readLine hrecord d s
        _ = part { d with position := { d.position with line := d.position.line + 1 } } := h.log _ _
        _ = part d := hposition d _
    rw [Draft.readLines]
    generalize d.readLine delimiters s = result at hline ⊢
    -- what is stopped leaves what the line left
    rcases result with ⟨d', _ | stop⟩
    · exact (ih d').trans hline
    · exact hline

/-- **Reading leaves alone** what it does not touch, whether it ends or is stopped. -/
theorem read (h : Untouched part)
    (hrecord : ∀ d segment text,
      part { d with tokens := d.tokens.extract delimiters segment text } = part d)
    (hposition : ∀ d position, part { d with position } = part d) (d : Draft)
    (lines : List String) : part (d.read delimiters lines).1 = part d := by
  have hstart : part { d with position := {}, segments := [] } = part d :=
    (h.segments { d with position := {} } []).trans (hposition d {})
  have hlines := h.readLines hrecord hposition { d with position := {}, segments := [] } lines
  rw [Draft.read]
  generalize Draft.readLines _ delimiters lines = result at hlines ⊢
  rcases result with ⟨d', _ | stop⟩
  · exact (h.log d'.closeSegment _).trans ((h.closeSegment d').trans (hlines.trans hstart))
  · exact hlines.trans hstart

end Untouched

end Draft

end Stencil
