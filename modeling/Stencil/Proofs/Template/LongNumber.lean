/-
# Where reading breaks off

Faulty lines and names that have run out end the reading of a template with a fault, which is an
answer.  Only one thing breaks it off without one: an option that must be a number and has too many
digits for one.  It breaks off at the first header of that kind, and nothing before that header and
nothing after it makes a difference (`readLines_overflow_iff`).

The other places where reading could break off are its look-ups in the table of segments.  None of
them fails: text always finds the segment that is open (`readLines_lookup`).

* `read_overflow_iff`: what breaks off the reading of a whole template.
-/
import Stencil.Proofs.Template.Stops

namespace Stencil

namespace Draft

/-! ## 1. One line -/

/-- The line is a header that gets its name and has a number that is too long. -/
def LongHeader (d : Draft) (s : String) : Prop :=
  Line.ofString s = .header ∧
    (∃ named, ((Header.ofString s).settle d.namer d.closeSegment.segments.keys).1 = .ok named) ∧
    Header.HasLongNumber (Header.ofString s).options

/-- Options are read once there is a name, and only a number among them breaks off the reading. -/
theorem readHeader_overflow_iff {d : Draft} {taken : List String} {s : String} :
    (∃ o, (d.readHeader taken s).2 = .error (.overflow o)) ↔
      (∃ named, ((Header.ofString s).settle d.namer taken).1 = .ok named) ∧
        Header.HasLongNumber (Header.ofString s).options := by
  unfold readHeader
  rcases hs : (Header.ofString s).settle d.namer taken with ⟨limit | ⟨name, ms⟩, namer⟩
  · simp [hs]
  · have hopt : (∃ o, (Header.readOptions name (Header.ofString s).options).2 = .error o) ↔
        Header.HasLongNumber (Header.ofString s).options := Header.readOptions_error_iff
    rw [← hopt]
    cases ho : (Header.readOptions name (Header.ofString s).options).2 with
    | error o => simp [hs, ho]
    | ok c => simp [hs, ho]

/-- Adding a segment does not break off. -/
theorem addHeader_overflow_iff {d : Draft} {s : String} :
    (∃ o, (d.addHeader s).2 = some (.overflow o)) ↔
      ∃ o, (d.readHeader d.segments.keys s).2 = .error (.overflow o) := by
  unfold addHeader
  rcases d.readHeader d.segments.keys s with ⟨d', (limit | o) | ⟨name, c⟩⟩
  · simp [exhausted]
  · simp
  · simp [addNamed_stop_iff]

/-- The lines that break off the reading. -/
theorem readLine_overflow_iff {d : Draft} {delimiters : Delimiters} {s : String} :
    (∃ o, (d.readLine delimiters s).2 = some (.overflow o)) ↔ d.LongHeader s := by
  unfold LongHeader
  cases hs : Line.ofString s with
  | header =>
    have hnamer : (d.atLine s).closeSegment.namer = d.namer := closeSegment_namer _
    -- the line number makes no difference to what is closed, nor to the names that are taken
    have hseg : (d.atLine s).closeSegment.segments = d.closeSegment.segments :=
      closeSegment_congr rfl rfl
    rw [readLine_header hs, addHeader_overflow_iff, readHeader_overflow_iff, hnamer, hseg]
    simp
  | comment => simp [readLine_pass (.inl hs)]
  | short => simp [readLine_pass (.inr hs)]
  | text item =>
    rw [readLine_text hs]
    simp [addText_stop_iff]
  | faulty fault => simp [readLine_faulty hs]

/-! ## 2. Whole texts -/

/-- Reading comes to a header with a number that is too long, past lines that are read. -/
def MeetsLongNumber (d : Draft) (delimiters : Delimiters) (lines : List String) : Prop :=
  ∃ before s after d₁, lines = before ++ s :: after ∧
    d.readLines delimiters before = (d₁, none) ∧ d₁.LongHeader s

/-- **Reading breaks off exactly at a number that is too long.** -/
theorem readLines_overflow_iff {d : Draft} {delimiters : Delimiters} {lines : List String} :
    (∃ d' o, d.readLines delimiters lines = (d', some (.overflow o))) ↔
      d.MeetsLongNumber delimiters lines := by
  constructor
  · rintro ⟨d', o, h⟩
    obtain ⟨before, s, after, d₁, hl, hread, hstop⟩ := readLines_stop_iff.mp h
    exact ⟨before, s, after, d₁, hl, hread, readLine_overflow_iff.mp ⟨o, congrArg Prod.snd hstop⟩⟩
  · rintro ⟨before, s, after, d₁, hl, hread, hlong⟩
    obtain ⟨o, ho⟩ := readLine_overflow_iff.mpr hlong
    exact ⟨_, o, readLines_stop_iff.mpr ⟨before, s, after, d₁, hl, hread, Prod.ext rfl ho⟩⟩

/-- What breaks off the reading of a whole template. -/
theorem read_overflow_iff {d : Draft} {delimiters : Delimiters} {lines : List String} :
    (∃ o, (d.read delimiters lines).2 = some (.overflow o)) ↔
      ({ d with position := {}, segments := [] } : Draft).MeetsLongNumber delimiters lines := by
  rw [← readLines_overflow_iff]
  constructor
  · rintro ⟨o, h⟩
    exact ⟨_, o, read_stop_iff.mp (Prod.ext rfl h)⟩
  · rintro ⟨d', o, h⟩
    exact ⟨o, congrArg Prod.snd (read_stop_iff.mpr h)⟩

/-- Text always finds the segment that is open: after lines that are read, the name of the position
is that of a segment. -/
theorem readLines_lookup {d d' : Draft} {r : Reading} {delimiters : Delimiters}
    {lines : List String} (hd : d.Shows r) (h : d.readLines delimiters lines = (d', none))
    (hs : d'.position.hasSegment = true) : d'.position.segment ∈ d'.segments.keys := by
  obtain ⟨r', hd', -⟩ := readLines_run hd h
  exact hd'.segment_mem hs

end Draft

end Stencil
