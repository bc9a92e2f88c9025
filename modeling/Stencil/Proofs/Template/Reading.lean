/-
# What reading does to the segments

A draft holds its segments in one table and knows the open one by the position alone.  Here the two
are taken apart: a `Reading` is the segments that are closed, and the open one with its name.  A
draft shows a reading (`Draft.Shows`) when its table and its position are those of the reading.

Every line that does not stop the reading makes one of four steps (`Reading.Step`), and a text that
is read to its end makes a run of them.  What holds of a template that was read is proved on runs;
no proof after this file takes `Draft.readLine` apart to see what becomes of the segments.

* `readLine_step`: a line that is read makes a step;
* `readLines_stop_iff`: where reading stops;
* `read_run`: a template that is read is what a run from nothing leaves.
-/
import Stencil.Proofs.Header
import Stencil.Proofs.Table
import Stencil.Template.Draft

namespace Stencil

/-! ## 1. Closed segments and the open one -/

/-- How far a template has been read. -/
structure Reading where
  closed : Template := []
  current : Option (String × Segment) := none

namespace Reading

/-- The segments so far, the open one last. -/
def segments (r : Reading) : Template := r.closed ++ r.current.toList

/-- The name of the open segment; there is none before the first. -/
def name (r : Reading) : String := (r.current.map (·.1)).getD ""

/-- The segments once the open one is closed; without text lines it is dropped. -/
def settled (r : Reading) : Template :=
  match r.current with
  | none => r.closed
  | some (name, s) => if s.items = [] then r.closed else r.closed ++ [(name, s)]

theorem settled_of_nil {closed : Template} {name : String} {s : Segment} (h : s.items = []) :
    (Reading.mk closed (some (name, s))).settled = closed := if_pos h

theorem settled_of_ne_nil {closed : Template} {name : String} {s : Segment} (h : s.items ≠ []) :
    (Reading.mk closed (some (name, s))).settled = closed ++ [(name, s)] := if_neg h

/-- Closing drops the open segment or keeps it. -/
theorem settled_eq (r : Reading) : r.settled = r.closed ∨ r.settled = r.segments := by
  rcases r with ⟨closed, _ | ⟨name, s⟩⟩
  · exact .inl rfl
  · by_cases h : s.items = []
    · exact .inl (settled_of_nil h)
    · exact .inr (settled_of_ne_nil h)

theorem settled_nodup {r : Reading} (h : r.segments.keys.Nodup) : r.settled.keys.Nodup := by
  rcases r.settled_eq with e | e
  · rw [segments, Table.keys_append] at h
    exact e ▸ (List.nodup_append.mp h).1
  · exact e ▸ h

/-- What a line that does not stop the reading does, where default names begin with `stem`.  A
header closes the open segment before it opens its own. -/
inductive Step (stem : String) : String → Reading → Reading → Prop
  | pass {s : String} {r : Reading} :
      Line.ofString s = .comment ∨ Line.ofString s = .short → Step stem s r r
  | join {s : String} {item : TextItem} {closed : Template} {name : String} {seg : Segment} :
      Line.ofString s = .text item →
      Step stem s ⟨closed, some (name, seg)⟩
        ⟨closed, some (name, { seg with items := seg.items ++ [item] })⟩
  | first {s : String} {item : TextItem} {closed : Template} {name : String} :
      Line.ofString s = .text item → IsDefaultName stem name → name ∉ closed.keys →
      Step stem s ⟨closed, none⟩ ⟨closed, some (name, { items := [item] })⟩
  | header {s : String} {r : Reading} {given name : String} {c : Control} :
      Line.ofString s = .header → isName name = true ∨ IsDefaultName stem name →
      name ∉ r.settled.keys →
      (Header.readOptions given (Header.ofString s).options).2 = .ok c →
      Step stem s r
        ⟨r.settled, some (name, { control := (Draft.checkPad r.settled name c).1 })⟩

/-- The steps of several lines. -/
inductive Run (stem : String) : List String → Reading → Reading → Prop
  | nil {r : Reading} : Run stem [] r r
  | cons {s : String} {lines : List String} {r₁ r₂ r₃ : Reading} :
      Step stem s r₁ r₂ → Run stem lines r₂ r₃ → Run stem (s :: lines) r₁ r₃

theorem Run.of_cons {stem s : String} {lines : List String} {r₁ r₃ : Reading}
    (h : Run stem (s :: lines) r₁ r₃) : ∃ r₂, Step stem s r₁ r₂ ∧ Run stem lines r₂ r₃ := by
  cases h with
  | cons hs h => exact ⟨_, hs, h⟩

/-- A run over two texts comes past a reading between them. -/
theorem Run.split {stem : String} {xs ys : List String} {r₁ r₃ : Reading}
    (h : Run stem (xs ++ ys) r₁ r₃) : ∃ r₂, Run stem xs r₁ r₂ ∧ Run stem ys r₂ r₃ := by
  induction xs generalizing r₁ with
  | nil => exact ⟨r₁, .nil, h⟩
  | cons s xs ih =>
    obtain ⟨r, hs, h⟩ := Run.of_cons h
    obtain ⟨r₂, h₁, h₂⟩ := ih h
    exact ⟨r₂, .cons hs h₁, h₂⟩

end Reading

/-! ## 2. Drafts that show a reading -/

/-- The table and the position of a draft are those of a reading. -/
structure Draft.Shows (d : Draft) (r : Reading) : Prop where
  segments : d.segments = r.segments
  position : d.position.segment = r.name
  named : ∀ p ∈ r.current, p.1 ≠ ""
  nodup : r.segments.keys.Nodup

namespace Draft

@[simp] theorem warn_segments (d : Draft) (ms : List Message) :
    (d.warn ms).segments = d.segments := rfl

@[simp] theorem warn_position (d : Draft) (ms : List Message) :
    (d.warn ms).position = d.position := rfl

@[simp] theorem moveTo_segments (d : Draft) (name : String) :
    (d.moveTo name).segments = d.segments := rfl

@[simp] theorem moveTo_segment (d : Draft) (name : String) :
    (d.moveTo name).position.segment = name := rfl

/-- A segment that is opened under a new name stands last. -/
theorem openSegment_segments {d : Draft} {name : String} (c : Control)
    (h : name ∉ d.segments.keys) :
    (d.openSegment name c).segments
      = d.segments ++ [(name, { control := (checkPad d.segments name c).1 })] :=
  Table.put_of_not_mem _ h

namespace Shows

variable {d : Draft} {r : Reading}

theorem hasSegment_iff (h : d.Shows r) : d.position.hasSegment = true ↔ r.current.isSome = true := by
  rw [Position.hasSegment, h.position, Reading.name]
  cases hc : r.current with
  | none => simp
  | some p => simpa using h.named p hc

/-- The name of the open segment is no other segment's. -/
theorem name_not_mem {closed : Template} {p : String × Segment}
    (h : d.Shows ⟨closed, some p⟩) : p.1 ∉ closed.keys :=
  (Table.nodup_keys_snoc_iff.mp h.nodup).2

theorem closed_nodup {closed : Template} {p : String × Segment}
    (h : d.Shows ⟨closed, some p⟩) : closed.keys.Nodup :=
  (Table.nodup_keys_snoc_iff.mp h.nodup).1

/-- The open segment of the position is in the table, so that text always has a place. -/
theorem segment_mem (h : d.Shows r) (hs : d.position.hasSegment = true) :
    d.position.segment ∈ d.segments.keys := by
  obtain ⟨p, hp⟩ := Option.isSome_iff_exists.mp (h.hasSegment_iff.mp hs)
  rw [h.segments, h.position]
  simp [Reading.segments, Reading.name, hp]

end Shows

/-- Closing the open segment of a draft is settling its reading. -/
theorem closeSegment_segments {d : Draft} {r : Reading} (h : d.Shows r) :
    d.closeSegment.segments = r.settled := by
  rcases r with ⟨closed, _ | ⟨name, s⟩⟩
  · have hs : d.position.hasSegment = false := by
      simpa using (not_congr h.hasSegment_iff).mpr (by simp)
    simp [closeSegment, hs, h.segments, Reading.segments, Reading.settled]
  · have hs : d.position.hasSegment = true := h.hasSegment_iff.mpr rfl
    have hpos : d.position.segment = name := h.position
    have hseg : d.segments = closed ++ [(name, s)] := h.segments
    have hfree : name ∉ closed.keys := h.name_not_mem
    -- without text the segment is dropped, and with text it is kept
    by_cases hi : s.items = []
    · rw [Reading.settled_of_nil hi]
      simp [closeSegment, hs, hpos, hseg, Table.get?_last s hfree, hi, Table.erase_last s hfree]
    · rw [Reading.settled_of_ne_nil hi]
      simp [closeSegment, hs, hpos, hseg, Table.get?_last s hfree, hi]

theorem closeSegment_namer (d : Draft) : d.closeSegment.namer = d.namer := by
  simp only [closeSegment]
  split <;> rfl

/-! ## 3. A line that is read makes a step -/

/-- What is made of a header line that is read: a name, a control, and what there is to say about
both. -/
theorem readHeader_eq_ok {d d' : Draft} {taken : List String} {line name : String} {c : Control}
    (h : d.readHeader taken line = (d', .ok (name, c))) :
    ∃ ms namer said, (Header.ofString line).settle d.namer taken = (.ok (name, ms), namer) ∧
      Header.readOptions name (Header.ofString line).options = (said, .ok c) ∧
      d' = (({ d with namer }.moveTo name).warn ms).warn said := by
  unfold readHeader at h
  rcases hsettle : (Header.ofString line).settle d.namer taken with ⟨limit | ⟨named, ms⟩, namer⟩
  · simp [hsettle] at h
  · rcases hread : Header.readOptions named (Header.ofString line).options with ⟨said, overflow | c'⟩
    · simp [hsettle, hread] at h
    · simp only [hsettle, hread, Prod.mk.injEq, Except.ok.injEq] at h
      obtain ⟨rfl, rfl, rfl⟩ := h
      exact ⟨ms, namer, said, rfl, hread, rfl⟩

/-- The name and the control of a header line that is read. -/
theorem readHeader_ok {d d' : Draft} {taken : List String} {line name : String} {c : Control}
    (h : d.readHeader taken line = (d', .ok (name, c))) :
    d'.segments = d.segments ∧ d'.position.segment = name ∧ d'.namer.stem = d.namer.stem ∧
      (isName name = true ∨ IsDefaultName d.namer.stem name) ∧
      (Header.readOptions name (Header.ofString line).options).2 = .ok c := by
  obtain ⟨ms, namer, said, hsettle, hoptions, rfl⟩ := readHeader_eq_ok h
  obtain ⟨hname, hstem⟩ := Header.settle_name hsettle
  exact ⟨rfl, rfl, hstem, hname, congrArg Prod.snd hoptions⟩

/-- The next default name is a free one. -/
theorem withNextName_none {d d' : Draft} {go : Draft → String → Draft × Option Stop}
    (h : d.withNextName go = (d', none)) :
    ∃ name namer, name ∉ d.segments.keys ∧ IsDefaultName d.namer.stem name ∧
      namer.stem = d.namer.stem ∧ go ({ d with namer }.moveTo name) name = (d', none) := by
  unfold withNextName at h
  have hstem := Namer.stem_next d.namer d.segments.keys
  rcases hn : d.namer.next d.segments.keys with ⟨limit | name, namer⟩
  · simp [hn, exhausted] at h
  · rw [hn] at h hstem
    exact ⟨name, namer, Namer.next_taken hn, Namer.next_isDefault hn, hstem, h⟩

/-- A segment that is added stands last, under its name or under a default one. -/
theorem addNamed_none {d d' : Draft} {given : String} {c : Control}
    (h : d.addNamed given c = (d', none)) (hd : d.position.segment = given) :
    ∃ name, name ∉ d.segments.keys ∧ (name = given ∨ IsDefaultName d.namer.stem name) ∧
      d'.position.segment = name ∧ d'.namer.stem = d.namer.stem ∧
      d'.segments = d.segments ++ [(name, { control := (checkPad d.segments name c).1 })] := by
  unfold addNamed at h
  split at h
  · obtain ⟨name, namer, hfree, hdef, hstem, hgo⟩ := withNextName_none h
    obtain rfl := (Prod.mk.inj hgo).1
    exact ⟨name, hfree, .inr hdef, rfl, hstem, openSegment_segments c hfree⟩
  · rename_i hfree
    obtain rfl := (Prod.mk.inj h).1
    exact ⟨given, hfree, .inl rfl, hd, rfl, openSegment_segments c hfree⟩

/-- Text is appended to the last segment, which is the open one. -/
theorem append_segments {d : Draft} {closed : Template} {name : String} {seg : Segment}
    (h : d.Shows ⟨closed, some (name, seg)⟩) (delimiters : Delimiters) (item : TextItem) :
    (d.append delimiters item).segments
      = closed ++ [(name, { seg with items := seg.items ++ [item] })] := by
  have hpos : d.position.segment = name := h.position
  have hseg : d.segments = closed ++ [(name, seg)] := h.segments
  simp only [append, hpos, hseg]
  exact Template.modify_last seg _ h.name_not_mem

/-- A reading whose open segment has a new name, in a draft at that name. -/
theorem shows_of_last {d : Draft} {closed : Template} {name : String} {seg : Segment}
    (hseg : d.segments = closed ++ [(name, seg)]) (hpos : d.position.segment = name)
    (hne : name ≠ "") (hfree : name ∉ closed.keys) (hnd : closed.keys.Nodup) :
    d.Shows ⟨closed, some (name, seg)⟩ where
  segments := hseg
  position := hpos
  named := by
    intro p hp
    obtain rfl := Option.some.inj hp
    exact hne
  nodup := Table.nodup_keys_snoc_iff.mpr ⟨hnd, hfree⟩

theorem Shows.append {d : Draft} {closed : Template} {name : String} {seg : Segment}
    (h : d.Shows ⟨closed, some (name, seg)⟩) (delimiters : Delimiters) (item : TextItem) :
    (d.append delimiters item).Shows
      ⟨closed, some (name, { seg with items := seg.items ++ [item] })⟩ :=
  shows_of_last (append_segments h delimiters item) h.position (h.named _ rfl) h.name_not_mem
    h.closed_nodup

/-- The draft at its next line, with what there is to say about that line. -/
def atLine (d : Draft) (s : String) : Draft :=
  { d with position := { d.position with line := d.position.line + 1 } }.report
    ((Line.ofString s).notices s)

theorem Shows.atLine {d : Draft} {r : Reading} (h : d.Shows r) (s : String) :
    (d.atLine s).Shows r := ⟨h.segments, h.position, h.named, h.nodup⟩

theorem readLine_pass {s : String} (h : Line.ofString s = .comment ∨ Line.ofString s = .short)
    (d : Draft) (delimiters : Delimiters) : d.readLine delimiters s = (d.atLine s, none) := by
  rcases h with h | h <;> simp [readLine, Draft.atLine, h]

theorem readLine_text {s : String} {item : TextItem} (h : Line.ofString s = .text item) (d : Draft)
    (delimiters : Delimiters) : d.readLine delimiters s = (d.atLine s).addText delimiters item := by
  simp [readLine, Draft.atLine, h]

theorem readLine_header {s : String} (h : Line.ofString s = .header) (d : Draft)
    (delimiters : Delimiters) :
    d.readLine delimiters s = (d.atLine s).closeSegment.addHeader s := by
  simp [readLine, Draft.atLine, h]

theorem readLine_of_faulty (d : Draft) {s : String} {fault : LineFault}
    (h : Line.ofString s = .faulty fault) (delimiters : Delimiters) :
    d.readLine delimiters s =
      ((d.atLine s).report [.error .parsing (.loadingStopped (d.position.line + 1))],
        some (.fault .syntaxError)) := by
  simp only [readLine, atLine, h]
  rfl

theorem readLine_faulty {s : String} {fault : LineFault} (h : Line.ofString s = .faulty fault)
    (d : Draft) (delimiters : Delimiters) :
    (d.readLine delimiters s).2 = some (.fault .syntaxError) := by
  rw [readLine_of_faulty d h]

/-- A text line that is read joins the open segment, or is the first of a default one. -/
theorem addText_step {d d' : Draft} {r : Reading} {delimiters : Delimiters} {s : String}
    {item : TextItem} (hd : d.Shows r) (hs : Line.ofString s = .text item)
    (h : d.addText delimiters item = (d', none)) :
    d'.namer.stem = d.namer.stem ∧ ∃ r', d'.Shows r' ∧ Reading.Step d.namer.stem s r r' := by
  rcases r with ⟨closed, _ | ⟨name, seg⟩⟩
  · have hno : ¬ d.position.hasSegment = true := by simp [hd.hasSegment_iff]
    have hclosed : d.segments = closed := by simpa [Reading.segments] using hd.segments
    rw [addText, if_neg hno] at h
    obtain ⟨name, namer, hfree, hdef, hstem, hgo⟩ := withNextName_none h
    obtain rfl := (Prod.mk.inj hgo).1
    rw [hclosed] at hfree
    have hnd : closed.keys.Nodup := by simpa [Reading.segments] using hd.nodup
    refine ⟨hstem, ⟨closed, some (name, { items := [item] })⟩, ?_, .first hs hdef hfree⟩
    refine shows_of_last ?_ rfl hdef.ne_empty hfree hnd
    simp only [append, warn_segments, warn_position, moveTo_segments, moveTo_segment, hclosed]
    -- the segment is opened last, and the text joins it there
    rw [Table.put_of_not_mem _ hfree]
    exact Template.modify_last _ _ hfree
  -- a segment is open, and the text joins it
  · have hyes : d.position.hasSegment = true := hd.hasSegment_iff.mpr rfl
    rw [addText_of_hasSegment hyes] at h
    obtain rfl := (Prod.mk.inj h).1
    exact ⟨rfl, _, hd.append delimiters item, .join hs⟩

/-- A header line that is read opens a segment behind those that are closed. -/
theorem addHeader_step {d d' : Draft} {r : Reading} {s : String} (hd : d.Shows r)
    (hs : Line.ofString s = .header) (h : d.closeSegment.addHeader s = (d', none)) :
    d'.namer.stem = d.namer.stem ∧ ∃ r', d'.Shows r' ∧ Reading.Step d.namer.stem s r r' := by
  unfold addHeader at h
  split at h
  · rename_i d₁ given c hr
    obtain ⟨hseg, hpos, hstem, hname, hopt⟩ := readHeader_ok hr
    obtain ⟨name, hfree, hfrom, hpos', hstem', hseg'⟩ := addNamed_none h hpos
    rw [hseg, closeSegment_segments hd] at hfree hseg'
    rw [closeSegment_namer] at hstem hname
    rw [hstem] at hstem' hfrom
    -- the name of the header, or a default one because that is taken
    have hname' : isName name = true ∨ IsDefaultName d.namer.stem name := by
      rcases hfrom with rfl | hdef
      · exact hname
      · exact .inr hdef
    have hne : name ≠ "" := hname'.elim ne_empty_of_isName IsDefaultName.ne_empty
    exact ⟨hstem', _, shows_of_last hseg' hpos' hne hfree (Reading.settled_nodup hd.nodup),
      .header hs hname' hfree hopt⟩
  · exact absurd (congrArg Prod.snd h) (by simp [exhausted])
  · exact absurd (congrArg Prod.snd h) (by simp)

/-- **A line that does not stop the reading makes a step.** -/
theorem readLine_step {d d' : Draft} {r : Reading} {delimiters : Delimiters} {s : String}
    (hd : d.Shows r) (h : d.readLine delimiters s = (d', none)) :
    d'.namer.stem = d.namer.stem ∧ ∃ r', d'.Shows r' ∧ Reading.Step d.namer.stem s r r' := by
  cases hs : Line.ofString s with
  | header =>
    rw [readLine_header hs] at h
    exact addHeader_step (d := d.atLine s) (hd.atLine s) hs h
  | comment =>
    rw [readLine_pass (.inl hs)] at h
    obtain rfl := (Prod.mk.inj h).1
    exact ⟨rfl, r, hd.atLine s, .pass (.inl hs)⟩
  | text item =>
    rw [readLine_text hs] at h
    exact addText_step (d := d.atLine s) (hd.atLine s) hs h
  | short =>
    rw [readLine_pass (.inr hs)] at h
    obtain rfl := (Prod.mk.inj h).1
    exact ⟨rfl, r, hd.atLine s, .pass (.inr hs)⟩
  -- a line without a place stops the reading, so that this is not such a line
  | faulty fault =>
    have hstop := readLine_faulty hs d delimiters
    rw [h] at hstop
    exact absurd hstop (by simp)

/-! ## 4. Whole texts -/

/-- Lines that are read to their end are read one by one. -/
theorem readLines_cons {d d' : Draft} {delimiters : Delimiters} {s : String} {lines : List String}
    (h : d.readLines delimiters (s :: lines) = (d', none)) :
    ∃ d₁, d.readLine delimiters s = (d₁, none) ∧ d₁.readLines delimiters lines = (d', none) := by
  rw [readLines] at h
  split at h
  · rename_i d₁ hs
    exact ⟨d₁, hs, h⟩
  · exact absurd (congrArg Prod.snd h) (by simp)

/-- Reading two texts to their end comes past a draft between them. -/
theorem readLines_split {d d' : Draft} {delimiters : Delimiters} {xs ys : List String}
    (h : d.readLines delimiters (xs ++ ys) = (d', none)) :
    ∃ d₁, d.readLines delimiters xs = (d₁, none) ∧ d₁.readLines delimiters ys = (d', none) := by
  induction xs generalizing d with
  | nil => exact ⟨d, rfl, h⟩
  | cons s xs ih =>
    obtain ⟨d₂, hs, hrest⟩ := readLines_cons h
    obtain ⟨d₁, hxs, hys⟩ := ih hrest
    exact ⟨d₁, by rw [readLines, hs]; exact hxs, hys⟩

/-- **Reading stops where a line stops it**, past lines that are read. -/
theorem readLines_stop_iff {d d' : Draft} {delimiters : Delimiters} {lines : List String}
    {stop : Stop} :
    d.readLines delimiters lines = (d', some stop) ↔
      ∃ before s after d₁, lines = before ++ s :: after ∧
        d.readLines delimiters before = (d₁, none) ∧
        d₁.readLine delimiters s = (d', some stop) := by
  -- for every draft, since each line leaves another one to read on with
  induction lines generalizing d with
  | nil => simp [readLines]
  | cons s lines ih =>
    constructor
    · intro h
      rw [readLines] at h
      -- the first line stops the reading, or one of the others does
      rcases hs : d.readLine delimiters s with ⟨d₁, _ | stop₁⟩
      · rw [hs] at h
        obtain ⟨before, t, after, d₂, rfl, hread, hstop⟩ := ih.mp h
        exact ⟨s :: before, t, after, d₂, rfl, by rw [readLines, hs]; exact hread, hstop⟩
      · rw [hs] at h
        exact ⟨[], s, lines, d, rfl, rfl, hs.trans h⟩
    · rintro ⟨_ | ⟨t, before⟩, u, after, d₁, hl, hread, hstop⟩
      · obtain ⟨rfl, rfl⟩ := List.cons.inj hl
        obtain rfl := (Prod.mk.inj hread).1
        rw [readLines, hstop]
      · obtain ⟨rfl, rfl⟩ := List.cons.inj hl
        obtain ⟨d₂, hs, hrest⟩ := readLines_cons hread
        rw [readLines, hs]
        exact ih.mpr ⟨before, u, after, d₁, rfl, hrest, hstop⟩

/-- A template is not read to its end where its lines are not. -/
theorem read_stop_iff {d d' : Draft} {delimiters : Delimiters} {lines : List String} {stop : Stop} :
    d.read delimiters lines = (d', some stop) ↔
      { d with position := {}, segments := [] }.readLines delimiters lines = (d', some stop) := by
  rw [read]
  split
  · rename_i hl
    simp [hl]
  · rfl

/-- Lines that are read to their end make a run. -/
theorem readLines_run {d d' : Draft} {r : Reading} {delimiters : Delimiters} {lines : List String}
    (hd : d.Shows r) (h : d.readLines delimiters lines = (d', none)) :
    ∃ r', d'.Shows r' ∧ Reading.Run d.namer.stem lines r r' := by
  induction lines generalizing d r with
  | nil =>
    obtain rfl := (Prod.mk.inj h).1
    exact ⟨r, hd, .nil⟩
  | cons s lines ih =>
    obtain ⟨d₁, hs, hl⟩ := readLines_cons h
    obtain ⟨hstem, r₁, hd₁, hstep⟩ := readLine_step hd hs
    obtain ⟨r', hd', hrun⟩ := ih hd₁ hl
    -- the stem is the same all along, so that the steps fit together
    exact ⟨r', hd', .cons hstep (hstem ▸ hrun)⟩

/-- A draft before its first line shows the empty reading. -/
theorem shows_start (d : Draft) : ({ d with position := {}, segments := [] } : Draft).Shows {} :=
  ⟨rfl, rfl, by simp, by simp [Reading.segments]⟩

/-- **A template that is read is what a run from nothing leaves, once its last segment is closed.** -/
theorem read_run {d d' : Draft} {delimiters : Delimiters} {lines : List String}
    (h : d.read delimiters lines = (d', none)) :
    ∃ r, Reading.Run d.namer.stem lines {} r ∧ r.segments.keys.Nodup ∧ d'.segments = r.settled := by
  unfold read at h
  split at h
  · rename_i d₁ hl
    -- the run begins with nothing, whatever the draft held before
    obtain ⟨r, hd₁, hrun⟩ := readLines_run (shows_start d) hl
    obtain rfl := (Prod.mk.inj h).1
    exact ⟨r, hrun, hd₁.nodup, closeSegment_segments hd₁⟩
  · rename_i hstop
    exact absurd h (hstop d')

end Draft

end Stencil
