/-
# Two tables in step

A loading keeps the text lines and the options of its segments in two tables, and each of its
operations has to change both of them alike.  Here it is proved that they do: from tables with the same
keys in the same order, each of them once (`Loading.InStep`), every line leaves such tables, and so
does a whole template, also one at which the loading stops.

As long as the tables are in step they say the same as one table of segments.  A loading is then the
reading of a draft with its records taken apart (`Draft.tables`): the two commute line by line, and what
loading a template returns is what reading it leaves (`load_eq_read`).  Every other proof about templates is
about drafts.

* `InStep.readLine`, `InStep.readLines`: no line brings the tables out of step;
* `tables_readLine`, `tables_read`: a loading follows the draft;
* `load_eq_read`: loading is reading;
* `Loading.current_of_readLines`: text is only appended where there is a segment.
-/
import Stencil.Proofs.Template.Reading
import Stencil.Template.Loading

namespace Stencil

namespace Loading

/-! ## 1. Tables in step -/

/-- The two tables have the same keys, in the same order and each of them once. -/
structure InStep (l : Loading) : Prop where
  keys : l.texts.keys = l.controls.keys
  nodup : l.controls.keys.Nodup

namespace InStep

variable {l : Loading}

/-- Tables that are empty are in step. -/
theorem start (l : Loading) :
    ({ l with position := {}, texts := [], controls := [] } : Loading).InStep :=
  ⟨rfl, List.nodup_nil⟩

/-- What is stored under one key in both tables leaves them in step. -/
theorem put (h : l.InStep) (name : String) (c : Control) (items : List TextItem) :
    ({ l with controls := l.controls.put name c, texts := l.texts.put name items } : Loading).InStep :=
  ⟨Table.keys_put_congr h.keys name items c, Table.nodup_keys_put name c h.nodup⟩

/-- A segment that is dropped goes from both tables. -/
theorem closeSegment (h : l.InStep) : l.closeSegment.InStep := by
  unfold Loading.closeSegment
  dsimp only
  split
  · exact ⟨Table.keys_erase_congr h.keys _, Table.nodup_keys_erase h.nodup _⟩
  · exact h

/-- A segment that is opened comes into both tables. -/
theorem openSegment (h : l.InStep) (name : String) (c : Control) : (l.openSegment name c).InStep := by
  have hput := h.put name (checkPad l.controls name c).1 []
  exact ⟨hput.keys, hput.nodup⟩

/-- A name that is handed out changes no table; what goes on with it keeps them in step. -/
theorem withNextName (h : l.InStep) {go : Loading → String → Loading × Option Stop}
    (hgo : ∀ l' name, l'.InStep → (go l' name).1.InStep) : (l.withNextName go).1.InStep := by
  unfold Loading.withNextName
  rcases l.namer.next l.controls.keys with ⟨limit | name, namer⟩
  · exact ⟨h.keys, h.nodup⟩
  · exact hgo _ name ⟨h.keys, h.nodup⟩

theorem addNamed (h : l.InStep) (name : String) (c : Control) : (l.addNamed name c).1.InStep := by
  unfold Loading.addNamed
  split
  · exact h.withNextName fun l' default h' =>
      openSegment (l := l'.warn _) ⟨h'.keys, h'.nodup⟩ default c
  · exact h.openSegment name c

theorem addHeader (h : l.InStep) (line : String) : (l.addHeader line).1.InStep := by
  -- reading the header leaves the tables as they are
  have hread : (l.readHeader line).1.InStep := ⟨h.keys, h.nodup⟩
  unfold Loading.addHeader
  split
  · rename_i l' name c hl
    rw [hl] at hread
    exact hread.addNamed name c
  · rename_i l' limit hl
    rw [hl] at hread
    exact ⟨hread.keys, hread.nodup⟩
  · rename_i l' overflow hl
    rw [hl] at hread
    exact hread

/-- Text is appended under a key that is there, so that no key is added for it. -/
theorem append (h : l.InStep) (delimiters : Delimiters) (item : TextItem) :
    (l.append delimiters item).InStep :=
  ⟨(Table.keys_adjust l.texts l.position.segment _).trans h.keys, h.nodup⟩

/-- Text joins its segment, or opens one in both tables and joins that. -/
theorem addText (h : l.InStep) (delimiters : Delimiters) (item : TextItem) :
    (l.addText delimiters item).1.InStep := by
  unfold Loading.addText
  split
  · exact h.append delimiters item
  · refine h.withNextName fun l' name h' => append ?_ delimiters item
    have hput := h'.put name {} []
    exact ⟨hput.keys, hput.nodup⟩

/-- **No line brings the tables out of step**, whether it is read or stops the loading. -/
theorem readLine (h : l.InStep) (delimiters : Delimiters) (s : String) :
    (l.readLine delimiters s).1.InStep := by
  unfold Loading.readLine
  -- line by kind; a line without a place changes no table
  cases Line.ofString s with
  | header =>
    refine addHeader (closeSegment ?_) s
    exact ⟨h.keys, h.nodup⟩
  | text item =>
    refine addText ?_ delimiters item
    exact ⟨h.keys, h.nodup⟩
  | comment => exact ⟨h.keys, h.nodup⟩
  | short => exact ⟨h.keys, h.nodup⟩
  | faulty fault => exact ⟨h.keys, h.nodup⟩

/-- Neither does any number of lines. -/
theorem readLines (h : l.InStep) (delimiters : Delimiters) (lines : List String) :
    (l.readLines delimiters lines).1.InStep := by
  induction lines generalizing l with
  | nil => exact h
  | cons s lines ih =>
    have hline := h.readLine delimiters s
    rw [Loading.readLines]
    rcases hs : l.readLine delimiters s with ⟨l', _ | stop⟩
    · rw [hs] at hline
      exact ih hline
    · rw [hs] at hline
      exact hline

end InStep

/-- **A template leaves tables in step**, from whatever tables there were before. -/
theorem inStep_read (l : Loading) (delimiters : Delimiters) (lines : List String) :
    (l.read delimiters lines).1.InStep := by
  have hlines := (InStep.start l).readLines delimiters lines
  unfold read
  split
  · rename_i l' hl
    rw [hl] at hlines
    have hclosed := hlines.closeSegment
    exact ⟨hclosed.keys, hclosed.nodup⟩
  -- a loading that is stopped leaves the tables of the lines before
  · exact hlines

end Loading

namespace Draft

/-! ## 2. One table taken apart -/

/-- The tables of a draft are in step if its names are distinct. -/
theorem inStep_tables_iff {d : Draft} : d.tables.InStep ↔ d.segments.keys.Nodup := by
  constructor
  · intro h
    have hnd := h.nodup
    rwa [tables, Table.keys_mapValues] at hnd
  · intro hnd
    refine ⟨?_, ?_⟩ <;> simp only [tables, Table.keys_mapValues]
    exact hnd

/-- A table with distinct names is put together again as it was. -/
theorem template_tables {d : Draft} (hnd : d.segments.keys.Nodup) :
    d.tables.template = d.segments := by
  simp only [Loading.template, tables, Table.mapValues, List.map_map]
  -- the options of a segment get the text lines that stand under its name, which are its own
  refine (List.map_congr_left fun p hp => ?_).trans (List.map_id d.segments)
  have hget := Table.get?_mapValues d.segments Segment.items p.1
  rw [Table.get?_eq_some_of_mem hnd hp, Table.mapValues] at hget
  simp [hget]

/-- So is the draft. -/
theorem draft_tables {d : Draft} (hnd : d.segments.keys.Nodup) : d.tables.draft = d := by
  have htemplate := template_tables hnd
  rw [Loading.draft, htemplate]
  rfl

/-! ## 3. A loading follows the draft -/

/-- The check of a pad looks at nothing but options. -/
theorem checkPad_mapValues (t : Template) (name : String) (c : Control) :
    Loading.checkPad (t.mapValues Segment.control) name c = checkPad t name c := by
  unfold Loading.checkPad checkPad
  dsimp only
  rw [Table.get?_mapValues]
  cases t.get? c.padSegment <;> rfl

/-- A segment is dropped from the tables when it is dropped from the draft. -/
theorem tables_closeSegment (d : Draft) : d.tables.closeSegment = d.closeSegment.tables := by
  -- whether a segment has text can be seen in the table of text lines
  have hbare : ((d.segments.mapValues Segment.items).get? d.position.segment).all List.isEmpty
      = (d.segments.get? d.position.segment).all fun s => s.items.isEmpty := by
    rw [Table.get?_mapValues]
    cases d.segments.get? d.position.segment <;> rfl
  simp only [Loading.closeSegment, closeSegment, tables_position, tables_texts, tables_controls, hbare]
  split
  · simp only [Table.erase_mapValues]
    rfl
  · rfl

/-- Storing a segment is storing its text lines and its options. -/
theorem tables_put (d : Draft) (name : String) (seg : Segment) :
    ({ d.tables with
        controls := d.tables.controls.put name seg.control
        texts := d.tables.texts.put name seg.items } : Loading)
      = ({ d with segments := d.segments.put name seg } : Draft).tables := by
  simp only [tables_controls, tables_texts, Table.put_mapValues]
  rfl

/-- A segment is opened in the tables as in the draft. -/
theorem tables_openSegment (d : Draft) (name : String) (c : Control) :
    d.tables.openSegment name c = (d.openSegment name c).tables := by
  simp only [Loading.openSegment, openSegment, tables_controls, checkPad_mapValues]
  rcases checkPad d.segments name c with ⟨c, ms⟩
  exact congrArg (Loading.report · [.info .parsing (.segmentAdded name)])
    ((d.warn ms).tables_put name { control := c })

/-- The same names are taken, so that the same one is handed out. -/
theorem tables_withNextName (d : Draft) {go : Draft → String → Draft × Option Stop}
    {goTables : Loading → String → Loading × Option Stop}
    (hgo : ∀ d' name, d'.segments = d.segments →
      goTables d'.tables name = Prod.map tables id (go d' name)) :
    d.tables.withNextName goTables = Prod.map tables id (d.withNextName go) := by
  simp only [Loading.withNextName, withNextName, tables_namer, tables_controls, Table.keys_mapValues]
  rcases d.namer.next d.segments.keys with ⟨limit | name, namer⟩
  · rfl
  · exact hgo ({ d with namer }.moveTo name) name rfl

theorem tables_addNamed (d : Draft) (name : String) (c : Control) :
    d.tables.addNamed name c = Prod.map tables id (d.addNamed name c) := by
  simp only [Loading.addNamed, addNamed, tables_controls, Table.keys_mapValues]
  split
  · exact d.tables_withNextName fun d' default _ =>
      congrArg (·, none) ((d'.warn _).tables_openSegment default c)
  · exact congrArg (·, none) (d.tables_openSegment name c)

theorem tables_readHeader (d : Draft) (line : String) :
    d.tables.readHeader line = Prod.map tables id (d.readHeader d.segments.keys line) := by
  simp only [Loading.readHeader, readHeader, tables_namer, tables_controls, Table.keys_mapValues]
  rcases (Header.ofString line).settle d.namer d.segments.keys with ⟨limit | ⟨name, ms⟩, namer⟩
  · rfl
  · rcases Header.readOptions name (Header.ofString line).options with ⟨said, overflow | c⟩ <;> rfl

/-- A header is added to the tables as to the draft. -/
theorem tables_addHeader (d : Draft) (line : String) :
    d.tables.addHeader line = Prod.map tables id (d.addHeader line) := by
  rw [Loading.addHeader, addHeader, tables_readHeader]
  rcases d.readHeader d.segments.keys line with ⟨d', (limit | overflow) | ⟨name, c⟩⟩
  · rfl
  · rfl
  · exact d'.tables_addNamed name c

/-- Text is appended at the first place of a name, which with distinct names is its only one. -/
theorem tables_append {d : Draft} (hnd : d.segments.keys.Nodup) (delimiters : Delimiters)
    (item : TextItem) : d.tables.append delimiters item = (d.append delimiters item).tables := by
  let change (s : Segment) : Segment := { s with items := s.items ++ [item] }
  have htexts : (d.segments.mapValues Segment.items).adjust d.position.segment (· ++ [item])
      = (Table.adjust d.segments d.position.segment change).mapValues Segment.items :=
    Table.adjust_mapValues Segment.items change (fun _ => rfl) d.segments d.position.segment
  have hcontrols : (d.segments.mapValues Segment.control).adjust d.position.segment id
      = (Table.adjust d.segments d.position.segment change).mapValues Segment.control :=
    Table.adjust_mapValues Segment.control change (fun _ => rfl) d.segments d.position.segment
  -- the options of the segment are those that it had
  rw [Table.adjust_id] at hcontrols
  simp only [Loading.append, append, tables_position, tables_texts, htexts,
    Template.modify_eq_adjust hnd]
  simp only [tables, hcontrols, change]

/-- Text comes into the tables as into the draft, if names are distinct. -/
theorem tables_addText {d : Draft} (hnd : d.segments.keys.Nodup) (delimiters : Delimiters)
    (item : TextItem) :
    d.tables.addText delimiters item = Prod.map tables id (d.addText delimiters item) := by
  rw [Loading.addText, addText, tables_position]
  split
  · rw [tables_append hnd]
    rfl
  · refine d.tables_withNextName fun d' name hd' => ?_
    have hput : (d'.segments.put name {}).keys.Nodup := Table.nodup_keys_put name _ (hd' ▸ hnd)
    have happend := tables_append (d := { d' with segments := d'.segments.put name {} }.warn
      [.missingFirstHeader name]) hput delimiters item
    rw [← tables_warn, ← tables_put] at happend
    exact congrArg (·, none) happend

/-- **A loading follows the draft line by line.** -/
theorem tables_readLine {d : Draft} (hnd : d.segments.keys.Nodup) (delimiters : Delimiters)
    (s : String) : d.tables.readLine delimiters s = Prod.map tables id (d.readLine delimiters s) := by
  cases hs : Line.ofString s with
  | header =>
    -- a header closes the segment that is open, and then adds its own
    rw [readLine_header hs, ← tables_addHeader, ← tables_closeSegment]
    simp only [Loading.readLine, atLine, hs]
    rfl
  | text item =>
    rw [readLine_text hs, ← tables_addText (d := d.atLine s) hnd]
    simp only [Loading.readLine, atLine, hs]
    rfl
  | comment =>
    simp only [Loading.readLine, readLine, hs]
    rfl
  | short =>
    simp only [Loading.readLine, readLine, hs]
    rfl
  | faulty fault =>
    simp only [Loading.readLine, readLine, hs]
    rfl

/-- A loading follows the draft through any number of lines. -/
theorem tables_readLines {d : Draft} (hnd : d.segments.keys.Nodup) (delimiters : Delimiters)
    (lines : List String) :
    d.tables.readLines delimiters lines = Prod.map tables id (d.readLines delimiters lines) := by
  induction lines generalizing d with
  | nil => rfl
  | cons s lines ih =>
    have hline := tables_readLine hnd delimiters s
    -- the tables are in step behind the line, so that the draft has distinct names there
    have hstep := (inStep_tables_iff.mpr hnd).readLine delimiters s
    rw [hline] at hstep
    rw [Loading.readLines, readLines, hline]
    rcases hs : d.readLine delimiters s with ⟨d', _ | stop⟩
    · rw [hs] at hstep
      exact ih (inStep_tables_iff.mp hstep)
    · rfl

/-- A loading follows the draft through a whole template. -/
theorem tables_read (d : Draft) (delimiters : Delimiters) (lines : List String) :
    d.tables.read delimiters lines = Prod.map tables id (d.read delimiters lines) := by
  have hlines : ({ d.tables with position := {}, texts := [], controls := [] } : Loading).readLines
      delimiters lines = Prod.map tables id
        ({ d with position := {}, segments := [] }.readLines delimiters lines) :=
    tables_readLines (d := { d with position := {}, segments := [] }) List.nodup_nil delimiters lines
  rw [Loading.read, read, hlines]
  rcases ({ d with position := {}, segments := [] } : Draft).readLines delimiters lines with
    ⟨d', _ | stop⟩
  · simp only [Prod.map_apply, id_eq, tables_closeSegment]
    -- the segments are counted in the table of text lines
    have hlength : d'.closeSegment.tables.texts.length = d'.closeSegment.segments.length :=
      List.length_map _
    rw [hlength]
    rfl
  · rfl

/-! ## 4. Loading is reading -/

/-- The names of a template that was read are distinct, since the tables are in step. -/
theorem nodup_read (d : Draft) (delimiters : Delimiters) (lines : List String) :
    (d.read delimiters lines).1.segments.keys.Nodup := by
  have hstep := Loading.inStep_read d.tables delimiters lines
  rw [tables_read] at hstep
  exact inStep_tables_iff.mp hstep

/-- **Loading a template returns what reading it leaves**: nothing is lost by keeping the text lines
and the options apart. -/
theorem load_eq_read (d : Draft) (delimiters : Delimiters) (lines : List String) :
    d.load delimiters lines =
      match d.read delimiters lines with
      | (d', none) => (d', .ok { segments := d'.segments, line := d'.position.line })
      | (d', some (.fault f)) => (d', .ok (.failed f d'.position.line))
      | (d', some (.overflow o)) => (d', .error o) := by
  have hnd := d.nodup_read delimiters lines
  rw [load, tables_read]
  generalize d.read delimiters lines = result at hnd ⊢
  obtain ⟨d', stop⟩ := result
  -- names are distinct, so that the tables can be put together again
  have hdraft : d'.tables.draft = d' := draft_tables hnd
  have htemplate : d'.tables.template = d'.segments := template_tables hnd
  rcases stop with _ | (f | o) <;> simp [hdraft, htemplate]

end Draft

/-- **Text has a place**: behind lines that have been read, the segment of the position, if there is
one, stands in both tables. -/
theorem Loading.current_of_readLines {l l' : Loading} {delimiters : Delimiters}
    {lines : List String}
    (h : ({ l with position := {}, texts := [], controls := [] } : Loading).readLines delimiters lines
      = (l', none)) (hs : l'.position.hasSegment = true) :
    l'.position.segment ∈ l'.texts.keys ∧ l'.position.segment ∈ l'.controls.keys := by
  have hread := Draft.tables_readLines
    (d := { namer := l.namer, tokens := l.tokens, log := l.log }) List.nodup_nil delimiters lines
  have hstart : (({ namer := l.namer, tokens := l.tokens, log := l.log } : Draft).tables)
      = { l with position := {}, texts := [], controls := [] } := rfl
  rw [hstart, h] at hread
  rcases hd : ({ namer := l.namer, tokens := l.tokens, log := l.log } : Draft).readLines delimiters
    lines with ⟨d', stop⟩
  rw [hd] at hread
  obtain ⟨rfl, rfl⟩ := Prod.mk.inj hread
  obtain ⟨r, hshows, -⟩ := Draft.readLines_run
    (Draft.shows_start { namer := l.namer, tokens := l.tokens, log := l.log }) hd
  -- in the draft the position is that of the open segment, which is in the table
  have hmem := hshows.segment_mem hs
  exact ⟨by simpa using hmem, by simpa using hmem⟩

end Stencil
