/-
# Templates without corrections

A template that is read without a warning is what its lines say, and nothing else: every header has a
segment of its own with the name and the options that stand in the header, and the text lines up to the
next header are its items.  No line was passed over but comments, and no segment was dropped.

What is put right while reading is noted as a problem, so that it shows in the number of problems in
the log.  That number never goes down (`problems_le_of_behind`), and where it stays the same each
operation has done what it does when there is nothing to put right.  A line then makes one of three
steps (`Reading.PlainStep`), and of a run of such steps the segments can be read off the lines.

* `readLine_plain`: a line without a problem makes a plain step;
* `PlainRun.segments_eq`: the segments of a plain run;
* `read_faithful`: a template that is read without a warning.
-/
import Stencil.Proofs.Header.Plain
import Stencil.Proofs.Template.Afresh
import Stencil.Proofs.Template.TextLines
import Stencil.Proofs.Template.Written

namespace Stencil

/-! ## 1. Headers and the lines that follow them -/

/-- The lines before the first header. -/
def preamble (lines : List String) : List String :=
  lines.takeWhile fun s => Line.ofString s ≠ .header

/-- The header lines, each with the lines that follow it up to the next. -/
def sections : List String → List (String × List String)
  | [] => []
  | s :: lines =>
    if Line.ofString s = .header then (s, preamble lines) :: sections lines else sections lines

/-- A line that has a place in a template: none is short and none is faulty. -/
def Line.HasPlace (line : Line) : Prop := line = header ∨ line = comment ∨ ∃ item, line = text item

/-- The segment has the name and the options of a header, and the text that follows it. -/
structure Header.Opens (part : String × List String) (p : String × Segment) : Prop where
  declares : Header.Declares part.1 p.1 p.2.control
  items : p.2.items = textItems part.2

/-- The template is what its lines say: they are headers, comments and text, no text stands before the
first header, and the segments are those that the headers open, in order. -/
structure Template.Faithful (lines : List String) (t : Template) : Prop where
  places : ∀ s ∈ lines, (Line.ofString s).HasPlace
  headed : textItems (preamble lines) = []
  segments : List.Forall₂ Header.Opens (sections lines) t

theorem preamble_header {s : String} (h : Line.ofString s = .header) (lines : List String) :
    preamble (s :: lines) = [] := by simp [preamble, h]

theorem preamble_other {s : String} (h : Line.ofString s ≠ .header) (lines : List String) :
    preamble (s :: lines) = s :: preamble lines := by simp [preamble, h]

theorem sections_header {s : String} (h : Line.ofString s = .header) (lines : List String) :
    sections (s :: lines) = (s, preamble lines) :: sections lines := if_pos h

theorem sections_other {s : String} (h : Line.ofString s ≠ .header) (lines : List String) :
    sections (s :: lines) = sections lines := if_neg h

theorem textItems_nil : textItems [] = [] := rfl

theorem textItems_cons (s : String) (lines : List String) :
    textItems (s :: lines) = (Line.ofString s).item?.toList ++ textItems lines := by
  cases h : (Line.ofString s).item? <;> simp [textItems, h]

/-! ## 2. The number of problems -/

/-- How many problems the log holds. -/
def Log.problems (l : Log) : Nat := l.entries.countP (·.level.isProblem)

theorem Log.problems_append (l added : Log) :
    Log.problems (l ++ added) = l.problems + added.problems := by
  rw [problems, entries_append, List.countP_append]
  rfl

/-- A log that grows quietly has as many problems as before. -/
theorem Log.GrowsQuietly.problems_eq {l l' : Log} (h : l.GrowsQuietly l') :
    l'.problems = l.problems := by
  obtain ⟨added, rfl, hquiet⟩ := h
  have hnone : added.problems = 0 := by
    rw [Log.problems, List.countP_eq_zero]
    intro e he
    simp [hquiet e he]
  rw [Log.problems_append, hnone, Nat.add_zero]

namespace Draft

theorem problems_report (d : Draft) (ns : List Notice) :
    (d.report ns).log.problems = d.log.problems + ns.countP (·.level.isProblem) := by
  rw [report, Log.problems, Log.entries_report, List.countP_append, List.countP_map]
  rfl

/-- Every message of a warning is a problem. -/
theorem problems_warn (d : Draft) (ms : List Message) :
    (d.warn ms).log.problems = d.log.problems + ms.length := by
  rw [warn, problems_report, List.countP_map, List.countP_eq_length.mpr]
  intro m _
  rfl

theorem problems_behind (l : Log) (d : Draft) :
    (d.behind l).log.problems = l.problems + d.log.problems := Log.problems_append l d.log

/-- What does the same behind any log takes no problem away. -/
theorem problems_le_of_behind {α : Type} {f : Draft → Draft × α}
    (hf : ∀ l d, f (behind l d) = Prod.map (behind l) id (f d)) (d : Draft) :
    d.log.problems ≤ (f d).1.log.problems := by
  -- the draft is itself behind its own log, with none of its own
  have hlog : behind d.log { d with log := [] } = d := by
    rw [behind, List.append_nil]
  have hsame := hf d.log { d with log := [] }
  rw [hlog] at hsame
  rw [hsame, Prod.map_fst, problems_behind]
  exact Nat.le_add_right _ _

theorem problems_le_closeSegment (d : Draft) :
    d.log.problems ≤ d.closeSegment.log.problems :=
  problems_le_of_behind (f := fun d => (d.closeSegment, ()))
    (fun l d => Prod.ext (closeSegment_behind l d) rfl) d

theorem problems_le_readHeader (d : Draft) (taken : List String) (s : String) :
    d.log.problems ≤ (d.readHeader taken s).1.log.problems :=
  problems_le_of_behind (f := (·.readHeader taken s)) (fun l d => readHeader_behind l d taken s) d

theorem problems_le_addNamed (d : Draft) (name : String) (c : Control) :
    d.log.problems ≤ (d.addNamed name c).1.log.problems :=
  problems_le_of_behind (f := (·.addNamed name c)) (fun l d => addNamed_behind l d name c) d

theorem problems_le_addHeader (d : Draft) (s : String) :
    d.log.problems ≤ (d.addHeader s).1.log.problems :=
  problems_le_of_behind (f := (·.addHeader s)) (fun l d => addHeader_behind l d s) d

theorem problems_le_readLine (d : Draft) (delimiters : Delimiters) (s : String) :
    d.log.problems ≤ (d.readLine delimiters s).1.log.problems :=
  problems_le_of_behind (f := (·.readLine delimiters s))
    (fun l d => readLine_behind l d delimiters s) d

theorem problems_le_readLines (d : Draft) (delimiters : Delimiters) (lines : List String) :
    d.log.problems ≤ (d.readLines delimiters lines).1.log.problems :=
  problems_le_of_behind (f := (·.readLines delimiters lines))
    (fun l d => readLines_behind l d delimiters lines) d

/-! ## 3. Operations without a problem -/

/-- A segment that is closed without a warning stays. -/
theorem closeSegment_of_no_problem {d : Draft}
    (h : d.closeSegment.log.problems ≤ d.log.problems) : d.closeSegment = d := by
  unfold closeSegment at h ⊢
  dsimp only at h ⊢
  split at h
  -- the segment was dropped, and this is noted
  · have hwarn := d.problems_warn [.noTextLines d.position.segment]
    rw [List.length_singleton] at hwarn
    exact absurd h (by simp only [hwarn]; omega)
  · rename_i hkept
    rw [if_neg hkept]

/-- A header without a warning has a name of its own and options that are all taken. -/
theorem readHeader_of_no_problem {d d' : Draft} {taken : List String} {s name : String}
    {c : Control} (h : d.readHeader taken s = (d', .ok (name, c)))
    (hquiet : d'.log.problems ≤ d.log.problems) :
    ∃ options, Header.ofString s = ⟨.given name, options⟩ ∧ isName name = true ∧
      Header.readOptions name options = ([], .ok c) := by
  obtain ⟨ms, namer, said, hsettle, hoptions, rfl⟩ := readHeader_eq_ok h
  have hstart : ({ d with namer }.moveTo name).log.problems = d.log.problems := rfl
  have hfirst := problems_warn ({ d with namer }.moveTo name) ms
  have hsecond := problems_warn (({ d with namer }.moveTo name).warn ms) said
  -- both kinds of messages count as problems, so that there are none
  have hms : ms = [] := List.eq_nil_of_length_eq_zero (by omega)
  have hsaid : said = [] := List.eq_nil_of_length_eq_zero (by omega)
  subst hms hsaid
  rcases Header.settle_cases hsettle with ⟨hgiven, hname, -, -⟩ | ⟨-, m, hnote, -⟩
  · exact ⟨_, hgiven ▸ rfl, hname, hoptions⟩
  · exact absurd hnote (by simp)

/-- Opening a segment notes what there is to say about its pad. -/
theorem problems_openSegment (d : Draft) (name : String) (c : Control) :
    (d.openSegment name c).log.problems
      = d.log.problems + (checkPad d.segments name c).2.length := by
  unfold openSegment
  dsimp only
  rw [problems_report]
  exact problems_warn d _

/-- A pad of which there is nothing to say stays as it is. -/
theorem checkPad_of_no_message {segments : Template} {name : String} {c : Control}
    (h : (checkPad segments name c).2 = []) : checkPad segments name c = (c, []) := by
  unfold checkPad at h ⊢
  dsimp only at h ⊢
  -- each way of taking the pad away has its message
  by_cases hnone : c.padSegment = ""
  · rw [if_pos hnone]
  · by_cases hself : c.padSegment = name
    · rw [if_neg hnone, if_pos hself] at h
      exact absurd h (by simp)
    · cases hget : segments.get? c.padSegment with
      | none => simp [hnone, hself, hget] at h
      | some pad =>
        by_cases hpad : pad.control.padSegment = ""
        · simp [hnone, hself, hpad]
        · simp [hnone, hself, hget, hpad] at h

/-- A header without a warning opens the segment that it names. -/
theorem addNamed_of_no_problem {d d' : Draft} {name : String} {c : Control}
    (h : d.addNamed name c = (d', none)) (hquiet : d'.log.problems ≤ d.log.problems) :
    name ∉ d.segments.keys ∧ checkPad d.segments name c = (c, []) ∧ d' = d.openSegment name c := by
  unfold addNamed at h
  split at h
  · -- the duplicate is noted before its segment is opened
    obtain ⟨default, namer, -, -, -, hgo⟩ := withNextName_none h
    obtain rfl := (Prod.mk.inj hgo).1
    rw [problems_openSegment, problems_warn, List.length_singleton] at hquiet
    have hstart : ({ d with namer }.moveTo default).log.problems = d.log.problems := rfl
    omega
  · rename_i hfree
    obtain rfl := (Prod.mk.inj h).1
    rw [problems_openSegment] at hquiet
    have hsaid : (checkPad d.segments name c).2 = [] :=
      List.eq_nil_of_length_eq_zero (by omega)
    exact ⟨hfree, checkPad_of_no_message hsaid, rfl⟩

/-- Text without a warning has an open segment. -/
theorem hasSegment_of_no_problem {d d' : Draft} {delimiters : Delimiters} {item : TextItem}
    (h : d.addText delimiters item = (d', none)) (hquiet : d'.log.problems ≤ d.log.problems) :
    d.position.hasSegment = true := by
  unfold addText at h
  split at h
  · assumption
  · obtain ⟨name, namer, -, -, -, hgo⟩ := withNextName_none h
    obtain rfl := (Prod.mk.inj hgo).1
    let opened : Draft :=
      { { d with namer }.moveTo name with segments := d.segments.put name {} }
    -- a segment that is opened for want of a header is noted
    have hwarn : (opened.warn [.missingFirstHeader name]).log.problems
        = d.log.problems + 1 := problems_warn opened _
    have hquiet' : (opened.warn [.missingFirstHeader name]).log.problems ≤ d.log.problems := hquiet
    omega

end Draft

/-! ## 4. Lines without a problem -/

namespace Reading

/-- What a line does when there is nothing to put right.  A header leaves the segments before it as
they are. -/
inductive PlainStep : String → Reading → Reading → Prop
  | comment {s : String} {r : Reading} : Line.ofString s = .comment → PlainStep s r r
  | text {s : String} {item : TextItem} {closed : Template} {name : String} {seg : Segment} :
      Line.ofString s = .text item →
      PlainStep s ⟨closed, some (name, seg)⟩
        ⟨closed, some (name, { seg with items := seg.items ++ [item] })⟩
  | header {s name : String} {r : Reading} {c : Control} :
      Line.ofString s = .header → Header.Declares s name c →
      PlainStep s r ⟨r.segments, some (name, { control := c })⟩

/-- The plain steps of several lines. -/
inductive PlainRun : List String → Reading → Reading → Prop
  | nil {r : Reading} : PlainRun [] r r
  | cons {s : String} {lines : List String} {r₁ r₂ r₃ : Reading} :
      PlainStep s r₁ r₂ → PlainRun lines r₂ r₃ → PlainRun (s :: lines) r₁ r₃

end Reading

namespace Draft

theorem problems_atLine (d : Draft) (s : String) :
    (d.atLine s).log.problems
      = d.log.problems + ((Line.ofString s).notices s).countP (·.level.isProblem) :=
  problems_report _ _

/-- A header that is added without a problem makes a plain step. -/
theorem addHeader_plain {d d' : Draft} {r : Reading} {s : String} (hd : d.Shows r)
    (hs : Line.ofString s = .header) (h : d.closeSegment.addHeader s = (d', none))
    (hquiet : d'.log.problems ≤ d.log.problems) :
    ∃ r', d'.Shows r' ∧ Reading.PlainStep s r r' := by
  -- closing, reading and adding each take no problem away, so that none of them adds one
  have hclose := problems_le_closeSegment d
  have hadd : d.closeSegment.log.problems ≤ d'.log.problems := by
    have hle := problems_le_addHeader d.closeSegment s
    rwa [h] at hle
  have hsame : d.closeSegment = d := closeSegment_of_no_problem (by omega)
  rw [hsame] at h hadd
  unfold addHeader at h
  split at h
  · rename_i d₁ name c hread
    obtain ⟨hseg, hpos, -, -, -⟩ := readHeader_ok hread
    have hread_le : d.log.problems ≤ d₁.log.problems := by
      have hle := d.problems_le_readHeader d.segments.keys s
      rwa [hread] at hle
    have hnamed_le : d₁.log.problems ≤ d'.log.problems := by
      have hle := d₁.problems_le_addNamed name c
      rwa [h] at hle
    obtain ⟨options, hparts, hname, hoptions⟩ := readHeader_of_no_problem hread (by omega)
    obtain ⟨hfree, hcheck, rfl⟩ := addNamed_of_no_problem h (by omega)
    have hdeclares := Header.declares_of_readOptions hparts hoptions
    refine ⟨⟨r.segments, some (name, { control := c })⟩, ?_, .header hs hdeclares⟩
    have hsegments : d₁.segments = r.segments := hseg.trans hd.segments
    refine shows_of_last ?_ hpos (ne_empty_of_isName hname) (hsegments ▸ hfree) hd.nodup
    rw [openSegment_segments c hfree, hcheck, hsegments]
  · exact absurd (congrArg Prod.snd h) (by simp [exhausted])
  · exact absurd (congrArg Prod.snd h) (by simp)

/-- **A line that is read without a problem makes a plain step.** -/
theorem readLine_plain {d d' : Draft} {r : Reading} {delimiters : Delimiters} {s : String}
    (hd : d.Shows r) (h : d.readLine delimiters s = (d', none))
    (hquiet : d'.log.problems ≤ d.log.problems) :
    ∃ r', d'.Shows r' ∧ Reading.PlainStep s r r' := by
  have hat := d.problems_atLine s
  cases hs : Line.ofString s with
  | header =>
    rw [readLine_header hs] at h
    exact addHeader_plain (hd.atLine s) hs h (by omega)
  | comment =>
    rw [readLine_pass (.inl hs)] at h
    obtain rfl := (Prod.mk.inj h).1
    exact ⟨r, hd.atLine s, .comment hs⟩
  | text item =>
    rw [readLine_text hs] at h
    have hat' := hd.atLine s
    have hopen := hat'.hasSegment_iff.mp (hasSegment_of_no_problem h (by omega))
    obtain ⟨closed, _ | ⟨name, seg⟩⟩ := r
    · exact absurd hopen (by simp)
    · rw [addText_of_hasSegment (hat'.hasSegment_iff.mpr rfl)] at h
      obtain rfl := (Prod.mk.inj h).1
      exact ⟨_, hat'.append delimiters item, .text hs⟩
  -- a short line is passed over, which is a problem, and a faulty one stops the reading
  | short =>
    rw [readLine_pass (.inr hs)] at h
    obtain rfl := (Prod.mk.inj h).1
    rw [hat, hs] at hquiet
    exact absurd hquiet (by simp [Line.notices, Notice.warning, Level.isProblem])
  | faulty fault =>
    have hstop := readLine_faulty hs d delimiters
    rw [h] at hstop
    exact absurd hstop (by simp)

/-- Lines that are read without a problem make a plain run. -/
theorem readLines_plain {d d' : Draft} {r : Reading} {delimiters : Delimiters} {lines : List String}
    (hd : d.Shows r) (h : d.readLines delimiters lines = (d', none))
    (hquiet : d'.log.problems ≤ d.log.problems) :
    ∃ r', d'.Shows r' ∧ Reading.PlainRun lines r r' := by
  induction lines generalizing d r with
  | nil =>
    obtain rfl := (Prod.mk.inj h).1
    exact ⟨r, hd, .nil⟩
  | cons s lines ih =>
    obtain ⟨d₁, hs, hl⟩ := readLines_cons h
    -- the problems stay the same over the whole, so that they do over the line and over the rest
    have hline : d.log.problems ≤ d₁.log.problems := by
      have hle := d.problems_le_readLine delimiters s
      rwa [hs] at hle
    have hrest : d₁.log.problems ≤ d'.log.problems := by
      have hle := d₁.problems_le_readLines delimiters lines
      rwa [hl] at hle
    obtain ⟨r₁, hd₁, hstep⟩ := readLine_plain hd hs (by omega)
    obtain ⟨r', hd', hrun⟩ := ih hd₁ hl (by omega)
    exact ⟨r', hd', .cons hstep hrun⟩

end Draft

/-! ## 5. Plain runs -/

namespace Reading

/-- The segments so far, with more items in the open one. -/
def joined (r : Reading) (items : List TextItem) : Template :=
  r.closed ++ (r.current.map fun p => (p.1, { p.2 with items := p.2.items ++ items })).toList

theorem joined_nil (r : Reading) : r.joined [] = r.segments := by
  rcases r with ⟨closed, _ | ⟨name, seg⟩⟩ <;> simp [joined, segments]

/-- A line that makes a plain step has its place. -/
theorem PlainStep.hasPlace {s : String} {r r' : Reading} (h : PlainStep s r r') :
    (Line.ofString s).HasPlace := by
  cases h with
  | comment hs => exact .inr (.inl hs)
  | text hs => exact .inr (.inr ⟨_, hs⟩)
  | header hs => exact .inl hs

theorem PlainRun.hasPlace {lines : List String} {r r' : Reading} (h : PlainRun lines r r') :
    ∀ s ∈ lines, (Line.ofString s).HasPlace := by
  induction h with
  | nil => simp
  | cons hstep _ ih =>
    intro s hs
    rcases List.mem_cons.mp hs with rfl | hs
    · exact hstep.hasPlace
    · exact ih s hs

/-- Text needs an open segment. -/
theorem PlainRun.headed {lines : List String} {r r' : Reading} (h : PlainRun lines r r')
    (hr : r.current = none) : textItems (preamble lines) = [] := by
  -- over the lines up to the first header; none is text, since nothing is open
  induction h with
  | nil => rfl
  | cons hstep _ ih =>
    cases hstep with
    | comment hs =>
      rw [preamble_other (by simp [hs]), textItems_cons, hs, ih hr]
      rfl
    | text => simp at hr
    | header hs =>
      rw [preamble_header hs]
      rfl

/-- **The segments of a plain run**: the open one gets the text up to the first header, and each header
has one of its own with the text that follows it. -/
theorem PlainRun.segments_eq {lines : List String} {r r' : Reading} (h : PlainRun lines r r') :
    ∃ opened, r'.segments = r.joined (textItems (preamble lines)) ++ opened ∧
      List.Forall₂ Header.Opens (sections lines) opened := by
  induction h with
  | @nil r => exact ⟨[], by simp [preamble, textItems, joined_nil], .nil⟩
  | @cons s lines r₁ r₂ r₃ hstep hrun ih =>
    obtain ⟨opened, hsegments, hopened⟩ := ih
    cases hstep with
    | comment hs =>
      have hother : Line.ofString s ≠ .header := by simp [hs]
      refine ⟨opened, ?_, sections_other hother lines ▸ hopened⟩
      -- a comment adds nothing to the open segment
      rw [hsegments, preamble_other hother, textItems_cons, hs]
      rfl
    | text hs =>
      have hother : Line.ofString s ≠ .header := by simp [hs]
      refine ⟨opened, ?_, sections_other hother lines ▸ hopened⟩
      rw [hsegments, preamble_other hother, textItems_cons, hs]
      simp [joined, Line.item?]
    | @header name _ c hs hdeclares =>
      refine ⟨(name, { control := c, items := textItems (preamble lines) }) :: opened, ?_, ?_⟩
      · rw [hsegments, preamble_header hs, textItems_nil, joined_nil]
        simp [joined]
      · rw [sections_header hs]
        exact .cons ⟨hdeclares, rfl⟩ hopened

end Reading

/-! ## 6. The template that is read -/

/-- **A template that is read without a warning is what its lines say.** -/
theorem Draft.read_faithful {d d' : Draft} {delimiters : Delimiters} {lines : List String}
    (h : d.read delimiters lines = (d', none)) (hquiet : d.log.GrowsQuietly d'.log) :
    Template.Faithful lines d'.segments := by
  have hcount := hquiet.problems_eq
  unfold read at h
  split at h
  · rename_i d₁ hlines
    obtain rfl := (Prod.mk.inj h).1
    -- what is noted at the end is no problem
    have hrecord : Log.problems (d₁.closeSegment.log.record
        (.segmentsLoaded d₁.closeSegment.segments.length)) = d₁.closeSegment.log.problems := by
      rw [Log.problems, Log.entries_record]
      rfl
    have hclosed : d₁.closeSegment.log.problems = d.log.problems := hrecord.symm.trans hcount
    have hlines_le : d.log.problems ≤ d₁.log.problems := by
      have hle := problems_le_readLines { d with position := {}, segments := [] } delimiters lines
      rwa [hlines] at hle
    have hclose := problems_le_closeSegment d₁
    -- nor was the last segment dropped
    have hsame : d₁.closeSegment = d₁ := closeSegment_of_no_problem (by omega)
    obtain ⟨r, hd₁, hrun⟩ := readLines_plain (shows_start d) hlines (by dsimp only; omega)
    obtain ⟨opened, hsegments, hopened⟩ := hrun.segments_eq
    have hheaded : textItems (preamble lines) = [] := hrun.headed rfl
    have htemplate : d₁.closeSegment.segments = opened := by
      rw [hsame, hd₁.segments, hsegments, hheaded]
      rfl
    exact ⟨hrun.hasPlace, hheaded, htemplate ▸ hopened⟩
  · rename_i hstop
    exact absurd h (hstop d')

/-- A comment before the first header and one within a segment, a text line that is only blanks, and
options in small letters with a comma between the fields. -/
def Template.commented : List String :=
  ["/// c", "### A", "    a", "### B,fti=-3, Pad=A", "/// d", "@+1 b", "   "]

theorem Draft.read_faithful_commented :
    ∃ d', Draft.read {} {} Template.commented = (d', none) ∧ Log.GrowsQuietly [] d'.log ∧
      Template.Faithful Template.commented d'.segments ∧
      d'.segments = [("A", ⟨{}, [⟨0, true, false, "a"⟩]⟩),
        ("B", ⟨{ firstTimeIndent := -3, padSegment := "A" },
          [⟨1, true, false, "b"⟩, ⟨0, true, false, ""⟩]⟩)] := by
  have hread : (Draft.read {} {} Template.commented).2 = none := by decide +kernel
  have hquiet : Log.GrowsQuietly [] (Draft.read {} {} Template.commented).1.log :=
    ⟨_, rfl, by decide +kernel⟩
  exact ⟨_, Prod.ext rfl hread, hquiet, read_faithful (Prod.ext rfl hread) hquiet,
    by decide +kernel⟩

end Stencil
