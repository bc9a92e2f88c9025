/-
# Reading afresh

A template is read in a draft that brings two things along from before: a log and a namer.  Reading
only adds to the log and never looks at what it holds, so that behind an earlier log it comes to what
it comes to behind none, with the earlier records in front.  Of the namer it moves the count alone,
and that starts over with the next template.

* `read_behind`: reading behind an earlier log;
* `reset_namer_read`: what reading leaves of the namer.
-/
import Stencil.Proofs.Template.Untouched

namespace Stencil

/-! ## 1. Behind an earlier log -/

namespace Draft

/-- The draft with an earlier log before its own. -/
def behind (l : Log) (d : Draft) : Draft := { d with log := l ++ d.log }

@[simp] theorem position_behind (l : Log) (d : Draft) : (d.behind l).position = d.position := rfl

@[simp] theorem segments_behind (l : Log) (d : Draft) : (d.behind l).segments = d.segments := rfl

section Behind

variable (l : Log) (d : Draft)

theorem report_behind (ns : List Notice) : (d.behind l).report ns = (d.report ns).behind l := by
  simp only [report, behind, Log.report, List.append_assoc]

theorem warn_behind (ms : List Message) : (d.behind l).warn ms = (d.warn ms).behind l :=
  report_behind l d _

/-- A name that is handed out does not depend on the log, and what goes on with it does not either.
-/
theorem withNextName_behind {go : Draft → String → Draft × Option Stop}
    (hgo : ∀ d name, go (behind l d) name = Prod.map (behind l) id (go d name)) :
    (d.behind l).withNextName go = Prod.map (behind l) id (d.withNextName go) := by
  simp only [withNextName, behind]
  rcases d.namer.next d.segments.keys with ⟨limit | name, namer⟩
  · exact Prod.ext (report_behind l { d with namer } _) rfl
  · exact hgo ({ d with namer }.moveTo name) name

theorem closeSegment_behind : (d.behind l).closeSegment = d.closeSegment.behind l := by
  simp only [closeSegment, position_behind, segments_behind, warn_behind]
  split <;> rfl

theorem openSegment_behind (name : String) (c : Control) :
    (d.behind l).openSegment name c = (d.openSegment name c).behind l := by
  let checked := checkPad d.segments name c
  -- the check of the pad looks at the segments, and what it says goes before the last notice
  have hopened := report_behind l
    { d.warn checked.2 with segments := d.segments.put name { control := checked.1 } }
    [.info .parsing (.segmentAdded name)]
  simp only [openSegment, segments_behind, warn_behind]
  exact hopened

theorem addNamed_behind (name : String) (c : Control) :
    (d.behind l).addNamed name c = Prod.map (behind l) id (d.addNamed name c) := by
  unfold addNamed
  rw [segments_behind, openSegment_behind]
  split
  · refine withNextName_behind l d fun d default => ?_
    rw [warn_behind, openSegment_behind]
    rfl
  · rfl

theorem readHeader_behind (taken : List String) (s : String) :
    (d.behind l).readHeader taken s = Prod.map (behind l) id (d.readHeader taken s) := by
  simp only [readHeader, behind]
  rcases (Header.ofString s).settle d.namer taken with ⟨limit | ⟨name, ms⟩, namer⟩
  · rfl
  · refine Prod.ext ?_ rfl
    simp only [warn, report, moveTo, Log.report, List.append_assoc]
    rfl

theorem addHeader_behind (s : String) :
    (d.behind l).addHeader s = Prod.map (behind l) id (d.addHeader s) := by
  unfold addHeader
  rw [segments_behind, readHeader_behind]
  rcases d.readHeader d.segments.keys s with ⟨d', (limit | o) | ⟨name, c⟩⟩
  · exact Prod.ext (report_behind l d' _) rfl
  · rfl
  · exact addNamed_behind l d' name c

/-- Text comes to the same behind an earlier log. -/
theorem addText_behind (delimiters : Delimiters) (item : TextItem) :
    (d.behind l).addText delimiters item = Prod.map (behind l) id (d.addText delimiters item) := by
  unfold addText
  rw [position_behind]
  split
  · rfl
  · refine withNextName_behind l d fun d name => ?_
    have hwarn := warn_behind l { d with segments := d.segments.put name {} }
      [.missingFirstHeader name]
    exact Prod.ext (congrArg (append · delimiters item) hwarn) rfl

/-- A line comes to the same behind an earlier log. -/
theorem readLine_behind (delimiters : Delimiters) (s : String) :
    (d.behind l).readLine delimiters s = Prod.map (behind l) id (d.readLine delimiters s) := by
  have hline : (d.behind l).atLine s = (d.atLine s).behind l :=
    report_behind l { d with position := { d.position with line := d.position.line + 1 } } _
  -- line by kind, each with the lemma on what it does
  cases hs : Line.ofString s with
  | header =>
    rw [readLine_header hs, readLine_header hs, hline, closeSegment_behind, addHeader_behind]
  | comment =>
    rw [readLine_pass (.inl hs), readLine_pass (.inl hs), hline]
    rfl
  | text item => rw [readLine_text hs, readLine_text hs, hline, addText_behind]
  | short =>
    rw [readLine_pass (.inr hs), readLine_pass (.inr hs), hline]
    rfl
  | faulty fault =>
    rw [readLine_of_faulty _ hs, readLine_of_faulty _ hs, hline, report_behind]
    rfl

/-- Lines come to the same behind an earlier log. -/
theorem readLines_behind (delimiters : Delimiters) (lines : List String) :
    (d.behind l).readLines delimiters lines
      = Prod.map (behind l) id (d.readLines delimiters lines) := by
  induction lines generalizing d with
  | nil => rfl
  | cons s lines ih =>
    rw [readLines, readLines, readLine_behind]
    -- what the line stops stays stopped; otherwise the rest begins behind the same log
    rcases d.readLine delimiters s with ⟨d', _ | stop⟩
    · exact ih d'
    · rfl

/-- **Reading behind an earlier log comes to what it comes to behind none**, whether it ends or is
stopped: the records of the reading are the same, and they stand behind the earlier ones. -/
theorem read_behind (delimiters : Delimiters) (lines : List String) :
    (d.behind l).read delimiters lines = Prod.map (behind l) id (d.read delimiters lines) := by
  have hlines := readLines_behind l { d with position := {}, segments := [] } delimiters lines
  have hstart : { d.behind l with position := {}, segments := [] }
      = { d with position := {}, segments := [] }.behind l := rfl
  rw [read, read, hstart, hlines]
  generalize readLines _ delimiters lines = result
  rcases result with ⟨d', _ | stop⟩
  · rw [Prod.map_apply]
    dsimp only [id]
    rw [closeSegment_behind]
    simp only [Prod.map, behind, Log.record, List.append_assoc, id]
  · rfl

end Behind

end Draft

/-! ## 2. The namer -/

/-- Handing out a name moves the count alone. -/
theorem Namer.reset_next (n : Namer) (taken : List String) : (n.next taken).2.reset = n.reset := by
  fun_induction next n taken with
  | case1 n _ m _ ih => exact ih
  | case2 n _ m _ => rfl
  | case3 n _ => rfl

namespace Draft

/-- What a namer hands out is no part of the namer at the start of its count. -/
theorem untouched_reset_namer : Untouched fun d => d.namer.reset :=
  ⟨fun _ _ => rfl, fun _ _ => rfl, fun _ _ => rfl, fun d taken => d.namer.reset_next taken⟩

/-- **Reading moves the count of the namer alone**, whether it ends or is stopped. -/
theorem reset_namer_read (d : Draft) (delimiters : Delimiters) (lines : List String) :
    (d.read delimiters lines).1.namer.reset = d.namer.reset :=
  untouched_reset_namer.read (fun _ _ _ => rfl) (fun _ _ => rfl) d lines

end Draft

end Stencil
