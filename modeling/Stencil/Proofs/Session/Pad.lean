/-
# Pads

Between two renders of a segment goes its pad, with options and a column of its own.  Nothing of that
is left when the segment itself is rendered, but for the lines of the pad: the column, the tab size
and the position are those from before, and the lines of the segment are what they would be without
a pad.

To say what they would be, the render is compared with one in which the segment has lost its pad
(`withoutPad`).  Both come to the same segment in sessions that differ in the template, the output
and the log; the rendition of the segment reads none of these.

* `renderPad_eq_behindPad`, `renderPad_eq`: a pad adds lines and is rendered, and nothing else;
* `render_pad`: a render with the pad is one without it, and the lines of the pad before its own.
-/
import Stencil.Proofs.Session.Sound

namespace Stencil

/-! ## 1. A segment without its pad -/

/-- The segment with its pad dropped. -/
def Segment.withoutPad (seg : Segment) : Segment :=
  { seg with control := { seg.control with padSegment := "" } }

theorem Segment.rendered_withoutPad (seg : Segment) :
    seg.withoutPad.rendered = seg.rendered.withoutPad := by
  unfold rendered withoutPad
  split <;> rfl

theorem Segment.isFirstTime_rendered {seg : Segment} (h : seg.items ≠ []) :
    seg.rendered.control.isFirstTime = false := by rw [rendered, if_neg h]

/-- It makes no difference to a template whether the pad of a segment is dropped before or after the
segment and its pad are rendered. -/
theorem Template.modify_rendered_withoutPad (t : Template) {name pad : String} (h : pad ≠ name) :
    ((t.modify pad Segment.rendered).modify name Segment.rendered).modify name Segment.withoutPad
      = ((t.modify name Segment.withoutPad).modify name Segment.rendered).modify pad
          Segment.rendered := by
  have hcomm : Segment.rendered ∘ Segment.withoutPad = Segment.withoutPad ∘ Segment.rendered :=
    funext Segment.rendered_withoutPad
  rw [modify_modify_self, modify_modify_self, hcomm, modify_comm _ _ _ h]

namespace Session

/-- The session with the pad of one segment dropped. -/
def withoutPad (s : Session) (name : String) : Session :=
  { s with template := s.template.modify name Segment.withoutPad }

theorem moves_withoutPad (name : String) (seg : Segment) :
    moves name seg.withoutPad.control seg.withoutPad.items = moves name seg.control seg.items := by
  unfold Segment.withoutPad
  cases seg.items <;> rfl

theorem refusal?_withoutPad (s : Session) (name other : String) :
    (s.withoutPad other).refusal? name = s.refusal? name := by
  unfold refusal? withoutPad
  -- a segment is refused for its items, which a dropped pad leaves
  by_cases h : other = name
  · subst h
    cases hget : s.template.get? other <;> simp [Template.get?_modify_self, hget, Segment.withoutPad]
  · simp [Template.get?_modify_of_ne _ _ h]

/-- The rendition of a segment reads neither its pad nor the template. -/
theorem ownRendition_withoutPad (s : Session) (name : String) (seg : Segment) :
    s.ownRendition name seg.withoutPad = s.ownRendition name seg := by
  unfold ownRendition
  rw [moves_withoutPad]
  rfl

/-! ## 2. What a pad does -/

/-- The session behind a pad: its lines have been rendered, and the column and the position are those
from before. -/
def behindPad (s : Session) (name : String) (pad : Segment) : Session :=
  { ({ s with column := s.column.save }.enter name none).renderOwn name pad with
    column := s.column, position := s.position }

theorem renderPad_eq_behindPad {s : Session} {name : String} {pad : Segment}
    (hget : s.template.get? name = some pad) (hnone : pad.control.padSegment = "") (depth : Nat) :
    s.renderPad (depth + 1) name = some (s.behindPad name pad) := by
  have hdue : pad.control.padIsDue = false := by simp [Control.padIsDue, hnone]
  let saved : Session := { s with column := s.column.save }
  have hsaved : saved.template.get? name = some pad := hget
  -- what the pad does to the column stays above the state that was saved
  have hrestore : ((saved.enter name none).ownRendition name pad).column.restore = s.column :=
    Column.restore_saved ((saved.enter name none).sameStack_ownRendition name pad)
  rw [renderPad, aside, renderAt_of_notDue hsaved hdue, Option.map_some, behindPad, renderOwn_eq]
  dsimp only
  rw [hrestore]

/-- **A pad adds its lines and has been rendered.**  The column, the saved states and the position
are those from before, whatever the lines and the options of the pad do to them. -/
theorem renderPad_eq {s : Session} {name : String} {pad : Segment}
    (hget : s.template.get? name = some pad) (hnone : pad.control.padSegment = "") (depth : Nat) :
    ∃ lines log, lines.length = pad.items.length ∧
      s.renderPad (depth + 1) name = some { s with
        output := s.output ++ lines
        log
        template := s.template.modify name Segment.rendered } := by
  let saved : Session := { s with column := s.column.save }
  refine ⟨((saved.enter name none).ownRendition name pad).lines,
    ((saved.enter name none).renderOwn name pad).log, length_ownRendition _ name pad, ?_⟩
  rw [renderPad_eq_behindPad hget hnone, behindPad, renderOwn_eq]
  rfl

/-! ## 3. Renders with a pad and without -/

/-- Where the session is makes no difference to a render, which begins by coming to its segment. -/
theorem renderAt_position (depth : Nat) (s : Session) (position : Position) (name : String)
    (values : Option Values) :
    { s with position }.renderAt depth name values = s.renderAt depth name values := by
  cases depth <;> rfl

theorem render_of_not_refused {s r : Session} {name : String} {values : Option Values}
    (h : s.refusal? name = none)
    (hr : s.renderAt (s.template.length + 1) name values = some r) :
    s.render (some name) values = { r with isWritten := false } := by
  have haccepted : { s with position := ⟨name, 0⟩ }.refusal? name = none := h
  simp [render, haccepted, renderAt_position, hr]

/-- The segment that has lost its pad is rendered at once. -/
theorem render_withoutPad {s : Session} {name : String} {seg : Segment}
    (h : s.refusal? name = none) (hget : s.template.get? name = some seg)
    (values : Option Values) :
    (s.withoutPad name).render (some name) values =
      { ({ s.enter name values with
          template := (s.withoutPad name).template }.renderOwn name seg.withoutPad) with
        isWritten := false } := by
  have hlost : (s.withoutPad name).template.get? name = some seg.withoutPad := by
    simp [withoutPad, Template.get?_modify_self, hget]
  have haccepted : (s.withoutPad name).refusal? name = none := (refusal?_withoutPad s name name).trans h
  refine (render_of_not_refused haccepted (renderAt_of_notDue hlost rfl _ values)).trans ?_
  cases values <;> rfl

/-- The segment that has its pad is rendered behind it. -/
theorem render_withPad {s : Session} {name : String} {seg pad : Segment}
    (h : s.refusal? name = none) (hget : s.template.get? name = some seg)
    (hdue : seg.control.padIsDue = true)
    (hpad : s.template.get? seg.control.padSegment = some pad)
    (hnone : pad.control.padSegment = "") (values : Option Values) :
    ∃ lines log, lines.length = pad.items.length ∧
      s.render (some name) values =
        { ({ s.enter name values with
            output := s.output ++ lines
            log
            template := s.template.modify seg.control.padSegment Segment.rendered }.renderOwn
              name seg) with
          isWritten := false } := by
  -- there is a segment, so that the pad is rendered with a level to spare
  obtain ⟨depth, hdepth⟩ := Table.exists_length_of_get?_eq_some hget
  have hpad' : (s.enter name values).template.get? seg.control.padSegment = some pad := by
    cases values <;> exact hpad
  obtain ⟨lines, log, hlines, hp⟩ := renderPad_eq hpad' hnone depth
  have hr := renderAt_of_isDue hget hdue s.template.length values
  rw [hdepth, hp, ← hdepth, Option.map_some] at hr
  refine ⟨lines, log, hlines, (render_of_not_refused h hr).trans ?_⟩
  cases values <;> rfl

/-- What a render of a segment with its pad comes to, compared with one without: the two agree in all
but the output, the log and the template; the templates, in all but the pad that was dropped and in
that the pad has been rendered; and the output has one line for each of the pad before those of the
segment. -/
structure AddsPad (s : Session) (name : String) (seg pad : Segment) (padded plain : Session) :
    Prop where
  same : padded = { plain with
    output := padded.output, log := padded.log, template := padded.template }
  templates : padded.template.modify name Segment.withoutPad
    = plain.template.modify seg.control.padSegment Segment.rendered
  rendered : ∃ p, padded.template.get? seg.control.padSegment = some p ∧
    p.control.isFirstTime = false
  output : ∃ padLines lines, padLines.length = pad.items.length ∧
    lines.length = seg.items.length ∧ plain.output = s.output ++ lines ∧
    padded.output = s.output ++ padLines ++ lines

/-- **A render with a pad is one without it, and before its lines one line for each of the pad**, in
every reachable session, whatever the pad says about columns and tab sizes, wherever the column is,
and whatever values come with the request. -/
theorem render_pad {settings : Settings} {s : Session} (hs : Reachable settings s) {name : String}
    {seg : Segment} (hget : s.template.get? name = some seg)
    (hpad : seg.control.padSegment ≠ "") (hrendered : seg.control.isFirstTime = false)
    (values : Option Values) :
    ∃ pad, s.template.get? seg.control.padSegment = some pad ∧
      s.AddsPad name seg pad (s.render (some name) values)
        ((s.withoutPad name).render (some name) values) := by
  obtain ⟨pad, hfound, hne, hnone⟩ := hs.sound.pad hget hpad
  have haccepted := hs.sound.not_refused hget
  have hdue : seg.control.padIsDue = true := Control.padIsDue_iff.mpr ⟨hpad, hrendered⟩
  obtain ⟨padLines, log, hpadLines, hpadded⟩ :=
    render_withPad haccepted hget hdue hfound hnone values
  have hplain := render_withoutPad haccepted hget values
  rw [renderOwn_eq] at hpadded hplain
  rw [ownRendition_withoutPad] at hplain
  rw [hpadded, hplain]
  -- both renders of the segment itself are this one
  let r := (s.enter name values).ownRendition name seg
  have hlines : r.lines.length = seg.items.length := length_ownRendition _ name seg
  refine ⟨pad, hfound, ?_, ?_, ?_, padLines, r.lines, hpadLines, hlines, ?_, rfl⟩
  · rfl
  · exact s.template.modify_rendered_withoutPad hne
  · refine ⟨pad.rendered, ?_, Segment.isFirstTime_rendered (hs.sound.items hfound)⟩
    exact (Template.get?_modify_of_ne _ _ hne.symm).trans
      ((Template.get?_modify_self _ _ _).trans (congrArg (Option.map Segment.rendered) hfound))
  · cases values <;> rfl

/-- A pad with an indent and a tab size of its own, behind a line that has moved the column. -/
theorem render_pad_between :
    ∃ s seg pad, Reachable {} s ∧ s.template.get? "Row" = some seg ∧ s.output ≠ [] ∧
      s.AddsPad "Row" seg pad (s.render (some "Row") (some [(.name "cell", .string "b")]))
        ((s.withoutPad "Row").render (some "Row") (some [(.name "cell", .string "b")])) := by
  let ops : List Operation :=
    [.load ["### Rule FTI=3 TAB=2", "@+1 --", "    ==", "### Row PAD=Rule TAB=4", "@+1 <#cell#>"]
      "table",
      .render (some "Row") (some [(.name "cell", .string "a")])]
  let s := (ofSettings {}).run ops
  have hget : s.template.get? "Row" = some
      { control := { isFirstTime := false, padSegment := "Rule", tabSize := some 4 },
        items := [⟨1, true, false, "<#cell#>"⟩] } := by decide +kernel
  have houtput : s.output = ["    a"] := by decide +kernel
  obtain ⟨pad, -, h⟩ :=
    render_pad ⟨ops, rfl⟩ hget (by decide) rfl (some [(.name "cell", .string "b")])
  exact ⟨s, _, pad, ⟨ops, rfl⟩, hget, by simp [houtput], h⟩

end Session

end Stencil
