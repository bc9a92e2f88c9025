/-
# What rendering a segment comes to

Rendering goes line by line through the whole session.  Here it is told in one piece: text lines at a
position and a column, with the bindings of their segment, come to a `Rendition`, which is the lines of
output, the column behind them, and what is noted on the way.  Nothing else enters into it, and nothing
else of the session changes.

A segment with its pad is then two renditions, one after the other, and what stands between them is
told by two equations (`renderAt_of_notDue`, `renderAt_of_isDue`).

* `foldl_renderLine`: text lines add their rendition to the session;
* `renderOwn_eq`: what a segment without its pad does to the session;
* `refusal_of_refusal?`: why a request is refused;
* `sameStack_ownRendition`: no rendition reaches below the state that was saved.
-/
import Stencil.Proofs.Column
import Stencil.Proofs.Table
import Stencil.Session.Render

namespace Stencil

/-! ## 1. Moves of the column -/

/-- How a text line finds its column. -/
abbrev Move := Column → Int × Column × List Message

namespace Column

/-- The column with the tab size of a header, if that has one. -/
def withTab (c : Column) : Option Int → Column
  | none => c
  | some n => (c.setTabSize n).1

theorem sameStack_withTab (c : Column) (tab : Option Int) : c.SameStack (c.withTab tab) := by
  cases tab <;> exact ⟨rfl, rfl⟩

end Column

namespace Session

/-- The text lines of a segment with their moves.  Only the first line of a first render can begin
elsewhere than its item says. -/
def moves (name : String) (c : Control) : List TextItem → List (String × Move)
  | [] => []
  | item :: items =>
    (item.text, fun col =>
      if c.isFirstTime then col.advanceFirst name c.firstTimeIndent item else col.advance name item)
      :: items.map fun item => (item.text, fun col => col.advance name item)

theorem length_moves (name : String) (c : Control) (items : List TextItem) :
    (moves name c items).length = items.length := by
  cases items <;> simp [moves]

/-- A text line shows the text of an item, and it moves the column as that item does, be it the first
line of a first render or another. -/
theorem of_mem_moves {name : String} {c : Control} {items : List TextItem} {m : String × Move}
    (h : m ∈ moves name c items) : ∃ item ∈ items, m.1 = item.text ∧
      ∀ col : Column, m.2 col = col.advance name item ∨
        m.2 col = col.advanceFirst name c.firstTimeIndent item := by
  cases items with
  | nil => simp [moves] at h
  | cons item items =>
    rcases List.mem_cons.mp h with rfl | h
    · refine ⟨item, List.mem_cons_self, rfl, fun col => ?_⟩
      dsimp only
      split
      · exact .inr rfl
      · exact .inl rfl
    · obtain ⟨item, hitem, rfl⟩ := List.mem_map.mp h
      exact ⟨item, List.mem_cons_of_mem _ hitem, rfl, fun col => .inl rfl⟩

theorem sameStack_moves {name : String} {c : Control} {items : List TextItem}
    {m : String × Move} (h : m ∈ moves name c items) (col : Column) :
    col.SameStack (m.2 col).2.1 := by
  obtain ⟨item, -, -, hmove⟩ := of_mem_moves h
  rcases hmove col with hmove | hmove
  · exact hmove ▸ Column.sameStack_advance col name item
  · exact hmove ▸ Column.sameStack_advanceFirst col name _ item

theorem renderItems_eq_foldl (s : Session) (name : String) (c : Control) (items : List TextItem) :
    s.renderItems name c items
      = (moves name c items).foldl (fun s m => s.renderLine name m.1 m.2) s := by
  cases items with
  | nil => simp [renderItems, moves]
  | cons item items =>
    -- only the first line asks whether this is the first time
    cases hc : c.isFirstTime <;>
      simp [renderItems, moves, hc, List.foldl_map, renderNext]

/-! ## 2. Renditions -/

/-- What text lines come to: lines of output, the column behind them, and what is noted. -/
structure Rendition where
  lines : List String
  column : Column
  log : Log

/-- What text lines of a segment come to, from a position and a column on. -/
def rendition (d : Delimiters) (b : Bindings) (name : String) :
    Position → Column → List (String × Move) → Rendition
  | _, c, [] => ⟨[], c, []⟩
  | p, c, (text, move) :: rest =>
    let p := { p with line := p.line + 1 }
    let (n, c, said) := move c
    let (text, noted) := substitute d name b text
    let r := rendition d b name p c rest
    ⟨outputLine n text :: r.lines, r.column,
      Log.report [] p ((said ++ noted).map (Notice.warning .generating)) ++ r.log⟩

theorem length_rendition (d : Delimiters) (b : Bindings) (name : String) (p : Position) (c : Column)
    (ms : List (String × Move)) : (rendition d b name p c ms).lines.length = ms.length := by
  induction ms generalizing p c with
  | nil => rfl
  | cons m ms ih => simp [rendition, ih]

theorem sameStack_rendition {d : Delimiters} {b : Bindings} {name : String} {p : Position}
    {c : Column} {ms : List (String × Move)}
    (h : ∀ m ∈ ms, ∀ col, Column.SameStack col (m.2 col).2.1) :
    c.SameStack (rendition d b name p c ms).column := by
  induction ms generalizing p c with
  | nil => exact ⟨rfl, rfl⟩
  | cons m ms ih =>
    exact (h m List.mem_cons_self c).trans (ih fun m hm => h m (List.mem_cons_of_mem _ hm))

/-- The session with what `n` text lines came to. -/
def extend (s : Session) (n : Nat) (r : Rendition) : Session :=
  { s with
    position := { s.position with line := s.position.line + n }
    column := r.column
    output := s.output ++ r.lines
    log := s.log ++ r.log }

/-- **Text lines add their rendition to the session**, and change nothing else. -/
theorem foldl_renderLine (s : Session) (name : String) (ms : List (String × Move)) :
    ms.foldl (fun s m => s.renderLine name m.1 m.2) s
      = s.extend ms.length
          (rendition s.delimiters (s.tokens.bindingsOf (some name)) name s.position s.column ms) := by
  -- the session goes along with the lines: each of them is rendered behind those before it
  induction ms generalizing s with
  | nil => simp [rendition, extend]
  | cons m ms ih =>
    rw [List.foldl_cons, ih]
    simp only [renderLine, warn, report, extend, rendition, List.length_cons, Log.report,
      List.map_append, List.append_assoc, List.nil_append, List.cons_append, Int.natCast_add,
      Int.cast_ofNat_Int, Int.add_assoc, Int.add_comm 1]

end Session

/-! ## 3. A segment without its pad -/

/-- The segment once it has been rendered; without text nothing happens to it. -/
def Segment.rendered (seg : Segment) : Segment :=
  if seg.items = [] then seg
  else { seg with control := { seg.control with isFirstTime := false } }

namespace Session

/-- What the text lines of a segment come to in a session that has come to the segment. -/
def ownRendition (s : Session) (name : String) (seg : Segment) : Rendition :=
  rendition s.delimiters (s.tokens.bindingsOf (some name)) name s.position
    (s.column.withTab seg.control.tabSize) (moves name seg.control seg.items)

/-- What is noted when the tab size of a segment is set. -/
def tabNotices (s : Session) : Option Int → List Message
  | none => []
  | some n => (s.column.setTabSize n).2

/-- **What a segment without its pad does to the session**: it adds the rendition of its lines, and
it has been rendered. -/
theorem renderOwn_eq (s : Session) (name : String) (seg : Segment) :
    s.renderOwn name seg =
      { s with
        position := { s.position with line := s.position.line + seg.items.length }
        column := (s.ownRendition name seg).column
        output := s.output ++ (s.ownRendition name seg).lines
        log := (s.log.report s.position
          ((s.tabNotices seg.control.tabSize).map (Notice.warning .setup)))
            ++ (s.ownRendition name seg).log
        template := s.template.modify name Segment.rendered } := by
  -- a segment without a tab size leaves the column and says nothing about it
  cases ht : seg.control.tabSize with
  | none =>
    simp [renderOwn, ht, renderItems_eq_foldl, foldl_renderLine, length_moves, markRendered, extend,
      ownRendition, tabNotices, Column.withTab, Log.report]
    rfl
  | some n =>
    simp [renderOwn, ht, renderItems_eq_foldl, foldl_renderLine, length_moves, markRendered, extend,
      ownRendition, tabNotices, Column.withTab, setTabSize, warn, report]
    rfl

theorem length_ownRendition (s : Session) (name : String) (seg : Segment) :
    (s.ownRendition name seg).lines.length = seg.items.length := by
  rw [ownRendition, length_rendition, length_moves]

theorem sameStack_ownRendition (s : Session) (name : String) (seg : Segment) :
    s.column.SameStack (s.ownRendition name seg).column :=
  (Column.sameStack_withTab _ _).trans
    (sameStack_rendition fun _ hm col => sameStack_moves hm col)

/-! ## 4. A segment with its pad -/

def renderPad (depth : Nat) (s : Session) (pad : String) : Option Session :=
  s.aside fun s => s.renderAt depth pad none

theorem renderAt_of_notDue {s : Session} {name : String} {seg : Segment}
    (hget : s.template.get? name = some seg) (hdue : seg.control.padIsDue = false) (depth : Nat)
    (values : Option Values) :
    s.renderAt (depth + 1) name values = some ((s.enter name values).renderOwn name seg) := by
  simp only [renderAt, hget, Option.bind_eq_bind, Option.bind_some, hdue, Bool.false_eq_true,
    if_false]

theorem renderAt_of_isDue {s : Session} {name : String} {seg : Segment}
    (hget : s.template.get? name = some seg) (hdue : seg.control.padIsDue = true) (depth : Nat)
    (values : Option Values) :
    s.renderAt (depth + 1) name values =
      ((s.enter name values).renderPad depth seg.control.padSegment).map fun s =>
        s.renderOwn name seg := by
  rw [Option.map_eq_bind]
  simp only [renderAt, hget, Option.bind_eq_bind, Option.bind_some, hdue, if_true]
  rfl

/-! ## 5. Requests -/

/-- Why a request for a segment is refused: the name is blank, there is no template, the template has no
segment with the name, or the segment has no text lines. -/
inductive Refusal (s : Session) (name : String) : Message → Prop
  | blank : Text.isBlank name = true → Refusal s name .blankSegmentName
  | unloaded : Text.isBlank name = false → s.isLoaded = false →
      Refusal s name (.renderBeforeLoad name)
  | unknown : Text.isBlank name = false → s.isLoaded = true → s.template.get? name = none →
      Refusal s name (.unknownSegment name)
  | bare {seg : Segment} : s.template.get? name = some seg → seg.items = [] →
      Refusal s name (.segmentWithoutLines name)

theorem refusal_of_refusal? {s : Session} {name : String} {m : Message}
    (h : s.refusal? name = some m) : s.Refusal name m := by
  unfold refusal? at h
  split at h
  · rename_i hblank
    exact Option.some.inj h ▸ .blank hblank
  · rename_i hblank
    have hblank : Text.isBlank name = false := Bool.eq_false_iff.mpr hblank
    split at h
    · rename_i hloaded
      exact Option.some.inj h ▸ .unloaded hblank (by simpa using hloaded)
    · rename_i hloaded
      split at h
      · rename_i hget
        exact Option.some.inj h ▸ .unknown hblank (by simpa using hloaded) hget
      · rename_i hget
        split at h
        · rename_i hitems
          exact Option.some.inj h ▸ .bare hget hitems
        · exact absurd h (by simp)

theorem exists_refusal_of_blank {s : Session} {name : String} (h : Text.isBlank name = true) :
    ∃ m, s.refusal? name = some m := ⟨_, by rw [refusal?, if_pos h]⟩

theorem exists_refusal_of_not_loaded {s : Session} (h : s.isLoaded = false) (name : String) :
    ∃ m, s.refusal? name = some m := by
  cases hblank : Text.isBlank name with
  | true => exact exists_refusal_of_blank hblank
  | false => exact ⟨.renderBeforeLoad name, by simp [refusal?, hblank, h]⟩

theorem exists_refusal_of_missing {s : Session} {name : String} (h : s.template.get? name = none) :
    ∃ m, s.refusal? name = some m := by
  cases hblank : Text.isBlank name with
  | true => exact exists_refusal_of_blank hblank
  | false =>
    cases hloaded : s.isLoaded with
    | false => exact exists_refusal_of_not_loaded hloaded name
    | true => exact ⟨.unknownSegment name, by simp [refusal?, hblank, hloaded, h]⟩

theorem render_of_refusal {s : Session} {segment : Option String} {m : Message}
    (h : s.refusal? (segment.getD "") = some m) (values : Option Values) :
    s.render segment values
      = { s with position := ⟨segment.getD "", 0⟩ }.warn .generating [m] := by
  have hmoved : { s with position := ⟨segment.getD "", 0⟩ }.refusal? (segment.getD "") = some m := h
  simp only [render, hmoved]

theorem render_of_accepted {s : Session} {segment : Option String}
    (h : s.refusal? (segment.getD "") = none) (values : Option Values) :
    let moved : Session := { s with position := ⟨segment.getD "", 0⟩ }
    s.render segment values =
      { (moved.renderAt (s.template.length + 1) (segment.getD "") values).getD moved with
        isWritten := false } := by
  have hmoved : { s with position := ⟨segment.getD "", 0⟩ }.refusal? (segment.getD "") = none := h
  simp only [render, hmoved]

end Session

end Stencil
