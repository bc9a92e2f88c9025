/-
# The running column

The column is moved by indents in either direction, the tab size is set by hosts and headers to any
number, and both are put away and brought back where a pad is rendered.  Each of these has its own
bound, and each is kept: between operations the column is not left of the margin, the tab size is
between 1 and 9, and nothing is put away.

For that the session need only have begun with a tab size in these bounds, which is what the check of
the settings is for.

* `Column.AtRest.rendition`: text lines keep the bounds;
* `Sound.moves`: what an operation does to the output and the column;
* `Reachable.column_atRest`: the bounds in every reachable session, and the columns of the lines.
-/
import Stencil.Proofs.Session.Bindings
import Stencil.Proofs.Session.History

namespace Stencil

namespace Column

/-! ## 1. Bounds -/

/-- A tab size is in its bounds. -/
def InBounds (n : Int) : Prop := leastTabSize ≤ n ∧ n ≤ greatestTabSize

/-- The column as it is between operations. -/
structure AtRest (c : Column) : Prop where
  column : 0 ≤ c.column
  tabSize : InBounds c.tabSize
  saved : c.saved = []

theorem atRest_start {n : Int} (h : InBounds n) : (start n).AtRest := ⟨Int.le_refl 0, h, rfl⟩

namespace AtRest

variable {c : Column}

theorem setTabSize (h : c.AtRest) (n : Int) : (c.setTabSize n).1.AtRest :=
  ⟨h.column, tabSize_setTabSize c n, h.saved⟩

theorem withTab (h : c.AtRest) (tab : Option Int) : (c.withTab tab).AtRest := by
  cases tab with
  | none => exact h
  | some n => exact h.setTabSize n

theorem advance (h : c.AtRest) (segment : String) (item : TextItem) :
    (c.advance segment item).2.1.AtRest := by
  have hnonneg := c.advance_nonneg segment item
  simp only [Column.advance] at hnonneg ⊢
  -- a one-time line leaves the column where it was
  split
  · exact h
  · exact ⟨hnonneg, h.tabSize, h.saved⟩

theorem advanceFirst (h : c.AtRest) (segment : String) (n : Int) (item : TextItem) :
    (c.advanceFirst segment n item).2.1.AtRest := by
  have hnonneg := c.advanceFirst_nonneg segment n item
  unfold Column.advanceFirst at hnonneg ⊢
  split at hnonneg
  · rename_i hzero
    rw [if_pos hzero]
    exact h.advance segment item
  · rename_i hne
    rw [if_neg hne]
    exact ⟨hnonneg, h.tabSize, h.saved⟩

theorem moves (h : c.AtRest) {name : String} {control : Control} {items : List TextItem}
    {m : String × Move} (hm : m ∈ Session.moves name control items) : (m.2 c).2.1.AtRest := by
  obtain ⟨item, -, -, hmove⟩ := Session.of_mem_moves hm
  rcases hmove c with hmove | hmove
  · exact hmove ▸ h.advance name item
  · exact hmove ▸ h.advanceFirst name _ item

/-- **Text lines keep the bounds**, if each of their moves does. -/
theorem rendition (h : c.AtRest) {ms : List (String × Move)}
    (hms : ∀ m ∈ ms, ∀ col : Column, col.AtRest → (m.2 col).2.1.AtRest) (d : Delimiters)
    (b : Bindings) (name : String) (p : Position) :
    (Session.rendition d b name p c ms).column.AtRest := by
  induction ms generalizing c p with
  | nil => exact h
  | cons m ms ih =>
    exact ih (hms m List.mem_cons_self c h) (fun m hm => hms m (List.mem_cons_of_mem _ hm)) _

end AtRest

end Column

namespace Settings

theorem boundProblem_eq_nil_iff {s : Setting} {n least greatest : Int} :
    boundProblem s n least (some greatest) = [] ↔ least ≤ n ∧ n ≤ greatest := by
  unfold boundProblem
  split
  · rename_i hlow
    exact iff_of_false (by simp) fun h => Int.not_le.mpr hlow h.1
  · rename_i hlow
    by_cases hhigh : greatest < n
    · simp [hhigh]
    · simp [hhigh, Int.not_lt.mp hlow, Int.not_lt.mp hhigh]

/-- Settings that are accepted have a tab size in the bounds. -/
theorem inBounds_of_validate {settings r : Settings} (h : settings.validate = .ok r) :
    Column.InBounds settings.tabSize := by
  obtain ⟨hproblems, -, -⟩ := validate_eq_ok_iff.mp h
  simp only [problems, List.append_eq_nil_iff] at hproblems
  exact boundProblem_eq_nil_iff.mp hproblems.1.1.1.1.1

end Settings

namespace Session

theorem atRest_ownRendition {s : Session} (h : s.column.AtRest) (name : String) (seg : Segment) :
    (s.ownRendition name seg).column.AtRest :=
  (h.withTab seg.control.tabSize).rendition (fun _ hm _ hcol => hcol.moves hm) _ _ _ _

/-! ## 2. What operations do to the output and the column -/

/-- What an operation does to the output and the column.  Either it moves neither, or it sets the tab
size, or it drops the output and starts over, or it appends the block of a segment, with that of its
pad if it is due, and is left with the column behind it. -/
inductive Moves (s : Session) : Session → Prop
  | keep {s' : Session} : s'.output = s.output → s'.column = s.column → Moves s s'
  | setTab {s' : Session} {n : Int} :
      s'.output = s.output → s'.column = (s.column.setTabSize n).1 → Moves s s'
  | drop {s' : Session} : s'.output = [] → s'.column = s.column.reset → Moves s s'
  | append {s' u : Session} {name : String} {seg : Segment} {values : Option Values}
      {padLines lines : List String} :
      s.template.get? name = some seg → s.Appends s' name seg values padLines lines →
      u.column = s.column → s'.column = (u.ownRendition name seg).column → Moves s s'

theorem moves_load (s : Session) (lines : List String) (name : String) :
    s.Moves (s.load lines name).1 :=
  .drop (s.load_leaves lines name).2.2 (s.load_column lines name)

/-- A request leaves the column where the lines of its segment have left it. -/
theorem Sound.moves_render {s : Session} (hs : s.Sound) (segment : Option String)
    (values : Option Values) : s.Moves (s.render segment values) := by
  cases hm : s.refusal? (segment.getD "") with
  | some m =>
    rw [render_of_refusal hm]
    exact .keep rfl rfl
  | none =>
    obtain ⟨seg, hget⟩ := exists_of_not_refused hm
    have hrender : s.render segment values = s.render (some (segment.getD "")) values := rfl
    obtain ⟨padLines, lines, h⟩ := hs.appends_render hget values
    rw [hrender]
    -- the pad is put aside again, so that the lines of the segment begin at the column of before
    refine .append hget h (s.beforeOwn_column (segment.getD "") seg values) ?_
    rw [hs.render_eq hget, renderOwn_eq]

/-- **What an operation does to the output and the column.** -/
theorem Sound.moves {s : Session} (hs : s.Sound) (op : Operation) : s.Moves (s.perform op).1 := by
  cases op with
  | load lines name => exact s.moves_load lines name
  | loadFile files path =>
    rw [perform]
    rcases s.loadFile_session files path with
      ⟨log, h⟩ | ⟨log, h⟩ | ⟨log, lines, name, path', h⟩
    · rw [h]
      exact .keep rfl rfl
    · rw [h]
      exact .drop rfl rfl
    · rw [h]
      exact .drop (load_leaves { s with log } lines name).2.2
        (load_column { s with log } lines name)
  | render segment values => exact hs.moves_render segment values
  | loadValues => exact .keep rfl rfl
  | setTabSize n => exact .setTab rfl rfl
  | setDelimiters start stop escape =>
    have h := s.delimiterChange start stop escape
    rw [perform]
    generalize s.setDelimiters start stop escape = r at h ⊢
    cases h with
    | accepted => exact .keep rfl rfl
    | refused => exact .drop rfl rfl
  | resetAll => exact .drop rfl rfl
  | resetOutput mention => cases mention <;> exact .drop rfl rfl
  | resetSegment segment =>
    rw [perform, resetSegment]
    dsimp only
    split <;> exact .keep rfl rfl
  | writeOutput files path reset =>
    have h := s.writing files path reset
    rw [perform]
    generalize s.writeOutput files path reset = r at h ⊢
    rcases r with ⟨s', files', answer⟩
    cases h with
    | broken => exact .keep rfl rfl
    | failed => exact .keep rfl rfl
    | kept => exact .keep rfl rfl
    | dropped => exact .drop rfl rfl

/-- Whatever is done to the column, it is in its bounds afterwards. -/
theorem Moves.atRest {s s' : Session} (h : s.Moves s') (hhome : Column.InBounds s.column.home)
    (hs : s.column.AtRest) : s'.column.AtRest := by
  cases h with
  | keep _ hcolumn => exact hcolumn ▸ hs
  | setTab _ hcolumn => exact hcolumn ▸ hs.setTabSize _
  | drop _ hcolumn => exact hcolumn ▸ Column.atRest_start hhome
  | append _ _ hbefore hcolumn => exact hcolumn ▸ atRest_ownRendition (hbefore ▸ hs) _ _

/-! ## 3. Reachable sessions -/

/-- What comes of the output when an operation is performed: it stays, it is dropped, or the block of
a segment is appended, with that of its pad if it is due, and all lines of these stand at the margin
or right of it. -/
inductive Places (s : Session) : Session → Prop
  | same {s' : Session} : s'.output = s.output → Places s s'
  | none {s' : Session} : s'.output = [] → Places s s'
  | block {s' : Session} {name : String} {seg : Segment} {values : Option Values}
      {padLines lines : List String} :
      s.template.get? name = some seg → s.Appends s' name seg values padLines lines →
      (∀ n ∈ seg.columns name s.column, 0 ≤ n) →
      (∀ pad, s.template.get? seg.control.padSegment = some pad →
        ∀ n ∈ pad.columns seg.control.padSegment s.column, 0 ≤ n) → Places s s'

theorem Moves.places {s s' : Session} (h : s.Moves s') : s.Places s' := by
  cases h with
  | keep houtput => exact .same houtput
  | setTab houtput => exact .same houtput
  | drop houtput => exact .none houtput
  | append hget happends =>
    exact .block hget happends (fun _ => Segment.columns_nonneg)
      fun _ _ _ => Segment.columns_nonneg

/-- **Between operations the column is not left of the margin, the tab size is between 1 and 9, and
nothing is saved**, in every session that operations lead to from settings that are accepted; and
whatever operation comes next, every line that it appends stands at the margin or right of it. -/
theorem Reachable.column_atRest {settings : Settings} (hvalid : settings.validate = .ok settings)
    {s : Session} (hs : Reachable settings s) :
    s.column.AtRest ∧ ∀ op, s.Places (s.perform op).1 := by
  have hbounds : Column.InBounds settings.tabSize := Settings.inBounds_of_validate hvalid
  have hstart : (ofSettings settings).column.AtRest := Column.atRest_start hbounds
  refine ⟨?_, fun op => (hs.sound.moves op).places⟩
  -- the tab size to which a reset goes back is in its bounds too, since it is that of the settings
  refine (hs.induction (P := fun s => s.Sound ∧ Column.InBounds s.column.home ∧ s.column.AtRest)
    ⟨.of_nil rfl, hbounds, hstart⟩ ?_).2.2
  rintro s op ⟨hsound, hhome, hrest⟩
  have hstep := perform_step s op
  exact ⟨hstep.sound hsound, hstep.sameHome.2 ▸ hhome, (hsound.moves op).atRest hhome hrest⟩

/-- Indents that reach over the margin, and tab sizes out of their bounds, set by headers and by the
host; the pad moves the column far to the right. -/
theorem Reachable.column_atRest_truncated :
    ∃ settings s op, settings.validate = .ok settings ∧ Reachable settings s ∧
      s.output = ["x", "   y"] ∧ s.column = { column := 3, tabSize := 9, home := 4 } ∧
      s.column.AtRest ∧ op = .render (some "A") none ∧
      (s.perform op).1.output = s.output ++ ["                  |", "x", "   y"] ∧
      s.Places (s.perform op).1 := by
  let ops : List Operation :=
    [.setTabSize (-5),
      .load ["### Bar FTI=2 TAB=99", "@-9 |", "### A FTI=-3 PAD=Bar TAB=0", "@-5 x", "@+3 y"]
        "template",
      .render (some "A") none, .setTabSize 100]
  let s := (ofSettings {}).run ops
  have hvalid : ({} : Settings).validate = .ok {} := rfl
  have hs : Reachable {} s := ⟨ops, rfl⟩
  have houtput : s.output = ["x", "   y"] := by decide +kernel
  have hcolumn : s.column = { column := 3, tabSize := 9, home := 4 } := by decide +kernel
  have hrendered : (s.perform (.render (some "A") none)).1.output
      = s.output ++ ["                  |", "x", "   y"] := by decide +kernel
  obtain ⟨hrest, hplaces⟩ := Reachable.column_atRest (s := s) hvalid hs
  exact ⟨{}, s, _, hvalid, hs, houtput, hcolumn, hrest, rfl, hrendered, hplaces _⟩

end Session

end Stencil
