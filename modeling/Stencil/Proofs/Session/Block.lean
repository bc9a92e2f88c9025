/-
# Blocks of output

A request that is met appends one block: the lines of the segment, and before them those of its pad if
that is due.  Each line is the blanks up to its column and the text of its item, with the values of
the segment that the item belongs to.

The columns follow from the items, the options and the column before the block (`Segment.columns`),
so that they are told apart from the session.  Segment and pad both begin at that column.

* `lines_ownRendition`: what the text lines of a segment come to;
* `Sound.renderAt_eq`: a render, one level deep;
* `render_appends`: the block that a request appends.
-/
import Stencil.Proofs.Session.Pad

namespace Stencil

/-! ## 1. Columns -/

/-- The columns of text lines that are not the first of a first render. -/
def Column.trail (c : Column) (name : String) : List TextItem → List Int
  | [] => []
  | item :: items => (c.advance name item).1 :: (c.advance name item).2.1.trail name items

/-- The columns of the text lines of a segment that is rendered from a column on.  Only the first line
of a first render can begin elsewhere than its item says. -/
def Segment.columns (seg : Segment) (name : String) (c : Column) : List Int :=
  match seg.items with
  | [] => []
  | item :: items =>
    let c := c.withTab seg.control.tabSize
    let first := if seg.control.isFirstTime then
        c.advanceFirst name seg.control.firstTimeIndent item
      else c.advance name item
    first.1 :: first.2.1.trail name items

theorem Column.length_trail (c : Column) (name : String) (items : List TextItem) :
    (c.trail name items).length = items.length := by
  induction items generalizing c with
  | nil => rfl
  | cons item items ih => simp [trail, ih]

theorem Column.trail_nonneg {c : Column} {name : String} {items : List TextItem} {n : Int}
    (h : n ∈ c.trail name items) : 0 ≤ n := by
  induction items generalizing c with
  | nil => simp [trail] at h
  | cons item items ih =>
    rcases List.mem_cons.mp h with rfl | h
    · exact c.advance_nonneg name item
    · exact ih h

theorem Segment.length_columns (seg : Segment) (name : String) (c : Column) :
    (seg.columns name c).length = seg.items.length := by
  unfold columns
  split <;> simp [*, Column.length_trail]

/-- What was saved has no part in a move. -/
theorem Column.advance_saved (c : Column) (saved : List (Int × Int)) (name : String)
    (item : TextItem) :
    { c with saved }.advance name item =
      ((c.advance name item).1, { (c.advance name item).2.1 with saved },
        (c.advance name item).2.2) := by
  cases h : item.isOneTime <;> simp [advance, h]

theorem Column.advanceFirst_saved (c : Column) (saved : List (Int × Int)) (name : String) (n : Int)
    (item : TextItem) :
    { c with saved }.advanceFirst name n item =
      ((c.advanceFirst name n item).1, { (c.advanceFirst name n item).2.1 with saved },
        (c.advanceFirst name n item).2.2) := by
  unfold advanceFirst
  split
  · exact c.advance_saved saved name item
  · rfl

theorem Column.trail_saved (c : Column) (saved : List (Int × Int)) (name : String)
    (items : List TextItem) : { c with saved }.trail name items = c.trail name items := by
  induction items generalizing c with
  | nil => rfl
  | cons item items ih => simp only [trail, advance_saved, ih]

/-- What was saved does not enter into the columns of the lines. -/
theorem Segment.columns_save (seg : Segment) (name : String) (c : Column) :
    seg.columns name c.save = seg.columns name c := by
  -- saving leaves the column and the tab size as they are
  have htab : c.save.withTab seg.control.tabSize =
      { c.withTab seg.control.tabSize with saved := (c.column, c.tabSize) :: c.saved } := by
    cases seg.control.tabSize <;> rfl
  unfold columns
  split
  · rfl
  · simp only [htab, Column.advance_saved, Column.advanceFirst_saved]
    split <;> simp only [Column.trail_saved]

theorem Segment.columns_nonneg {seg : Segment} {name : String} {c : Column} {n : Int}
    (h : n ∈ seg.columns name c) : 0 ≤ n := by
  unfold columns at h
  split at h
  · simp at h
  · rcases List.mem_cons.mp h with rfl | h
    · split
      · exact Column.advanceFirst_nonneg _ name _ _
      · exact Column.advance_nonneg _ name _
    · exact Column.trail_nonneg h

namespace Session

/-! ## 2. Lines -/

/-- What a text line of a segment comes to at a column: that many blanks, and the text with the values
of its tokens. -/
def lineAt (s : Session) (name : String) (n : Nat) (item : TextItem) : String :=
  String.ofList (List.replicate n ' ') ++
    (substitute s.delimiters name (s.tokens.bindingsOf (some name)) item.text).1

theorem outputLine_eq_lineAt (s : Session) (name : String) (n : Int) (item : TextItem) :
    outputLine n (substitute s.delimiters name (s.tokens.bindingsOf (some name)) item.text).1
      = s.lineAt name n.toNat item := by
  simp [outputLine, lineAt, String.ofList_append]

theorem lines_trail (d : Delimiters) (b : Bindings) (name : String) (p : Position) (c : Column)
    (items : List TextItem) :
    (rendition d b name p c
        (items.map fun item => (item.text, fun col => col.advance name item))).lines
      = List.zipWith (fun n item => outputLine n (substitute d name b item.text).1)
          (c.trail name items) items := by
  induction items generalizing p c with
  | nil => rfl
  | cons item items ih => simp only [List.map_cons, rendition, Column.trail, List.zipWith, ih]

/-- The lines of a segment stand at its columns, one for each item. -/
theorem lines_ownRendition (s : Session) (name : String) (seg : Segment) :
    (s.ownRendition name seg).lines
      = List.zipWith (fun n item => s.lineAt name n.toNat item)
          (seg.columns name s.column) seg.items := by
  rcases seg with ⟨control, _ | ⟨item, items⟩⟩
  · rfl
  · simp only [ownRendition, moves, rendition, Segment.columns, List.zipWith, lines_trail,
      outputLine_eq_lineAt]

/-- Lines of output are those of a segment that is rendered from a column on: one for each item, in
order, at the column of the item. -/
structure IsBlock (s : Session) (name : String) (seg : Segment) (c : Column) (lines : List String) :
    Prop where
  length : lines.length = seg.items.length
  line : ∀ (i : Nat) (item : TextItem), seg.items[i]? = some item → ∃ n : Nat,
    (seg.columns name c)[i]? = some (n : Int) ∧ lines[i]? = some (s.lineAt name n item)

/-- The lines that a segment comes to are its block. -/
theorem isBlock_ownRendition (s : Session) (name : String) (seg : Segment) :
    s.IsBlock name seg s.column (s.ownRendition name seg).lines where
  length := length_ownRendition s name seg
  line i item hitem := by
    have hi : i < (seg.columns name s.column).length := by
      rw [Segment.length_columns]
      exact (List.getElem?_eq_some_iff.mp hitem).1
    -- columns are not negative, so that each is a number of blanks
    have hnonneg := Segment.columns_nonneg (List.getElem_mem hi)
    refine ⟨((seg.columns name s.column)[i]).toNat, ?_, ?_⟩
    · rw [Int.toNat_of_nonneg hnonneg, List.getElem?_eq_getElem hi]
    · rw [lines_ownRendition, List.getElem?_zipWith, List.getElem?_eq_getElem hi, hitem]

/-- The lines of a block depend on the session by the delimiters and the bindings alone. -/
theorem IsBlock.congr {s t : Session} {name : String} {seg : Segment} {c : Column}
    {lines : List String} (h : s.IsBlock name seg c lines) (hd : t.delimiters = s.delimiters)
    (ht : t.tokens = s.tokens) : t.IsBlock name seg c lines := by
  have hline : ∀ n item, t.lineAt name n item = s.lineAt name n item := fun n item => by
    rw [lineAt, lineAt, hd, ht]
  refine ⟨h.length, fun i item hitem => ?_⟩
  obtain ⟨n, hn, hl⟩ := h.line i item hitem
  exact ⟨n, hn, hl.trans (congrArg some (hline n item).symm)⟩

/-! ## 3. Blocks -/

/-- The pad that a segment is rendered behind. -/
def duePad? (s : Session) (seg : Segment) : Option Segment :=
  if seg.control.padIsDue then s.template.get? seg.control.padSegment else none

/-- The session in which the text lines of a segment are rendered: values have been supplied, and
the pad has been rendered if it is due. -/
def beforeOwn (s : Session) (name : String) (seg : Segment) (values : Option Values) : Session :=
  match s.duePad? seg with
  | none => s.enter name values
  | some pad => (s.enter name values).behindPad seg.control.padSegment pad

/-- Either no pad is due, or the pad is there and has none itself. -/
theorem Sound.beforeOwn_cases {s : Session} (hs : s.Sound) {name : String} {seg : Segment}
    (hget : s.template.get? name = some seg) (values : Option Values) :
    (seg.control.padIsDue = false ∧ s.beforeOwn name seg values = s.enter name values) ∨
      (seg.control.padIsDue = true ∧ ∃ pad, s.template.get? seg.control.padSegment = some pad ∧
        pad.control.padSegment = "" ∧
        s.beforeOwn name seg values =
          (s.enter name values).behindPad seg.control.padSegment pad) := by
  cases hdue : seg.control.padIsDue with
  | false => exact .inl ⟨rfl, by simp [beforeOwn, duePad?, hdue]⟩
  | true =>
    -- in a sound session the pad of a segment is there, and has no pad
    obtain ⟨pad, hpad, -, hnone⟩ := hs.pad hget (Control.padIsDue_iff.mp hdue).1
    exact .inr ⟨rfl, pad, hpad, hnone, by simp [beforeOwn, duePad?, hdue, hpad]⟩

/-- A segment of a sound session is rendered, with its pad at most one level deep. -/
theorem Sound.renderAt_eq {s : Session} (hs : s.Sound) {name : String} {seg : Segment}
    (hget : s.template.get? name = some seg) (values : Option Values) (depth : Nat) :
    s.renderAt (depth + 2) name values
      = some ((s.beforeOwn name seg values).renderOwn name seg) := by
  rcases hs.beforeOwn_cases hget values with ⟨hdue, hbefore⟩ | ⟨hdue, pad, hpad, hnone, hbefore⟩
  · rw [renderAt_of_notDue hget hdue, hbefore]
  -- coming to the segment leaves the template as it is
  · have hpad' : (s.enter name values).template.get? seg.control.padSegment = some pad := by
      cases values <;> exact hpad
    rw [renderAt_of_isDue hget hdue, renderPad_eq_behindPad hpad' hnone, hbefore, Option.map_some]

theorem Sound.render_eq {s : Session} (hs : s.Sound) {name : String} {seg : Segment}
    (hget : s.template.get? name = some seg) (values : Option Values) :
    s.render (some name) values
      = { (s.beforeOwn name seg values).renderOwn name seg with isWritten := false } := by
  obtain ⟨depth, hdepth⟩ := Table.exists_length_of_get?_eq_some hget
  have hr := hs.renderAt_eq hget values depth
  exact render_of_not_refused (hs.not_refused hget) (hdepth ▸ hr)

section beforeOwn

variable (s : Session) (name : String) (seg : Segment) (values : Option Values)

theorem enter_output : (s.enter name values).output = s.output := by cases values <;> rfl

theorem enter_column : (s.enter name values).column = s.column := by cases values <;> rfl

theorem enter_delimiters : (s.enter name values).delimiters = s.delimiters := by
  cases values <;> rfl

/-- The tokens with the values that come with a request. -/
theorem enter_tokens :
    (s.enter name values).tokens
      = if values.isSome then (s.tokens.load (some name) values).1 else s.tokens := by
  cases values <;> rfl

theorem behindPad_output (pad : Segment) :
    let saved : Session := { s with column := s.column.save }
    (s.behindPad name pad).output
      = s.output ++ ((saved.enter name none).ownRendition name pad).lines := by
  rw [behindPad, renderOwn_eq]
  rfl

theorem behindPad_delimiters (pad : Segment) :
    (s.behindPad name pad).delimiters = s.delimiters := by
  rw [behindPad, renderOwn_eq]
  rfl

theorem behindPad_tokens (pad : Segment) : (s.behindPad name pad).tokens = s.tokens := by
  rw [behindPad, renderOwn_eq]
  rfl

theorem beforeOwn_column : (s.beforeOwn name seg values).column = s.column := by
  unfold beforeOwn
  split <;> exact s.enter_column name values

theorem beforeOwn_delimiters : (s.beforeOwn name seg values).delimiters = s.delimiters := by
  unfold beforeOwn
  split
  · exact s.enter_delimiters name values
  · rw [behindPad_delimiters, enter_delimiters]

theorem beforeOwn_tokens :
    (s.beforeOwn name seg values).tokens = (s.enter name values).tokens := by
  unfold beforeOwn
  split
  · rfl
  · exact behindPad_tokens _ _ _

/-- The lines of a pad are its block, from the column on at which the segment goes on. -/
theorem isBlock_behindPad (pad : Segment) : ∃ lines,
    (s.behindPad name pad).output = s.output ++ lines ∧
      (s.behindPad name pad).IsBlock name pad s.column lines := by
  refine ⟨_, s.behindPad_output name pad, ?_⟩
  have h := isBlock_ownRendition ({ s with column := s.column.save }.enter name none) name pad
  have hb := h.congr (s.behindPad_delimiters name pad) (s.behindPad_tokens name pad)
  refine ⟨hb.length, ?_⟩
  -- the pad is rendered with the column saved, which makes no difference to its lines
  rw [← pad.columns_save]
  exact hb.line

end beforeOwn

/-- What stands in the output before the lines of a segment that is requested: nothing, or the block
of the pad that is due. -/
theorem Sound.output_beforeOwn {s : Session} (hs : s.Sound) {name : String} {seg : Segment}
    (hget : s.template.get? name = some seg) (values : Option Values) :
    ∃ padLines, (s.beforeOwn name seg values).output = s.output ++ padLines ∧
      if seg.control.padSegment ≠ "" ∧ seg.control.isFirstTime = false then
        ∃ pad, s.template.get? seg.control.padSegment = some pad ∧ pad.control.padSegment = "" ∧
          (s.beforeOwn name seg values).IsBlock seg.control.padSegment pad s.column padLines
      else padLines = [] := by
  rcases hs.beforeOwn_cases hget values with ⟨hdue, hbefore⟩ | ⟨hdue, pad, hpad, hnone, hbefore⟩
  · have hnot : ¬ (seg.control.padSegment ≠ "" ∧ seg.control.isFirstTime = false) :=
      mt Control.padIsDue_iff.mpr (by simp [hdue])
    simp only [if_neg hnot, hbefore]
    exact ⟨[], (s.enter_output name values).trans (List.append_nil _).symm, rfl⟩
  -- the pad is due, and its lines stand at the column from before the request
  · simp only [if_pos (Control.padIsDue_iff.mp hdue), hbefore]
    obtain ⟨lines, houtput, hblock⟩ :=
      (s.enter name values).isBlock_behindPad seg.control.padSegment pad
    rw [enter_output] at houtput
    rw [enter_column] at hblock
    exact ⟨lines, houtput, pad, hpad, hnone, hblock⟩

/-- What the second session has that the first has not, once a segment has been rendered: the lines of
the segment, and before them, if there is a pad and the segment had been rendered, the lines of the
pad.  The values of the request are in force for both. -/
structure Appends (s r : Session) (name : String) (seg : Segment) (values : Option Values)
    (padLines lines : List String) : Prop where
  output : r.output = s.output ++ padLines ++ lines
  delimiters : r.delimiters = s.delimiters
  tokens : r.tokens = if values.isSome then (s.tokens.load (some name) values).1 else s.tokens
  own : r.IsBlock name seg s.column lines
  pad : if seg.control.padSegment ≠ "" ∧ seg.control.isFirstTime = false then
      ∃ pad, s.template.get? seg.control.padSegment = some pad ∧ pad.control.padSegment = "" ∧
        r.IsBlock seg.control.padSegment pad s.column padLines
    else padLines = []

/-- Rendering a segment of a sound session appends its block. -/
theorem Sound.appends {s : Session} (hs : s.Sound) {name : String} {seg : Segment}
    (hget : s.template.get? name = some seg) (values : Option Values) :
    ∃ padLines lines, s.Appends ((s.beforeOwn name seg values).renderOwn name seg) name seg values
      padLines lines := by
  obtain ⟨padLines, houtput, hpad⟩ := hs.output_beforeOwn hget values
  have hown := isBlock_ownRendition (s.beforeOwn name seg values) name seg
  rw [beforeOwn_column] at hown
  have hdelimiters : ((s.beforeOwn name seg values).renderOwn name seg).delimiters
      = (s.beforeOwn name seg values).delimiters := (keeps_renderOwn _ _ _).delimiters
  -- rendering its lines changes neither the delimiters nor the values that are bound
  have htokens : ((s.beforeOwn name seg values).renderOwn name seg).tokens
      = (s.beforeOwn name seg values).tokens := by rw [renderOwn_eq]
  refine ⟨padLines, _, ?_, ?_, ?_, hown.congr hdelimiters htokens, ?_⟩
  · rw [renderOwn_eq, houtput]
  · rw [hdelimiters, beforeOwn_delimiters]
  · rw [htokens, beforeOwn_tokens, enter_tokens]
  · split at hpad
    · rename_i hdue
      obtain ⟨pad, hfound, hnone, hblock⟩ := hpad
      rw [if_pos hdue]
      exact ⟨pad, hfound, hnone, hblock.congr hdelimiters htokens⟩
    · rename_i hdue
      rw [if_neg hdue]
      exact hpad

/-- What a session has appended depends on its output, delimiters and tokens. -/
theorem Appends.congr {s r r' : Session} {name : String} {seg : Segment} {values : Option Values}
    {padLines lines : List String} (h : s.Appends r name seg values padLines lines)
    (houtput : r'.output = r.output) (hd : r'.delimiters = r.delimiters)
    (ht : r'.tokens = r.tokens) : s.Appends r' name seg values padLines lines where
  output := houtput.trans h.output
  delimiters := hd.trans h.delimiters
  tokens := ht.trans h.tokens
  own := h.own.congr hd ht
  pad := by
    have hpad := h.pad
    split at hpad
    · rename_i hdue
      obtain ⟨pad, hfound, hnone, hblock⟩ := hpad
      rw [if_pos hdue]
      exact ⟨pad, hfound, hnone, hblock.congr hd ht⟩
    · rename_i hnot
      rw [if_neg hnot]
      exact hpad

/-- A request for a segment of a sound session appends its block. -/
theorem Sound.appends_render {s : Session} (hs : s.Sound) {name : String} {seg : Segment}
    (hget : s.template.get? name = some seg) (values : Option Values) :
    ∃ padLines lines, s.Appends (s.render (some name) values) name seg values padLines lines := by
  obtain ⟨padLines, lines, h⟩ := hs.appends hget values
  rw [hs.render_eq hget]
  exact ⟨padLines, lines, h.congr rfl rfl rfl⟩

/-- A pad that is due has lines. -/
theorem Appends.padLines_ne_nil_iff {s r : Session} {name : String} {seg : Segment}
    {values : Option Values} {padLines lines : List String} (hs : s.Sound)
    (h : s.Appends r name seg values padLines lines) :
    padLines ≠ [] ↔ seg.control.padSegment ≠ "" ∧ seg.control.isFirstTime = false := by
  have hpad := h.pad
  split at hpad
  · rename_i hdue
    obtain ⟨pad, hfound, -, hblock⟩ := hpad
    -- every segment has text, and a block has a line for each item
    have hne : padLines ≠ [] := fun e => hs.items hfound
      (List.eq_nil_of_length_eq_zero (hblock.length.symm.trans (e ▸ rfl)))
    exact iff_of_true hne hdue
  · rename_i hnot
    exact iff_of_false (not_not_intro hpad) hnot

end Session

end Stencil
