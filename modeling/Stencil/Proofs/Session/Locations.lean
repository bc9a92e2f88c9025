/-
# Where entries arise

An entry of the log tells the place that it is about.  That place is the position of the session at the
time, and the position is one for everything: a load counts the lines of the template with it, a render
the text lines of the segment, and the pad that goes before a segment those of its own.

It is right all the same.  A render comes to its segment before it looks at the values that come with
the request; each text line counts before it reports; and a pad leaves the position as it was, so that
the segment counts from its own first line (`Placed`).  Loading is told in the same way, by what each
line adds to the log (`Draft.Numbered`).

* `linesSoFar_grows`: one text line of a segment;
* `linesPlaced`: the text lines of a segment;
* `entries_located`: a load, and a request.
-/
import Stencil.Proofs.Session.Block
import Stencil.Proofs.Template.LineNumbers

namespace Stencil

/-- The entry arose while a segment was rendered, at the given position. -/
def Entry.IsAt (p : Position) (e : Entry) : Prop := e.category = .generating ∧ e.position = p

namespace Session

/-! ## 1. Text lines -/

theorem moves_take (name : String) (c : Control) (items : List TextItem) (k : Nat) :
    moves name c (items.take k) = (moves name c items).take k := by
  rcases items with _ | ⟨item, items⟩
  · simp [moves]
  · cases k <;> simp [moves, List.map_take]

/-- What a text line has to say is about that line. -/
theorem log_renderLine (s : Session) (name text : String) (move : Move) :
    s.log.GrowsBy (Entry.IsAt { s.position with line := s.position.line + 1 })
      (s.renderLine name text move).log := by
  have hwarned : ∀ (l : Log) (p : Position) (ms : List Message),
      l.GrowsBy (Entry.IsAt p) (l.report p (ms.map (Notice.warning .generating))) :=
    fun l p ms => .report l (List.forall_mem_map.mpr fun m _ => ⟨rfl, rfl⟩)
  -- the text reports first and then the column, both at the line that has just been counted
  exact (hwarned _ _ _).trans (hwarned _ _ _)

/-- The session once a segment has its tab size and the given number of its text lines has been
rendered. -/
def linesSoFar (s : Session) (name : String) (seg : Segment) (k : Nat) : Session :=
  let s := match seg.control.tabSize with
    | none => s
    | some n => s.setTabSize n
  s.renderItems name seg.control (seg.items.take k)

/-- Text lines add what they have to say, each at its own number, to the log of a session that has come
to their segment. -/
structure LinesPlaced (s : Session) (name : String) (seg : Segment) (after : Log) : Prop where
  tab : s.log.GrowsBy (·.category = .setup) (s.linesSoFar name seg 0).log
  line : ∀ k < seg.items.length, (s.linesSoFar name seg k).log.GrowsBy (Entry.IsAt ⟨name, k + 1⟩)
    (s.linesSoFar name seg (k + 1)).log
  last : (s.linesSoFar name seg seg.items.length).log = after

variable {s : Session} {name : String} {seg : Segment}

/-- The position counts the text lines that have been rendered. -/
theorem linesSoFar_position {k : Nat} (hk : k ≤ seg.items.length) :
    (s.linesSoFar name seg k).position = { s.position with line := s.position.line + k } := by
  unfold linesSoFar
  rw [renderItems_eq_foldl, foldl_renderLine, length_moves, List.length_take_of_le hk]
  cases seg.control.tabSize <;> rfl

/-- What is said of one more text line carries its number. -/
theorem linesSoFar_grows (hs : s.position = ⟨name, 0⟩) {k : Nat} (hk : k < seg.items.length) :
    (s.linesSoFar name seg k).log.GrowsBy (Entry.IsAt ⟨name, k + 1⟩)
      (s.linesSoFar name seg (k + 1)).log := by
  have hmoves : k < (moves name seg.control seg.items).length := by rwa [length_moves]
  -- one more text line is rendered behind those before it
  have hstep : s.linesSoFar name seg (k + 1)
      = (s.linesSoFar name seg k).renderLine name (moves name seg.control seg.items)[k].1
          (moves name seg.control seg.items)[k].2 := by
    simp only [linesSoFar, renderItems_eq_foldl, moves_take]
    rw [← List.take_append_getElem hmoves, List.foldl_append]
    rfl
  have hposition : (s.linesSoFar name seg k).position = ⟨name, k⟩ := by
    rw [linesSoFar_position (Nat.le_of_lt hk), hs]
    simp
  have hline := (s.linesSoFar name seg k).log_renderLine name
    (moves name seg.control seg.items)[k].1 (moves name seg.control seg.items)[k].2
  rw [hposition] at hline
  rwa [hstep]

/-- A segment counts its text lines from one, wherever the session has been before. -/
theorem linesPlaced (hs : s.position = ⟨name, 0⟩) :
    s.LinesPlaced name seg (s.renderOwn name seg).log where
  tab := by
    unfold linesSoFar
    rw [List.take_zero, renderItems_eq_foldl]
    -- setting the tab size reports before the first line, and not as a part of rendering
    cases seg.control.tabSize with
    | none => exact Log.GrowsBy.refl s.log
    | some n =>
      have hsetup : ∀ notice ∈ (s.column.setTabSize n).2.map (Notice.warning .setup),
          (notice.stamp s.position).category = .setup := List.forall_mem_map.mpr fun m _ => rfl
      exact Log.GrowsBy.report s.log hsetup
  line k hk := linesSoFar_grows hs hk
  last := by rw [linesSoFar, List.take_length]; rfl

/-! ## 2. Requests -/

theorem enter_position (s : Session) (name : String) (values : Option Values) :
    (s.enter name values).position = ⟨name, 0⟩ := by cases values <;> rfl

theorem beforeOwn_position (s : Session) (name : String) (seg : Segment) (values : Option Values) :
    (s.beforeOwn name seg values).position = ⟨name, 0⟩ := by
  unfold beforeOwn
  split <;> exact s.enter_position name values

/-- What there is to say about the values that come with a request, if any do. -/
def valueNotices (s : Session) (name : String) (values : Option Values) : List Message :=
  values.elim [] fun values => (s.tokens.load (some name) (some values)).2

/-- What coming to a segment adds to the log stands before its first line. -/
theorem entries_enter (s : Session) (name : String) (values : Option Values) :
    (s.enter name values).log.entries
      = s.log.entries ++ ⟨.generating, .info, ⟨name, 0⟩, .rendering name⟩ ::
          (s.valueNotices name values).map fun m => ⟨.generating, .warning, ⟨name, 0⟩, m⟩ := by
  cases values with
  | none => exact s.log.entries_report ⟨name, 0⟩ [.info .generating (.rendering name)]
  | some values =>
    let entered : Log := s.log.report ⟨name, 0⟩ [.info .generating (.rendering name)]
    let said : List Entry :=
      (s.valueNotices name (some values)).map fun m => ⟨.generating, .warning, ⟨name, 0⟩, m⟩
    calc (s.enter name (some values)).log.entries
        = entered.entries ++ said := Log.entries_warnings _ _ _
      _ = s.log.entries ++ ⟨.generating, .info, ⟨name, 0⟩, .rendering name⟩ :: said := by
        rw [Log.entries_report, List.append_assoc]
        rfl

/-- What a request adds to the log, in the order in which it is done: it comes to the segment, with the
values; it comes to the pad that is due, and renders its lines; and it renders the lines of the segment. -/
structure Placed (s : Session) (name : String) (seg : Segment) (values : Option Values) : Prop where
  entered : (s.enter name values).log.entries
    = s.log.entries ++ ⟨.generating, .info, ⟨name, 0⟩, .rendering name⟩ ::
        (s.valueNotices name values).map fun m => ⟨.generating, .warning, ⟨name, 0⟩, m⟩
  unpadded : s.duePad? seg = none → (s.beforeOwn name seg values).log = (s.enter name values).log
  padded : ∀ pad, s.duePad? seg = some pad →
    let entered : Session := s.enter name values
    let padEntered : Session :=
      { entered with column := entered.column.save }.enter seg.control.padSegment none
    padEntered.log.entries = entered.log.entries ++
        [⟨.generating, .info, ⟨seg.control.padSegment, 0⟩, .rendering seg.control.padSegment⟩] ∧
      padEntered.LinesPlaced seg.control.padSegment pad (s.beforeOwn name seg values).log
  own : (s.beforeOwn name seg values).LinesPlaced name seg (s.render (some name) values).log

/-- A request adds to the log in this order. -/
theorem Sound.placed (hs : s.Sound) (hget : s.template.get? name = some seg)
    (values : Option Values) : s.Placed name seg values where
  entered := s.entries_enter name values
  unpadded hnone := by rw [beforeOwn, hnone]
  padded pad hpad := by
    let entered : Session := s.enter name values
    let saved : Session := { entered with column := entered.column.save }
    refine ⟨saved.entries_enter seg.control.padSegment none, ?_⟩
    rw [beforeOwn, hpad]
    exact linesPlaced (saved.enter_position seg.control.padSegment none)
  own := by
    rw [hs.render_eq hget values]
    exact linesPlaced (s.beforeOwn_position name seg values)

/-- **Entries stand where they arise.**  Whatever lines are loaded, what is said about a line carries its
number, the numbers never go down, and what is said after the last line carries the number of lines.
And whatever segment a reachable session is asked for, what is said about a text line of the segment or
of its pad carries the name of the one that it belongs to, and its number there; what is said about the
values carries the name of the segment, and no line. -/
theorem entries_located (d : Draft) (delimiters : Delimiters) (lines : List String)
    {settings : Settings} {s : Session} (hs : Reachable settings s) {name : String} {seg : Segment}
    (hget : s.template.get? name = some seg) (values : Option Values) :
    d.Numbered delimiters lines ∧ s.Placed name seg values :=
  ⟨d.numbered delimiters lines, hs.sound.placed hget values⟩

/-- A template with a short line and a comment between its segments and an empty segment at its end, and
a request with values, of which one is not for a token of the segment, behind which the pad goes before
the segment. -/
theorem entries_located_padded :
    ∃ (lines : List String) (s : Session) (seg : Segment) (values : Values), Reachable {} s ∧
      s.template.get? "Row" = some seg ∧ seg.control.padIsDue = true ∧
      Draft.Numbered {} {} lines ∧ s.Placed "Row" seg (some values) ∧
      ((Draft.load {} {} lines).1.log.entries.map fun e => (e.position.line, e.message))
        = [(1, .segmentAdded "Bar"), (3, .lineTooShort), (5, .segmentAdded "Row"),
            (8, .segmentAdded "End"), (8, .noTextLines "End")] ∧
      (((s.render (some "Row") (some values)).log.entries.drop s.log.entries.length).map
          fun e => (e.position, e.message))
        = [(⟨"Row", 0⟩, .rendering "Row"), (⟨"Row", 0⟩, .unknownValueName (some "Row") "z"),
            (⟨"Bar", 0⟩, .rendering "Bar"), (⟨"Bar", 1⟩, .unboundToken "Bar" "x"),
            (⟨"Row", 2⟩, .indentTruncated "Row")] := by
  let lines : List String :=
    ["### Bar", "    <#x#>", "%", "///", "### Row PAD=Bar", "    <#y#>", "@-1 a", "### End"]
  let ops : List Operation := [.load lines "table", .render (some "Row") none]
  let s := (ofSettings {}).run ops
  let values : Values := [(.name "y", .integer 1), (.name "z", .null)]
  have hget : s.template.get? "Row" = some
      { control := { isFirstTime := false, padSegment := "Bar" },
        items := [⟨0, true, false, "<#y#>"⟩, ⟨-1, true, false, "a"⟩] } := by decide +kernel
  obtain ⟨hnumbered, hplaced⟩ :=
    entries_located {} {} lines (s := s) ⟨ops, rfl⟩ hget (some values)
  refine ⟨lines, s, _, values, ⟨ops, rfl⟩, hget, rfl, hnumbered, hplaced, ?_, ?_⟩
  · decide +kernel
  · decide +kernel

end Session

end Stencil
