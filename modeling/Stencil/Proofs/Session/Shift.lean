/-
# Segments further right

Relative lines are placed by where the column is, and by nothing else that is said about columns.  So a
segment of relative lines has the same shape wherever it begins: further right, all of it stands further
right by as much.  Only the margin could bend it, and where no indent reached over the margin, none
does further right.

To say this, a session is compared with the one whose column is `d` further right (`Session.shift`).
The two renders run side by side, and in each line the one column is `d` right of the other; the log
of the first, without a truncation, is the log of the second.

* `Column.advance_shift`: one line;
* `rendition_shift`: the lines of a segment;
* `render_shift`: a request for a segment.
-/
import Stencil.Proofs.Session.Block

namespace Stencil

/-! ## 1. Truncations -/

/-- Whether the message says that an indent reached over the margin. -/
def Message.isTruncation : Message → Bool
  | .indentTruncated _ | .firstTimeIndentTruncated _ => true
  | _ => false

namespace Log

/-- The entries of the log that say that an indent reached over the margin. -/
def truncations (l : Log) : List Entry := l.entries.filter (·.message.isTruncation)

theorem truncations_append (l m : Log) : truncations (l ++ m) = l.truncations ++ m.truncations := by
  simp only [truncations, entries_append, List.filter_append]

theorem truncations_report (l : Log) (p : Position) (ns : List Notice) :
    (l.report p ns).truncations
      = l.truncations ++ (ns.filter (·.message.isTruncation)).map (·.stamp p) := by
  rw [truncations, truncations, entries_report, List.filter_append, List.filter_map]
  rfl

end Log

/-! ## 2. One line -/

def Column.shift (c : Column) (d : Nat) : Column := { c with column := c.column + d }

namespace Column

theorem withTab_shift (c : Column) (d : Nat) (tab : Option Int) :
    (c.shift d).withTab tab = (c.withTab tab).shift d := by cases tab <;> rfl

theorem isTruncation_of_atMargin {n : Int} {t m : Message} (ht : t.isTruncation = true)
    (h : m ∈ (atMargin n t).2) : m.isTruncation = true := by
  unfold atMargin at h
  split at h
  · exact List.mem_singleton.mp h ▸ ht
  · exact absurd h List.not_mem_nil

/-- All that is said about the column of a line is that it was truncated. -/
theorem isTruncation_of_advance {c : Column} {segment : String} {item : TextItem} {m : Message}
    (h : m ∈ (c.advance segment item).2.2) : m.isTruncation = true :=
  isTruncation_of_atMargin rfl h

/-- The column that a relative line asks for. -/
def target (c : Column) (item : TextItem) : Int := c.column + item.indent * c.tabSize

theorem advance_of_isRelative {c : Column} {item : TextItem} (hrelative : item.isRelative = true)
    (hn : 0 ≤ c.target item) (segment : String) :
    c.advance segment item
      = (c.target item, if item.isOneTime then c else { c with column := c.target item }, []) := by
  unfold target at hn ⊢
  simp only [advance, hrelative, if_true, atMargin, if_neg (Int.not_lt.mpr hn)]

theorem target_nonneg {c : Column} {segment : String} {item : TextItem}
    (hrelative : item.isRelative = true) (hnone : (c.advance segment item).2.2 = []) :
    0 ≤ c.target item := by
  refine Int.not_lt.mp fun hneg => ?_
  unfold target at hneg
  simp [advance, atMargin, hrelative, hneg] at hnone

/-- **A relative line that is not truncated** is not truncated further right, and stands further right
by as much. -/
theorem advance_shift {c : Column} {segment : String} {item : TextItem}
    (hrelative : item.isRelative = true) (hnone : (c.advance segment item).2.2 = []) (d : Nat) :
    (c.shift d).advance segment item
      = ((c.advance segment item).1 + d, (c.advance segment item).2.1.shift d, []) := by
  have hn := target_nonneg hrelative hnone
  have htarget : (c.shift d).target item = c.target item + d := by
    simp only [target, shift]
    omega
  rw [advance_of_isRelative hrelative hn,
    advance_of_isRelative hrelative (by omega : 0 ≤ (c.shift d).target item), htarget]
  cases item.isOneTime <;> rfl

end Column

namespace Session

/-- A line of output that stands further right. -/
def indented (d : Nat) (line : String) : String := String.ofList (List.replicate d ' ') ++ line

theorem outputLine_add {n : Int} (hn : 0 ≤ n) (d : Nat) (text : String) :
    outputLine (n + d) text = indented d (outputLine n text) := by
  have hblanks : List.replicate (n + d).toNat ' '
      = List.replicate d ' ' ++ List.replicate n.toNat ' ' := by
    rw [List.replicate_append_replicate, Int.toNat_add_nat hn, Nat.add_comm]
  rw [outputLine, hblanks, List.append_assoc, String.ofList_append]
  rfl

/-! ## 3. The lines of a segment -/

/-- What the lines came to, further right. -/
def Rendition.shift (r : Rendition) (d : Nat) : Rendition :=
  { r with lines := r.lines.map (indented d), column := r.column.shift d }

/-- A text line that is not placed by a first-time indent, with its move. -/
def plainMove (name : String) (item : TextItem) : String × Move :=
  (item.text, fun col => col.advance name item)

/-- Where no first-time indent is used, the first line moves like the others. -/
theorem moves_eq_map {name : String} {c : Control} (items : List TextItem)
    (h : c.isFirstTime = true → c.firstTimeIndent = 0) :
    moves name c items = items.map (plainMove name) := by
  cases items with
  | nil => rfl
  | cons item items =>
    have hmove : (fun col : Column => if c.isFirstTime then
        col.advanceFirst name c.firstTimeIndent item else col.advance name item)
          = fun col => col.advance name item := by
      funext col
      split
      · rename_i hfirst
        rw [Column.advanceFirst, if_pos (h hfirst)]
      · rfl
    rw [moves, hmove]
    rfl

variable {δ : Delimiters} {b : Bindings} {name : String}

/-- Where no line is truncated, neither is the first one nor any behind it. -/
theorem quiet_of_rendition {p : Position} {c : Column} {item : TextItem} {items : List TextItem}
    (h : (rendition δ b name p c ((item :: items).map (plainMove name))).log.truncations = []) :
    (c.advance name item).2.2 = [] ∧
      (rendition δ b name { p with line := p.line + 1 } (c.advance name item).2.1
        (items.map (plainMove name))).log.truncations = [] := by
  simp only [List.map_cons, plainMove, rendition, Log.truncations_append, Log.truncations_report,
    List.append_eq_nil_iff, List.map_eq_nil_iff, List.map_append, List.filter_append] at h
  obtain ⟨⟨-, hsaid, -⟩, hrest⟩ := h
  -- a move says nothing but truncations, so without them it says nothing
  refine ⟨List.eq_nil_iff_forall_not_mem.mpr fun m hm => ?_, hrest⟩
  exact List.filter_eq_nil_iff.mp hsaid _ (List.mem_map_of_mem hm)
    (Column.isTruncation_of_advance hm)

/-- **Relative lines further right**: where none is truncated, all stand further right by as much, and
the same is noted. -/
theorem rendition_shift {p : Position} {c : Column} {items : List TextItem}
    (hrelative : ∀ item ∈ items, item.isRelative = true)
    (hnone : (rendition δ b name p c (items.map (plainMove name))).log.truncations = []) (d : Nat) :
    rendition δ b name p (c.shift d) (items.map (plainMove name))
      = (rendition δ b name p c (items.map (plainMove name))).shift d := by
  -- on the lines, with the column going along: it is `d` further right before each of them
  induction items generalizing p c with
  | nil => rfl
  | cons item items ih =>
    obtain ⟨hitem, hitems⟩ := List.forall_mem_cons.mp hrelative
    obtain ⟨hquiet, hrest⟩ := quiet_of_rendition hnone
    have hmove := Column.advance_shift hitem hquiet d
    have hline := outputLine_add (c.advance_nonneg name item) d (substitute δ name b item.text).1
    simp only [List.map_cons, plainMove, rendition, Rendition.shift, hmove, hquiet, hline]
    rw [ih hitems hrest]
    rfl

/-! ## 4. Sessions -/

def shift (s : Session) (d : Nat) : Session := { s with column := s.column.shift d }

theorem enter_shift (s : Session) (d : Nat) (name : String) (values : Option Values) :
    (s.shift d).enter name values = (s.enter name values).shift d := by cases values <;> rfl

/-- A segment of relative lines that uses no first-time indent, further right. -/
theorem ownRendition_shift {s : Session} {seg : Segment}
    (hrelative : ∀ item ∈ seg.items, item.isRelative = true)
    (hfirst : seg.control.isFirstTime = true → seg.control.firstTimeIndent = 0)
    (hnone : (s.ownRendition name seg).log.truncations = []) (d : Nat) :
    (s.shift d).ownRendition name seg = (s.ownRendition name seg).shift d := by
  unfold ownRendition at hnone ⊢
  rw [moves_eq_map seg.items hfirst] at hnone ⊢
  have htab : (s.shift d).column.withTab seg.control.tabSize
      = (s.column.withTab seg.control.tabSize).shift d := s.column.withTab_shift d _
  rw [htab]
  exact rendition_shift hrelative hnone d

theorem tabNotices_shift (s : Session) (d : Nat) (tab : Option Int) :
    (s.shift d).tabNotices tab = s.tabNotices tab := by cases tab <;> rfl

/-- The log goes on behind what it was when the segment was come to. -/
theorem exists_log_enter (s : Session) (name : String) (values : Option Values) :
    ∃ new, (s.enter name values).log = s.log ++ new := by
  cases values with
  | none => exact ⟨_, rfl⟩
  | some values => exact ⟨_, List.append_assoc _ _ _⟩

/-- What a render without a pad comes to. -/
theorem Sound.render_of_notDue {s : Session} (hs : s.Sound) {seg : Segment}
    (hget : s.template.get? name = some seg) (hpad : seg.control.padIsDue = false)
    (values : Option Values) :
    s.render (some name) values
      = { (s.enter name values).renderOwn name seg with isWritten := false } := by
  rw [hs.render_eq hget, beforeOwn, duePad?, if_neg (by simp [hpad])]

/-- The lines of a request are truncated nowhere if the log has no more truncations than before. -/
theorem Sound.rendition_quiet {s : Session} (hs : s.Sound) {seg : Segment}
    (hget : s.template.get? name = some seg) (hpad : seg.control.padIsDue = false)
    (values : Option Values)
    (h : (s.render (some name) values).log.truncations = s.log.truncations) :
    ((s.enter name values).ownRendition name seg).log.truncations = [] := by
  obtain ⟨new, hnew⟩ := s.exists_log_enter name values
  rw [hs.render_of_notDue hget hpad, renderOwn_eq] at h
  simp only [hnew, Log.truncations_append, Log.truncations_report, List.append_assoc] at h
  -- the truncations of the segment itself are the last part of what the log has more
  have hnone := List.append_right_eq_self.mp h
  exact (List.append_eq_nil_iff.mp (List.append_eq_nil_iff.mp hnone).2).2

/-- **A segment of relative lines keeps its shape wherever it is placed.**  In every reachable session,
where a request for it uses neither a first-time indent nor a pad and truncates no line, the same
request with the column `d` further right truncates none either, each of its lines is the line from
before behind `d` blanks, and the column is `d` further right in the end. -/
theorem render_shift {settings : Settings} {s : Session} (hs : Reachable settings s) {seg : Segment}
    (hget : s.template.get? name = some seg)
    (hrelative : ∀ item ∈ seg.items, item.isRelative = true)
    (hfirst : seg.control.isFirstTime = true → seg.control.firstTimeIndent = 0)
    (hpad : seg.control.padIsDue = false) (values : Option Values)
    (hnone : (s.render (some name) values).log.truncations = s.log.truncations) (d : Nat) :
    let r := s.render (some name) values
    let r' := (s.shift d).render (some name) values
    r'.log.truncations = (s.shift d).log.truncations ∧
      (∃ lines, lines.length = seg.items.length ∧ r.output = s.output ++ lines ∧
        r'.output = (s.shift d).output ++ lines.map (indented d)) ∧
      r'.column.column = r.column.column + d ∧
      r' = { r.shift d with output := r'.output } := by
  intro r r'
  have hquiet := hs.sound.rendition_quiet hget hpad values hnone
  have hshift := ownRendition_shift hrelative hfirst hquiet d
  have hsound : (s.shift d).Sound := ⟨hs.sound.template, hs.sound.isLoaded⟩
  have hr : r = _ := hs.sound.render_of_notDue hget hpad values
  have hr' : r' = _ := hsound.render_of_notDue hget hpad values
  rw [renderOwn_eq] at hr
  rw [enter_shift, renderOwn_eq, hshift, tabNotices_shift] at hr'
  have hlog : r'.log = r.log := by
    rw [hr, hr']
    rfl
  have hoff : r' = { r.shift d with output := r'.output } := by
    rw [hr, hr']
    rfl
  refine ⟨hlog ▸ hnone, ?_, ?_, hoff⟩
  · refine ⟨_, length_ownRendition (s.enter name values) name seg, ?_, ?_⟩
    · rw [hr, enter_output]
    · rw [hr']
      exact congrArg (· ++ _) (s.enter_output name values)
  · rw [hoff]
    rfl

/-- Two sessions of one template and one output, in which a value made up for the blanks of a smaller
tab size; a first render with a tab size of its own, a line for itself left of the others, and a value
that comes with the request. -/
theorem render_shift_further :
    ∃ s seg, Reachable {} s ∧ Reachable {} (s.shift 2) ∧ s.template.get? "B" = some seg ∧
      seg.control = { tabSize := some 3 } ∧ (∀ item ∈ seg.items, item.isRelative = true) ∧
      (s.render (some "B") (some [(.name "t", .string "<")])).output
        = s.output ++ ["        x", "  <y", "     z"] ∧
      ((s.shift 2).render (some "B") (some [(.name "t", .string "<")])).column.column
        = (s.render (some "B") (some [(.name "t", .string "<")])).column.column + 2 := by
  let ops (n : Int) (value : String) : List Operation :=
    [.load ["### A", "@+1 <#t#>", "### B TAB=3", "@+2 x", "O-2 <#t#>y", "@-1 z"] "template",
      .setTabSize n, .loadValues (some "A") (some [(.name "t", .string value)]),
      .render (some "A") none, .setTabSize 4,
      .loadValues (some "A") (some [(.name "t", .string "x")])]
  let s := (ofSettings {}).run (ops 2 "  x")
  have hs : Reachable {} s := ⟨ops 2 "  x", rfl⟩
  have hshift : Reachable {} (s.shift 2) := ⟨ops 4 "x", by decide +kernel⟩
  have hget : s.template.get? "B" = some
      { control := { tabSize := some 3 },
        items := [⟨2, true, false, "x"⟩, ⟨-2, true, true, "<#t#>y"⟩, ⟨-1, true, false, "z"⟩] } := by
    decide +kernel
  have hnone : (s.render (some "B") (some [(.name "t", .string "<")])).log.truncations
      = s.log.truncations := by decide +kernel
  have hlines : (s.render (some "B") (some [(.name "t", .string "<")])).output
      = s.output ++ ["        x", "  <y", "     z"] := by decide +kernel
  obtain ⟨-, -, hcolumn, -⟩ := render_shift hs hget (by decide) (fun _ => rfl) rfl
    (some [(.name "t", .string "<")]) hnone 2
  exact ⟨s, _, hs, hshift, hget, rfl, by decide, hlines, hcolumn⟩

end Session

end Stencil
