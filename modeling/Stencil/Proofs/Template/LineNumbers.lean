/-
# Line numbers of entries

What loading leaves in the log carries the number of the line at which it arose.  The number goes up
before anything else is done with a line.  From there on nothing moves it, be the line a header, text,
or one that stops the reading, so that each single operation reports at that line (`OnLine`).  Closing
the last segment is an operation like any other, and takes place at the last line.

* `OnLine.addHeader`, `OnLine.addText`: what is done with a line;
* `readSoFar_grows`: one line of a template;
* `numbered`: a whole template.
-/
import Stencil.Proofs.Template.Beginning
import Stencil.Proofs.Template.Written

namespace Stencil

/-! ## 1. Entries of a line -/

/-- The entry arose while the given line of a template was read. -/
def Entry.IsOfLine (n : Int) (e : Entry) : Prop := e.category = .parsing ∧ e.position.line = n

namespace Log

/-- The second log continues the first, and the line numbers of the entries that it adds never go down,
up to the given one. -/
def GrowsInOrder (n : Int) (l l' : Log) : Prop :=
  ∃ new : Log, l' = l ++ new ∧ (new.entries.map (·.position.line)).Pairwise (· ≤ ·) ∧
    ∀ e ∈ new.entries, e.position.line ≤ n

/-- Entries of one line that is not before the last one keep the order. -/
theorem GrowsInOrder.snoc {n m : Int} {l₁ l₂ l₃ : Log} (h : l₁.GrowsInOrder n l₂) (hnm : n ≤ m)
    (hnext : l₂.GrowsBy (Entry.IsOfLine m) l₃) : l₁.GrowsInOrder m l₃ := by
  obtain ⟨new, rfl, horder, hle⟩ := h
  obtain ⟨next, rfl, hline⟩ := hnext
  have hnew : ∀ i ∈ new.entries.map (·.position.line), i ≤ n := List.forall_mem_map.mpr hle
  have hlines : ∀ i ∈ next.entries.map (·.position.line), i = m :=
    List.forall_mem_map.mpr fun e he => (hline e he).2
  refine ⟨new ++ next, List.append_assoc _ _ _, ?_, fun e he => ?_⟩
  · rw [entries_append, List.map_append]
    -- the new entries are all of one line, and no earlier one is of a later line
    refine List.pairwise_append.mpr ⟨horder, ?_, fun i hi j hj => ?_⟩
    · rw [List.eq_replicate_iff.mpr ⟨rfl, hlines⟩]
      exact List.pairwise_replicate.mpr (.inr (Int.le_refl m))
    · have hi := hnew i hi
      have hj := hlines j hj
      omega
  · rw [entries_append] at he
    rcases List.mem_append.mp he with he | he
    · exact Int.le_trans (hle e he) hnm
    · exact Int.le_of_eq (hline e he).2

end Log

/-- What there is to say of a line is about the template. -/
theorem Line.category_notices (line : Line) (s : String) :
    ∀ n ∈ line.notices s, n.category = .parsing := by
  rcases line with _ | _ | item | _ | _ | _ <;> simp [notices, Notice.warning, Notice.error]

namespace Draft

/-! ## 2. One line -/

/-- The second draft is at the line of the first, and what the log has got since arose there. -/
structure OnLine (d d' : Draft) : Prop where
  line : d'.position.line = d.position.line
  log : d.log.GrowsBy (Entry.IsOfLine d.position.line) d'.log

namespace OnLine

/-- What is done at one line one after the other is done at that line. -/
theorem trans {d₁ d₂ d₃ : Draft} (h₁ : d₁.OnLine d₂) (h₂ : d₂.OnLine d₃) : d₁.OnLine d₃ :=
  ⟨h₂.line.trans h₁.line, h₁.log.trans (h₁.line ▸ h₂.log)⟩

/-- Nothing is said, and the line is the same. -/
theorem silent {d d' : Draft} (hline : d'.position.line = d.position.line) (hlog : d'.log = d.log) :
    d.OnLine d' := by
  refine ⟨hline, ?_⟩
  rw [hlog]
  exact .refl d.log

/-- A report about the template is one of the line. -/
theorem report (d : Draft) {ns : List Notice} (h : ∀ n ∈ ns, n.category = .parsing) :
    d.OnLine (d.report ns) := by
  refine ⟨rfl, .report d.log fun n hn => ⟨h n hn, ?_⟩⟩
  simp [Notice.stamp, h n hn, Category.isLocated]

theorem warn (d : Draft) (ms : List Message) : d.OnLine (d.warn ms) :=
  .report d (by simp [Notice.warning])

theorem closeSegment (d : Draft) : d.OnLine d.closeSegment := by
  unfold Draft.closeSegment
  dsimp only
  split
  · exact (warn d _).trans (.silent rfl rfl)
  · exact .silent rfl rfl

theorem exhausted (d : Draft) (limit : NameLimit) : d.OnLine (d.exhausted limit).1 :=
  .report d (by simp [Notice.error])

/-- So is what goes on under the next default name, or the report that there is none. -/
theorem withNextName {go : Draft → String → Draft × Option Stop}
    (hgo : ∀ (d : Draft) (name : String), d.OnLine (go d name).1) (d : Draft) :
    d.OnLine (d.withNextName go).1 := by
  unfold Draft.withNextName
  rcases d.namer.next d.segments.keys with ⟨limit | name, namer⟩
  · have hnamer : d.OnLine { d with namer } := .silent rfl rfl
    exact hnamer.trans (exhausted _ limit)
  · have hmoved : d.OnLine ({ d with namer }.moveTo name) := .silent rfl rfl
    exact hmoved.trans (hgo _ name)

theorem openSegment (d : Draft) (name : String) (c : Control) : d.OnLine (d.openSegment name c) := by
  let checked := checkPad d.segments name c
  let warned := d.warn checked.2
  let opened : Draft :=
    { warned with segments := warned.segments.put name { control := checked.1 } }
  have hopened : warned.OnLine opened := .silent rfl rfl
  have hsaid : opened.OnLine (opened.report [.info .parsing (.segmentAdded name)]) :=
    .report opened (by simp [Notice.info])
  exact (warn d checked.2).trans (hopened.trans hsaid)

theorem addNamed (d : Draft) (name : String) (c : Control) : d.OnLine (d.addNamed name c).1 := by
  unfold Draft.addNamed
  split
  · exact withNextName (fun d default => (warn d _).trans (openSegment _ default c)) d
  · exact openSegment d name c

theorem readHeader (d : Draft) (taken : List String) (s : String) :
    d.OnLine (d.readHeader taken s).1 := by
  unfold Draft.readHeader
  dsimp only
  rcases (Header.ofString s).settle d.namer taken with ⟨limit | ⟨name, ms⟩, namer⟩
  · exact .silent rfl rfl
  -- the position gets the name of the segment, and keeps its line
  · have hmoved : d.OnLine ({ d with namer }.moveTo name) := .silent rfl rfl
    exact hmoved.trans ((warn _ ms).trans (warn _ _))

theorem addHeader (d : Draft) (s : String) : d.OnLine (d.addHeader s).1 := by
  have hread := readHeader d d.segments.keys s
  unfold Draft.addHeader
  generalize d.readHeader d.segments.keys s = result at hread ⊢
  rcases result with ⟨d', (limit | overflow) | ⟨name, c⟩⟩
  · exact hread.trans (exhausted d' limit)
  · exact hread
  · exact hread.trans (addNamed d' name c)

theorem addText (d : Draft) (delimiters : Delimiters) (item : TextItem) :
    d.OnLine (d.addText delimiters item).1 := by
  unfold Draft.addText
  split
  · exact .silent rfl rfl
  · refine withNextName (fun d name => ?_) d
    let opened : Draft := { d with segments := d.segments.put name {} }
    have hopened : d.OnLine opened := .silent rfl rfl
    exact hopened.trans ((warn opened _).trans (.silent rfl rfl))

end OnLine

/-- **A line reports at its own number**, whatever becomes of it. -/
theorem log_readLine (d : Draft) (delimiters : Delimiters) (s : String) :
    d.log.GrowsBy (Entry.IsOfLine (d.position.line + 1)) (d.readLine delimiters s).1.log := by
  -- the number goes up first, so that the rest takes place on the new line
  let moved : Draft := { d with position := { d.position with line := d.position.line + 1 } }
  have hat : moved.OnLine (d.atLine s) := .report moved ((Line.ofString s).category_notices s)
  suffices h : (d.atLine s).OnLine (d.readLine delimiters s).1 from (hat.trans h).log
  cases hs : Line.ofString s with
  | header =>
    rw [readLine_header hs]
    exact (OnLine.closeSegment _).trans (.addHeader _ s)
  | comment =>
    rw [readLine_pass (.inl hs)]
    exact .silent rfl rfl
  | text item =>
    rw [readLine_text hs]
    exact .addText _ delimiters item
  | short =>
    rw [readLine_pass (.inr hs)]
    exact .silent rfl rfl
  | faulty fault =>
    rw [readLine_of_faulty d hs]
    exact .report _ (by simp [Notice.error])

/-! ## 3. Whole templates -/

/-- What stops the reading stops it whatever lines follow. -/
theorem readLines_append_of_stop {d d' : Draft} {delimiters : Delimiters} {xs : List String}
    {stop : Stop} (h : d.readLines delimiters xs = (d', some stop)) (ys : List String) :
    d.readLines delimiters (xs ++ ys) = (d', some stop) := by
  obtain ⟨before, s, after, d₁, rfl, hbefore, hstop⟩ := readLines_stop_iff.mp h
  exact readLines_stop_iff.mpr ⟨before, s, after ++ ys, d₁, by simp, hbefore, hstop⟩

/-- What a draft has become once the given number of lines of a template has been read, or those up to
the one that stops the reading. -/
def readSoFar (d : Draft) (delimiters : Delimiters) (lines : List String) (k : Nat) : Draft :=
  ({ d with position := {}, segments := [] }.readLines delimiters (lines.take k)).1

variable {d : Draft} {delimiters : Delimiters} {lines : List String}

/-- What is said of one more line carries its number, counted from one. -/
theorem readSoFar_grows {k : Nat} (hk : k < lines.length) :
    (d.readSoFar delimiters lines k).log.GrowsBy (Entry.IsOfLine (k + 1))
      (d.readSoFar delimiters lines (k + 1)).log := by
  unfold readSoFar
  rw [← List.take_append_getElem hk]
  rcases hread : readLines { d with position := {}, segments := [] } delimiters (lines.take k) with
    ⟨d', _ | stop⟩
  -- the lines before it have been read, and have been counted
  · have hline : d'.position.line = k := by
      rw [line_readLines hread, List.length_take_of_le (Nat.le_of_lt hk)]
      exact Int.zero_add _
    have hone : (d'.readLines delimiters [lines[k]]).1 = (d'.readLine delimiters lines[k]).1 := by
      rw [readLines]
      rcases d'.readLine delimiters lines[k] with ⟨_, _ | _⟩ <;> rfl
    rw [readLines_append hread, hone, ← hline]
    exact d'.log_readLine delimiters _
  · rw [readLines_append_of_stop hread]
    -- the reading was stopped before this line, which adds nothing
    exact .refl _

/-- Once the last line has been read, the last segment is closed, and the number is that of the last
line. -/
theorem load_grows :
    (d.readSoFar delimiters lines lines.length).log.GrowsBy (Entry.IsOfLine lines.length)
      (d.load delimiters lines).1.log := by
  unfold readSoFar
  rw [List.take_length]
  rcases hread : readLines { d with position := {}, segments := [] } delimiters lines with
    ⟨d', _ | stop⟩
  · have hline : d'.position.line = lines.length := by
      rw [line_readLines hread]
      exact Int.zero_add _
    rw [load_of_read (read_of_readLines hread), ← hline]
    -- the last segment is closed at the last line, and the number of segments is no entry
    exact (OnLine.closeSegment d').log.trans (.record _ _)
  · rw [load_eq_read, read_stop_iff.mpr hread]
    rcases stop with f | o <;> exact .refl _

/-- What loading leaves in the log stands at the lines of the template: at each line what is said while
it is read, and at the last line what is said afterwards. -/
structure Numbered (d : Draft) (delimiters : Delimiters) (lines : List String) : Prop where
  line : ∀ k < lines.length, (d.readSoFar delimiters lines k).log.GrowsBy (Entry.IsOfLine (k + 1))
    (d.readSoFar delimiters lines (k + 1)).log
  last : (d.readSoFar delimiters lines lines.length).log.GrowsBy (Entry.IsOfLine lines.length)
    (d.load delimiters lines).1.log
  ordered : d.log.GrowsInOrder lines.length (d.load delimiters lines).1.log

/-- **Loading numbers its entries** by the lines that they are about, in their order. -/
theorem numbered (d : Draft) (delimiters : Delimiters) (lines : List String) :
    d.Numbered delimiters lines := by
  refine ⟨fun k hk => readSoFar_grows hk, load_grows, ?_⟩
  -- line by line, the numbers so far are at most that of the last line
  have hread : ∀ k ≤ lines.length, d.log.GrowsInOrder k (d.readSoFar delimiters lines k).log := by
    intro k hk
    induction k with
    | zero => exact ⟨[], by simp [readSoFar, readLines], by simp [Log.entries], by simp [Log.entries]⟩
    | succ k ih => exact (ih (by omega)).snoc (by omega) (readSoFar_grows hk)
  exact (hread _ (Nat.le_refl _)).snoc (Int.le_refl _) load_grows

end Draft

end Stencil
