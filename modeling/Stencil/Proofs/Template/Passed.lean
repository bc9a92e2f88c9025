/-
# Lines that are passed over

A comment or a short line moves the line number, and of a short line there is something to say.
Neither the line number nor the log is looked at while a template is read: what a line does depends on
the segments so far, on which of them is open, on the namer and on the record of tokens, and a line
that is passed over leaves all of these as they are.

So the reading of a template goes along with that of the same template without these lines, one line
at a time (`readLines_keptLines`): the drafts are alike (`Draft.Alike`) before a line and after it,
wherever the lines are taken out, and the two are stopped at the same line and for the same reason if
they are stopped.

* `Alike.readLine`: a line in two drafts that are alike;
* `read_keptLines`: a template without the lines that are passed over.
-/
import Stencil.Proofs.Template.Afresh

namespace Stencil

/-- Whether a line is passed over. -/
def Line.isPassed : Line → Bool
  | comment => true
  | short => true
  | _ => false

theorem Line.isPassed_iff {line : Line} :
    line.isPassed = true ↔ line = comment ∨ line = short := by
  cases line <;> simp [isPassed]

/-- The lines of a template that are not passed over. -/
def keptLines (lines : List String) : List String :=
  lines.filter fun s => !(Line.ofString s).isPassed

namespace Draft

/-! ## 1. Drafts that are alike -/

/-- Two drafts that differ in their line numbers and their logs alone. -/
structure Alike (d d' : Draft) : Prop where
  segments : d.segments = d'.segments
  segment : d.position.segment = d'.position.segment
  namer : d.namer = d'.namer
  tokens : d.tokens = d'.tokens

/-- The drafts that two operations leave are alike, and the operations come to the same. -/
def EndAlike {α : Type} (result result' : Draft × α) : Prop :=
  result.1.Alike result'.1 ∧ result.2 = result'.2

theorem Alike.refl (d : Draft) : d.Alike d := ⟨rfl, rfl, rfl, rfl⟩

namespace Alike

variable {d d' : Draft}

theorem report (h : d.Alike d') (ns ns' : List Notice) : (d.report ns).Alike (d'.report ns') :=
  ⟨h.segments, h.segment, h.namer, h.tokens⟩

theorem warn (h : d.Alike d') (ms : List Message) : (d.warn ms).Alike (d'.warn ms) :=
  h.report _ _

/-- The same default name is handed out, and then the same goes on. -/
theorem withNextName (h : d.Alike d') {go : Draft → String → Draft × Option Stop}
    (hgo : ∀ {d d' : Draft} name, d.Alike d' → EndAlike (go d name) (go d' name)) :
    EndAlike (d.withNextName go) (d'.withNextName go) := by
  unfold Draft.withNextName
  -- the namer and the names that are taken are the same
  rw [h.namer, h.segments]
  rcases d'.namer.next d'.segments.keys with ⟨limit | name, namer⟩
  · exact ⟨⟨rfl, h.segment, rfl, h.tokens⟩, rfl⟩
  · exact hgo name ⟨rfl, rfl, rfl, h.tokens⟩

theorem hasSegment (h : d.Alike d') : d.position.hasSegment = d'.position.hasSegment := by
  rw [Position.hasSegment, Position.hasSegment, h.segment]

theorem closeSegment (h : d.Alike d') : d.closeSegment.Alike d'.closeSegment := by
  simp only [Draft.closeSegment, h.hasSegment, h.segment, h.segments]
  -- whether the segment is dropped is the same question in both
  by_cases hdropped : (d'.position.hasSegment &&
      (d'.segments.get? d'.position.segment).all fun s => s.items.isEmpty) = true
  · rw [if_pos hdropped, if_pos hdropped]
    exact ⟨rfl, h.segment, h.namer, h.tokens⟩
  · rw [if_neg hdropped, if_neg hdropped]
    exact h

/-! ## 2. Headers -/

theorem openSegment (h : d.Alike d') (name : String) (c : Control) :
    (d.openSegment name c).Alike (d'.openSegment name c) := by
  have hopened : ∀ d : Draft, (d.openSegment name c).segments
      = d.segments.put name { control := (checkPad d.segments name c).1 } := fun _ => rfl
  have hsegments : (d.openSegment name c).segments = (d'.openSegment name c).segments := by
    rw [hopened, hopened, h.segments]
  exact ⟨hsegments, h.segment, h.namer, h.tokens⟩

theorem addNamed (h : d.Alike d') (name : String) (c : Control) :
    EndAlike (d.addNamed name c) (d'.addNamed name c) := by
  unfold Draft.addNamed
  rw [h.segments]
  split
  · exact h.withNextName fun default h => ⟨(h.warn _).openSegment default c, rfl⟩
  · exact ⟨h.openSegment name c, rfl⟩

theorem readHeader (h : d.Alike d') (taken : List String) (s : String) :
    EndAlike (d.readHeader taken s) (d'.readHeader taken s) := by
  simp only [Draft.readHeader, h.namer]
  rcases (Header.ofString s).settle d'.namer taken with ⟨limit | ⟨name, ms⟩, namer⟩
  · exact ⟨⟨h.segments, h.segment, rfl, h.tokens⟩, rfl⟩
  · exact ⟨⟨h.segments, rfl, rfl, h.tokens⟩, rfl⟩

theorem addHeader (h : d.Alike d') (s : String) : EndAlike (d.addHeader s) (d'.addHeader s) := by
  have hread := h.readHeader d'.segments.keys s
  unfold Draft.addHeader
  rw [h.segments]
  generalize d.readHeader d'.segments.keys s = result at hread ⊢
  generalize d'.readHeader d'.segments.keys s = result' at hread ⊢
  obtain ⟨d₁, header⟩ := result
  obtain ⟨d₂, header'⟩ := result'
  obtain ⟨halike, rfl⟩ : d₁.Alike d₂ ∧ header = header' := hread
  rcases header with (limit | overflow) | ⟨name, c⟩
  · exact ⟨halike.report _ _, rfl⟩
  · exact ⟨halike, rfl⟩
  · exact halike.addNamed name c

/-! ## 3. Text -/

variable (delimiters : Delimiters)

/-- Text joins the same segment, and its names are recorded under the same name. -/
theorem append (h : d.Alike d') (item : TextItem) :
    (d.append delimiters item).Alike (d'.append delimiters item) := by
  have hsegments : (d.append delimiters item).segments = (d'.append delimiters item).segments := by
    simp only [Draft.append, h.segments, h.segment]
  have htokens : (d.append delimiters item).tokens = (d'.append delimiters item).tokens := by
    simp only [Draft.append, h.tokens, h.segment]
  exact ⟨hsegments, h.segment, h.namer, htokens⟩

theorem addText (h : d.Alike d') (item : TextItem) :
    EndAlike (d.addText delimiters item) (d'.addText delimiters item) := by
  unfold Draft.addText
  rw [h.hasSegment]
  split
  · exact ⟨h.append delimiters item, rfl⟩
  · refine h.withNextName fun {d d'} name h => ⟨?_, rfl⟩
    have hopened : Alike { d with segments := d.segments.put name {} }
        { d' with segments := d'.segments.put name {} } :=
      ⟨congrArg (·.put name {}) h.segments, h.segment, h.namer, h.tokens⟩
    exact (hopened.warn _).append delimiters item

/-! ## 4. Lines -/

theorem atLine (h : d.Alike d') (s : String) : (d.atLine s).Alike (d'.atLine s) :=
  ⟨h.segments, h.segment, h.namer, h.tokens⟩

/-- A line that is passed over leaves a draft alike. -/
theorem atLine_left (h : d.Alike d') (s : String) : (d.atLine s).Alike d' :=
  ⟨h.segments, h.segment, h.namer, h.tokens⟩

/-- **A line does the same in drafts that are alike.** -/
theorem readLine (h : d.Alike d') (s : String) :
    EndAlike (d.readLine delimiters s) (d'.readLine delimiters s) := by
  have hline := h.atLine s
  cases hs : Line.ofString s with
  | header =>
    rw [readLine_header hs, readLine_header hs]
    exact hline.closeSegment.addHeader s
  | comment =>
    rw [readLine_pass (.inl hs), readLine_pass (.inl hs)]
    exact ⟨hline, rfl⟩
  | text item =>
    rw [readLine_text hs, readLine_text hs]
    exact hline.addText delimiters item
  | short =>
    rw [readLine_pass (.inr hs), readLine_pass (.inr hs)]
    exact ⟨hline, rfl⟩
  | faulty fault =>
    rw [readLine_of_faulty _ hs, readLine_of_faulty _ hs]
    exact ⟨hline.report _ _, rfl⟩

end Alike

/-! ## 5. Templates -/

theorem readLines_keptLines {d d' : Draft} (h : d.Alike d') (delimiters : Delimiters)
    (lines : List String) :
    EndAlike (d.readLines delimiters lines) (d'.readLines delimiters (keptLines lines)) := by
  -- for every two drafts, since the lines left out are counted by one of them alone
  induction lines generalizing d d' with
  | nil => exact ⟨h, rfl⟩
  | cons s lines ih =>
    by_cases hpassed : (Line.ofString s).isPassed = true
    · have hkept : keptLines (s :: lines) = keptLines lines := by simp [keptLines, hpassed]
      rw [hkept, readLines, readLine_pass (Line.isPassed_iff.mp hpassed)]
      -- one draft moves past the line, and the other stays
      exact ih (h.atLine_left s)
    · have hkept : keptLines (s :: lines) = s :: keptLines lines := by simp [keptLines, hpassed]
      have hline := h.readLine delimiters s
      rw [hkept, readLines, readLines]
      generalize d.readLine delimiters s = result at hline ⊢
      generalize d'.readLine delimiters s = result' at hline ⊢
      obtain ⟨d₁, stop⟩ := result
      obtain ⟨d₂, stop'⟩ := result'
      obtain ⟨halike, rfl⟩ : d₁.Alike d₂ ∧ stop = stop' := hline
      -- what stops the one stops the other, at the same line of what is kept
      cases stop with
      | none => exact ih halike
      | some stop => exact ⟨halike, rfl⟩

/-- **Comments and short lines do not matter.**  A template and the same template without them are
both read to the end or both stopped for the same reason, and they leave the same segments in the same
order, the same record of tokens and the same namer; drafts that are alike differ in line numbers and
logs alone. -/
theorem read_keptLines (d : Draft) (delimiters : Delimiters) (lines : List String) :
    (d.read delimiters lines).2 = (d.read delimiters (keptLines lines)).2 ∧
      (d.read delimiters lines).1.Alike (d.read delimiters (keptLines lines)).1 := by
  have hlines :=
    readLines_keptLines (Alike.refl { d with position := {}, segments := [] }) delimiters lines
  unfold read
  generalize readLines _ delimiters lines = result at hlines ⊢
  generalize readLines _ delimiters (keptLines lines) = result' at hlines ⊢
  obtain ⟨d₁, stop⟩ := result
  obtain ⟨d₂, stop'⟩ := result'
  obtain ⟨halike, rfl⟩ : d₁.Alike d₂ ∧ stop = stop' := hlines
  cases stop with
  | none =>
    have hclosed := halike.closeSegment
    exact ⟨rfl, hclosed.segments, hclosed.segment, hclosed.namer, hclosed.tokens⟩
  | some stop => exact ⟨rfl, halike⟩

end Draft

end Stencil
