/-
# Reading under other delimiters

The delimiters say what is a token, and nothing about where a line belongs or at which column it
stands.  While a template is read they enter into the record of token names alone, which reading
writes and never looks at.  So the same lines come to the same segments under any delimiters, and are
stopped at the same place if they are stopped.

* `readLine_withTokens`: a line under other delimiters;
* `read_withTokens`: a template under other delimiters;
* `bindings_read`: what reading leaves of the values.
-/
import Stencil.Proofs.Template.TokenNames

namespace Stencil

namespace Draft

/-! ## 1. Another record -/

/-- The draft with another record of tokens. -/
def withTokens (t : Tokens) (d : Draft) : Draft := { d with tokens := t }

section WithTokens

variable (t : Tokens) (d : Draft)

theorem closeSegment_withTokens : (d.withTokens t).closeSegment = d.closeSegment.withTokens t := by
  have hposition : (d.withTokens t).position = d.position := rfl
  have hsegments : (d.withTokens t).segments = d.segments := rfl
  simp only [closeSegment, hposition, hsegments]
  split <;> rfl

/-- Names are handed out without a look at the tokens. -/
theorem withNextName_withTokens {go go' : Draft → String → Draft × Option Stop}
    (hgo : ∀ d name, ∃ t', go' (d.withTokens t) name = Prod.map (withTokens t') id (go d name)) :
    ∃ t', (d.withTokens t).withNextName go' = Prod.map (withTokens t') id (d.withNextName go) := by
  have hnext : (d.withTokens t).namer.next (d.withTokens t).segments.keys
      = d.namer.next d.segments.keys := rfl
  unfold withNextName
  rw [hnext]
  rcases d.namer.next d.segments.keys with ⟨limit | name, namer⟩
  · exact ⟨t, rfl⟩
  · exact hgo ({ d with namer }.moveTo name) name

theorem addNamed_withTokens (name : String) (c : Control) :
    ∃ t', (d.withTokens t).addNamed name c = Prod.map (withTokens t') id (d.addNamed name c) := by
  have hkeys : (d.withTokens t).segments = d.segments := rfl
  unfold addNamed
  rw [hkeys]
  split
  · exact withNextName_withTokens t d fun d default => ⟨t, rfl⟩
  · exact ⟨t, rfl⟩

theorem readHeader_withTokens (taken : List String) (s : String) :
    (d.withTokens t).readHeader taken s = Prod.map (withTokens t) id (d.readHeader taken s) := by
  have hnamer : (d.withTokens t).namer = d.namer := rfl
  simp only [readHeader, hnamer]
  rcases (Header.ofString s).settle d.namer taken with ⟨limit | ⟨name, ms⟩, namer⟩ <;> rfl

theorem addHeader_withTokens (s : String) :
    ∃ t', (d.withTokens t).addHeader s = Prod.map (withTokens t') id (d.addHeader s) := by
  have hkeys : (d.withTokens t).segments = d.segments := rfl
  unfold addHeader
  rw [hkeys, readHeader_withTokens]
  rcases d.readHeader d.segments.keys s with ⟨d', (limit | o) | ⟨name, c⟩⟩
  · exact ⟨t, rfl⟩
  · exact ⟨t, rfl⟩
  · exact addNamed_withTokens t d' name c

variable (delimiters delimiters' : Delimiters)

theorem append_withTokens (item : TextItem) :
    ∃ t', (d.withTokens t).append delimiters' item = (d.append delimiters item).withTokens t' :=
  ⟨t.extract delimiters' d.position.segment item.text, rfl⟩

theorem addText_withTokens (item : TextItem) :
    ∃ t', (d.withTokens t).addText delimiters' item
      = Prod.map (withTokens t') id (d.addText delimiters item) := by
  have hposition : (d.withTokens t).position = d.position := rfl
  unfold addText
  rw [hposition]
  split
  · obtain ⟨t', h⟩ := append_withTokens t d delimiters delimiters' item
    exact ⟨t', congrArg (·, none) h⟩
  · refine withNextName_withTokens t d fun d name => ?_
    let opened := { d with segments := d.segments.put name {} }.warn [.missingFirstHeader name]
    obtain ⟨t', h⟩ := append_withTokens t opened delimiters delimiters' item
    exact ⟨t', congrArg (·, none) h⟩

/-! ## 2. Lines under other delimiters -/

/-- A line comes to the same under other delimiters, up to the record of tokens. -/
theorem readLine_withTokens (s : String) :
    ∃ t', (d.withTokens t).readLine delimiters' s
      = Prod.map (withTokens t') id (d.readLine delimiters s) := by
  have hline : (d.withTokens t).atLine s = (d.atLine s).withTokens t := rfl
  cases hs : Line.ofString s with
  | header =>
    rw [readLine_header hs, readLine_header hs, hline, closeSegment_withTokens]
    exact addHeader_withTokens t _ s
  | comment =>
    rw [readLine_pass (.inl hs), readLine_pass (.inl hs)]
    exact ⟨t, rfl⟩
  -- only text is searched for tokens, and what is found goes into the record
  | text item =>
    rw [readLine_text hs, readLine_text hs, hline]
    exact addText_withTokens t _ delimiters delimiters' item
  | short =>
    rw [readLine_pass (.inr hs), readLine_pass (.inr hs)]
    exact ⟨t, rfl⟩
  | faulty fault =>
    rw [readLine_of_faulty _ hs, readLine_of_faulty _ hs, hline]
    exact ⟨t, rfl⟩

/-- So do lines. -/
theorem readLines_withTokens (lines : List String) :
    ∃ t', (d.withTokens t).readLines delimiters' lines
      = Prod.map (withTokens t') id (d.readLines delimiters lines) := by
  -- for every record, since each line leaves another one
  induction lines generalizing t d with
  | nil => exact ⟨t, rfl⟩
  | cons s lines ih =>
    obtain ⟨t₁, hline⟩ := readLine_withTokens t d delimiters delimiters' s
    rw [readLines, readLines, hline]
    rcases d.readLine delimiters s with ⟨d', _ | stop⟩
    · exact ih t₁ d'
    · exact ⟨t₁, rfl⟩

/-- **The same lines come to the same segments under any delimiters**, and are stopped at the same
place: only the record of tokens is another. -/
theorem read_withTokens (lines : List String) :
    ∃ t', (d.withTokens t).read delimiters' lines
      = Prod.map (withTokens t') id (d.read delimiters lines) := by
  let start : Draft := { d with position := {}, segments := [] }
  obtain ⟨t', hlines⟩ := readLines_withTokens t start delimiters delimiters' lines
  have hstart : { d.withTokens t with position := {}, segments := [] } = start.withTokens t := rfl
  refine ⟨t', ?_⟩
  rw [read, read, hstart, hlines]
  rcases start.readLines delimiters lines with ⟨d', _ | stop⟩
  · dsimp only [Prod.map_apply, id]
    -- the last segment is closed without a look at the tokens
    rw [closeSegment_withTokens]
    rfl
  · rfl

end WithTokens

/-! ## 3. Values -/

theorem untouched_bindings : Untouched fun d => d.tokens.bindings :=
  ⟨fun _ _ => rfl, fun _ _ => rfl, fun _ _ => rfl, fun _ _ => rfl⟩

/-- Reading supplies no values, whether it ends or is stopped. -/
theorem bindings_read (d : Draft) (delimiters : Delimiters) (lines : List String) :
    (d.read delimiters lines).1.tokens.bindings = d.tokens.bindings :=
  untouched_bindings.read (fun _ _ _ => rfl) (fun _ _ => rfl) d lines

end Draft

end Stencil
