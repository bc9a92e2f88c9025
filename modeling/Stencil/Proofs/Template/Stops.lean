/-
# Where a line stops the reading

Two faults can stop the reading of a template: a line has no control code, or it asks for a default
name and there is none left.  A line asks for one if it is text before the first header, or a header
whose name is missing, invalid or taken.

* `withNextName_stop_iff`, `addNamed_stop_iff`, `addText_stop_iff`: a segment is added unless there
  is no name for it;
* `readLine_fault_iff`: the lines that stop the reading with a fault, and the fault.
-/
import Stencil.Proofs.Template.Reading

namespace Stencil

/-! ## 1. Names of headers -/

namespace Header

/-- The name that a header gives its segment, if it is a valid one. -/
def own? (h : Header) : Option String :=
  match h.name with
  | .given name => if isName name then some name else none
  | .missing => none

/-- A header with a valid name has it, whatever is taken. -/
theorem settle_of_own {h : Header} {name : String} (hown : h.own? = some name) (namer : Namer)
    (taken : List String) : h.settle namer taken = (.ok (name, []), namer) := by
  unfold own? at hown
  unfold settle
  split at hown
  · rename_i given hgiven
    split at hown
    · rename_i hname
      obtain rfl := Option.some.inj hown
      simp [hgiven, hname]
    · exact absurd hown (by simp)
  · exact absurd hown (by simp)

/-- Without a valid name a header gets a default one. -/
theorem settle_of_own_none {h : Header} (hown : h.own? = none) (namer : Namer)
    (taken : List String) :
    ∃ note : String → List Message, h.settle namer taken =
      ((namer.next taken).1.map fun name => (name, note name), (namer.next taken).2) := by
  unfold own? at hown
  unfold settle
  split at hown
  · rename_i given hgiven
    split at hown
    · exact absurd hown (by simp)
    · rename_i hname
      exact ⟨fun name => [.invalidSegmentName given name], by simp [hgiven, hname]⟩
  · rename_i hmissing
    exact ⟨fun name => [.nameNotInColumnFive name], by simp [hmissing]⟩

end Header

/-! ## 2. Names that run out -/

namespace Draft

/-- No default name is left. -/
def NamesOut (d : Draft) : Prop :=
  ∀ k : Nat, d.namer.count < k → (k : Int) ≤ d.namer.ceiling → d.namer.name k ∈ d.segments.keys

/-- Whether names are left depends on the segments and the namer. -/
theorem namesOut_congr {d d' : Draft} (hseg : d'.segments = d.segments) (hnamer : d'.namer = d.namer) :
    d'.NamesOut ↔ d.NamesOut := by rw [NamesOut, NamesOut, hseg, hnamer]

/-- Handing out a name stops the reading where none is left, and nowhere else. -/
theorem withNextName_stop_iff {d : Draft} {go : Draft → String → Draft × Option Stop}
    (hgo : ∀ d name, (go d name).2 = none) {stop : Stop} :
    (d.withNextName go).2 = some stop ↔ stop = .fault .nameLimit ∧ d.NamesOut := by
  unfold NamesOut
  rw [← Namer.next_error_iff, withNextName]
  rcases d.namer.next d.segments.keys with ⟨limit | name, namer⟩
  · simp [exhausted, eq_comm]
  · simp [hgo]

/-- A segment is added under its name, or under a default one if that is taken. -/
theorem addNamed_stop_iff {d : Draft} {name : String} {c : Control} {stop : Stop} :
    (d.addNamed name c).2 = some stop ↔
      stop = .fault .nameLimit ∧ name ∈ d.segments.keys ∧ d.NamesOut := by
  unfold addNamed
  split
  · rename_i htaken
    rw [withNextName_stop_iff fun _ _ => rfl]
    simp [htaken]
  · rename_i hfree
    simp [hfree]

/-- Text needs a name if no segment is open. -/
theorem addText_stop_iff {d : Draft} {delimiters : Delimiters} {item : TextItem} {stop : Stop} :
    (d.addText delimiters item).2 = some stop ↔
      stop = .fault .nameLimit ∧ d.position.hasSegment = false ∧ d.NamesOut := by
  unfold addText
  split
  · rename_i hsegment
    simp [hsegment]
  · rename_i hnone
    rw [withNextName_stop_iff fun _ _ => rfl]
    simp [hnone]

/-- What becomes of a header that has its name depends on its options and on the names that are
taken. -/
theorem addHeader_of_settle {d : Draft} {s name : String} {ms : List Message} {namer : Namer}
    (h : (Header.ofString s).settle d.namer d.segments.keys = (.ok (name, ms), namer)) :
    ∃ d' : Draft, d'.segments = d.segments ∧ d'.namer = namer ∧
      (d.addHeader s).2 = match (Header.readOptions name (Header.ofString s).options).2 with
        | .ok c => (d'.addNamed name c).2
        | .error o => some (.overflow o) := by
  refine ⟨(({ d with namer }.moveTo name).warn ms).warn
    (Header.readOptions name (Header.ofString s).options).1, rfl, rfl, ?_⟩
  rw [addHeader, readHeader, h]
  dsimp only
  cases (Header.readOptions name (Header.ofString s).options).2 <;> rfl

/-- Where no name is left, a header that needs one stops the reading. -/
theorem addHeader_of_names_out {d : Draft} {s : String}
    (hown : (Header.ofString s).own? = none) (hout : d.NamesOut) :
    (d.addHeader s).2 = some (.fault .nameLimit) := by
  obtain ⟨limit, hlimit⟩ := Namer.next_error_iff.mpr hout
  obtain ⟨note, hs⟩ := Header.settle_of_own_none hown d.namer d.segments.keys
  simp [addHeader, readHeader, hs, hlimit, Except.map, exhausted]

/-- A header stops the reading with a fault exactly if it asks for a default name and there is none.
One whose name is taken asks for it only after its options have been read. -/
theorem addHeader_fault_iff {d : Draft} {s : String} {f : LoadFault} :
    (d.addHeader s).2 = some (.fault f) ↔
      f = .nameLimit ∧ d.NamesOut ∧ ∀ name, (Header.ofString s).own? = some name →
        name ∈ d.segments.keys ∧ ¬ Header.HasLongNumber (Header.ofString s).options := by
  cases hown : (Header.ofString s).own? with
  -- the header asks for a default name at once
  | none =>
    by_cases hout : d.NamesOut
    · rw [addHeader_of_names_out hown hout]
      simp [hout, eq_comm]
    · obtain ⟨note, hs⟩ := Header.settle_of_own_none hown d.namer d.segments.keys
      rcases hnext : d.namer.next d.segments.keys with ⟨limit | name, namer⟩
      · exact absurd (Namer.next_error_iff.mp ⟨limit, congrArg Prod.fst hnext⟩) hout
      · rw [hnext] at hs
        obtain ⟨d', hseg, -, hadd⟩ := addHeader_of_settle hs
        have hfree : name ∉ d'.segments.keys := hseg ▸ Namer.next_taken hnext
        rw [hadd]
        cases (Header.readOptions name (Header.ofString s).options).2 with
        | error o => simp [hout]
        | ok c => simp [hout, addNamed_stop_iff, hfree]
  -- the header has a name of its own, and asks for another only if that is taken
  | some name =>
    obtain ⟨d', hseg, hnamer, hadd⟩ := addHeader_of_settle (Header.settle_of_own hown _ _)
    have hnames : d'.NamesOut ↔ d.NamesOut := namesOut_congr hseg hnamer
    have hopt : (∃ o, (Header.readOptions name (Header.ofString s).options).2 = .error o) ↔
        Header.HasLongNumber (Header.ofString s).options := Header.readOptions_error_iff
    rw [hadd, ← hopt]
    cases (Header.readOptions name (Header.ofString s).options).2 with
    | error o => simp
    | ok c => simp [addNamed_stop_iff, hseg, hnames, and_comm]

/-! ## 3. Lines -/

/-- Closing drops the open segment if it has no text. -/
theorem closeSegment_segments_eq (d : Draft) :
    d.closeSegment.segments
      = if d.position.segment ≠ "" ∧
          ((d.segments.get? d.position.segment).all fun s => s.items.isEmpty) = true
        then d.segments.erase d.position.segment else d.segments := by
  simp only [closeSegment, Position.hasSegment, Bool.and_eq_true, decide_eq_true_eq]
  exact apply_ite segments _ _ _

/-- What closing leaves depends on the segments and on which of them is open. -/
theorem closeSegment_congr {d d' : Draft} (hseg : d'.segments = d.segments)
    (hpos : d'.position.segment = d.position.segment) :
    d'.closeSegment.segments = d.closeSegment.segments := by
  rw [closeSegment_segments_eq, closeSegment_segments_eq, hseg, hpos]

theorem closeSegment_of_none {d : Draft} (h : d.position.hasSegment = false) : d.closeSegment = d := by
  simp [closeSegment, h]

/-- The line asks for a default name: it is text before the first header, or a header whose name is
missing, invalid or taken. -/
def AsksForName (d : Draft) (s : String) : Prop :=
  match Line.ofString s with
  | .text _ => d.position.hasSegment = false
  | .header => ∀ name, (Header.ofString s).own? = some name →
      name ∈ d.closeSegment.segments.keys ∧ ¬ Header.HasLongNumber (Header.ofString s).options
  | .comment | .short | .faulty _ => False

/-- The lines that stop the reading with a fault. -/
inductive Flaw (d : Draft) (s : String) : LoadFault → Prop
  | syntaxError {fault : LineFault} : Line.ofString s = .faulty fault → Flaw d s .syntaxError
  | nameLimit : d.AsksForName s → d.closeSegment.NamesOut → Flaw d s .nameLimit

theorem Flaw.faulty_or_asks {d : Draft} {s : String} {f : LoadFault} (h : d.Flaw s f) :
    (∃ fault, Line.ofString s = .faulty fault) ∨ d.AsksForName s := by
  cases h with
  | syntaxError h => exact .inl ⟨_, h⟩
  | nameLimit h => exact .inr h

/-- **The lines that stop the reading with a fault, and the fault.** -/
theorem readLine_fault_iff {d : Draft} {delimiters : Delimiters} {s : String} {f : LoadFault} :
    (d.readLine delimiters s).2 = some (.fault f) ↔ d.Flaw s f := by
  cases hs : Line.ofString s with
  | header =>
    -- the line number makes no difference to what is closed, nor to the namer
    have hseg : (d.atLine s).closeSegment.segments = d.closeSegment.segments :=
      closeSegment_congr rfl rfl
    have hnamer : (d.atLine s).closeSegment.namer = d.closeSegment.namer := by
      rw [closeSegment_namer, closeSegment_namer]
      rfl
    rw [readLine_header hs, addHeader_fault_iff, namesOut_congr hseg hnamer, hseg]
    constructor
    · rintro ⟨rfl, hout, hasks⟩
      exact .nameLimit (by simpa only [AsksForName, hs] using hasks) hout
    · rintro (hfaulty | ⟨hasks, hout⟩)
      · exact absurd (hs.symm.trans hfaulty) (by simp)
      · exact ⟨rfl, hout, by simpa only [AsksForName, hs] using hasks⟩
  | text item =>
    have hsegment : (d.atLine s).position.hasSegment = d.position.hasSegment := rfl
    have hnames : (d.atLine s).NamesOut ↔ d.NamesOut := namesOut_congr rfl rfl
    rw [readLine_text hs, addText_stop_iff, Stop.fault.injEq, hsegment, hnames]
    constructor
    · rintro ⟨rfl, hnone, hout⟩
      refine .nameLimit (by simpa only [AsksForName, hs] using hnone) ?_
      rwa [closeSegment_of_none hnone]
    · rintro (hfaulty | ⟨hasks, hout⟩)
      · exact absurd (hs.symm.trans hfaulty) (by simp)
      · have hnone : d.position.hasSegment = false := by simpa only [AsksForName, hs] using hasks
        rw [closeSegment_of_none hnone] at hout
        exact ⟨rfl, hnone, hout⟩
  | comment =>
    rw [readLine_pass (.inl hs)]
    exact ⟨fun h => absurd h (by simp), fun h => by simpa [AsksForName, hs] using h.faulty_or_asks⟩
  | short =>
    rw [readLine_pass (.inr hs)]
    exact ⟨fun h => absurd h (by simp), fun h => by simpa [AsksForName, hs] using h.faulty_or_asks⟩
  | faulty fault =>
    rw [readLine_faulty hs, Option.some.injEq, Stop.fault.injEq]
    constructor
    · rintro rfl
      exact .syntaxError hs
    · rintro (- | ⟨hasks, -⟩)
      · rfl
      · simp [AsksForName, hs] at hasks

/-- A text is not read to its end because of a fault exactly if one of its lines has one, past lines
that are read. -/
theorem read_fault_iff {d : Draft} {delimiters : Delimiters} {lines : List String}
    {f : LoadFault} :
    (d.read delimiters lines).2 = some (.fault f) ↔
      ∃ before s after d₁, lines = before ++ s :: after ∧
        { d with position := {}, segments := [] }.readLines delimiters before = (d₁, none) ∧
        d₁.Flaw s f := by
  constructor
  · intro h
    -- the reading is stopped at a line, and the fault is in it
    obtain ⟨before, s, after, d₁, hl, hread, hstop⟩ :=
      readLines_stop_iff.mp (read_stop_iff.mp (Prod.ext rfl h))
    exact ⟨before, s, after, d₁, hl, hread, readLine_fault_iff.mp (congrArg Prod.snd hstop)⟩
  · rintro ⟨before, s, after, d₁, hl, hread, hflaw⟩
    have hstop : d₁.readLine delimiters s = (_, some (.fault f)) :=
      Prod.ext rfl (readLine_fault_iff.mpr hflaw)
    exact congrArg Prod.snd
      (read_stop_iff.mpr (readLines_stop_iff.mpr ⟨before, s, after, d₁, hl, hread, hstop⟩))

end Draft

end Stencil
