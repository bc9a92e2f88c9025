/-
# The beginning of a template

Loading goes through the lines once, from first to last, and keeps nothing of the lines ahead.  So what
it comes to is settled from the beginning of the template, in two ways.

* **Loaded segments stay.**  From a header on, nothing that stands before it is changed: the segments
  that the lines before it come to by themselves are the first ones of the whole template
  (`load_prefix`).  A segment that is closed is never opened again, and a header opens one under a name
  that is free.
* **The first fault decides.**  A load that fails does so at a line before which everything could be
  loaded, and the lines after it make no difference (`load_failsFast`).  The fault is that line's own,
  or there is no default name left for it.
-/
import Stencil.Proofs.Template.Loading
import Stencil.Proofs.Template.Stops
import Stencil.Proofs.Template.TextLines
import Stencil.Proofs.Template.Untouched

namespace Stencil

/-! ## 1. Segments that stay -/

namespace Reading

/-- From a header on, every segment that would stay if it were closed now goes on to be there, with its
options and its text, and in its place. -/
theorem Run.settled_prefix {stem : String} {lines : List String} {r r' : Reading}
    (h : Run stem lines r r') (hl : ∀ s ∈ lines.head?, Line.ofString s = .header) :
    r.settled <+: r'.settled := by
  cases h with
  | nil => exact List.prefix_rfl
  | @cons s lines _ r₂ _ hstep hrun =>
    -- the header closes the segment that is open, and closed segments stay
    have hclosed : r₂.closed = r.settled := hstep.closed_of_header (hl s rfl)
    rw [← hclosed]
    exact hrun.closed_prefix.trans r'.closed_prefix_settled

end Reading

namespace Draft

/-! ## 2. What loading returns -/

variable {d d' : Draft} {delimiters : Delimiters} {lines : List String}

/-- Lines that are read to their end are loaded. -/
theorem load_of_read (h : d.read delimiters lines = (d', none)) :
    d.load delimiters lines
      = (d', .ok { segments := d'.segments, line := d'.position.line }) := by
  rw [load_eq_read, h]

/-- Lines at which reading is stopped are not loaded. -/
theorem load_of_fault {f : LoadFault} (h : d.read delimiters lines = (d', some (.fault f))) :
    d.load delimiters lines = (d', .ok (.failed f d'.position.line)) := by
  rw [load_eq_read, h]

/-- What is loaded has been read. -/
theorem read_of_load {r : LoadResult} (h : d.load delimiters lines = (d', .ok r))
    (hok : r.fault = none) : d.read delimiters lines = (d', none) ∧ r.segments = d'.segments := by
  rcases hread : d.read delimiters lines with ⟨d₁, _ | (f | o)⟩
  · rw [load_of_read hread] at h
    obtain ⟨rfl, hr⟩ := Prod.mk.inj h
    obtain rfl := Except.ok.inj hr
    exact ⟨rfl, rfl⟩
  · rw [load_of_fault hread] at h
    obtain rfl := Except.ok.inj (Prod.mk.inj h).2
    exact absurd hok (by simp [LoadResult.failed])
  · rw [load_eq_read, hread] at h
    exact absurd (Prod.mk.inj h).2 (by simp)

/-- What cannot be loaded has been stopped at its fault. -/
theorem read_of_load_failed {r : LoadResult} {f : LoadFault}
    (h : d.load delimiters lines = (d', .ok r)) (hf : r.fault = some f) :
    d.read delimiters lines = (d', some (.fault f)) ∧ r = .failed f d'.position.line := by
  rcases hread : d.read delimiters lines with ⟨d₁, _ | (f₁ | o)⟩
  · rw [load_of_read hread] at h
    obtain rfl := Except.ok.inj (Prod.mk.inj h).2
    exact absurd hf (by simp)
  · rw [load_of_fault hread] at h
    obtain ⟨rfl, hr⟩ := Prod.mk.inj h
    obtain rfl := Except.ok.inj hr
    obtain rfl := Option.some.inj hf
    exact ⟨rfl, rfl⟩
  · rw [load_eq_read, hread] at h
    exact absurd (Prod.mk.inj h).2 (by simp)

/-- What is read of a template once its last line has been read. -/
theorem read_of_readLines
    (h : { d with position := {}, segments := [] }.readLines delimiters lines = (d', none)) :
    d.read delimiters lines
      = ({ d'.closeSegment with
            log := d'.closeSegment.log.record (.segmentsLoaded d'.closeSegment.segments.length) },
          none) := by
  rw [read, h]

/-! ## 3. Loaded segments stay -/

/-- **Loading only adds.**  Where lines and more lines, of which the first is a header, can be loaded,
the lines can be loaded by themselves, and what they come to stands first in the whole. -/
theorem load_prefix {more : List String} {r : LoadResult}
    (h : d.load delimiters (lines ++ more) = (d', .ok r)) (hok : r.fault = none)
    (hmore : ∀ s ∈ more.head?, Line.ofString s = .header) :
    ∃ d₁ r₁, d.load delimiters lines = (d₁, .ok r₁) ∧ r₁.fault = none ∧
      r₁.segments <+: r.segments := by
  obtain ⟨hread, hsegments⟩ := read_of_load h hok
  rcases hall : readLines { d with position := {}, segments := [] } delimiters (lines ++ more) with
    ⟨dₑ, _ | stop⟩
  -- the lines are read one after the other, so that the beginning is read first
  · obtain ⟨d₁, hlines, hrest⟩ := readLines_split hall
    obtain ⟨q₁, hshows₁, -⟩ := readLines_run (shows_start d) hlines
    obtain ⟨qₑ, hshowsₑ, hrun⟩ := readLines_run hshows₁ hrest
    rw [read_of_readLines hall] at hread
    obtain rfl := (Prod.mk.inj hread).1
    refine ⟨_, _, load_of_read (read_of_readLines hlines), rfl, ?_⟩
    calc d₁.closeSegment.segments
        = q₁.settled := closeSegment_segments hshows₁
      _ <+: qₑ.settled := hrun.settled_prefix hmore
      _ = dₑ.closeSegment.segments := (closeSegment_segments hshowsₑ).symm
      _ = r.segments := hsegments.symm
  -- a stop anywhere would have stopped the whole
  · rw [read_stop_iff.mpr hall] at hread
    exact absurd (Prod.mk.inj hread).2 (by simp)

/-- More lines that repeat the name of a segment and pad with it, and then open again the one that had
no text.  The beginning by itself ends with that one, and drops it. -/
theorem load_prefix_repeated :
    (Draft.load {} {} (["### A", "    a", "### E"]
        ++ ["### A PAD=A", "    b", "### E", "@+1 c"])).2
      = .ok { segments := [("A", { items := [⟨0, true, false, "a"⟩] }),
                ("DefaultSegment1",
                  { control := { padSegment := "A" }, items := [⟨0, true, false, "b"⟩] }),
                ("E", { items := [⟨1, true, false, "c"⟩] })],
              line := 7 } ∧
      ∃ d₁ r₁, Draft.load {} {} ["### A", "    a", "### E"] = (d₁, .ok r₁) ∧ r₁.fault = none ∧
        r₁.segments <+: [("A", { items := [⟨0, true, false, "a"⟩] }),
          ("DefaultSegment1",
            { control := { padSegment := "A" }, items := [⟨0, true, false, "b"⟩] }),
          ("E", { items := [⟨1, true, false, "c"⟩] })] := by
  have hload : (Draft.load {} {} (["### A", "    a", "### E"]
        ++ ["### A PAD=A", "    b", "### E", "@+1 c"])).2
      = .ok { segments := [("A", { items := [⟨0, true, false, "a"⟩] }),
                ("DefaultSegment1",
                  { control := { padSegment := "A" }, items := [⟨0, true, false, "b"⟩] }),
                ("E", { items := [⟨1, true, false, "c"⟩] })],
              line := 7 } := by decide +kernel
  exact ⟨hload, load_prefix (Prod.ext rfl hload) rfl (by decide +kernel)⟩

/-! ## 4. The first fault decides -/

theorem untouched_line : Untouched fun d => d.position.line :=
  ⟨fun _ _ => rfl, fun _ _ => rfl, fun _ _ => rfl, fun _ _ => rfl⟩

/-- Every line counts, also one that is stopped at. -/
theorem line_readLine (d : Draft) (delimiters : Delimiters) (s : String) :
    (d.readLine delimiters s).1.position.line = d.position.line + 1 :=
  untouched_line.readLine (fun _ _ _ => rfl) d s

/-- The line number counts the lines that have been read. -/
theorem line_readLines (h : d.readLines delimiters lines = (d', none)) :
    d'.position.line = d.position.line + lines.length := by
  induction lines generalizing d with
  | nil =>
    obtain rfl := (Prod.mk.inj h).1
    simp
  | cons s lines ih =>
    obtain ⟨d₁, hs, hrest⟩ := readLines_cons h
    have hline := d.line_readLine delimiters s
    rw [hs] at hline
    rw [ih hrest, hline, List.length_cons]
    omega

/-- The line needs a default name once the lines before it have been loaded: it is text before the
first header, or a header whose name is missing, invalid or one of those that are there. -/
def NeedsName (d : Draft) (s : String) : Prop :=
  match Line.ofString s with
  | .text _ => d.position.hasSegment = false
  | .header => ∀ name, (Header.ofString s).own? = some name → name ∈ d.segments.keys
  | .comment | .short | .faulty _ => False

/-- Whether a line needs a name shows in the draft that the lines before it come to. -/
theorem AsksForName.needsName {s : String} (h : d.AsksForName s)
    (hposition : d'.position = d.position) (hsegments : d'.segments = d.closeSegment.segments) :
    d'.NeedsName s := by
  cases hs : Line.ofString s with
  | header =>
    simp only [AsksForName, hs] at h
    simp only [NeedsName, hs]
    intro name hown
    exact hsegments ▸ (h name hown).1
  | text item =>
    simp only [AsksForName, hs] at h
    simp only [NeedsName, hs]
    exact hposition ▸ h
  | comment => simp [AsksForName, hs] at h
  | short => simp [AsksForName, hs] at h
  | faulty fault => simp [AsksForName, hs] at h

theorem closeSegment_position (d : Draft) : d.closeSegment.position = d.position := by
  simp only [closeSegment]
  split <;> rfl

/-- A line with a code is stopped at for want of a name only. -/
theorem Flaw.syntaxError_iff {s : String} {f : LoadFault} (h : d.Flaw s f) :
    f = .syntaxError ↔ ∃ fault, Line.ofString s = .faulty fault := by
  cases h with
  | syntaxError hs => exact iff_of_true rfl ⟨_, hs⟩
  | nameLimit hasks =>
    refine iff_of_false (by simp) ?_
    rintro ⟨fault, hs⟩
    simp [AsksForName, hs] at hasks

/-- The draft `d'` is the one that loading the lines before returns, with the last segment closed. -/
theorem Flaw.nameLimit_iff {s : String} {f : LoadFault} (h : d.Flaw s f)
    (hposition : d'.position = d.position) (hsegments : d'.segments = d.closeSegment.segments)
    (hnamer : d'.namer = d.closeSegment.namer) :
    f = .nameLimit ↔ d'.NeedsName s ∧ d'.NamesOut := by
  cases h with
  | syntaxError hs =>
    refine iff_of_false (by simp) ?_
    rintro ⟨hneeds, -⟩
    simp [NeedsName, hs] at hneeds
  | nameLimit hasks hout =>
    exact iff_of_true rfl
      ⟨hasks.needsName hposition hsegments, (namesOut_congr hsegments hnamer).mpr hout⟩

/-- **A load that fails does so at its first faulty line.**  The line is there, what stands before it
can be loaded, and what follows makes no difference to the result and to the log.  Nothing is returned,
and the fault tells which of the two ways it was: the line has no control code, or it needs a default
name, and every one up to the ceiling has been handed out or is taken. -/
theorem load_failsFast {r : LoadResult} {f : LoadFault}
    (h : d.load delimiters lines = (d', .ok r)) (hf : r.fault = some f) :
    r.segments = [] ∧ (f = .syntaxError ∨ f = .nameLimit) ∧
      ∃ before s after d₁ r₁, lines = before ++ s :: after ∧ r.line = before.length + 1 ∧
        d.load delimiters before = (d₁, .ok r₁) ∧ r₁.fault = none ∧
        (∀ other, d.load delimiters (before ++ s :: other) = (d', .ok r)) ∧
        (f = .syntaxError ↔ ∃ fault, Line.ofString s = .faulty fault) ∧
        (f = .nameLimit ↔ d₁.NeedsName s ∧ d₁.NamesOut) := by
  obtain ⟨hread, rfl⟩ := read_of_load_failed h hf
  obtain ⟨before, s, after, d₀, hlines, hbefore, hstop⟩ :=
    readLines_stop_iff.mp (read_stop_iff.mp hread)
  -- reading stopped at this line, and for a reason that lies in it
  have hflaw : d₀.Flaw s f := readLine_fault_iff.mp (congrArg Prod.snd hstop)
  have hline : d'.position.line = before.length + 1 := by
    have hlast := d₀.line_readLine delimiters s
    rw [hstop, line_readLines hbefore] at hlast
    simpa using hlast
  refine ⟨rfl, ?_, before, s, after, _, _, hlines, hline, load_of_read (read_of_readLines hbefore),
    rfl, ?_, ?_, ?_⟩
  · cases hflaw with
    | syntaxError => exact .inl rfl
    | nameLimit => exact .inr rfl
  · intro other
    exact load_of_fault
      (read_stop_iff.mpr (readLines_stop_iff.mpr ⟨before, s, other, d₀, rfl, hbefore, hstop⟩))
  · exact hflaw.syntaxError_iff
  · exact hflaw.nameLimit_iff d₀.closeSegment_position rfl rfl

/-- A namer with one name to give, which a header with an invalid name has taken before another one
repeats the name of a segment. -/
theorem load_failsFast_exhausted :
    ∃ (d' d₁ : Draft) (r₁ : LoadResult),
      Draft.load { namer := { ceiling := 1 } } {}
        ["### A", "    a", "### 1", "    b", "### A", "    c"]
          = (d', .ok (.failed .nameLimit 5)) ∧
      Draft.load { namer := { ceiling := 1 } } {} ["### A", "    a", "### 1", "    b"]
          = (d₁, .ok r₁) ∧
      r₁.fault = none ∧ d₁.NeedsName "### A" ∧ d₁.NamesOut ∧
      ∀ other, Draft.load { namer := { ceiling := 1 } } {}
        (["### A", "    a", "### 1", "    b"] ++ "### A" :: other)
          = (d', .ok (.failed .nameLimit 5)) := by
  have hload : (Draft.load { namer := { ceiling := 1 } } {}
      ["### A", "    a", "### 1", "    b", "### A", "    c"]).2
        = .ok (.failed .nameLimit 5) := by decide +kernel
  obtain ⟨-, -, before, s, after, d₁, r₁, hlines, hline, hbefore, hok, hother, -, hlimit⟩ :=
    load_failsFast (Prod.ext rfl hload) rfl
  have hfour : ["### A", "    a", "### 1", "    b"].length = before.length := by
    have hfive : (5 : Int) = before.length + 1 := hline
    change 4 = before.length
    omega
  have hlines' : ["### A", "    a", "### 1", "    b"] ++ ["### A", "    c"] = before ++ s :: after :=
    hlines
  obtain ⟨rfl, hrest⟩ := List.append_inj hlines' hfour
  obtain ⟨rfl, -⟩ := List.cons.inj hrest
  obtain ⟨hneeds, hout⟩ := hlimit.mp rfl
  exact ⟨_, d₁, r₁, Prod.ext rfl hload, hbefore, hok, hneeds, hout, hother⟩

end Draft

end Stencil
