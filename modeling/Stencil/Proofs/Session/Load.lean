/-
# What loading answers

Loading answers with the template or with a fault, and which of the two it is stands in the session.
It fails to answer in one case, a number in a header that is too long for one: the digits of an
option are read with a limit, and nothing catches what happens beyond it.

* `load_of_empty`, `load_of_not_empty`: loading by how the reading ends, so that no proof after these
  takes `Session.load` apart;
* `load_answers_iff`: the exact condition, and what an answer says about the session;
* `load_longNumber`: templates that begin with such a number.
-/
import Stencil.Proofs.Header.Written
import Stencil.Proofs.Template.Loading
import Stencil.Proofs.Template.LongNumber
import Stencil.Session.Load

namespace Stencil

/-! ## 1. Templates that are empty -/

theorem Line.not_header_of_isBlank {s : String} (h : Text.isBlank s = true) :
    Line.ofString s ≠ .header := by
  intro hh
  obtain ⟨rest, hs, -⟩ := Line.toList_of_header hh
  simp [Text.isBlank, hs, Text.isBlankChar] at h

namespace Session

/-- A template that counts as empty has no header. -/
theorem not_meetsLongNumber_of_empty {lines : List String} (h : isEmptyTemplate lines = true)
    (d : Draft) (delimiters : Delimiters) : ¬ d.MeetsLongNumber delimiters lines := by
  rintro ⟨before, s, after, d₁, hl, -, hs, -⟩
  -- such a template is one blank line at most
  rcases before with _ | ⟨t, before⟩
  · rcases after with _ | ⟨u, after⟩
    · subst hl
      exact Line.not_header_of_isBlank h hs
    · subst hl
      simp [isEmptyTemplate] at h
  · subst hl
    rcases before with _ | ⟨u, before⟩ <;> simp [isEmptyTemplate] at h

/-! ## 2. Answers -/

/-- The draft in which a session reads a template of the given name. -/
def loading (s : Session) (name : String) : Draft :=
  (s.clear.report [.info .loading (.loading name)]).draft

theorem shows_loading (s : Session) (name : String) : (s.loading name).Shows {} :=
  Draft.shows_start (s.loading name)

/-- The session and the answer after the lines of a template have been read. -/
def conclude (s : Session) (name : String) :
    Draft × Option Stop → Session × Except Text.DigitOverflow Bool
  | (d, none) =>
    ({ s.adopt d with template := d.segments, isLoaded := true, lastFault := none }, .ok true)
  | (d, some (.fault f)) =>
    ({ (s.adopt d).clear.report [.error .loading (.loadFailed name f d.position.line)] with
      lastFault := some f }, .ok false)
  | (d, some (.overflow o)) => (s.adopt d, .error o)

/-- An empty template is noted and not read. -/
theorem load_of_empty {s : Session} {lines : List String} (name : String)
    (h : isEmptyTemplate lines = true) :
    s.load lines name =
      ({ s.clear.warn .loading [.emptyTemplate name] with lastFault := some .empty }, .ok false) :=
  if_pos h

/-- Any other is read in the cleared session. -/
theorem load_of_not_empty {s : Session} {lines : List String} (name : String)
    (h : ¬ isEmptyTemplate lines = true) :
    s.load lines name =
      (s.clear.report [.info .loading (.loading name)]).conclude name
        ((s.loading name).read s.delimiters lines) := by
  have hload : (s.clear.report [.info .loading (.loading name)]).draft.load
      (s.clear.report [.info .loading (.loading name)]).delimiters lines
        = (s.loading name).load s.delimiters lines := rfl
  simp only [load, if_neg h, hload]
  -- the draft is loaded by its tables, which comes to reading it
  rw [Draft.load_eq_read]
  rcases (s.loading name).read s.delimiters lines with ⟨d, _ | (f | o)⟩ <;> rfl

/-- What loading answers, by how the reading ended. -/
def answer : Option Stop → Except Text.DigitOverflow Bool
  | none => .ok true
  | some (.fault _) => .ok false
  | some (.overflow o) => .error o

theorem load_answer {s : Session} {lines : List String} {name : String}
    (h : ¬ isEmptyTemplate lines = true) :
    (s.load lines name).2 = answer ((s.loading name).read s.delimiters lines).2 := by
  rw [load_of_not_empty name h]
  rcases (s.loading name).read s.delimiters lines with ⟨d, _ | (f | o)⟩ <;> rfl

/-- The answer of a load stands in the session as well. -/
theorem load_state {s : Session} {lines : List String} {name : String} {b : Bool}
    (h : (s.load lines name).2 = .ok b) :
    (s.load lines name).1.isLoaded = b ∧ (s.load lines name).1.lastFault.isSome = !b := by
  by_cases hempty : isEmptyTemplate lines = true
  · rw [load_of_empty name hempty] at h ⊢
    obtain rfl := Except.ok.inj h
    exact ⟨rfl, rfl⟩
  · rw [load_of_not_empty name hempty] at h ⊢
    generalize (s.loading name).read s.delimiters lines = result at h ⊢
    rcases result with ⟨d, _ | (f | o)⟩
    · obtain rfl := Except.ok.inj h
      exact ⟨rfl, rfl⟩
    · obtain rfl := Except.ok.inj h
      exact ⟨rfl, rfl⟩
    · exact absurd h (by simp [conclude])

/-- Loading breaks off exactly where reading does. -/
theorem load_error_iff {s : Session} {lines : List String} {name : String} :
    (∃ o, (s.load lines name).2 = .error o) ↔
      (s.loading name).MeetsLongNumber s.delimiters lines := by
  by_cases hempty : isEmptyTemplate lines = true
  · have hno := not_meetsLongNumber_of_empty hempty (s.loading name) s.delimiters
    simp [load, hempty, hno]
  · have hread : (∃ o, ((s.loading name).read s.delimiters lines).2 = some (.overflow o)) ↔
        (s.loading name).MeetsLongNumber s.delimiters lines := Draft.read_overflow_iff
    rw [← hread, load_answer hempty]
    rcases ((s.loading name).read s.delimiters lines).2 with _ | (fault | o) <;> simp [answer]

/-! ## 3. Numbers that are too long -/

/-- More digits than the limit make a number that is too long, whatever they are. -/
theorem longNumber_of_isDigit {s : String} (hd : ∀ c ∈ s.toList, c.isDigit = true)
    (hl : Text.digitLimit < s.toList.length) : Text.LongNumber s := by
  have hblank : ∀ c ∈ s.toList, Text.isBlankChar c = false := fun c hc =>
    Text.isBlankChar_of_isDigit (hd c hc)
  have hne : s.toList ≠ [] := fun e => by simp [e] at hl
  rw [Text.LongNumber, Text.trim_eq_self hblank, Text.splitSign_of_isDigit hd,
    Text.asciiDigits?, if_neg hne, Text.mapM_asciiDigit? hd]
  exact ⟨_, rfl, by simpa using hl⟩

theorem isField_of_isDigit {s : String} (hd : ∀ c ∈ s.toList, c.isDigit = true) (hne : s ≠ "") :
    Header.IsField s :=
  ⟨fun e => hne (String.toList_eq_nil_iff.mp e), fun c hc =>
    Header.not_isSeparator_of_isNameChar (by simp [isNameChar, Char.isAlphanum, hd c hc])⟩

/-- A header whose option is a number that is too long ends the load without an answer, also if the
number is within bounds but for the zeros before it. -/
theorem load_longNumber {segment digits : String} {key : OptionKey} (hn : isName segment = true)
    (hk : key ≠ .padSegment) (hd : ∀ c ∈ digits.toList, c.isDigit = true)
    (hl : Text.digitLimit < digits.toList.length) (s : Session) (rest : List String)
    (name : String) :
    ∃ o, (s.load (Header.line segment [key.name ++ "=" ++ digits] :: rest) name).2 = .error o := by
  have hne : digits ≠ "" := by
    rintro rfl
    simp at hl
  have hfield : ∀ o ∈ [key.name ++ "=" ++ digits], Header.IsField o := by
    intro o ho
    obtain rfl := List.mem_singleton.mp ho
    exact Header.isField_option (isField_of_isDigit hd hne)
  rw [load_error_iff]
  -- the first line is the one at which reading breaks off, with nothing before it
  refine ⟨[], _, rest, s.loading name, rfl, rfl, Header.isHeader_line hn, ?_⟩
  rw [Header.ofString_line hn hfield]
  refine ⟨⟨(segment, []), by simp [Header.settle, hn]⟩, key, digits, hk, ?_, ?_⟩
  · simp [Header.values, Header.readOption_written key hne, Except.toOption, Table.get?]
  · exact longNumber_of_isDigit hd hl

/-- **Loading answers unless it comes to a number that is too long**, in any session and whatever
the lines.  The answer is whether there is a template now; if not, the session holds the fault.  No
text that is read on the way misses its segment. -/
theorem load_answers_iff (s : Session) (lines : List String) (name : String) :
    ((∃ b, (s.load lines name).2 = .ok b) ↔
        ¬ (s.loading name).MeetsLongNumber s.delimiters lines) ∧
      (∀ b, (s.load lines name).2 = .ok b →
        (s.load lines name).1.isLoaded = b ∧ (s.load lines name).1.lastFault.isSome = !b) ∧
      ∀ before after d, lines = before ++ after →
        (s.loading name).readLines s.delimiters before = (d, none) →
        d.position.hasSegment = true → d.position.segment ∈ d.segments.keys := by
  refine ⟨?_, fun b hb => load_state hb, fun before after d _ hread hs => ?_⟩
  · rw [exists_ok_iff, load_error_iff]
  · exact Draft.readLines_lookup (s.shows_loading name) hread hs

end Session

end Stencil
