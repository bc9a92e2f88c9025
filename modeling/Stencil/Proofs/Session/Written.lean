/-
# Output that has been written

A session counts as written when its output is in a file.  It comes to count so in one place and ceases
to in several, and the output changes in others; the mark and the output are right together because
rendering takes the mark away and whatever else changes the output leaves none.

The mark outlasts the output.  It says nothing about a session without any.

* `PutsOut`: lines that are written, as an event;
* `perform_isWritten`: what one operation does to the mark and to the output;
* `written_run`: what the mark says after any operations, and what an answer says.
-/
import Stencil.Proofs.Session.History

namespace Stencil

namespace Session

/-! ## 1. Writing as an event -/

/-- The output is written to a file. -/
def WritesOut : Event
  | s, .writeOutput files path reset => (s.writeOutput files path reset).2.2 = .ok true
  | _, _ => False

/-- The output consists of the given lines, and they are written to a file, which holds them then. -/
def PutsOut (lines : List String) : Event
  | s, .writeOutput files path reset =>
    (s.writeOutput files path reset).2.2 = .ok true ∧ s.output = lines ∧
      TextFile.find (s.writeOutput files path reset).2.1 (Path.ofString path)
        = .ok (some (TextFile.bytesOf lines))
  | _, _ => False

/-! ## 2. What one operation does -/

/-- A request that is met leaves the session unwritten; one that is refused leaves the output and the
mark. -/
theorem render_isWritten (s : Session) (segment : Option String) (values : Option Values) :
    (s.render segment values).isWritten = false ∨
      ((s.render segment values).isWritten = s.isWritten ∧
        (s.render segment values).output = s.output) := by
  cases h : s.refusal? (segment.getD "") with
  | some m =>
    rw [render_of_refusal h]
    exact .inr ⟨rfl, rfl⟩
  | none =>
    rw [render_of_accepted h]
    exact .inl rfl

theorem resetSegment_isWritten (s : Session) (segment : Option String) :
    (s.resetSegment segment).isWritten = s.isWritten ∧
      (s.resetSegment segment).output = s.output := by
  unfold resetSegment
  dsimp only
  split <;> exact ⟨rfl, rfl⟩

/-- Loading a file leaves the session as it is but for the log, or without output. -/
theorem loadFile_output (s : Session) (files : FileTree) (path : String) :
    (∃ log, (s.loadFile files path).1 = { s with log }) ∨ (s.loadFile files path).1.output = [] := by
  -- a file that is ignored, one that cannot be read, and one whose lines are loaded
  rcases s.loadFile_session files path with h | ⟨log, h⟩ | ⟨log, lines, name, path', h⟩
  · exact .inl h
  · rw [h]
    exact .inr rfl
  · rw [h]
    exact .inr (load_leaves { s with log } lines name).2.2

theorem writeOutput_isWritten {s : Session} {files : FileTree} {path : String} {reset : Bool}
    (hwritten : (s.writeOutput files path reset).1.isWritten = true)
    (houtput : (s.writeOutput files path reset).1.output ≠ []) :
    PutsOut (s.writeOutput files path reset).1.output s (.writeOutput files path reset) ∨
      (¬ WritesOut s (.writeOutput files path reset) ∧ s.isWritten = true ∧
        (s.writeOutput files path reset).1.output = s.output) := by
  have h := s.writing files path reset
  simp only [PutsOut, WritesOut]
  generalize s.writeOutput files path reset = r at h hwritten houtput ⊢
  rcases r with ⟨s', files', answer⟩
  cases h with
  | broken => exact .inr ⟨by simp, hwritten, rfl⟩
  | failed => exact .inr ⟨by simp, hwritten, rfl⟩
  | kept hfile => exact .inl ⟨rfl, rfl, hfile⟩
  | dropped => exact absurd rfl houtput

/-- **Where there is output that counts as written**, it has been written just now, or it was there and
counted as written before. -/
theorem perform_isWritten {s : Session} {op : Operation}
    (hwritten : (s.perform op).1.isWritten = true) (houtput : (s.perform op).1.output ≠ []) :
    PutsOut (s.perform op).1.output s op ∨
      (¬ WritesOut s op ∧ s.isWritten = true ∧ (s.perform op).1.output = s.output) := by
  -- `houtput` rules out what leaves no output, and `hwritten` what takes the mark away
  cases op with
  | load lines name => exact absurd (s.load_leaves lines name).2.2 houtput
  | loadFile files path =>
    rcases s.loadFile_output files path with ⟨log, h⟩ | h
    · rw [perform, h] at hwritten ⊢
      exact .inr ⟨id, hwritten, rfl⟩
    · exact absurd h houtput
  | render segment values =>
    rcases s.render_isWritten segment values with h | ⟨h, hsame⟩
    · exact absurd (h.symm.trans hwritten) (by simp)
    · exact .inr ⟨id, h.symm.trans hwritten, hsame⟩
  | loadValues => exact .inr ⟨id, hwritten, rfl⟩
  | setTabSize => exact .inr ⟨id, hwritten, rfl⟩
  | setDelimiters start stop escape =>
    have h := s.delimiterChange start stop escape
    rw [perform] at hwritten houtput ⊢
    generalize s.setDelimiters start stop escape = r at h hwritten houtput ⊢
    cases h with
    | accepted => exact .inr ⟨id, hwritten, rfl⟩
    | refused => exact absurd rfl houtput
  | resetAll => exact absurd rfl houtput
  | resetOutput mention => cases mention <;> exact absurd rfl houtput
  | resetSegment segment =>
    obtain ⟨h, hsame⟩ := s.resetSegment_isWritten segment
    exact .inr ⟨id, h.symm.trans hwritten, hsame⟩
  | writeOutput files path reset => exact writeOutput_isWritten hwritten houtput

/-! ## 3. What the mark and the answers say -/

/-- Output that counts as written has been written, by induction on the operations from the last one
back. -/
theorem since_putsOut {settings : Settings} {ops : List Operation}
    (hwritten : ((ofSettings settings).run ops).isWritten = true)
    (houtput : ((ofSettings settings).run ops).output ≠ []) :
    Since (PutsOut ((ofSettings settings).run ops).output) WritesOut (ofSettings settings) ops := by
  induction ops using List.reverseRecOn with
  | nil => exact absurd rfl houtput
  | append_singleton ops op ih =>
    rw [run_snoc] at hwritten houtput ⊢
    rw [since_snoc]
    rcases perform_isWritten hwritten houtput with hputs | ⟨hnot, hbefore, hsame⟩
    · exact .inl hputs
    · rw [hsame] at houtput ⊢
      exact .inr ⟨ih hbefore houtput, hnot⟩

/-- **Output that counts as written is what was written last**, after any operations: the last time that
a write was done, the lines were these, and the file held them.  A write that is not done leaves the
session as it is but for the log.  One that is done leaves it marked as written, with the output as it
is or, if that is to be reset, without any. -/
theorem written_run {settings : Settings} {ops : List Operation} {s : Session}
    (hs : (ofSettings settings).run ops = s) :
    (s.isWritten = true → s.output ≠ [] →
        Since (PutsOut s.output) WritesOut (ofSettings settings) ops) ∧
      ∀ files path reset,
        ((s.writeOutput files path reset).2.2 = .ok false →
          ∃ new, (s.writeOutput files path reset).1 = { s with log := s.log ++ new }) ∧
        ((s.writeOutput files path reset).2.2 = .ok true →
          (s.writeOutput files path reset).1.isWritten = true ∧
          (s.writeOutput files path reset).1.output = if reset then [] else s.output) := by
  subst hs
  refine ⟨since_putsOut, fun files path reset => ?_⟩
  have h := ((ofSettings settings).run ops).writing files path reset
  generalize ((ofSettings settings).run ops).writeOutput files path reset = r at h ⊢
  rcases r with ⟨s', files', answer⟩
  cases h with
  | broken => simp
  | failed => exact ⟨fun _ => ⟨_, rfl⟩, by simp⟩
  | kept => exact ⟨by simp, fun _ => ⟨rfl, rfl⟩⟩
  | dropped => exact ⟨by simp, fun _ => ⟨rfl, rfl⟩⟩

/-- Output that is kept when it is written, behind a write that was reset, a write that was not done
and a request that was refused. -/
theorem written_run_kept :
    ∃ ops s files, (ofSettings {}).run ops = s ∧ s.isWritten = true ∧ s.output = ["b"] ∧
      Since (PutsOut ["b"]) WritesOut (ofSettings {}) ops ∧
      (s.writeOutput files "d" true).2.2 = .ok false ∧
      (∃ new, (s.writeOutput files "d" true).1 = { s with log := s.log ++ new }) ∧
      (s.writeOutput files "d/b" true).2.2 = .ok true ∧
      (s.writeOutput files "d/b" true).1.output = [] := by
  let files : FileTree := ⟨[(["d"], .directory)]⟩
  let ops : List Operation :=
    [.load ["### A", "    a", "### B", "    b"] "template", .render (some "A") none,
      .writeOutput files "d/a" true, .render (some "B") none, .writeOutput files "c/b" false,
      .writeOutput files "d" true, .render (some "C") none]
  let s := (ofSettings {}).run ops
  have hwritten : s.isWritten = true := by decide +kernel
  have houtput : s.output = ["b"] := by decide +kernel
  have hfailed : (s.writeOutput files "d" true).2.2 = .ok false :=
    toOption_eq_some_iff.mp (by decide +kernel)
  have hdone : (s.writeOutput files "d/b" true).2.2 = .ok true :=
    toOption_eq_some_iff.mp (by decide +kernel)
  obtain ⟨hsince, hwrite⟩ := written_run (s := s) rfl
  have hputs := hsince hwritten (by simp [houtput])
  rw [houtput] at hputs
  exact ⟨ops, s, files, rfl, hwritten, houtput, hputs, hfailed, (hwrite files "d" true).1 hfailed,
    hdone, ((hwrite files "d/b" true).2 hdone).2⟩

end Session

end Stencil
