/-
# Output that has not been written

A file that is loaded takes the place of what is there, and the output goes with it.  If it has not
been written, that is noted first, provided that the template comes from a file itself: what is noted
names both files.  Of the output of a template that was given as lines nothing is said.

What matters is the path, not where the template comes from.  The path outlasts a template that lines
have replaced, and then the loss is noted under its name.

* `loadFile_unwritten`: what loading a file does to output that has not been written;
* `unwritten_lost`: such output is lost without a warning.
-/
import Stencil.Proofs.Session.Behind
import Stencil.Proofs.Session.Written

namespace Stencil

namespace Session

/-! ## 1. The warning -/

/-- The warning that output has not been written, when a file is loaded in place of another. -/
def lossWarning (path : String) (previous : Path) : Entry where
  category := .loading
  level := .warning
  message := .loadBeforeWrite path previous.name

/-- The loss of the output is noted while the output is there, before anything else is: what follows
is done in the session that holds the warning, and further records stand behind it. -/
structure NotesLoss (s : Session) (files : FileTree) (path : String) (previous : Path) : Prop where
  loadFile : s.loadFile files path
    = { s with log := s.log ++ [Record.entry (lossWarning path previous)] }.readFile files path
  log : ∃ later, (s.loadFile files path).1.log
    = s.log ++ Record.entry (lossWarning path previous) :: later

/-! ## 2. A file before this one -/

theorem noted_of_unwritten {s : Session} {previous : Path} (houtput : s.output ≠ [])
    (hnot : s.isWritten = false) (hpath : s.path = some previous) (path : String) :
    s.noted path = { s with log := s.log ++ [Record.entry (lossWarning path previous)] } := by
  have hloss : s.output ≠ [] ∧ (!s.isWritten) = true := ⟨houtput, by rw [hnot]; rfl⟩
  have hnoted : s.noted path
      = if s.output ≠ [] ∧ !s.isWritten then s.warn .loading [.loadBeforeWrite path previous.name]
        else s := by simp only [noted, hpath]
  rw [hnoted, if_pos hloss]
  rfl

/-- Reading a file only adds to the log. -/
theorem readFile_log (s : Session) (files : FileTree) (path : String) :
    ∃ new, (s.readFile files path).1.log = s.log ++ new := by
  obtain ⟨f, h⟩ := readFile_behind s.log s.lastFault { s with log := [] } files path
  rw [behind_log] at h
  exact ⟨_, congrArg (fun r => r.1.log) h⟩

theorem notesLoss_of_output {s : Session} {files : FileTree} {path : String} {previous : Path}
    (houtput : s.output ≠ []) (hnot : s.isWritten = false) (hpath : s.path = some previous)
    (hlost : (s.loadFile files path).1.output = []) : s.NotesLoss files path previous := by
  have hload : s.loadFile files path
      = { s with log := s.log ++ [Record.entry (lossWarning path previous)] }.readFile files path := by
    rw [loadFile] at hlost ⊢
    -- a path with a null character and a file that is loaded already leave the output
    by_cases hnull : (Path.ofString path).hasNull = true
    · rw [if_pos hnull] at hlost
      exact absurd hlost houtput
    · by_cases hcurrent : s.isCurrent path = true
      · rw [if_neg hnull, if_pos hcurrent] at hlost
        exact absurd hlost houtput
      · rw [if_neg hnull, if_neg hcurrent, noted_of_unwritten houtput hnot hpath]
  refine ⟨hload, ?_⟩
  obtain ⟨later, hlog⟩ :=
    readFile_log { s with log := s.log ++ [Record.entry (lossWarning path previous)] } files path
  rw [hload]
  exact ⟨later, hlog.trans (List.append_assoc _ _ _)⟩

/-! ## 3. No file before this one -/

/-- What is noted when a file is read does not depend on the output. -/
theorem log_readFile (s : Session) (output : List String) (files : FileTree) (path : String) :
    ({ s with output }.readFile files path).1.log = (s.readFile files path).1.log := by
  unfold readFile
  dsimp only
  split <;> rfl

theorem loadFile_of_no_path {s : Session} (hpath : s.path = none) (files : FileTree) (path : String) :
    s.loadFile files path =
      if (Path.ofString path).hasNull then (s, .error (.badPath .nullCharacter))
      else s.readFile files path := by
  have hcurrent : ¬ s.isCurrent path = true := fun h =>
    absurd ((isCurrent_spec h).2.symm.trans hpath) (by simp)
  have hnoted : s.noted path = s := by simp [noted, hpath]
  rw [loadFile, if_neg hcurrent, hnoted]

/-! ## 4. What becomes of unwritten output -/

/-- **Loading a file leaves unwritten output or notes its loss**, if there is a path, that is to say, a
file before this one.  Where there is none, what is noted is what would be noted if there were no
output. -/
theorem loadFile_unwritten {s : Session} (houtput : s.output ≠ []) (hnot : s.isWritten = false)
    (files : FileTree) (path : String) :
    (∀ previous, s.path = some previous →
      (∃ new, (s.loadFile files path).1 = { s with log := s.log ++ new }) ∨
        ((s.loadFile files path).1.output = [] ∧ s.NotesLoss files path previous)) ∧
    (s.path = none →
      (s.loadFile files path).1.log = ({ s with output := [] }.loadFile files path).1.log) := by
  constructor
  -- either the output is still there, and then so is all the rest, or it is gone
  · intro previous hpath
    rcases s.loadFile_output files path with ⟨log, hleft⟩ | hlost
    · obtain ⟨new, hlog⟩ := s.perform_log (.loadFile files path)
      have hnew : log = s.log ++ new := (congrArg Session.log hleft).symm.trans hlog
      exact .inl ⟨new, hnew ▸ hleft⟩
    · exact .inr ⟨hlost, notesLoss_of_output houtput hnot hpath hlost⟩
  · intro hpath
    have hpath' : { s with output := [] }.path = none := hpath
    rw [loadFile_of_no_path hpath, loadFile_of_no_path hpath']
    split
    · rfl
    · exact (s.log_readFile [] files path).symm

/-- The tree with the files of two templates. -/
def twoFiles : FileTree :=
  ⟨[(["a.txt"], .file (TextFile.bytesOf ["### A", "    a"])),
    (["b.txt"], .file (TextFile.bytesOf ["### B", "    b"]))]⟩

/-- A file in place of another, and one that is not there. -/
theorem loadFile_unwritten_replaced :
    ∃ s, (ofSettings {}).run [.loadFile twoFiles "a.txt", .render (some "A") none] = s ∧
      s.output = ["a"] ∧ s.isWritten = false ∧
      (s.loadFile twoFiles "b.txt").2 = .ok true ∧
      s.NotesLoss twoFiles "b.txt" (Path.ofString "a.txt") ∧
      (s.loadFile twoFiles "c.txt").2 = .ok false ∧
      s.NotesLoss twoFiles "c.txt" (Path.ofString "a.txt") := by
  let s := (ofSettings {}).run [.loadFile twoFiles "a.txt", .render (some "A") none]
  have houtput : s.output = ["a"] := by decide +kernel
  have hne : s.output ≠ [] := by simp [houtput]
  have hnot : s.isWritten = false := by decide +kernel
  have hpath : s.path = some (Path.ofString "a.txt") := by decide +kernel
  have hread : (s.loadFile twoFiles "b.txt").2 = .ok true :=
    toOption_eq_some_iff.mp (by decide +kernel)
  have hlost : (s.loadFile twoFiles "b.txt").1.output = [] := by decide +kernel
  have hmissing : (s.loadFile twoFiles "c.txt").2 = .ok false :=
    toOption_eq_some_iff.mp (by decide +kernel)
  have hlost' : (s.loadFile twoFiles "c.txt").1.output = [] := by decide +kernel
  have hnotes (path : String) (hlost : (s.loadFile twoFiles path).1.output = []) :
      s.NotesLoss twoFiles path (Path.ofString "a.txt") := by
    rcases (loadFile_unwritten hne hnot twoFiles path).1 _ hpath with ⟨new, h⟩ | h
    · exact absurd ((congrArg Session.output h).symm.trans hlost) hne
    · exact h.2
  exact ⟨s, rfl, houtput, hnot, hread, hnotes _ hlost, hmissing, hnotes _ hlost'⟩

/-- **Unwritten output that is lost without a warning**: it is that of a template from lines. -/
theorem unwritten_lost :
    ∃ s, (ofSettings {}).run
        [.load ["### A", "    a"] inlineName, .render (some "A") none] = s ∧
      s.output = ["a"] ∧ s.isWritten = false ∧
      (s.loadFile twoFiles "b.txt").1.output = [] ∧
      (s.loadFile twoFiles "b.txt").1.log.hasWarnings = false := by
  refine ⟨_, rfl, ?_, ?_, ?_, ?_⟩ <;> decide +kernel

end Session

end Stencil
