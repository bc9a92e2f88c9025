/-
# Loading a file

A file is loaded only if its template is not the one that is loaded already, and only if it can be
read.  Then its lines are loaded like any others.  What comes of it is told apart from the log, so
that no proof after this file takes `Session.loadFile` apart.

* `fileLoad`: how loading a file ends;
* `loadFile_session`: the session that it leaves, whatever it answers.
-/
import Stencil.Proofs.Session.Load

namespace Stencil

namespace Session

/-! ## 1. What is done -/

/-- A file is the one that is loaded if there is a template and the path is its. -/
theorem isCurrent_spec {s : Session} {path : String} (h : s.isCurrent path = true) :
    s.isLoaded = true ∧ s.path = some (Path.ofString path).resolved := by
  by_cases hblank : Text.isBlank path = true
  · simp [isCurrent, fileAt, hblank] at h
  · simp only [isCurrent, fileAt, if_neg hblank, Bool.and_eq_true, beq_iff_eq] at h
    exact ⟨h.1.1, h.2.symm⟩

theorem noted_eq (s : Session) (path : String) : ∃ log, s.noted path = { s with log } := by
  unfold noted
  split
  · split
    · exact ⟨_, rfl⟩
    · exact ⟨s.log, rfl⟩
  · exact ⟨s.log, rfl⟩

/-! ## 2. What comes of it -/

/-- What comes of loading a file. -/
inductive FileLoad (s : Session) (files : FileTree) (path : String) :
    Session → Except Abort Bool → Prop
  | broken {log : Log} {a : Abort} : FileLoad s files path { s with log } (.error a)
  | ignored {log : Log} : s.isCurrent path = true → FileLoad s files path { s with log } (.ok true)
  | unreadable {log : Log} {m : Message} : TextFile.read files (some path) = .ok (.error m) →
      FileLoad s files path
        { { s with log }.clear with path := none, lastFault := some .unreadable } (.ok false)
  | read {log : Log} {lines : List String} {t : Session} {loaded : Bool} :
      TextFile.read files (some path) = .ok (.ok lines) →
      { s with log }.load lines (Path.ofString path).resolved.name = (t, .ok loaded) →
      s.isCurrent path = false →
      FileLoad s files path
        { t with path := if loaded then some (Path.ofString path).resolved else none } (.ok loaded)
  | overflow {log : Log} {lines : List String} {t : Session} {o : Text.DigitOverflow} :
      TextFile.read files (some path) = .ok (.ok lines) →
      { s with log }.load lines (Path.ofString path).resolved.name = (t, .error o) →
      FileLoad s files path t (.error (.overflow o))

/-- What comes of a file that is to be read. -/
theorem fileLoad_readFile {s : Session} {log : Log} (files : FileTree) {path : String}
    (hcurrent : s.isCurrent path = false) :
    FileLoad s files path ({ s with log }.readFile files path).1
      ({ s with log }.readFile files path).2 := by
  cases hread : TextFile.read files (some path) with
  | error fault =>
    simp only [readFile, hread]
    exact .broken
  | ok result =>
    -- without a path there is no file to read
    by_cases hblank : Text.isBlank path = true
    · obtain rfl := Except.ok.inj ((TextFile.read_blank files hblank).symm.trans hread)
      simp only [readFile, hread, unreadable]
      exact .unreadable hread
    · cases result with
      | error m =>
        simp only [readFile, hread, unreadable]
        exact .unreadable hread
      | ok lines =>
        simp only [readFile, hread, fileAt, if_neg hblank]
        split
        · rename_i t loaded hload
          exact .read hread hload hcurrent
        · rename_i t o hload
          exact .overflow hread hload

/-- **Loading a file ends in one of these ways.** -/
theorem fileLoad (s : Session) (files : FileTree) (path : String) :
    FileLoad s files path (s.loadFile files path).1 (s.loadFile files path).2 := by
  obtain ⟨log, hlog⟩ := s.noted_eq path
  rw [loadFile, hlog]
  split
  -- the path is no request, or the file is loaded already, or it is read
  · exact .broken
  · split
    · rename_i hcurrent
      exact .ignored hcurrent
    · rename_i hcurrent
      exact fileLoad_readFile files (Bool.eq_false_iff.mpr hcurrent)

/-- The session behind it, whatever is answered: only the log is another, or the session was cleared, or
lines were loaded and a path was noted or left. -/
theorem loadFile_session (s : Session) (files : FileTree) (path : String) :
    (∃ log, (s.loadFile files path).1 = { s with log }) ∨
      (∃ log, (s.loadFile files path).1
        = { { s with log }.clear with path := none, lastFault := some .unreadable }) ∨
      ∃ log lines name path', (s.loadFile files path).1
        = { ({ s with log }.load lines name).1 with path := path' } := by
  have h := s.fileLoad files path
  generalize (s.loadFile files path).1 = s' at h ⊢
  generalize (s.loadFile files path).2 = answer at h
  cases h with
  | broken => exact .inl ⟨_, rfl⟩
  | ignored => exact .inl ⟨_, rfl⟩
  | unreadable => exact .inr (.inl ⟨_, rfl⟩)
  | read _ hload => exact .inr (.inr ⟨_, _, _, _, by rw [hload]⟩)
  | overflow _ hload => exact .inr (.inr ⟨_, _, _, s'.path, by rw [hload]⟩)

end Session

end Stencil
