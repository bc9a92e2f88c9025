/-
# How the render command delivers

With a path for its output, the command writes the lines to a file at that path.  A run that comes so far
ends with exit code 0 whether or not the file was written.  What tells the two apart is on the error
stream and among the problems: a file that was written is announced, and of a file that was not the last
thing shown says why.

* `Delivers`, `delivers`: what a run delivers to a path;
* `Begins.ending_iff`: only a path that is no request at all makes a run break off there;
* `render_delivers`: what a run with exit code 0 has delivered;
* `render_undelivered`: exit code 0, and the lines are in no file.
-/
import Stencil.Proofs.Command.Render
import Stencil.Proofs.Files.Path
import Stencil.Proofs.Files.Writing

namespace Stencil

namespace Command

/-! ## 1. What is shown last -/

/-- A problem with writing, as it is displayed. -/
def complaint (l : Level) (m : Message) : Shown :=
  ⟨styleOf l, .text (Entry.text ⟨.writing, l, {}, m⟩)⟩

/-- A problem that was noted last is shown last. -/
theorem getLast?_shownLog {n : Notice} (h : n.level.isProblem = true) (l : Log) (p : Position)
    (ns : List Notice) (verbose : Bool) :
    (shownLog (l.report p (ns ++ [n])) verbose).getLast?
      = some ⟨styleOf n.level, .text (n.stamp p).text⟩ := by
  -- the stamp leaves the level, so that the problem is among what is shown
  have hstamp : (n.stamp p).level = n.level := rfl
  simp [shownLog, Log.entries_report, hstamp, h, ← List.append_assoc]

namespace RenderRequest

/-! ## 2. What is delivered -/

/-- The session when its output has been put to a path, with or without success. -/
def afterwards (s : Session) (files : FileTree) (path : Path) : Session :=
  (s.writeOutput files path.text true).1

/-- What a run has delivered to a path, with the outcome that it has then: its lines, as a file that is
announced; nothing, because there are no lines; or nothing, because the file system refused.  What was
not delivered has changed no file, and the last thing shown is why. -/
inductive Delivers (r : RenderRequest) (path : Path) (files : FileTree) (s : Session)
    (o : Outcome) : Prop
  | written {place : List String} (lines : s.output ≠ [])
      (held : TextFile.find o.files path = .ok (some (TextFile.bytesOf s.output)))
      (others : ∀ other, other ≠ place → o.files.file? other = files.file? other)
      (announced : o.stderr = r.traceOf (afterwards s files path) ++ sent s!"✓ Wrote {path.text}")
  | nothing (lines : s.output = []) (same : o.files = files)
      (silent : o.stderr = r.traceOf (afterwards s files path))
      (reason : o.shown.getLast? = some (complaint .warning (.nothingToWrite path.text)))
  | refused {fault : FileFault} (lines : s.output ≠ []) (same : o.files.file? = files.file?)
      (silent : o.stderr = r.traceOf (afterwards s files path))
      (reason : o.shown.getLast? = some (complaint .error (.writeFailed fault)))

variable {r : RenderRequest} {path : String}

/-- What is delivered where the write answers. -/
theorem deliver_answered (hpath : r.output = some path) (level : Level) {files : FileTree}
    {s s' : Session} {files' : FileTree} {isWritten : Bool}
    (hwrite : s.writeOutput files (Path.ofString path).text true = (s', files', .ok isWritten)) :
    r.deliver level files s =
      { ending := .ok 0
        stderr := r.traceOf s' ++ if isWritten then sent s!"✓ Wrote {(Path.ofString path).text}" else ""
        shown := shownLog s'.log r.verbose
        level
        files := files' } := by
  -- what is written and what is not differ in the announcement alone
  cases isWritten <;> simp [deliver, hpath, hwrite, finish]

/-- **Exit code 0 does not depend on what the write answers**, as long as the path is a request. -/
theorem ending_deliver (hpath : r.output = some path) (level : Level) (files : FileTree)
    (s : Session) : (r.deliver level files s).ending = .ok 0 ↔
      ∃ isWritten, (s.writeOutput files (Path.ofString path).text true).2.2 = .ok isWritten := by
  rcases hwrite : s.writeOutput files (Path.ofString path).text true with ⟨s', files', reason | b⟩
  · simp [deliver, hpath, hwrite]
  · simp [deliver_answered hpath level hwrite]

/-- **What a run with exit code 0 delivers**, case by case of the write. -/
theorem delivers (hpath : r.output = some path) {level : Level} {files : FileTree} {s : Session}
    (hexit : (r.deliver level files s).ending = .ok 0) :
    r.Delivers (Path.ofString path) files s (r.deliver level files s) := by
  obtain ⟨isWritten, hanswer⟩ := (ending_deliver hpath level files s).mp hexit
  rcases hwrite : s.writeOutput files (Path.ofString path).text true with ⟨s', files', answer⟩
  obtain rfl : answer = .ok isWritten := (congrArg (·.2.2) hwrite).symm.trans hanswer
  have hafter : afterwards s files (Path.ofString path) = s' := congrArg Prod.fst hwrite
  rw [deliver_answered hpath level hwrite]
  unfold Session.writeOutput at hwrite
  -- how writing ends is all that is needed here of the file system
  have hwrites := TextFile.writes files (Path.ofString path).text s.output
  generalize TextFile.write files (Path.ofString path).text s.output = w at hwrite hwrites
  cases hwrites with
  | nothing hlines =>
    cases hwrite
    exact .nothing hlines rfl (by simp [hafter]) (getLast?_shownLog rfl s.log s.position [] r.verbose)
  | broken => cases hwrite
  | failed hlines hsame =>
    cases hwrite
    exact .refused hlines hsame (by simp [hafter]) (getLast?_shownLog rfl s.log s.position [_] r.verbose)
  | written hlines hheld hothers =>
    cases hwrite
    -- the write was asked for the text of the path, and what it writes is held at the path itself
    rw [Path.ofString_text] at hheld
    exact .written hlines hheld hothers (by simp [hafter])

end RenderRequest

/-! ## 3. What exit code 0 says -/

/-- **A run that comes to its segments ends with exit code 0** whether or not its output was written, as
long as the path is a request. -/
theorem RenderRequest.Begins.ending_iff {r : RenderRequest} {path : String}
    (hpath : r.output = some path) {env : Settings.Environment} {files : FileTree}
    {settings : Settings} {level : Level} {args : Table String String} {file : SegmentValues}
    {s : Session} (h : r.Begins env files settings level args file s) :
    (render r env files).ending = .ok 0 ↔ ∃ isWritten,
      ((renderEach args file s r.segments).writeOutput files (Path.ofString path).text true).2.2
        = .ok isWritten := by
  rw [h.render_eq]
  exact ending_deliver hpath level files _

/-- **What a run with exit code 0 has delivered**: its lines, as a file that is announced, or nothing, and
then the last thing shown is why. -/
theorem render_delivers {r : RenderRequest} {path : String} (hpath : r.output = some path)
    {env : Settings.Environment} {files : FileTree}
    (hexit : (render r env files).ending = .ok 0) :
    ∃ settings level args file s, r.Begins env files settings level args file s ∧
      r.Delivers (Path.ofString path) files (RenderRequest.renderEach args file s r.segments)
        (render r env files) := by
  obtain ⟨settings, level, args, file, s, hbegins, hrender⟩ := ending_zero hexit
  refine ⟨settings, level, args, file, s, hbegins, ?_⟩
  -- the whole run is the delivery of the session with the segments rendered
  rw [hrender] at hexit ⊢
  exact RenderRequest.delivers hpath hexit

/-- The tree with a template and a directory. -/
def listFiles : FileTree :=
  ⟨[(["t.tt"], .file (TextFile.bytesOf ["### Item", "@=0 - <#x#>"])), (["d"], .directory)]⟩

/-- Two lines in a file of a directory that is made for it. -/
theorem render_delivers_written :
    ∃ (r : RenderRequest) (o : Outcome), r.output = some "out/./list.txt" ∧
      render r [] listFiles = o ∧ o.ending = .ok 0 ∧ o.stderr = "✓ Wrote out/list.txt\n" ∧
      TextFile.find o.files ⟨false, ["out", "list.txt"]⟩
        = .ok (some (TextFile.bytesOf ["- a", "- a"])) ∧
      ∃ settings level args file s, r.Begins [] listFiles settings level args file s ∧
        r.Delivers (Path.ofString "out/./list.txt") listFiles
          (RenderRequest.renderEach args file s r.segments) o := by
  let r : RenderRequest :=
    { template := "t.tt", segments := ["Item", "Item"], token := ["x=a"],
      output := some "out/./list.txt" }
  have hexit : (render r [] listFiles).ending = .ok 0 :=
    toOption_eq_some_iff.mp (by decide +kernel)
  refine ⟨r, _, rfl, rfl, hexit, by decide +kernel, ?_, render_delivers rfl hexit⟩
  exact toOption_eq_some_iff.mp (by decide +kernel)

/-- **Exit code 0, and the lines are in no file.**  The path is that of a directory. -/
theorem render_undelivered :
    let r : RenderRequest :=
      { template := "t.tt", segments := ["Item", "Item"], token := ["x=a"], output := some "d" }
    let o := render r [] listFiles
    (render { r with output := none } [] listFiles).stdout = "- a\n- a\n" ∧
      o.ending.toOption = some 0 ∧ o.stderr = "" ∧ o.files = listFiles ∧
      (TextFile.find o.files (Path.ofString "d")).toOption = some none ∧
      (o.shown.map fun shown => shown.display.caption)
        = ["<Writing> Unable to write to output file. [Errno 21] Is a directory: 'd'"] := by
  decide +kernel

end Command

end Stencil
