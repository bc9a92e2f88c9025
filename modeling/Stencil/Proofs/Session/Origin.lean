/-
# Where the template comes from

A session notes the path of the file that its template was read from, and a file that is asked for
again under that path is not read again.  The path is noted and forgotten where files are loaded, and
forgotten where everything is; loading lines does neither.  So a path is always that of the file that
was read last, but the template is that of the load that was done last, and behind lines that were
loaded after the file the two do not belong together.

* `path_run`: where the path comes from;
* `run_retains`: what is left of a template until the next load;
* `template_of_path`: what the path says about the template;
* `path_of_replaced`: a path that is not that of the template, and a load that trusts it.
-/
import Stencil.Proofs.Session.Afresh
import Stencil.Proofs.Session.History

namespace Stencil

namespace Session

/-! ## 1. The path -/

/-- The file at a path is read for its template. -/
def ReadsPath (p : Path) : Event
  | s, .loadFile files path =>
    ReadsFile s (.loadFile files path) ∧ (Path.ofString path).resolved = p
  | _, _ => False

/-- What reading a file leaves: its path, and the template that its lines come to in a new session
with the delimiters in force. -/
theorem Reachable.readsFile {settings : Settings} {s : Session} (hs : Reachable settings s)
    {files : FileTree} {path : String} (h : ReadsFile s (.loadFile files path)) :
    (s.loadFile files path).1.path = some (Path.ofString path).resolved ∧
      ∃ lines, TextFile.read files (some path) = .ok (.ok lines) ∧
        (s.loadFile files path).1.template =
          ((fresh settings s.delimiters).load lines
            (Path.ofString path).resolved.name).1.template := by
  obtain ⟨log, lines, t, hread, hload, hloaded⟩ := load_of_readsFile h
  have htemplate := hs.template_load log lines (Path.ofString path).resolved.name
  rw [hload] at htemplate
  rw [hloaded]
  exact ⟨rfl, lines, hread, htemplate⟩

/-- Only reading a file notes a path. -/
theorem perform_path {s : Session} {op : Operation} (h : ¬ ReadsFile s op) :
    (s.perform op).1.path = s.path ∨ (s.perform op).1.path = none := by
  by_cases hlines : LoadsLines s op
  · cases op with
    | load lines name => exact .inl (load_path s lines name)
    | _ => exact hlines.elim
  · exact (perform_retains hlines h).path

/-- **The path is that of the file that was read last**, whatever was loaded since. -/
theorem path_run {settings : Settings} {ops : List Operation} {p : Path}
    (h : ((ofSettings settings).run ops).path = some p) :
    Since (ReadsPath p) ReadsFile (ofSettings settings) ops := by
  induction ops using List.reverseRecOn with
  | nil => cases h
  | append_singleton ops op ih =>
    rw [run_snoc] at h
    rw [since_snoc]
    -- the last operation reads a file, and notes its path, or it leaves the path or forgets it
    by_cases hread : ReadsFile ((ofSettings settings).run ops) op
    · cases op with
      | loadFile files path =>
        have hs : Reachable settings ((ofSettings settings).run ops) := ⟨ops, rfl⟩
        exact .inl ⟨hread, Option.some.inj ((hs.readsFile hread).1.symm.trans h)⟩
      | _ => exact hread.elim
    · rcases perform_path hread with hsame | hnone
      · exact .inr ⟨ih (hsame.symm.trans h), hread⟩
      · exact absurd (h.symm.trans hnone) (by simp)

/-! ## 2. The template -/

/-- Until the next load a session retains its template, or has none. -/
theorem run_retains {s : Session} {ops : List Operation} (hlines : Never LoadsLines s ops)
    (hfile : Never ReadsFile s ops) : s.Retains (s.run ops) := by
  induction ops generalizing s with
  | nil => exact ⟨fun hloaded => ⟨hloaded, rfl⟩, .inl rfl⟩
  | cons op ops ih => exact (perform_retains hlines.1 hfile.1).trans (ih hlines.2 hfile.2)

/-- If nothing is loaded after an operation that has, the template is the one that that operation has
left. -/
theorem template_of_load {s : Session} (op : Operation) {after : List Operation}
    (hload : LoadsLines s op ∨ ReadsFile s op) (hlines : Never LoadsLines (s.perform op).1 after)
    (hfile : Never ReadsFile (s.perform op).1 after)
    (hloaded : ((s.perform op).1.run after).isLoaded = true) :
    ((s.perform op).1.run after).template.startOver = (s.perform op).1.template :=
  ((run_retains hlines hfile).template hloaded).2.trans (perform_asRead hload).startOver

/-! ## 3. What the path says about the template -/

/-- The template of the session is the one that lines come to in a new session with the given
delimiters, up to what has been rendered. -/
def ComesFrom (settings : Settings) (s : Session) (d : Delimiters) (lines : List String)
    (name : String) : Prop :=
  s.template.startOver = ((fresh settings d).load lines name).1.template

/-- In the first session a file is read under a path, and none is read while the operations after it
are performed.  Then the template is that of the file, unless lines have been loaded since; if they
have, it is that of the lines that were loaded last. -/
structure FileOrigin (settings : Settings) (s : Session) (files : FileTree) (path : String)
    (lines : List String) (after : List Operation) : Prop where
  reads : ReadsFile s (.loadFile files path)
  read : TextFile.read files (some path) = .ok (.ok lines)
  noted : (s.loadFile files path).1.path = some (Path.ofString path).resolved
  last : Never ReadsFile (s.loadFile files path).1 after
  unreplaced : Never LoadsLines (s.loadFile files path).1 after →
    ComesFrom settings ((s.loadFile files path).1.run after) s.delimiters lines
      (Path.ofString path).resolved.name
  replaced : ¬ Never LoadsLines (s.loadFile files path).1 after →
    ∃ mid lines' name rest, after = mid ++ .load lines' name :: rest ∧
      let t := (s.loadFile files path).1.run mid
      LoadsLines t (.load lines' name) ∧ Never LoadsLines (t.load lines' name).1 rest ∧
      ComesFrom settings ((s.loadFile files path).1.run after) t.delimiters lines' name

/-- Where the template comes from, once a file has been read. -/
theorem Reachable.fileOrigin {settings : Settings} {s : Session} (hs : Reachable settings s)
    {files : FileTree} {path : String} {after : List Operation}
    (hreads : ReadsFile s (.loadFile files path))
    (hlast : Never ReadsFile (s.loadFile files path).1 after)
    (hloaded : ((s.loadFile files path).1.run after).isLoaded = true) :
    ∃ lines, FileOrigin settings s files path lines after := by
  obtain ⟨hnoted, lines, hread, htemplate⟩ := hs.readsFile hreads
  have hs₁ : Reachable settings (s.loadFile files path).1 := hs.run [.loadFile files path]
  refine ⟨lines, hreads, hread, hnoted, hlast, fun hlines => ?_, fun hlines => ?_⟩
  · rw [ComesFrom, ← htemplate]
    exact template_of_load (.loadFile files path) (.inr hreads) hlines hlast hloaded
  -- lines were loaded, so that there is a load that was the last one
  · obtain ⟨mid, op, rest, rfl, hload, hrest⟩ := since_self_of_not_never hlines
    cases op with
    | load lines' name =>
      have hfile := (never_append.mp hlast).2.2
      rw [run_append] at hloaded
      refine ⟨mid, lines', name, rest, rfl, hload, hrest, ?_⟩
      let u := (s.loadFile files path).1.run mid
      have hu : Reachable settings u := hs₁.run mid
      rw [ComesFrom, run_append, ← hu.template_load u.log]
      exact template_of_load (.load lines' name) (.inl hload) hrest hfile hloaded
    | _ => exact hload.elim

/-- A file that is not read again is the one of the path, and nothing becomes of the template. -/
theorem loadFile_repeated {s : Session} {files : FileTree} {path : String} {p : Path}
    (hpath : s.path = some p) (htrue : (s.loadFile files path).2 = .ok true)
    (hnot : ¬ ReadsFile s (.loadFile files path)) :
    (Path.ofString path).resolved = p ∧ (s.loadFile files path).1.template = s.template := by
  have hcurrent : s.isCurrent path = true :=
    of_not_not fun hother => hnot ⟨htrue, Bool.eq_false_iff.mpr hother⟩
  refine ⟨Option.some.inj ((isCurrent_spec hcurrent).2.symm.trans hpath), ?_⟩
  -- the load is ignored, and only noted
  rw [loadFile, if_pos hcurrent]
  split <;> rfl

/-- **The path is that of the file that was read last, and the template is its template unless lines
have been loaded since.**  Under the same proviso a load of that file that is ignored leaves the
template of the file; otherwise it leaves that of the lines, and says that the file is loaded. -/
theorem template_of_path {settings : Settings} {ops : List Operation} {p : Path}
    (hloaded : ((ofSettings settings).run ops).isLoaded = true)
    (hpath : ((ofSettings settings).run ops).path = some p) :
    ∃ before files path lines after,
      ops = before ++ .loadFile files path :: after ∧ (Path.ofString path).resolved = p ∧
      FileOrigin settings ((ofSettings settings).run before) files path lines after ∧
      ∀ files' path',
        (((ofSettings settings).run ops).loadFile files' path').2 = .ok true →
        ¬ ReadsFile ((ofSettings settings).run ops) (.loadFile files' path') →
        (Path.ofString path').resolved = p ∧
          (((ofSettings settings).run ops).loadFile files' path').1.template
            = ((ofSettings settings).run ops).template := by
  -- the operation that read the file of the path, and those after it
  obtain ⟨before, op, after, hsplit, hdone, hlast⟩ := path_run hpath
  cases op with
  | loadFile files path =>
    obtain ⟨hreads, hresolved⟩ := hdone
    have hs : Reachable settings ((ofSettings settings).run before) := ⟨before, rfl⟩
    have hloaded' : ((((ofSettings settings).run before).loadFile files path).1.run after).isLoaded
        = true := by
      rw [hsplit, run_append] at hloaded
      exact hloaded
    obtain ⟨lines, horigin⟩ := hs.fileOrigin hreads hlast hloaded'
    exact ⟨before, files, path, lines, after, hsplit, hresolved, horigin,
      fun _ _ => loadFile_repeated hpath⟩
  | _ => exact hdone.elim

/-- The tree in which the file `a.txt` holds a template of one segment. -/
def oneFile : FileTree := ⟨[(["a.txt"], .file (TextFile.bytesOf ["### A", "    a"]))]⟩

/-- A file that is read after lines were loaded, rendered, and asked for again under a path that is
spelled otherwise. -/
theorem template_of_path_respelled :
    ∃ ops before files path lines after,
      let s := (ofSettings {}).run ops
      s.isLoaded = true ∧ s.path = some (Path.ofString "a.txt") ∧ s.output = ["a"] ∧
      ops = before ++ .loadFile files path :: after ∧
      FileOrigin {} ((ofSettings {}).run before) files path lines after ∧
      (s.loadFile oneFile "b/../a.txt").2 = .ok true ∧
      (s.loadFile oneFile "b/../a.txt").1.template = s.template := by
  let ops : List Operation :=
    [.load ["### B", "    b"] "lines", .loadFile oneFile "a.txt", .render (some "A") none]
  let s := (ofSettings {}).run ops
  have hloaded : s.isLoaded = true := by decide +kernel
  have hpath : s.path = some (Path.ofString "a.txt") := by decide +kernel
  have houtput : s.output = ["a"] := by decide +kernel
  have hcurrent : s.isCurrent "b/../a.txt" = true := by decide +kernel
  have htrue : (s.loadFile oneFile "b/../a.txt").2 = .ok true :=
    toOption_eq_some_iff.mp (by decide +kernel)
  obtain ⟨before, files, path, lines, after, hsplit, -, horigin, hrepeated⟩ :=
    template_of_path hloaded hpath
  have hnot : ¬ ReadsFile s (.loadFile oneFile "b/../a.txt") := fun h =>
    absurd (hcurrent.symm.trans h.2) (by decide)
  exact ⟨ops, before, files, path, lines, after, hloaded, hpath, houtput, hsplit, horigin, htrue,
    (hrepeated _ _ htrue hnot).2⟩

/-- **A path that is not that of the template.**  A file is read, other lines are loaded, and the file
is asked for again: the answer is that its template is loaded, but it is not. -/
theorem path_of_replaced :
    ∃ s, (ofSettings {}).run
        [.loadFile oneFile "a.txt", .load ["### B", "    b"] inlineName] = s ∧
      s.isLoaded = true ∧ s.path = some (Path.ofString "a.txt").resolved ∧
      TextFile.read oneFile (some "a.txt") = .ok (.ok ["### A", "    a"]) ∧
      ¬ ComesFrom {} s s.delimiters ["### A", "    a"] "a.txt" ∧
      (s.loadFile oneFile "a.txt").2 = .ok true ∧
      (s.loadFile oneFile "a.txt").1.template.keys = ["B"] := by
  refine ⟨_, rfl, by decide +kernel, by decide +kernel, rfl, ?_,
    toOption_eq_some_iff.mp (by decide +kernel), by decide +kernel⟩
  rw [ComesFrom]
  decide +kernel

end Session

end Stencil
