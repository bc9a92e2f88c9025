/-
# How the render command succeeds

The command checks one thing after the other and gives up at the first that fails.  So it ends with
exit code 0 in one way alone: the settings, the values and the delimiters are accepted, the template is
loaded, the segments are rendered one after the other, and the output is delivered.  What it does
until the segments come is told once (`Begins`), so that no proof after this file goes through the
checks again.

* `ending_zero`: what a run with exit code 0 has done;
* `Begins.isLoaded`, `Begins.fresh`: the session that the segments are rendered in;
* `keeps_renderEach`: the segments of a request, one after the other.
-/
import Stencil.Command.Render
import Stencil.Proofs.Session.Bindings
import Stencil.Proofs.Session.History

namespace Stencil

namespace Session

/-- Nothing has been rendered or supplied. -/
def Fresh (s : Session) : Prop := s.output = [] ∧ s.tokens.bindings = []

/-- Loading a file renders nothing and supplies no value. -/
theorem Fresh.loadFile {s : Session} (h : s.Fresh) (files : FileTree) (path : String) :
    (s.loadFile files path).1.Fresh := by
  -- nothing is loaded, or the session starts anew, or a template takes the place of the one before
  rcases s.loadFile_session files path with
    ⟨log, hlog⟩ | ⟨log, hlog⟩ | ⟨log, lines, name, path', hlog⟩
  · rw [hlog]
    exact h
  · rw [hlog]
    exact ⟨rfl, rfl⟩
  · rw [hlog]
    exact ⟨(load_leaves { s with log } lines name).2.2, load_bindings { s with log } lines name⟩

/-- Neither does changing the delimiters, accepted or not. -/
theorem Fresh.setDelimiters {s : Session} (h : s.Fresh) (start stop escape : Option String) :
    (s.setDelimiters start stop escape).1.Fresh := by
  have hchange := s.delimiterChange start stop escape
  generalize s.setDelimiters start stop escape = r at hchange ⊢
  cases hchange with
  | accepted => exact ⟨h.1, (s.tokens.bindings_rescan _ _).trans h.2⟩
  | refused => exact ⟨rfl, rfl⟩

/-- Where a file is said to be loaded, a template is. -/
theorem isLoaded_loadFile {s : Session} {files : FileTree} {path : String}
    (h : (s.loadFile files path).2 = .ok true) : (s.loadFile files path).1.isLoaded = true := by
  have hload := s.fileLoad files path
  generalize (s.loadFile files path).1 = s' at hload ⊢
  rw [h] at hload
  cases hload with
  -- the file is the one that is loaded, or it was read
  | ignored hcurrent => exact (isCurrent_spec hcurrent).1
  | @read log lines t _ _ hload =>
    have hstate := load_state (congrArg Prod.snd hload)
    rw [hload] at hstate
    exact hstate.1

end Session

namespace Command

/-- The text of what is displayed, or the title of a table. -/
def Display.caption : Display → String
  | text s => s
  | grid g => g.title

namespace RenderRequest

/-! ## 1. Until the segments come -/

/-- The session with the tab size of the request, if it has one. -/
def withTabSize (r : RenderRequest) (s : Session) : Session := r.tabSize.elim s s.setTabSize

/-- What a request has when it comes to its segments: the settings, the level, the values of both
kinds, and a session in which its template is loaded and its tab size is set. -/
structure Begins (r : RenderRequest) (env : Settings.Environment) (files : FileTree)
    (settings : Settings) (level : Level) (args : Table String String) (file : SegmentValues)
    (s : Session) : Prop where
  configured : Settings.load env {} = .ok settings
  logging : logLevel r.verbose settings.logLevel = .ok level
  arguments : parseArgs r.token = .ok args
  values : r.tokens.elim (.ok []) (readValues files) = .ok file
  session : ∃ t u, r.withDelimiters (.ofSettings settings) = (t, true) ∧
    t.loadFile files (Path.ofString r.template).text = (u, .ok true) ∧ s = r.withTabSize u

/-- A request without delimiters leaves those of the settings. -/
theorem withDelimiters_eq (r : RenderRequest) (s : Session) :
    r.withDelimiters s = (s, true) ∨
      ∃ start stop escape, r.withDelimiters s = s.setDelimiters start stop escape := by
  unfold withDelimiters
  split
  · exact .inr ⟨_, _, _, rfl⟩
  · exact .inl rfl

namespace Begins

variable {r : RenderRequest} {env : Settings.Environment} {files : FileTree} {settings : Settings}
  {level : Level} {args : Table String String} {file : SegmentValues} {s : Session}

theorem reachable (h : r.Begins env files settings level args file s) :
    Session.Reachable settings s := by
  obtain ⟨t, u, hdelimiters, hload, rfl⟩ := h.session
  -- the delimiters, the template and the tab size are one operation each, unless left out
  have ht : Session.Reachable settings t := by
    rcases r.withDelimiters_eq (.ofSettings settings) with he | ⟨start, stop, escape, he⟩
    · exact ⟨[], congrArg Prod.fst (he.symm.trans hdelimiters)⟩
    · exact ⟨[.setDelimiters start stop escape], congrArg Prod.fst (he.symm.trans hdelimiters)⟩
  have hu : Session.Reachable settings u := by
    have hloaded := ht.run [.loadFile files (Path.ofString r.template).text]
    simpa [Session.run, Session.perform, hload] using hloaded
  unfold withTabSize
  cases r.tabSize with
  | none => exact hu
  | some n => exact hu.run [.setTabSize n]

theorem isLoaded (h : r.Begins env files settings level args file s) : s.isLoaded = true := by
  obtain ⟨t, u, -, hload, rfl⟩ := h.session
  have hloaded := Session.isLoaded_loadFile (congrArg Prod.snd hload)
  rw [hload] at hloaded
  unfold withTabSize
  cases r.tabSize <;> exact hloaded

theorem fresh (h : r.Begins env files settings level args file s) : s.Fresh := by
  obtain ⟨t, u, hdelimiters, hload, rfl⟩ := h.session
  have hstart : (Session.ofSettings settings).Fresh := ⟨rfl, rfl⟩
  have ht : t.Fresh := by
    rcases r.withDelimiters_eq (.ofSettings settings) with he | ⟨start, stop, escape, he⟩
    · obtain rfl : Session.ofSettings settings = t := congrArg Prod.fst (he.symm.trans hdelimiters)
      exact hstart
    · have hchanged := hstart.setDelimiters start stop escape
      rw [← he, hdelimiters] at hchanged
      exact hchanged
  have hu := ht.loadFile files (Path.ofString r.template).text
  rw [hload] at hu
  unfold withTabSize
  cases r.tabSize <;> exact hu

end Begins

/-! ## 2. Segments one after the other -/

/-- The session with one segment of a request rendered. -/
def renderOne (args : Table String String) (file : SegmentValues) (s : Session)
    (segment : String) : Session :=
  s.render (some segment) (valuesFor (s.tokens.knownOf segment) args file segment)

/-- The session with segments rendered, one after the other. -/
def renderEach (args : Table String String) (file : SegmentValues) (s : Session)
    (segments : List String) : Session :=
  segments.foldl (renderOne args file) s

theorem renderEach_snoc (args : Table String String) (file : SegmentValues) (s : Session)
    (before : List String) (segment : String) :
    renderEach args file s (before ++ [segment])
      = renderOne args file (renderEach args file s before) segment := List.foldl_append

/-- Rendering segments leads from reachable sessions to reachable ones. -/
theorem reachable_renderEach {settings : Settings} {s : Session}
    (hs : Session.Reachable settings s) (args : Table String String) (file : SegmentValues)
    (segments : List String) : Session.Reachable settings (renderEach args file s segments) := by
  induction segments generalizing s with
  | nil => exact hs
  | cons segment segments ih => exact ih (hs.run [.render (some segment) _])

/-- Rendering segments keeps what the template says. -/
theorem keeps_renderEach (args : Table String String) (file : SegmentValues) (s : Session)
    (segments : List String) : s.Keeps (renderEach args file s segments) := by
  induction segments generalizing s with
  | nil => exact Session.keeps_log s s.log
  | cons segment segments ih => exact (Session.keeps_render s (some segment) _).trans (ih _)

end RenderRequest

/-! ## 3. Success -/

/-- With the values read, exit code 0 means that the delimiters are accepted and the template is
loaded. -/
theorem RenderRequest.ending_process {r : RenderRequest} {level : Level} {files : FileTree}
    {args : Table String String} {file : SegmentValues} {settings : Settings}
    (h : (r.process level files args file settings).ending = .ok 0) :
    ∃ t u, r.withDelimiters (.ofSettings settings) = (t, true) ∧
      t.loadFile files (Path.ofString r.template).text = (u, .ok true) ∧
      r.process level files args file settings
        = r.deliver level files (renderEach args file (r.withTabSize u) r.segments) := by
  -- every other way through the checks ends with a fault or with another exit code
  rcases hdelimiters : r.withDelimiters (.ofSettings settings) with ⟨t, _ | _⟩
  · simp [process, hdelimiters, finish] at h
  · rcases hload : t.loadFile files (Path.ofString r.template).text with ⟨u, reason | _ | _⟩
    · simp [process, hdelimiters, hload] at h
    · simp [process, hdelimiters, hload, finish] at h
    · refine ⟨t, u, rfl, hload, ?_⟩
      simp only [process, hdelimiters, hload, withTabSize]
      cases r.tabSize <;> rfl

/-- **A run with exit code 0** has passed every check, rendered the segments and delivered the
output. -/
theorem ending_zero {r : RenderRequest} {env : Settings.Environment} {files : FileTree}
    (h : (render r env files).ending = .ok 0) :
    ∃ settings level args file s, r.Begins env files settings level args file s ∧
      render r env files
        = r.deliver level files (RenderRequest.renderEach args file s r.segments) := by
  unfold render at h ⊢
  -- check by check, in their order
  cases hsettings : Settings.load env {} with
  | error fault => simp [hsettings] at h
  | ok settings =>
    cases hlevel : logLevel r.verbose settings.logLevel with
    | error fault => simp [hsettings, hlevel] at h
    | ok level =>
      cases hargs : parseArgs r.token with
      | error fault => simp [hsettings, hlevel, hargs] at h
      | ok args =>
        cases hfile : r.tokens.elim (.ok []) (readValues files) with
        | error fault => simp [hsettings, hlevel, hargs, hfile] at h
        | ok file =>
          simp only [hsettings, hlevel, hargs, hfile] at h ⊢
          obtain ⟨t, u, hdelimiters, hload, hprocess⟩ := RenderRequest.ending_process h
          exact ⟨settings, level, args, file, _,
            ⟨hsettings, hlevel, hargs, hfile, t, u, hdelimiters, hload, rfl⟩, hprocess⟩

/-- A run that comes to its segments renders them and delivers the output. -/
theorem RenderRequest.Begins.render_eq {r : RenderRequest} {env : Settings.Environment}
    {files : FileTree} {settings : Settings} {level : Level} {args : Table String String}
    {file : SegmentValues} {s : Session} (h : r.Begins env files settings level args file s) :
    render r env files = r.deliver level files (renderEach args file s r.segments) := by
  obtain ⟨t, u, hdelimiters, hload, rfl⟩ := h.session
  unfold render
  simp only [h.configured, h.logging, h.arguments, h.values, process, hdelimiters, hload, withTabSize]
  cases r.tabSize <;> rfl

end Command

end Stencil
