/-
# Loading afresh

A load begins by clearing the session.  What a cleared session holds is what the settings began with,
but for the delimiters in force, the path, the log and the last fault; of these only the delimiters
enter into the load.  So it does not show what the session has been through: it comes to what it comes
to in a new session with the same delimiters.

The last fault is the exception.  A load that breaks off leaves it as it was.

* `Reachable.clear_eq`: what a cleared session holds;
* `load_eq_of_clear_eq`, `Reachable.load_eq`: a load is that of a new session;
* `load_congr`: the same load in two sessions.
-/
import Stencil.Proofs.Session.Reachable
import Stencil.Proofs.Template.Afresh

namespace Stencil

namespace Session

/-! ## 1. Cleared sessions -/

/-- However a load ends, it moves the count of the namer alone. -/
theorem reset_namer_load (s : Session) (lines : List String) (name : String) :
    (s.load lines name).1.namer.reset = s.namer.reset := by
  by_cases hempty : isEmptyTemplate lines = true
  · rw [load_of_empty name hempty]
    rfl
  · have hread := (s.loading name).reset_namer_read s.delimiters lines
    rw [load_of_not_empty name hempty]
    generalize (s.loading name).read s.delimiters lines = result at hread ⊢
    rcases result with ⟨d, _ | (f | o)⟩
    · exact hread
    · exact hread
    · exact hread

theorem reset_namer_loadFile (s : Session) (files : FileTree) (path : String) :
    (s.loadFile files path).1.namer.reset = s.namer.reset := by
  rcases s.loadFile_session files path with ⟨log, h⟩ | ⟨log, h⟩ | ⟨log, lines, name, path', h⟩
  · rw [h]
  · rw [h]
    rfl
  · rw [h]
    exact reset_namer_load { s with log } lines name

/-- No operation changes how default names are made. -/
theorem reset_namer_perform (s : Session) (op : Operation) :
    (s.perform op).1.namer.reset = s.namer.reset := by
  cases op with
  | load lines name => exact reset_namer_load s lines name
  | loadFile files path => exact reset_namer_loadFile s files path
  | render segment values => exact congrArg Namer.reset (keeps_render s segment values).namer
  | loadValues => rfl
  | setTabSize => rfl
  | setDelimiters start stop escape =>
    have h := s.delimiterChange start stop escape
    rw [perform]
    generalize s.setDelimiters start stop escape = r at h ⊢
    cases h with
    | accepted => rfl
    | refused => rfl
  | resetAll => rfl
  | resetOutput mention => exact congrArg Namer.reset (keeps_resetOutput s mention).namer
  | resetSegment segment => exact congrArg Namer.reset (keeps_resetSegment s segment).namer
  | writeOutput files path reset =>
    exact congrArg Namer.reset (keeps_writeOutput s files path reset).namer

/-- The session that settings begin, with other delimiters in force. -/
def fresh (settings : Settings) (d : Delimiters) : Session :=
  { ofSettings settings with delimiters := d }

/-- **A cleared session is as new**, but for the delimiters, the path, the log and the last fault. -/
theorem Reachable.clear_eq {settings : Settings} {s : Session} (hs : Reachable settings s) :
    s.clear = { fresh settings s.delimiters with
      log := s.log, path := s.path, lastFault := s.lastFault } := by
  have hnamer : s.namer.reset = (ofSettings settings).namer.reset :=
    hs.induction (P := fun s => s.namer.reset = (ofSettings settings).namer.reset) rfl
      fun s op ih => (reset_namer_perform s op).trans ih
  -- the namer, the delimiters and the tab size of the settings are what a clear goes back to
  simp only [clear, Column.reset, hnamer, hs.home, hs.column_home]
  rfl

/-! ## 2. Loads -/

/-- **A load is that of a new session** with the delimiters in force: the answer, the records that are
added and the session behind it.  The path stays, and so does the last fault if the load breaks off. -/
theorem load_eq_of_clear_eq {settings : Settings} {s : Session}
    (hclear : s.clear = { fresh settings s.delimiters with
      log := s.log, path := s.path, lastFault := s.lastFault })
    (lines : List String) (name : String) :
    let t := ((fresh settings s.delimiters).load lines name).1
    let answer := ((fresh settings s.delimiters).load lines name).2
    s.load lines name =
      ({ t with
          log := s.log ++ t.log
          path := s.path
          lastFault := if answer.isOk then t.lastFault else s.lastFault }, answer) := by
  by_cases hempty : isEmptyTemplate lines = true
  · rw [load_of_empty name hempty, load_of_empty name hempty, hclear]
    rfl
  · rw [load_of_not_empty name hempty, load_of_not_empty name hempty]
    -- both loads begin with the same draft, one of them behind the log
    have hloading : s.loading name = ((fresh settings s.delimiters).loading name).behind s.log := by
      rw [loading, hclear]
      rfl
    rw [hloading, Draft.read_behind, hclear]
    have hdelimiters : (fresh settings s.delimiters).delimiters = s.delimiters := rfl
    -- an answer replaces the last fault, and a number that is too long leaves it
    rw [hdelimiters]
    rcases ((fresh settings s.delimiters).loading name).read s.delimiters lines with
      ⟨d, _ | (f | o)⟩
    · rfl
    · simp only [conclude, Prod.map_apply, id, adopt, clear, report, Draft.behind, Log.report,
        List.append_assoc]
      rfl
    · rfl

theorem Reachable.load_eq {settings : Settings} {s : Session} (hs : Reachable settings s)
    (lines : List String) (name : String) :
    let t := ((fresh settings s.delimiters).load lines name).1
    let answer := ((fresh settings s.delimiters).load lines name).2
    s.load lines name =
      ({ t with
          log := s.log ++ t.log
          path := s.path
          lastFault := if answer.isOk then t.lastFault else s.lastFault }, answer) :=
  load_eq_of_clear_eq hs.clear_eq lines name

/-- The template that lines come to is that of a new session, whatever has been noted before. -/
theorem Reachable.template_load {settings : Settings} {s : Session} (hs : Reachable settings s)
    (log : Log) (lines : List String) (name : String) :
    ({ s with log }.load lines name).1.template
      = ((fresh settings s.delimiters).load lines name).1.template := by
  have hclear : { s with log }.clear = { fresh settings s.delimiters with
      log, path := s.path, lastFault := s.lastFault } :=
    congrArg (fun t : Session => { t with log }) hs.clear_eq
  rw [load_eq_of_clear_eq hclear]

/-- Two sessions agree in everything but the path and the log. -/
def AgreeButPathAndLog (s t : Session) : Prop :=
  s = { t with path := s.path, log := s.log }

/-- **A load does not depend on what the session has been through.**  Two reachable sessions of the
same settings, with the same delimiters in force, give the same answer to the same lines and add the
same records to their logs; and unless the load breaks off, they agree behind it in everything but
the path and the log. -/
theorem load_congr {settings : Settings} {s t : Session} (hs : Reachable settings s)
    (ht : Reachable settings t) (hd : s.delimiters = t.delimiters) (lines : List String)
    (name : String) :
    (s.load lines name).2 = (t.load lines name).2 ∧
      (∃ new, (s.load lines name).1.log = s.log ++ new ∧ (t.load lines name).1.log = t.log ++ new) ∧
      ∀ b, (s.load lines name).2 = .ok b →
        AgreeButPathAndLog (s.load lines name).1 (t.load lines name).1 := by
  rw [hs.load_eq, ht.load_eq, hd]
  refine ⟨rfl, ⟨_, rfl, rfl⟩, fun b hb => ?_⟩
  -- there is an answer, so that the last fault is that of the load in both
  have hok : ((fresh settings t.delimiters).load lines name).2.isOk = true := by
    rw [show ((fresh settings t.delimiters).load lines name).2 = .ok b from hb]
    rfl
  simp only [AgreeButPathAndLog, hok, if_true]

/-- A template with default names, behind a render with a tab size and values of its own, and behind
a load that has failed. -/
theorem load_congr_apart :
    ∃ s t, Reachable {} s ∧ Reachable {} t ∧ s.delimiters = t.delimiters ∧ s.output = ["  v"] ∧
      t.lastFault = some .syntaxError ∧
      let lines := ["    first", "### A PAD=DefaultSegment1", "    <#y#>", "### A", "    again"]
      (s.load lines "lines").2 = .ok true ∧ (t.load lines "lines").2 = .ok true ∧
        (∃ new, (s.load lines "lines").1.log = s.log ++ new ∧
          (t.load lines "lines").1.log = t.log ++ new) ∧
        AgreeButPathAndLog (s.load lines "lines").1 (t.load lines "lines").1 := by
  let lines := ["    first", "### A PAD=DefaultSegment1", "    <#y#>", "### A", "    again"]
  let before : List Operation :=
    [.load ["    x", "### A TAB=2", "@+1 <#x#>"] "rendered", .setTabSize 7,
      .render (some "A") (some [(.name "x", .string "v")])]
  let failed : List Operation := [.load ["    x", "text"] "failed"]
  let s := (ofSettings {}).run before
  let t := (ofSettings {}).run failed
  have houtput : s.output = ["  v"] := by decide +kernel
  have hfault : t.lastFault = some .syntaxError := by decide +kernel
  have hs : (s.load lines "lines").2 = .ok true := toOption_eq_some_iff.mp (by decide +kernel)
  have hdelimiters : s.delimiters = t.delimiters := by decide +kernel
  obtain ⟨hanswer, hlog, hagree⟩ :=
    load_congr (s := s) (t := t) ⟨before, rfl⟩ ⟨failed, rfl⟩ hdelimiters lines "lines"
  exact ⟨s, t, ⟨before, rfl⟩, ⟨failed, rfl⟩, hdelimiters, houtput, hfault, hs, hanswer ▸ hs, hlog,
    hagree true hs⟩

end Session

end Stencil
