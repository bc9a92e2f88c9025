/-
# Behind an earlier log

A session carries two things that no operation looks at: the log, to which records are added, and the
last fault, which a load leaves for the host.  So an operation does behind an earlier log, and with
another fault on record, what it does without: it gives the same answer, writes the same files, adds
the same records and leaves the same session, behind the same earlier log.

The faults need not be the same afterwards, and need not differ as they did.  A load that is answered
replaces the fault, and one that breaks off does not.

* `renderAt_behind`, `load_behind`, `loadFile_behind`: rendering and loading behind an earlier log;
* `perform_behind`: any operation;
* `perform_log`: no operation changes what is in the log.
-/
import Stencil.Proofs.Session.Reachable
import Stencil.Proofs.Template.Afresh

namespace Stencil

/-! ## 1. Replies -/

/-- What an operation gives back: an answer, if it has one to give, or why it broke off, and the
files behind it, if it writes any. -/
structure Reply where
  answer : Except Abort (Option Bool)
  files : Option FileTree := none

namespace Session

/-- What an operation gives back. -/
def reply (s : Session) : Operation → Reply
  | .load lines name => { answer := ((s.load lines name).2.map some).mapError .overflow }
  | .loadFile files path => { answer := (s.loadFile files path).2.map some }
  | .setDelimiters start stop escape =>
    { answer := .ok (some (s.setDelimiters start stop escape).2) }
  | .writeOutput files path reset =>
    { answer := (s.writeOutput files path reset).2.2.map some
      files := some (s.writeOutput files path reset).2.1 }
  | _ => { answer := .ok none }

/-! ## 2. Rendering -/

/-- The session with an earlier log before its own, and with the given last fault. -/
def behind (l : Log) (f : Option LoadFault) (s : Session) : Session :=
  { s with log := l ++ s.log, lastFault := f }

section Behind

variable (l : Log) (f : Option LoadFault) (s : Session)

theorem report_behind (ns : List Notice) :
    (s.behind l f).report ns = (s.report ns).behind l f := by
  simp only [report, behind, Log.report, List.append_assoc]

theorem warn_behind (c : Category) (ms : List Message) :
    (s.behind l f).warn c ms = (s.warn c ms).behind l f :=
  report_behind l f s _

theorem loadValues_behind (segment : Option String) (values : Option Values) :
    (s.behind l f).loadValues segment values = (s.loadValues segment values).behind l f :=
  warn_behind l f { s with tokens := (s.tokens.load segment values).1 } _ _

theorem setTabSize_behind (n : Int) : (s.behind l f).setTabSize n = (s.setTabSize n).behind l f :=
  warn_behind l f { s with column := (s.column.setTabSize n).1 } _ _

theorem enter_behind (name : String) (values : Option Values) :
    (s.behind l f).enter name values = (s.enter name values).behind l f := by
  have hmoved := report_behind l f { s with position := ⟨name, 0⟩ }
    [.info .generating (.rendering name)]
  -- values that come with the request add what there is to say about them
  cases values with
  | none => exact hmoved
  | some values =>
    exact (congrArg (·.loadValues (some name) (some values)) hmoved).trans (loadValues_behind l f _ _ _)

theorem renderOwn_behind (name : String) (seg : Segment) :
    (s.behind l f).renderOwn name seg = (s.renderOwn name seg).behind l f := by
  rw [renderOwn_eq, renderOwn_eq]
  simp only [behind, Log.report, List.append_assoc]
  rfl

/-- A pad behind an earlier log, if rendering one level less deep is the same there. -/
theorem renderPad_behind {depth : Nat}
    (h : ∀ (s : Session) (name : String) (values : Option Values),
      (s.behind l f).renderAt depth name values
        = (s.renderAt depth name values).map (behind l f)) (pad : String) :
    (s.behind l f).renderPad depth pad = (s.renderPad depth pad).map (behind l f) := by
  have hpad := h { s with column := s.column.save } pad none
  rw [renderPad, renderPad, aside, aside, Option.map_map]
  refine (congrArg (Option.map _) hpad).trans ?_
  rw [Option.map_map]
  rfl

/-- Rendering behind an earlier log, however pads are nested. -/
theorem renderAt_behind (depth : Nat) (name : String) (values : Option Values) :
    (s.behind l f).renderAt depth name values = (s.renderAt depth name values).map (behind l f) := by
  induction depth generalizing s name values with
  | zero => rfl
  | succ depth ih =>
    cases hget : s.template.get? name with
    | none =>
      have hget' : (s.behind l f).template.get? name = none := hget
      simp [renderAt, hget, hget']
    | some seg =>
      have hget' : (s.behind l f).template.get? name = some seg := hget
      -- the segment by itself, or behind its pad, which is one level less deep
      cases hdue : seg.control.padIsDue with
      | false =>
        rw [renderAt_of_notDue hget hdue, renderAt_of_notDue hget' hdue, enter_behind,
          renderOwn_behind]
        rfl
      | true =>
        rw [renderAt_of_isDue hget hdue, renderAt_of_isDue hget' hdue, enter_behind,
          renderPad_behind l f _ ih, Option.map_map, Option.map_map]
        exact congrArg (Option.map · _) (funext fun r => renderOwn_behind l f r name seg)

theorem render_behind (segment : Option String) (values : Option Values) :
    (s.behind l f).render segment values = (s.render segment values).behind l f := by
  let moved : Session := { s with position := ⟨segment.getD "", 0⟩ }
  cases hm : s.refusal? (segment.getD "") with
  | some m =>
    have hm' : (s.behind l f).refusal? (segment.getD "") = some m := hm
    rw [render_of_refusal hm, render_of_refusal hm']
    exact warn_behind l f moved _ _
  | none =>
    have hm' : (s.behind l f).refusal? (segment.getD "") = none := hm
    -- whether the request is refused does not depend on the log
    have hrender := renderAt_behind l f moved (s.template.length + 1) (segment.getD "") values
    rw [render_of_accepted hm, render_of_accepted hm']
    refine (congrArg (fun r : Option Session =>
      { r.getD (moved.behind l f) with isWritten := false }) hrender).trans ?_
    cases moved.renderAt (s.template.length + 1) (segment.getD "") values <;> rfl

/-! ## 3. Loading -/

theorem loading_behind (name : String) : (s.behind l f).loading name = (s.loading name).behind l := by
  simp only [loading, draft, clear, report, behind, Draft.behind, Log.report, List.append_assoc]

theorem load_behind (lines : List String) (name : String) :
    ∃ f', (s.behind l f).load lines name
      = ((s.load lines name).1.behind l f', (s.load lines name).2) := by
  by_cases hempty : isEmptyTemplate lines = true
  · refine ⟨some .empty, ?_⟩
    rw [load_of_empty name hempty, load_of_empty name hempty]
    simp only [warn, report, clear, behind, Log.report, List.append_assoc]
  · have hread := Draft.read_behind l (s.loading name) s.delimiters lines
    rw [load_of_not_empty name hempty, load_of_not_empty name hempty, loading_behind,
      show (s.behind l f).delimiters = s.delimiters from rfl, hread]
    rcases (s.loading name).read s.delimiters lines with ⟨d, _ | (fault | o)⟩
    · exact ⟨none, rfl⟩
    · refine ⟨some fault, ?_⟩
      simp only [conclude, Prod.map_apply, id, adopt, clear, report, Draft.behind, behind,
        Log.report, List.append_assoc]
    -- a load that breaks off leaves the fault of before
    · exact ⟨f, rfl⟩

theorem unreadable_behind (m : Message) :
    (s.behind l f).unreadable m = (s.unreadable m).behind l (some .unreadable) := by
  simp only [unreadable, report, clear, behind, Log.report, List.append_assoc]

theorem readFile_behind (files : FileTree) (path : String) :
    ∃ f', (s.behind l f).readFile files path
      = ((s.readFile files path).1.behind l f', (s.readFile files path).2) := by
  unfold readFile
  dsimp only
  split
  · exact ⟨f, rfl⟩
  · rename_i lines target _ _
    let r : Session := { s with
      log := s.log.record (.linesRead lines.length (Path.ofString path).text) }
    -- what is recorded of the reading stands behind the earlier log, and then the lines are loaded
    have hrecord : { s.behind l f with
        log := (s.behind l f).log.record (.linesRead lines.length (Path.ofString path).text) }
          = r.behind l f := by
      simp only [r, behind, Log.record, List.append_assoc]
    obtain ⟨f', hload⟩ := load_behind l f r lines target.name
    rw [hrecord, hload]
    rcases r.load lines target.name with ⟨t, o | loaded⟩ <;> exact ⟨f', rfl⟩
  · exact ⟨some .unreadable, congrArg (·, Except.ok false) (unreadable_behind l f s _)⟩
  · exact ⟨some .unreadable, congrArg (·, Except.ok false) (unreadable_behind l f s _)⟩

theorem noted_behind (path : String) : (s.behind l f).noted path = (s.noted path).behind l f := by
  unfold noted
  rw [show (s.behind l f).path = s.path from rfl]
  split
  · rw [show (s.behind l f).output = s.output from rfl,
      show (s.behind l f).isWritten = s.isWritten from rfl]
    split
    · exact warn_behind l f s _ _
    · rfl
  · rfl

theorem loadFile_behind (files : FileTree) (path : String) :
    ∃ f', (s.behind l f).loadFile files path
      = ((s.loadFile files path).1.behind l f', (s.loadFile files path).2) := by
  rw [loadFile, loadFile, show (s.behind l f).isCurrent path = s.isCurrent path from rfl,
    noted_behind]
  split
  · exact ⟨f, rfl⟩
  · split
    · exact ⟨f, congrArg (·, Except.ok true) (warn_behind l f s _ _)⟩
    · exact readFile_behind l f (s.noted path) files path

/-! ## 4. Any operation -/

theorem resetAll_behind : (s.behind l f).resetAll = s.resetAll.behind l f :=
  congrArg (fun t : Session => { t with path := none })
    (report_behind l f { s.clear with delimiters := s.home } _)

theorem setDelimiters_behind (start stop escape : Option String) :
    (s.behind l f).setDelimiters start stop escape
      = Prod.map (behind l f) id (s.setDelimiters start stop escape) := by
  unfold setDelimiters
  dsimp only
  rw [warn_behind]
  split
  · rw [report_behind, resetAll_behind]
    rfl
  · rfl

theorem resetOutput_behind (mention : Bool) :
    (s.behind l f).resetOutput mention = (s.resetOutput mention).behind l f := by
  cases mention with
  | false => rfl
  | true => exact report_behind l f (s.resetOutput false) _

theorem resetSegment_behind (segment : Option String) :
    (s.behind l f).resetSegment segment = (s.resetSegment segment).behind l f := by
  let moved : Session := { s with position := ⟨segment.getD "", 0⟩ }
  let reset : Session := { moved with
    template := s.template.modify (segment.getD "") Segment.unrendered }
  have hkeys : (s.behind l f).template = s.template := rfl
  unfold resetSegment
  dsimp only
  rw [hkeys]
  split
  · exact report_behind l f reset _
  · exact warn_behind l f moved _ _

theorem writeOutput_behind (files : FileTree) (path : String) (reset : Bool) :
    (s.behind l f).writeOutput files path reset
      = Prod.map (behind l f) id (s.writeOutput files path reset) := by
  have houtput : (s.behind l f).output = s.output := rfl
  unfold writeOutput
  dsimp only
  rw [report_behind, houtput]
  split
  · rfl
  · rfl
  · cases reset with
    | false => rfl
    | true =>
      rw [if_pos rfl, if_pos rfl, resetOutput_behind]
      rfl

/-- **An operation behind an earlier log** does what it does without: the reply is the same, and so is
the session but for the last fault. -/
theorem perform_behind (op : Operation) :
    (s.behind l f).reply op = s.reply op ∧
      ∃ f', ((s.behind l f).perform op).1 = (s.perform op).1.behind l f' := by
  cases op with
  | load lines name =>
    obtain ⟨f', h⟩ := load_behind l f s lines name
    exact ⟨by simp only [reply, h], f', by simp only [perform, h]⟩
  | loadFile files path =>
    obtain ⟨f', h⟩ := loadFile_behind l f s files path
    exact ⟨by simp only [reply, h], f', by simp only [perform, h]⟩
  | render segment values => exact ⟨rfl, f, render_behind l f s segment values⟩
  | loadValues segment values => exact ⟨rfl, f, loadValues_behind l f s segment values⟩
  | setTabSize n => exact ⟨rfl, f, setTabSize_behind l f s n⟩
  | setDelimiters start stop escape =>
    have h := setDelimiters_behind l f s start stop escape
    exact ⟨by simp only [reply, h, Prod.map_snd, id], f, congrArg Prod.fst h⟩
  | resetAll => exact ⟨rfl, f, resetAll_behind l f s⟩
  | resetOutput mention => exact ⟨rfl, f, resetOutput_behind l f s mention⟩
  | resetSegment segment => exact ⟨rfl, f, resetSegment_behind l f s segment⟩
  | writeOutput files path reset =>
    have h := writeOutput_behind l f s files path reset
    exact ⟨by simp only [reply, h, Prod.map_snd, id], f, congrArg Prod.fst h⟩

end Behind

/-- Any session stands behind its own log. -/
theorem behind_log (s : Session) : { s with log := [] }.behind s.log s.lastFault = s := by
  simp only [behind, List.append_nil]

/-- **No operation changes what is in the log**, it only adds to it. -/
theorem perform_log (s : Session) (op : Operation) : ∃ new, (s.perform op).1.log = s.log ++ new := by
  obtain ⟨-, f', h⟩ := perform_behind s.log s.lastFault { s with log := [] } op
  -- the session stands behind its own log, where it does what it would do without
  rw [behind_log] at h
  exact ⟨_, congrArg Session.log h⟩

end Session

end Stencil
