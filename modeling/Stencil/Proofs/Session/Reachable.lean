/-
# Sessions that operations lead to

What a host can ask of a session is an `Operation`; a session is reachable if operations lead to it
from the session that settings begin.  An operation can break off, and what it did until then stays
done, so sessions behind such an operation are reachable as well.

Few operations touch the template.  `Session.Step` says once what each of them can do to it: leave it as
it is but for what has been rendered, drop it, look for its tokens anew, or put another in its place.
What holds of every reachable session is proved by these cases.

* `keeps_renderAt`: what rendering leaves as it is;
* `delimiterChange`: how a change of the delimiters ends;
* `perform_step`: every operation is one of these steps;
* `Reachable.induction`: what holds at the beginning and is kept by every operation holds throughout.
-/
import Stencil.Proofs.Session.LoadFile
import Stencil.Proofs.Session.Rendition
import Stencil.Proofs.Session.Write

namespace Stencil

/-! ## 1. Operations -/

/-- What a host can ask of a session. -/
inductive Operation where
  | load (lines : List String) (name : String)
  | loadFile (files : FileTree) (path : String)
  | render (segment : Option String) (values : Option Values)
  | loadValues (segment : Option String) (values : Option Values)
  | setTabSize (n : Int)
  | setDelimiters (start stop escape : Option String)
  | resetAll
  | resetOutput (mention : Bool)
  | resetSegment (segment : Option String)
  | writeOutput (files : FileTree) (path : String) (reset : Bool)

/-- The reason why an operation broke off, if it did. -/
def Abort.of? {α : Type} : Except Abort α → Option Abort
  | .ok _ => none
  | .error a => some a

namespace Session

/-- The session after an operation, and the reason if the operation broke off. -/
def perform (s : Session) : Operation → Session × Option Abort
  | .load lines name =>
    ((s.load lines name).1, Abort.of? ((s.load lines name).2.mapError .overflow))
  | .loadFile files path => ((s.loadFile files path).1, Abort.of? (s.loadFile files path).2)
  | .render segment values => (s.render segment values, none)
  | .loadValues segment values => (s.loadValues segment values, none)
  | .setTabSize n => (s.setTabSize n, none)
  | .setDelimiters start stop escape => ((s.setDelimiters start stop escape).1, none)
  | .resetAll => (s.resetAll, none)
  | .resetOutput mention => (s.resetOutput mention, none)
  | .resetSegment segment => (s.resetSegment segment, none)
  | .writeOutput files path reset =>
    ((s.writeOutput files path reset).1, Abort.of? (s.writeOutput files path reset).2.2)

/-- The session after several operations. -/
def run (s : Session) (ops : List Operation) : Session :=
  ops.foldl (fun s op => (s.perform op).1) s

/-- Why operations broke off, of those that did. -/
def aborts (s : Session) : List Operation → List Abort
  | [] => []
  | op :: ops => (s.perform op).2.toList ++ (s.perform op).1.aborts ops

/-- The sessions that operations lead to from the one that settings begin. -/
def Reachable (settings : Settings) (s : Session) : Prop :=
  ∃ ops, (ofSettings settings).run ops = s

theorem run_induction {P : Session → Prop} (hstep : ∀ s op, P s → P (s.perform op).1) {s : Session}
    (h : P s) (ops : List Operation) : P (s.run ops) := by
  induction ops generalizing s with
  | nil => exact h
  | cons op ops ih => exact ih (hstep s op h)

/-- What holds at the beginning and is kept by every operation holds of every reachable session. -/
theorem Reachable.induction {P : Session → Prop} {settings : Settings}
    (hstart : P (ofSettings settings)) (hstep : ∀ s op, P s → P (s.perform op).1) {s : Session}
    (h : Reachable settings s) : P s := by
  obtain ⟨ops, rfl⟩ := h
  exact run_induction hstep hstart ops

/-- Where no operation breaks off, it is enough to look at those that do not. -/
theorem run_induction_of_noAbort {P : Session → Prop}
    (hstep : ∀ s op, (s.perform op).2 = none → P s → P (s.perform op).1) {s : Session} (h : P s)
    {ops : List Operation} (hops : s.aborts ops = []) : P (s.run ops) := by
  induction ops generalizing s with
  | nil => exact h
  | cons op ops ih =>
    obtain ⟨hop, hrest⟩ := List.append_eq_nil_iff.mp hops
    exact ih (hstep s op (Option.toList_eq_nil_iff.mp hop) h) hrest

end Session

/-! ## 2. Operations that keep the template -/

/-- The segment as it is before it is rendered. -/
def Segment.unrendered (seg : Segment) : Segment :=
  { seg with control := { seg.control with isFirstTime := true } }

theorem Segment.unrendered_rendered (seg : Segment) : seg.rendered.unrendered = seg.unrendered := by
  unfold rendered
  split <;> rfl

namespace Template

theorem startOver_startOver (t : Template) : t.startOver.startOver = t.startOver := by
  simp [startOver]

/-- A template that starts over does not show what has been rendered. -/
theorem startOver_modify (t : Template) (name : String) {f : Segment → Segment}
    (hf : ∀ seg, (f seg).unrendered = seg.unrendered) :
    (t.modify name f).startOver = t.startOver := by
  simp only [startOver, modify, List.map_map]
  refine List.map_congr_left fun p _ => ?_
  dsimp only [Function.comp_apply]
  split
  · exact congrArg (Prod.mk p.1) (hf p.2)
  · rfl

end Template

theorem Column.home_restore (c : Column) : c.restore.home = c.home := by
  rcases c with ⟨column, tabSize, _ | ⟨p, saved⟩, home⟩ <;> rfl

namespace Session

/-- The second session has the template of the first and what goes with it.  They may differ in the
position, the log, the running column, the supplied values, the output, and in what has been
rendered and written. -/
structure Keeps (s s' : Session) : Prop where
  template : s'.template.startOver = s.template.startOver
  known : s'.tokens.known = s.tokens.known
  delimiters : s'.delimiters = s.delimiters
  home : s'.home = s.home
  tabSize : s'.column.home = s.column.home
  namer : s'.namer = s.namer
  isLoaded : s'.isLoaded = s.isLoaded
  path : s'.path = s.path
  lastFault : s'.lastFault = s.lastFault

theorem Keeps.trans {s₁ s₂ s₃ : Session} (h₁ : s₁.Keeps s₂) (h₂ : s₂.Keeps s₃) : s₁.Keeps s₃ where
  template := h₂.template.trans h₁.template
  known := h₂.known.trans h₁.known
  delimiters := h₂.delimiters.trans h₁.delimiters
  home := h₂.home.trans h₁.home
  tabSize := h₂.tabSize.trans h₁.tabSize
  namer := h₂.namer.trans h₁.namer
  isLoaded := h₂.isLoaded.trans h₁.isLoaded
  path := h₂.path.trans h₁.path
  lastFault := h₂.lastFault.trans h₁.lastFault

theorem keeps_log (s : Session) (log : Log) : s.Keeps { s with log } :=
  ⟨rfl, rfl, rfl, rfl, rfl, rfl, rfl, rfl, rfl⟩

theorem keeps_loadValues (s : Session) (segment : Option String) (values : Option Values) :
    s.Keeps (s.loadValues segment values) :=
  ⟨rfl, Tokens.known_load s.tokens segment values, rfl, rfl, rfl, rfl, rfl, rfl, rfl⟩

theorem keeps_enter (s : Session) (name : String) (values : Option Values) :
    s.Keeps (s.enter name values) := by
  cases values with
  | none => exact ⟨rfl, rfl, rfl, rfl, rfl, rfl, rfl, rfl, rfl⟩
  | some values =>
    exact ⟨rfl, Tokens.known_load s.tokens (some name) values, rfl, rfl, rfl, rfl, rfl, rfl, rfl⟩

theorem keeps_renderOwn (s : Session) (name : String) (seg : Segment) :
    s.Keeps (s.renderOwn name seg) := by
  rw [renderOwn_eq]
  exact ⟨Template.startOver_modify _ _ Segment.unrendered_rendered, rfl, rfl, rfl,
    (s.sameStack_ownRendition name seg).2, rfl, rfl, rfl, rfl⟩

/-- A pad leaves the template as it is, if rendering does at the depth below. -/
theorem keeps_renderPad {depth : Nat}
    (hdepth : ∀ {s r : Session} {name : String} {values : Option Values},
      s.renderAt depth name values = some r → s.Keeps r)
    {s r : Session} {pad : String} (h : s.renderPad depth pad = some r) : s.Keeps r := by
  obtain ⟨u, hu, rfl⟩ := Option.map_eq_some_iff.mp h
  have hpad := hdepth hu
  -- the column is put back, the position too, and neither is what is kept
  exact ⟨hpad.template, hpad.known, hpad.delimiters, hpad.home,
    (Column.home_restore _).trans hpad.tabSize, hpad.namer, hpad.isLoaded, hpad.path,
    hpad.lastFault⟩

/-- Rendering leaves the template as it is, whatever it is and however pads are nested in it. -/
theorem keeps_renderAt {depth : Nat} {s r : Session} {name : String} {values : Option Values}
    (h : s.renderAt depth name values = some r) : s.Keeps r := by
  -- on the levels that are left: the pad is rendered one level below
  induction depth generalizing s r name values with
  | zero => simp [renderAt] at h
  | succ depth ih =>
    cases hget : s.template.get? name with
    | none => simp [renderAt, hget] at h
    | some seg =>
      have henter := s.keeps_enter name values
      cases hdue : seg.control.padIsDue with
      | false =>
        rw [renderAt_of_notDue hget hdue] at h
        obtain rfl := Option.some.inj h
        exact henter.trans (keeps_renderOwn _ _ _)
      | true =>
        rw [renderAt_of_isDue hget hdue] at h
        obtain ⟨t, ht, rfl⟩ := Option.map_eq_some_iff.mp h
        exact (henter.trans (keeps_renderPad ih ht)).trans (keeps_renderOwn _ _ _)

theorem keeps_render (s : Session) (segment : Option String) (values : Option Values) :
    s.Keeps (s.render segment values) := by
  have hmove : s.Keeps { s with position := ⟨segment.getD "", 0⟩ } :=
    ⟨rfl, rfl, rfl, rfl, rfl, rfl, rfl, rfl, rfl⟩
  unfold render
  dsimp only
  split
  · exact hmove.trans (keeps_log _ _)
  · cases hr : renderAt _ _ _ values with
    | none => exact ⟨rfl, rfl, rfl, rfl, rfl, rfl, rfl, rfl, rfl⟩
    | some r =>
      have h := hmove.trans (keeps_renderAt hr)
      exact ⟨h.template, h.known, h.delimiters, h.home, h.tabSize, h.namer, h.isLoaded, h.path,
        h.lastFault⟩

theorem keeps_setTabSize (s : Session) (n : Int) : s.Keeps (s.setTabSize n) :=
  ⟨rfl, rfl, rfl, rfl, rfl, rfl, rfl, rfl, rfl⟩

theorem keeps_resetOutput (s : Session) (mention : Bool) : s.Keeps (s.resetOutput mention) := by
  have h : s.template.startOver.startOver = s.template.startOver := Template.startOver_startOver _
  cases mention <;> exact ⟨h, rfl, rfl, rfl, rfl, rfl, rfl, rfl, rfl⟩

theorem keeps_resetSegment (s : Session) (segment : Option String) :
    s.Keeps (s.resetSegment segment) := by
  unfold resetSegment
  dsimp only
  split
  · exact ⟨Template.startOver_modify (f := Segment.unrendered) _ _ fun _ => rfl, rfl, rfl, rfl, rfl,
      rfl, rfl, rfl, rfl⟩
  · exact ⟨rfl, rfl, rfl, rfl, rfl, rfl, rfl, rfl, rfl⟩

theorem keeps_writeOutput (s : Session) (files : FileTree) (path : String) (reset : Bool) :
    s.Keeps (s.writeOutput files path reset).1 := by
  have h := s.writing files path reset
  generalize s.writeOutput files path reset = r at h ⊢
  rcases r with ⟨s', files', answer⟩
  cases h with
  | broken => exact keeps_log s _
  | failed => exact keeps_log s _
  | @kept new =>
    have h := keeps_log s (s.log ++ new)
    exact ⟨h.template, h.known, h.delimiters, h.home, h.tabSize, h.namer, h.isLoaded, h.path,
      h.lastFault⟩
  -- resetting the output leaves the template, up to what has been rendered
  | @dropped new =>
    have h := (keeps_log s (s.log ++ new)).trans (keeps_resetOutput _ true)
    exact ⟨h.template, h.known, h.delimiters, h.home, h.tabSize, h.namer, h.isLoaded, h.path,
      h.lastFault⟩

/-! ## 3. Steps -/

/-- What the second session goes back to is what the first does. -/
def SameHome (s s' : Session) : Prop := s'.home = s.home ∧ s'.column.home = s.column.home

/-- What an operation can do to the template and to what is known of its tokens.  Only one that reads
lines can break off with the template gone. -/
inductive Step (s : Session) : Session → Option Abort → Prop
  | keep {s' : Session} {a : Option Abort} : s.Keeps s' → Step s s' a
  | drop {s' : Session} :
      s.SameHome s' → s'.template = [] → s'.tokens = {} → s'.isLoaded = false → Step s s' none
  | rescan {s' : Session} :
      s.SameHome s' → s'.template = s.template → s'.isLoaded = s.isLoaded →
      s'.tokens.known = (s.tokens.rescan s'.delimiters s.texts).known → Step s s' none
  | load {s' : Session} {d d' : Draft} {lines : List String} :
      s.SameHome s' → d.tokens = {} → d.read s'.delimiters lines = (d', none) →
      s'.template = d'.segments → s'.tokens = d'.tokens → s'.isLoaded = true → Step s s' none
  | breakOff {s' : Session} {a : Abort} :
      s.SameHome s' → s'.template = [] → s'.isLoaded = false → Step s s' (some a)

theorem Step.sameHome {s s' : Session} {a : Option Abort} (h : s.Step s' a) : s.SameHome s' := by
  cases h with
  | keep h => exact ⟨h.home, h.tabSize⟩
  | drop h => exact h
  | rescan h => exact h
  | load h => exact h
  | breakOff h => exact h

/-- The log makes no difference to what an operation does. -/
theorem Step.of_log {s s' : Session} {log : Log} {a : Option Abort}
    (h : { s with log }.Step s' a) : s.Step s' a := by
  cases h with
  | keep h => exact .keep ((keeps_log s log).trans h)
  | drop h => exact .drop h ‹_› ‹_› ‹_›
  | rescan h => exact .rescan h ‹_› ‹_› ‹_›
  | load h => exact .load h ‹_› ‹_› ‹_› ‹_› ‹_›
  | breakOff h => exact .breakOff h ‹_› ‹_›

/-- Loading lines drops the template or puts another in its place, whatever path is noted then. -/
theorem step_load (s : Session) (lines : List String) (name : String) (path : Option Path) :
    s.Step { (s.load lines name).1 with path }
      (Abort.of? ((s.load lines name).2.mapError .overflow)) := by
  by_cases hempty : isEmptyTemplate lines = true
  · rw [load_of_empty name hempty]
    exact .drop ⟨rfl, rfl⟩ rfl rfl rfl
  · rw [load_of_not_empty name hempty]
    -- the three endings of reading: a template, a fault that ends the load, and an abort
    rcases hread : (s.loading name).read s.delimiters lines with ⟨d, _ | (f | o)⟩
    · have hfresh : (s.loading name).tokens = {} := rfl
      exact .load ⟨rfl, rfl⟩ hfresh hread rfl rfl rfl
    · exact .drop ⟨rfl, rfl⟩ rfl rfl rfl
    · exact .breakOff ⟨rfl, rfl⟩ rfl rfl

theorem step_loadFile (s : Session) (files : FileTree) (path : String) :
    s.Step (s.loadFile files path).1 (Abort.of? (s.loadFile files path).2) := by
  have h := s.fileLoad files path
  generalize (s.loadFile files path).1 = s' at h
  generalize (s.loadFile files path).2 = result at h
  cases h with
  | broken => exact .keep (keeps_log s _)
  | ignored => exact .keep (keeps_log s _)
  | unreadable => exact .drop ⟨rfl, rfl⟩ rfl rfl rfl
  -- from here on it is the load of the lines, behind what reading the file noted
  | @read log lines t loaded _ hload =>
    have hstep := step_load { s with log } lines (Path.ofString path).resolved.name
      (if loaded then some (Path.ofString path).resolved else none)
    rw [hload] at hstep
    exact hstep.of_log
  | @overflow log lines _ o _ hload =>
    have hstep := step_load { s with log } lines (Path.ofString path).resolved.name s'.path
    rw [hload] at hstep
    exact hstep.of_log

theorem step_resetAll (s : Session) : s.Step s.resetAll none := .drop ⟨rfl, rfl⟩ rfl rfl rfl

/-- What comes of a request to change the delimiters: they are those of the request, or the session is
reset. -/
inductive DelimiterChange (s : Session) (start stop escape : Option String) : Session × Bool → Prop
  | accepted {log : Log} {d : Delimiters} : Delimiters.check start stop escape = .ok d →
      DelimiterChange s start stop escape
        ({ s with log, delimiters := d, tokens := s.tokens.rescan d s.texts }, true)
  | refused {log : Log} : (∀ d, Delimiters.check start stop escape ≠ .ok d) →
      DelimiterChange s start stop escape ({ s with log }.resetAll, false)

theorem delimiterChange (s : Session) (start stop escape : Option String) :
    DelimiterChange s start stop escape (s.setDelimiters start stop escape) := by
  cases h : Delimiters.check start stop escape with
  | error fault =>
    simp only [setDelimiters, Delimiters.change, h]
    exact .refused (by simp [h])
  | ok d =>
    simp only [setDelimiters, Delimiters.change, h]
    exact .accepted h

theorem step_setDelimiters (s : Session) (start stop escape : Option String) :
    s.Step (s.setDelimiters start stop escape).1 none := by
  have h := s.delimiterChange start stop escape
  generalize s.setDelimiters start stop escape = r at h ⊢
  cases h with
  | accepted => exact .rescan ⟨rfl, rfl⟩ rfl rfl rfl
  | refused => exact (step_resetAll _).of_log

/-- **Every operation is one of these steps.** -/
theorem perform_step (s : Session) (op : Operation) :
    s.Step (s.perform op).1 (s.perform op).2 := by
  cases op with
  | load lines name => exact step_load s lines name (s.load lines name).1.path
  | loadFile files path => exact step_loadFile s files path
  | render segment values => exact .keep (keeps_render s segment values)
  | loadValues segment values => exact .keep (keeps_loadValues s segment values)
  | setTabSize n => exact .keep (keeps_setTabSize s n)
  | setDelimiters start stop escape => exact step_setDelimiters s start stop escape
  | resetAll => exact step_resetAll s
  | resetOutput mention => exact .keep (keeps_resetOutput s mention)
  | resetSegment segment => exact .keep (keeps_resetSegment s segment)
  | writeOutput files path reset => exact .keep (keeps_writeOutput s files path reset)

/-- In a reachable session the delimiters to go back to are those of the settings. -/
theorem Reachable.home {settings : Settings} {s : Session} (h : Reachable settings s) :
    s.home = settings.delimiters := by
  refine h.induction (P := fun s => s.home = settings.delimiters) rfl fun s op ih => ?_
  exact (perform_step s op).sameHome.1.trans ih

/-- In a reachable session the tab size to go back to is that of the settings. -/
theorem Reachable.column_home {settings : Settings} {s : Session} (h : Reachable settings s) :
    s.column.home = settings.tabSize := by
  refine h.induction (P := fun s => s.column.home = settings.tabSize) rfl fun s op ih => ?_
  exact (perform_step s op).sameHome.2.trans ih

end Session

end Stencil
