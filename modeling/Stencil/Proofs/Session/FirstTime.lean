/-
# First times

Each segment carries a flag that says whether its next render is its first.  Rendering takes the flag
away line by line, also from the pad of the segment that was asked for; four operations give it back,
one of them to a single segment.  Here the flag is told by the history alone: a segment has lost it
if and only if it has been rendered since the last of these.

That a segment is rendered is read off the log, which says so before its lines (`Log.turns`), and not
off the flag, on which it depends whether a pad is rendered.

* `Sound.turnsOf_render`, `Sound.template_render`: which segments a request renders, and what that
  does to the template;
* `Sound.isFirstTime_perform`: what one operation does to the flag;
* `isFirstTime_iff_since`: the flag, and the pad, by the history.
-/
import Stencil.Proofs.Session.Block
import Stencil.Proofs.Session.History

namespace Stencil

/-! ## 1. Turns -/

/-- The segment whose lines come next, if the record says so. -/
def Record.turn? : Record → Option String
  | .entry ⟨_, level, _, .rendering name⟩ => if level = .info then some name else none
  | _ => none

/-- The segments that have been rendered, in order, as the log tells them. -/
def Log.turns (l : Log) : List String := l.filterMap Record.turn?

namespace Log

theorem turns_append (l m : Log) : turns (l ++ m) = l.turns ++ m.turns :=
  List.filterMap_append

theorem turns_warnings (p : Position) (c : Category) (ms : List Message) :
    turns (ms.map fun m => .entry ((Notice.warning c m).stamp p)) = [] := by
  refine List.filterMap_eq_nil_iff.mpr fun r hr => ?_
  obtain ⟨m, -, rfl⟩ := List.mem_map.mp hr
  cases m <;> rfl

theorem turns_report_warnings (l : Log) (p : Position) (c : Category) (ms : List Message) :
    (l.report p (ms.map (Notice.warning c))).turns = l.turns := by
  rw [report, List.map_map, turns_append]
  exact (congrArg (l.turns ++ ·) (turns_warnings p c ms)).trans (List.append_nil _)

end Log

namespace Session

/-- The segments that an operation renders, in order. -/
def turnsOf (s : Session) : Operation → List String
  | .render segment values => (s.render segment values).log.turns.drop s.log.turns.length
  | _ => []

/-- What is said about text lines is no turn. -/
theorem turns_rendition (d : Delimiters) (b : Bindings) (name : String) (p : Position) (c : Column)
    (ms : List (String × Move)) : (rendition d b name p c ms).log.turns = [] := by
  induction ms generalizing p c with
  | nil => rfl
  | cons m ms ih =>
    simp only [rendition, Log.turns_append, Log.turns_report_warnings, ih]
    rfl

theorem turns_enter (s : Session) (name : String) (values : Option Values) :
    (s.enter name values).log.turns = s.log.turns ++ [name] := by
  have hsaid (p : Position) :
      (s.log.report p [.info .generating (.rendering name)]).turns = s.log.turns ++ [name] :=
    Log.turns_append _ _
  cases values with
  | none => exact hsaid _
  | some values => exact (Log.turns_report_warnings _ _ _ _).trans (hsaid _)

/-- Rendering the lines of a segment is no turn of its own. -/
theorem turns_renderOwn (s : Session) (name : String) (seg : Segment) :
    (s.renderOwn name seg).log.turns = s.log.turns := by
  rw [renderOwn_eq]
  dsimp only
  rw [Log.turns_append, Log.turns_report_warnings, ownRendition, turns_rendition, List.append_nil]

theorem turns_behindPad (s : Session) (name : String) (pad : Segment) :
    (s.behindPad name pad).log.turns = s.log.turns ++ [name] :=
  (turns_renderOwn _ name pad).trans (turns_enter _ name none)

end Session

/-! ## 2. Requests -/

theorem Segment.rendered_rendered (seg : Segment) : seg.rendered.rendered = seg.rendered := by
  unfold rendered
  split <;> simp_all

namespace Template

/-- The template with segments rendered, the last one first. -/
def renderAll (t : Template) (names : List String) : Template :=
  names.foldr (fun name t => t.modify name Segment.rendered) t

/-- A segment that was rendered with others is rendered, and any other is as it was. -/
theorem get?_renderAll (t : Template) (names : List String) (name : String) :
    (t.renderAll names).get? name
      = (t.get? name).map fun seg => if name ∈ names then seg.rendered else seg := by
  induction names with
  | nil => simp [renderAll]
  | cons first names ih =>
    rw [renderAll, List.foldr_cons, ← renderAll]
    by_cases h : first = name
    · subst h
      rw [get?_modify_self, ih, Option.map_map]
      -- the same segment may be named again further on
      refine congrArg (Option.map · (t.get? first)) (funext fun seg => ?_)
      by_cases hmem : first ∈ names <;> simp [hmem, Segment.rendered_rendered]
    · rw [get?_modify_of_ne _ _ h, ih]
      simp [Ne.symm h]

theorem isFirstTime_startOver {t : Template} {name : String} {seg : Segment}
    (h : t.startOver.get? name = some seg) : seg.control.isFirstTime = true := by
  rw [get?_startOver] at h
  obtain ⟨old, -, rfl⟩ := Option.map_eq_some_iff.mp h
  rfl

end Template

namespace Session

/-- The segments that a request renders: the one that is asked for, and its pad if that is due. -/
def requested (name : String) (c : Control) : List String :=
  name :: if c.padIsDue then [c.padSegment] else []

section Sound

variable {s : Session} {name : String} {seg : Segment}

theorem Sound.turns_render (hs : s.Sound) (hget : s.template.get? name = some seg)
    (values : Option Values) :
    (s.render (some name) values).log.turns = s.log.turns ++ requested name seg.control := by
  rw [hs.render_eq hget]
  refine (turns_renderOwn _ name seg).trans ?_
  -- the turn of the segment comes first, and then that of its pad
  rcases hs.beforeOwn_cases hget values with ⟨hdue, hbefore⟩ | ⟨hdue, pad, -, -, hbefore⟩
  · simp [hbefore, turns_enter, requested, hdue]
  · simp [hbefore, turns_behindPad, turns_enter, requested, hdue]

/-- A request renders the segment that is asked for, and its pad if that is due. -/
theorem Sound.turnsOf_render (hs : s.Sound) (hget : s.template.get? name = some seg)
    (values : Option Values) :
    s.turnsOf (.render (some name) values) = requested name seg.control := by
  rw [turnsOf, hs.turns_render hget, List.drop_left]

/-- A request for a segment that is there renders it, and its pad if that is due. -/
theorem Sound.template_met (hs : s.Sound) (hget : s.template.get? name = some seg)
    (values : Option Values) :
    (s.render (some name) values).template = s.template.renderAll (requested name seg.control) := by
  have henter : (s.enter name values).template = s.template := by cases values <;> rfl
  rw [hs.render_eq hget, renderOwn_eq]
  rcases hs.beforeOwn_cases hget values with ⟨hdue, hbefore⟩ | ⟨hdue, pad, -, -, hbefore⟩
  · simp [hbefore, requested, hdue, Template.renderAll, henter]
  · simp only [hbefore, behindPad, renderOwn_eq, requested, hdue, if_true, Template.renderAll,
      List.foldr_cons, List.foldr_nil, ← henter]
    rfl

/-- A request for a segment that is not there leaves the template as it is, and renders nothing. -/
theorem render_of_missing {s : Session} {name : String} (h : s.template.get? name = none)
    (values : Option Values) :
    (s.render (some name) values).template = s.template ∧
      (s.render (some name) values).log.turns = s.log.turns := by
  obtain ⟨m, hm⟩ := exists_refusal_of_missing h
  have hrender : s.render (some name) values
      = { s with position := ⟨name, 0⟩ }.warn .generating [m] := render_of_refusal hm values
  rw [hrender]
  exact ⟨rfl, Log.turns_report_warnings _ _ .generating [m]⟩

/-- **A request does to the template what it says it does**: the segments that it renders have been
rendered after it. -/
theorem Sound.template_render (hs : s.Sound) (segment : Option String) (values : Option Values) :
    (s.render segment values).template
      = s.template.renderAll (s.turnsOf (.render segment values)) := by
  have hsegment : s.render segment values = s.render (some (segment.getD "")) values := rfl
  rw [turnsOf, hsegment]
  generalize segment.getD "" = name
  cases hget : s.template.get? name with
  | some seg => rw [hs.template_met hget, hs.turns_render hget, List.drop_left]
  | none =>
    obtain ⟨htemplate, hturns⟩ := render_of_missing hget values
    rw [htemplate, hturns, List.drop_length]
    rfl

end Sound

/-! ## 3. What one operation does -/

/-- The segment is to be rendered as if for the first time: its template is loaded, or the output is
reset, or written and reset with that, or the segment itself is reset. -/
def StartsOver (name : String) : Event
  | _, .resetOutput _ => True
  | _, .resetSegment segment => segment = some name
  | s, .writeOutput files path reset =>
    reset = true ∧ (s.writeOutput files path reset).2.2 = .ok true
  | s, op => LoadsLines s op ∨ ReadsFile s op

/-- The segment is rendered, asked for or as a pad. -/
def Renders (name : String) : Event := fun s op => name ∈ s.turnsOf op

/-- What starts over renders nothing. -/
theorem not_renders_of_startsOver {s : Session} {op : Operation} {name : String}
    (h : StartsOver name s op) : ¬ Renders name s op := by
  cases op with
  | render => exact (h.elim id id).elim
  | _ => exact List.not_mem_nil

/-- Written output starts over if that is asked for. -/
theorem template_writeOutput (s : Session) (files : FileTree) (path : String) (reset : Bool) :
    (s.writeOutput files path reset).1.template =
      match reset, (s.writeOutput files path reset).2.2 with
      | true, .ok true => s.template.startOver
      | _, _ => s.template := by
  have h := s.writing files path reset
  generalize s.writeOutput files path reset = r at h ⊢
  rcases r with ⟨s', files', answer⟩
  cases h with
  | broken => cases reset <;> rfl
  | failed => cases reset <;> rfl
  | kept => rfl
  | dropped => rfl

theorem template_resetSegment (s : Session) (name : String) :
    (s.resetSegment (some name)).template = s.template.modify name Segment.unrendered := by
  by_cases h : name ∈ s.template.keys
  · simp [resetSegment, h, report]
    rfl
  · rw [Template.modify_of_not_mem _ h]
    simp [resetSegment, h, warn, report]

section perform

variable {s : Session} {op : Operation} {name : String} {seg : Segment}

/-- After an operation that starts over the next render of the segment is its first. -/
theorem isFirstTime_of_startsOver (h : StartsOver name s op)
    (hget : (s.perform op).1.template.get? name = some seg) : seg.control.isFirstTime = true := by
  -- a template that has just been loaded has not been rendered
  have hloaded (h : LoadsLines s op ∨ ReadsFile s op) : seg.control.isFirstTime = true := by
    rw [← (perform_asRead h).startOver] at hget
    exact Template.isFirstTime_startOver hget
  cases op with
  | load => exact hloaded h
  | loadFile => exact hloaded h
  | resetOutput mention =>
    have htemplate : (s.resetOutput mention).template = s.template.startOver := by
      cases mention <;> rfl
    rw [perform, htemplate] at hget
    exact Template.isFirstTime_startOver hget
  | resetSegment segment =>
    obtain rfl : segment = some name := h
    rw [perform, template_resetSegment, Template.get?_modify_self] at hget
    obtain ⟨old, -, rfl⟩ := Option.map_eq_some_iff.mp hget
    rfl
  | writeOutput files path reset =>
    obtain ⟨rfl, hwritten⟩ := h
    rw [perform, template_writeOutput, hwritten] at hget
    exact Template.isFirstTime_startOver hget
  | _ => exact (h.elim id id).elim

/-- Any other operation takes the flag away if it renders the segment, and leaves it otherwise. -/
theorem Sound.isFirstTime_perform (hs : s.Sound) (h : ¬ StartsOver name s op)
    (hget : (s.perform op).1.template.get? name = some seg) :
    ∃ before, s.template.get? name = some before ∧
      (seg.control.isFirstTime = false ↔
        Renders name s op ∨ before.control.isFirstTime = false) := by
  -- the operation leaves the segment as it is and renders nothing
  have hsame (hold : s.template.get? name = some seg) (hop : s.turnsOf op = []) :
      ∃ before, s.template.get? name = some before ∧
        (seg.control.isFirstTime = false ↔
          Renders name s op ∨ before.control.isFirstTime = false) :=
    ⟨seg, hold, by simp [Renders, hop]⟩
  -- where the template is lost there is no segment to speak of
  have hloaded : (s.perform op).1.isLoaded = true :=
    ((perform_step s op).sound hs).isLoaded
      (List.ne_nil_of_mem (Table.mem_of_get?_eq_some hget))
  cases op with
  | load lines name' =>
    -- the load did not start over, so that it failed
    have hnot : (s.load lines name').1.isLoaded = false :=
      load_isLoaded rfl fun htrue => h (.inl htrue)
    exact absurd (hnot.symm.trans hloaded) (by simp)
  | loadFile files path =>
    rcases loadFile_of_not_readsFile fun hread => h (.inr hread) with ⟨log, hlog⟩ | ⟨hnot, -⟩
    · rw [perform, hlog] at hget
      exact hsame hget rfl
    · exact absurd (hnot.symm.trans hloaded) (by simp)
  | render segment values =>
    rw [perform, hs.template_render, Template.get?_renderAll] at hget
    obtain ⟨before, hbefore, rfl⟩ := Option.map_eq_some_iff.mp hget
    refine ⟨before, hbefore, ?_⟩
    by_cases hmem : name ∈ s.turnsOf (.render segment values)
    · simp [Renders, hmem, Segment.isFirstTime_rendered (hs.items hbefore)]
    · simp [Renders, hmem]
  | loadValues => exact hsame hget rfl
  | setTabSize => exact hsame hget rfl
  | setDelimiters start stop escape =>
    refine hsame ?_ rfl
    have hchange := s.delimiterChange start stop escape
    rw [perform] at hget
    generalize s.setDelimiters start stop escape = r at hchange hget
    cases hchange with
    | accepted => exact hget
    | refused => exact absurd hget (by simp [resetAll, clear, report, Table.get?])
  | resetAll => exact absurd hloaded (by simp [perform, resetAll, clear, report])
  | resetOutput => exact absurd trivial h
  | resetSegment segment =>
    refine hsame ?_ rfl
    cases segment with
    | none => exact hget
    | some other =>
      have hne : other ≠ name := fun e => h (congrArg some e)
      rwa [perform, template_resetSegment, Template.get?_modify_of_ne _ _ hne] at hget
  | writeOutput files path reset =>
    refine hsame ?_ rfl
    rw [perform, template_writeOutput] at hget
    split at hget
    · rename_i hwritten
      exact absurd ⟨rfl, hwritten⟩ h
    · exact hget

end perform

/-! ## 4. What a run does -/

/-- The flag after a run, by induction on the operations from the last one back. -/
theorem isFirstTime_run {settings : Settings} {ops : List Operation} {name : String} {seg : Segment}
    (hget : ((ofSettings settings).run ops).template.get? name = some seg) :
    seg.control.isFirstTime = false ↔
      Since (Renders name) (StartsOver name) (ofSettings settings) ops := by
  induction ops using List.reverseRecOn generalizing seg with
  | nil => exact absurd hget (by simp [run, ofSettings, Table.get?])
  | append_singleton ops op ih =>
    rw [run_snoc] at hget
    rw [since_snoc]
    have hs : Reachable settings ((ofSettings settings).run ops) := ⟨ops, rfl⟩
    -- the last operation starts over, or takes the flag away, or leaves it
    by_cases hover : StartsOver name ((ofSettings settings).run ops) op
    · have hflag := isFirstTime_of_startsOver hover hget
      have hnot := not_renders_of_startsOver hover
      simp [hflag, hnot, hover]
    · obtain ⟨before, hbefore, hflag⟩ := hs.sound.isFirstTime_perform hover hget
      rw [hflag, ih hbefore]
      simp [hover]

/-- **A segment has lost its flag if and only if it has been rendered since it last started over**,
whatever operations have led to the session: asked for or as a pad, and whether or not requests were
refused, loads failed or writes were not done in between.  If it has a pad, then that is rendered
before the segment is the next time, and in no other case. -/
theorem isFirstTime_iff_since {settings : Settings} {ops : List Operation} {name : String}
    {seg : Segment} (hget : ((ofSettings settings).run ops).template.get? name = some seg) :
    let s := (ofSettings settings).run ops
    let rendered := Since (Renders name) (StartsOver name) (ofSettings settings) ops
    (seg.control.isFirstTime = false ↔ rendered) ∧
      ∀ values, ∃ r padLines lines,
        s.render (some name) values = { r with isWritten := false } ∧
        s.Appends r name seg values padLines lines ∧
        (padLines ≠ [] ↔ seg.control.padSegment ≠ "" ∧ rendered) ∧
        (s.turnsOf (.render (some name) values) = [name, seg.control.padSegment] ↔
          seg.control.padSegment ≠ "" ∧ rendered) := by
  intro s rendered
  have hflag : seg.control.isFirstTime = false ↔ rendered := isFirstTime_run hget
  have hs : s.Sound := Reachable.sound ⟨ops, rfl⟩
  refine ⟨hflag, fun values => ?_⟩
  obtain ⟨padLines, lines, happends⟩ := hs.appends hget values
  refine ⟨_, padLines, lines, hs.render_eq hget values, happends, ?_, ?_⟩
  · rw [happends.padLines_ne_nil_iff hs, hflag]
  · rw [hs.turnsOf_render hget, ← hflag, ← Control.padIsDue_iff]
    -- the pad is due exactly if there is one and the flag is gone
    cases hdue : seg.control.padIsDue <;> simp [requested, hdue]

/-- A segment that was rendered before a reset and again after it, with a request that is refused and
a write that fails behind that; and its pad, which was rendered and then reset by itself. -/
theorem isFirstTime_iff_since_reset :
    ∃ ops s row rule, (ofSettings {}).run ops = s ∧ s.template.get? "Row" = some row ∧
      s.template.get? "Rule" = some rule ∧
      row.control.isFirstTime = false ∧
      Since (Renders "Row") (StartsOver "Row") (ofSettings {}) ops ∧
      s.turnsOf (.render (some "Row") none) = ["Row", "Rule"] ∧
      rule.control.isFirstTime = true ∧
      ¬ Since (Renders "Rule") (StartsOver "Rule") (ofSettings {}) ops := by
  let ops : List Operation :=
    [.load ["### Rule", "    --", "### Row PAD=Rule", "    row"] "table", .render (some "Row") none,
      .resetOutput false, .render (some "Rule") none, .render (some "Row") none,
      .render (some "Missing") none, .render (some "Row") none, .resetSegment (some "Rule"),
      .writeOutput {} "." true]
  let row : Segment :=
    { control := { isFirstTime := false, padSegment := "Rule" }, items := [⟨0, true, false, "row"⟩] }
  let rule : Segment := { control := {}, items := [⟨0, true, false, "--"⟩] }
  have hrow : ((ofSettings {}).run ops).template.get? "Row" = some row := by decide +kernel
  have hrule : ((ofSettings {}).run ops).template.get? "Rule" = some rule := by decide +kernel
  obtain ⟨hflag, hpad⟩ := isFirstTime_iff_since hrow
  obtain ⟨hreset, -⟩ := isFirstTime_iff_since hrule
  have hrendered := hflag.mp rfl
  obtain ⟨-, -, -, -, -, -, hturns⟩ := hpad none
  exact ⟨ops, _, row, rule, rfl, hrow, hrule, rfl, hrendered, hturns.mpr ⟨by decide, hrendered⟩,
    rfl, mt hreset.mpr (by decide)⟩

end Session

end Stencil
