/-
# Token names that were not found

A render notes each token in whose place no value can be put, line by line.  So what it notes of names
that were not found is told by its segments: those of the pad, if it is due, and then its own, each in
the order of the text.  Nothing else that a render notes is of this kind, neither what it says about
columns and tab sizes nor what it says about the values that come with it.

* `Sound.unfound_render`: what a request notes of names that were not found;
* `unfound_of_missing`: a request for a segment that is not there notes none.
-/
import Stencil.Proofs.Session.Bindings
import Stencil.Proofs.Token.Filled

namespace Stencil

/-! ## 1. Names in the log -/

/-- The segment and the name, if the record says that a token name was not found. -/
def Record.unfound? : Record → Option (String × String)
  | .entry e => e.message.unfound?
  | .detail _ => none

/-- The token names that were not found, in order, as the log tells them. -/
def Log.unfound (l : Log) : List (String × String) := l.filterMap Record.unfound?

namespace Log

theorem unfound_append (l m : Log) : unfound (l ++ m) = l.unfound ++ m.unfound :=
  List.filterMap_append

theorem unfound_report (l : Log) (p : Position) (ns : List Notice) :
    (l.report p ns).unfound = l.unfound ++ ns.filterMap (·.message.unfound?) := by
  rw [report, unfound_append, unfound, unfound, List.filterMap_map]
  rfl

theorem unfound_report_warnings (l : Log) (p : Position) (c : Category) (ms : List Message) :
    (l.report p (ms.map (Notice.warning c))).unfound
      = l.unfound ++ ms.filterMap Message.unfound? := by
  rw [unfound_report, List.filterMap_map]
  rfl

end Log

/-! ## 2. What says nothing about names -/

theorem Column.unfound_atMargin (n : Int) {m : Message} (h : m.unfound? = none) :
    (atMargin n m).2.filterMap Message.unfound? = [] := by
  unfold atMargin
  split
  · simp [h]
  · rfl

theorem Column.unfound_advance (c : Column) (segment : String) (item : TextItem) :
    (c.advance segment item).2.2.filterMap Message.unfound? = [] := unfound_atMargin _ rfl

theorem Column.unfound_advanceFirst (c : Column) (segment : String) (n : Int) (item : TextItem) :
    (c.advanceFirst segment n item).2.2.filterMap Message.unfound? = [] := by
  unfold advanceFirst
  split
  · exact c.unfound_advance segment item
  · exact unfound_atMargin _ rfl

theorem Column.unfound_setTabSize (c : Column) (n : Int) :
    (c.setTabSize n).2.filterMap Message.unfound? = [] := by
  simp only [setTabSize, clampTabSize]
  split
  · rfl
  · split <;> rfl

theorem Tokens.unfound_accept {t : Tokens} {segment : Option String} {key : ValueKey} {m : Message}
    (h : t.accept segment key = .error m) : m.unfound? = none := by
  unfold accept at h
  split at h
  · exact Except.error.inj h ▸ rfl
  · split at h
    · exact absurd h (by simp)
    · split at h
      · exact absurd h (by simp)
      · exact Except.error.inj h ▸ rfl

theorem Tokens.unfound_merge (t : Tokens) (segment : Option String) (values : Values)
    (b : Bindings) : (t.merge segment values b).2.filterMap Message.unfound? = [] := by
  induction values generalizing b with
  | nil => rfl
  | cons p values ih =>
    rcases p with ⟨key, value⟩
    rw [merge]
    cases hkey : t.accept segment key with
    | ok name => exact ih _
    | error m => simp only [List.filterMap_cons, unfound_accept hkey, ih b]

theorem Tokens.unfound_load (t : Tokens) (segment : Option String) (values : Option Values) :
    (t.load segment values).2.filterMap Message.unfound? = [] := by
  rcases values with _ | _ | ⟨p, values⟩
  · rfl
  · rfl
  · exact t.unfound_merge segment (p :: values) _

namespace Session

theorem unfound_moves {name : String} {c : Control} {items : List TextItem} {m : String × Move}
    (h : m ∈ moves name c items) (col : Column) :
    (m.2 col).2.2.filterMap Message.unfound? = [] := by
  obtain ⟨item, -, -, hmove⟩ := of_mem_moves h
  rcases hmove col with hmove | hmove
  · exact hmove ▸ col.unfound_advance name item
  · exact hmove ▸ col.unfound_advanceFirst name _ item

theorem unfound_loadValues (s : Session) (segment : Option String) (values : Option Values) :
    (s.loadValues segment values).log.unfound = s.log.unfound := by
  have hload := s.tokens.unfound_load segment values
  refine (Log.unfound_report_warnings s.log s.position .generating
    (s.tokens.load segment values).2).trans ?_
  rw [hload, List.append_nil]

theorem unfound_enter (s : Session) (name : String) (values : Option Values) :
    (s.enter name values).log.unfound = s.log.unfound := by
  have hsaid := Log.unfound_report s.log ⟨name, 0⟩ [.info .generating (.rendering name)]
  cases values with
  | none => exact hsaid.trans (List.append_nil _)
  | some values => exact (unfound_loadValues _ _ _).trans (hsaid.trans (List.append_nil _))

/-! ## 3. What rendering notes -/

/-- The names in the text of a segment that are not found, with the bindings of the session. -/
def unfoundIn (s : Session) (name : String) (seg : Segment) : List (String × String) :=
  seg.items.flatMap fun item =>
    (substitute s.delimiters name (s.tokens.bindingsOf (some name)) item.text).2.filterMap
      Message.unfound?

theorem unfoundIn_congr {s t : Session} (hd : t.delimiters = s.delimiters)
    (ht : t.tokens = s.tokens) (name : String) (seg : Segment) :
    t.unfoundIn name seg = s.unfoundIn name seg := by
  rw [unfoundIn, unfoundIn, hd, ht]

theorem unfound_rendition {d : Delimiters} {b : Bindings} {name : String} {p : Position}
    {c : Column} {ms : List (String × Move)}
    (h : ∀ m ∈ ms, ∀ col, (m.2 col).2.2.filterMap Message.unfound? = []) :
    (rendition d b name p c ms).log.unfound
      = ms.flatMap fun m => (substitute d name b m.1).2.filterMap Message.unfound? := by
  induction ms generalizing p c with
  | nil => rfl
  | cons m ms ih =>
    -- what the moves say is about columns; only the text is left
    have hrest := fun p c => ih (p := p) (c := c) fun m hm => h m (List.mem_cons_of_mem _ hm)
    simp only [rendition, Log.unfound_append, Log.unfound_report_warnings, hrest,
      List.filterMap_append, h m List.mem_cons_self, List.flatMap_cons, List.nil_append]
    rfl

theorem texts_moves (name : String) (c : Control) (items : List TextItem) :
    (moves name c items).map Prod.fst = items.map TextItem.text := by
  cases items <;> simp [moves]

theorem unfound_renderOwn (s : Session) (name : String) (seg : Segment) :
    (s.renderOwn name seg).log.unfound = s.log.unfound ++ s.unfoundIn name seg := by
  have htab : (s.tabNotices seg.control.tabSize).filterMap Message.unfound? = [] := by
    cases seg.control.tabSize with
    | none => rfl
    | some n => exact s.column.unfound_setTabSize n
  have htexts := congrArg (List.flatMap fun text =>
    (substitute s.delimiters name (s.tokens.bindingsOf (some name)) text).2.filterMap
      Message.unfound?) (texts_moves name seg.control seg.items)
  rw [List.flatMap_map, List.flatMap_map] at htexts
  rw [renderOwn_eq]
  dsimp only
  rw [Log.unfound_append, Log.unfound_report_warnings, htab, List.append_nil, ownRendition,
    unfound_rendition fun _ hm col => unfound_moves hm col, htexts]
  rfl

theorem unfound_behindPad (s : Session) (name : String) (pad : Segment) :
    (s.behindPad name pad).log.unfound = s.log.unfound ++ s.unfoundIn name pad := by
  let saved : Session := { s with column := s.column.save }
  have hpad := unfound_renderOwn (saved.enter name none) name pad
  rw [unfound_enter] at hpad
  exact hpad

/-- **What a request notes of names that were not found**: those of the pad, if it is due, and those of
the segment itself, with the bindings behind the request. -/
theorem Sound.unfound_render {s : Session} (hs : s.Sound) {name : String} {seg : Segment}
    (hget : s.template.get? name = some seg) (values : Option Values) :
    (s.render (some name) values).log.unfound = s.log.unfound ++
      (s.duePad? seg).elim [] (fun pad =>
        (s.render (some name) values).unfoundIn seg.control.padSegment pad) ++
      (s.render (some name) values).unfoundIn name seg := by
  have hrender := hs.render_eq hget values
  -- the bindings are those from when the segment was come to: rendering binds nothing
  have hdelimiters : (s.render (some name) values).delimiters = (s.enter name values).delimiters := by
    rw [hrender, renderOwn_eq]
    exact (s.beforeOwn_delimiters name seg values).trans (s.enter_delimiters name values).symm
  have htokens : (s.render (some name) values).tokens = (s.enter name values).tokens := by
    rw [hrender, renderOwn_eq]
    exact s.beforeOwn_tokens name seg values
  have hbefore : (s.beforeOwn name seg values).log.unfound = s.log.unfound ++
      (s.duePad? seg).elim [] (fun pad =>
        (s.enter name values).unfoundIn seg.control.padSegment pad) := by
    unfold beforeOwn
    cases s.duePad? seg with
    | none => exact (unfound_enter s name values).trans (List.append_nil _).symm
    | some pad =>
      exact (unfound_behindPad _ _ _).trans (congrArg (· ++ _) (unfound_enter s name values))
  have hown : (s.beforeOwn name seg values).unfoundIn name seg
      = (s.enter name values).unfoundIn name seg :=
    unfoundIn_congr ((s.beforeOwn_delimiters name seg values).trans
      (s.enter_delimiters name values).symm) (s.beforeOwn_tokens name seg values) name seg
  have hlog : (s.render (some name) values).log.unfound
      = ((s.beforeOwn name seg values).renderOwn name seg).log.unfound := by rw [hrender]
  rw [hlog, unfound_renderOwn, hbefore, hown]
  simp only [unfoundIn_congr hdelimiters htokens]

theorem unfound_refusal {s : Session} {name : String} {m : Message} (h : s.refusal? name = some m) :
    m.unfound? = none := by
  cases refusal_of_refusal? h <;> rfl

/-- A request for a segment that is not there appends nothing, binds nothing and notes no names. -/
theorem unfound_of_missing {s : Session} {name : String} (h : s.template.get? name = none)
    (values : Option Values) :
    (s.render (some name) values).output = s.output ∧
      (s.render (some name) values).tokens = s.tokens ∧
      (s.render (some name) values).log.unfound = s.log.unfound := by
  cases hm : s.refusal? name with
  | none =>
    obtain ⟨seg, hget⟩ := exists_of_not_refused hm
    exact absurd (h.symm.trans hget) (by simp)
  | some m =>
    have hwarned := Log.unfound_report_warnings s.log ⟨name, 0⟩ .generating [m]
    have hrender := @render_of_refusal s (some name) m hm values
    rw [hrender]
    refine ⟨rfl, rfl, hwarned.trans ?_⟩
    simp [unfound_refusal hm]

end Session

end Stencil
