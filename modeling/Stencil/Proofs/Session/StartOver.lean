/-
# Sessions whose output is reset

Resetting the output lets rendering start over.  What the session has been through since its template
was loaded is rendered segments, values, a tab size and perhaps other delimiters; of these the values
and the delimiters are still there, and nothing of the rest shows.  To whoever goes on rendering, the
session is one that has just loaded the same lines, under the delimiters in force, and has been given
the same bindings.

The bindings need not be the same table.  Some may be left of names that are no tokens under the
delimiters in force, and they are refused when they are supplied anew; but no text looks them up.  So
the two sessions are compared by what a render reads of them (`LooksLike`), and that is kept by every
operation that renders, supplies values, sets the tab size or resets a segment.

* `LooksLike.perform`, `LooksLike.views`: sessions that look alike go on alike;
* `load_congr_delimiters`: the same lines, loaded again under whatever delimiters;
* `resetOutput_startsOver`: what resetting the output comes to.
-/
import Stencil.Proofs.Session.Bindings
import Stencil.Proofs.Session.Origin

namespace Stencil

/-- An operation that goes on with the template as it is: it renders a segment, supplies values, sets
the tab size or resets a segment. -/
def Operation.GoesOn : Operation → Prop
  | .render _ _ | .loadValues _ _ | .setTabSize _ | .resetSegment _ => True
  | _ => False

namespace Session

/-! ## 1. Sessions that look alike -/

/-- The second session looks like the first to whoever renders.  They may differ in the position, the
log, the path and what has been written, and in bindings of names that no text shows. -/
structure LooksLike (s t : Session) : Prop where
  template : t.template = s.template
  isLoaded : t.isLoaded = s.isLoaded
  delimiters : t.delimiters = s.delimiters
  column : t.column = s.column
  output : t.output = s.output
  known : t.tokens.known = s.tokens.known
  bindings : ∀ name names, (s.template.tokenNames s.delimiters).get? name = some names →
    ∀ token ∈ names, t.tokens.binding? (some name) token = s.tokens.binding? (some name) token

/-- What a segment comes to depends on the bindings by its own names. -/
theorem rendition_congr {d : Delimiters} {b b' : Bindings} {name : String} {c : Column}
    {ms : List (String × Move)}
    (h : ∀ m ∈ ms, (substitute d name b' m.1).1 = (substitute d name b m.1).1) (p p' : Position) :
    (rendition d b' name p' c ms).lines = (rendition d b name p c ms).lines ∧
      (rendition d b' name p' c ms).column = (rendition d b name p c ms).column := by
  -- the positions show in the log only, and may differ from the first line on
  induction ms generalizing p p' c with
  | nil => exact ⟨rfl, rfl⟩
  | cons m ms ih =>
    obtain ⟨hlines, hcolumn⟩ :=
      ih (fun m hm => h m (List.mem_cons_of_mem _ hm)) { p with line := p.line + 1 }
        { p' with line := p'.line + 1 }
    refine ⟨?_, hcolumn⟩
    simp only [rendition, hlines, h m List.mem_cons_self]

namespace LooksLike

variable {s t : Session}

theorem move (h : s.LooksLike t) {c c' : Column} (hc : c' = c) (p p' : Position) (l l' : Log) :
    { s with position := p, column := c, log := l }.LooksLike
      { t with position := p', column := c', log := l' } :=
  ⟨h.template, h.isLoaded, h.delimiters, hc, h.output, h.known, h.bindings⟩

theorem written (h : s.LooksLike t) {b b' : Bool} :
    { s with isWritten := b }.LooksLike { t with isWritten := b' } :=
  ⟨h.template, h.isLoaded, h.delimiters, h.column, h.output, h.known, h.bindings⟩

/-- The template of both has been changed in one segment, in a way that its first render undoes. -/
theorem modify (h : s.LooksLike t) (name : String) {f : Segment → Segment}
    (hf : ∀ seg, (f seg).unrendered = seg.unrendered) :
    { s with template := s.template.modify name f }.LooksLike
      { t with template := t.template.modify name f } where
  template := congrArg (Template.modify · name f) h.template
  isLoaded := h.isLoaded
  delimiters := h.delimiters
  column := h.column
  output := h.output
  known := h.known
  bindings other names hget :=
    h.bindings other names ((Template.tokenNames_modify _ _ name hf).symm ▸ hget)

/-! ## 2. What sessions that look alike do -/

theorem loadValues (h : s.LooksLike t) (segment : Option String) (values : Option Values) :
    (s.loadValues segment values).LooksLike (t.loadValues segment values) where
  template := h.template
  isLoaded := h.isLoaded
  delimiters := h.delimiters
  column := h.column
  output := h.output
  known := (Tokens.known_load _ _ _).trans (h.known.trans (Tokens.known_load _ _ _).symm)
  bindings name names hget token htoken :=
    Tokens.binding?_load_congr (by rw [Tokens.accept_congr h.known])
      (h.bindings name names hget token htoken) values

theorem setTabSize (h : s.LooksLike t) (n : Int) :
    (s.setTabSize n).LooksLike (t.setTabSize n) := by
  have hcolumn : (t.column.setTabSize n).1 = (s.column.setTabSize n).1 := by rw [h.column]
  exact h.move hcolumn s.position t.position _ _

theorem enter (h : s.LooksLike t) (name : String) (values : Option Values) :
    (s.enter name values).LooksLike (t.enter name values) := by
  have hmoved := h.move h.column ⟨name, 0⟩ ⟨name, 0⟩
    (s.log.report ⟨name, 0⟩ [.info .generating (.rendering name)])
    (t.log.report ⟨name, 0⟩ [.info .generating (.rendering name)])
  cases values with
  | none => exact hmoved
  | some values => exact hmoved.loadValues (some name) (some values)

theorem ownRendition (h : s.LooksLike t) {name : String} {seg : Segment}
    (hnames : ∀ token ∈ seg.tokenNames s.delimiters,
      t.tokens.binding? (some name) token = s.tokens.binding? (some name) token) :
    (t.ownRendition name seg).lines = (s.ownRendition name seg).lines ∧
      (t.ownRendition name seg).column = (s.ownRendition name seg).column := by
  rw [Session.ownRendition, Session.ownRendition, h.delimiters, h.column]
  refine rendition_congr (fun m hm => congrArg Prod.fst (substitute_congr fun token htoken => ?_)) _ _
  obtain ⟨item, hitem, htext, -⟩ := of_mem_moves hm
  exact hnames token (Segment.mem_tokenNames.mpr ⟨item, hitem, htext ▸ htoken⟩)

theorem renderOwn (h : s.LooksLike t) {name : String} {seg : Segment}
    (hnames : ∀ token ∈ seg.tokenNames s.delimiters,
      t.tokens.binding? (some name) token = s.tokens.binding? (some name) token) :
    (s.renderOwn name seg).LooksLike (t.renderOwn name seg) := by
  obtain ⟨hlines, hcolumn⟩ := h.ownRendition hnames
  have hmodified := h.modify name Segment.unrendered_rendered
  rw [renderOwn_eq, renderOwn_eq]
  exact ⟨hmodified.template, h.isLoaded, h.delimiters, hcolumn, by rw [h.output, hlines], h.known,
    hmodified.bindings⟩

theorem renderPad (h : s.LooksLike t) {depth : Nat}
    (hdepth : ∀ {s t : Session}, s.LooksLike t → ∀ name values,
      Option.Rel LooksLike (s.renderAt depth name values) (t.renderAt depth name values))
    (pad : String) : Option.Rel LooksLike (s.renderPad depth pad) (t.renderPad depth pad) := by
  have hsaved := h.move (congrArg Column.save h.column) s.position t.position s.log t.log
  have hpad := hdepth hsaved pad none
  rw [Session.renderPad, Session.renderPad, aside, aside]
  generalize Session.renderAt depth _ pad none = u at hpad ⊢
  generalize Session.renderAt depth _ pad none = v at hpad ⊢
  cases hpad with
  | none => exact .none
  | some huv => exact .some (huv.move (congrArg Column.restore huv.column) _ _ _ _)

/-- Rendering from two sessions that look alike, however pads are nested. -/
theorem renderAt (h : s.LooksLike t) (depth : Nat) (name : String) (values : Option Values) :
    Option.Rel LooksLike (s.renderAt depth name values) (t.renderAt depth name values) := by
  -- side by side through the same segments; where one has a pad, so has the other
  induction depth generalizing s t name values with
  | zero => exact .none
  | succ depth ih =>
    cases hget : s.template.get? name with
    | none =>
      have hget' : t.template.get? name = none := h.template ▸ hget
      simp only [Session.renderAt, hget, hget']
      exact .none
    | some seg =>
      have hget' : t.template.get? name = some seg := h.template ▸ hget
      have hnames : (s.template.tokenNames s.delimiters).get? name
          = some (seg.tokenNames s.delimiters) := by
        rw [Template.get?_tokenNames, hget]
        rfl
      have hentered := h.enter name values
      -- a pad leaves the names of the segment as they are
      have hown : ∀ {u v : Session}, u.LooksLike v → s.Keeps u →
          (u.renderOwn name seg).LooksLike (v.renderOwn name seg) := fun huv hkept =>
        huv.renderOwn fun token htoken => huv.bindings name _
          (hkept.tokenNames.symm ▸ hnames) token (hkept.delimiters ▸ htoken)
      cases hdue : seg.control.padIsDue with
      | false =>
        rw [renderAt_of_notDue hget hdue, renderAt_of_notDue hget' hdue]
        exact .some (hown hentered (s.keeps_enter name values))
      | true =>
        have hpad := hentered.renderPad (fun huv => ih huv) seg.control.padSegment
        rw [renderAt_of_isDue hget hdue, renderAt_of_isDue hget' hdue]
        generalize hu : (s.enter name values).renderPad depth seg.control.padSegment = u at hpad ⊢
        generalize (t.enter name values).renderPad depth seg.control.padSegment = v at hpad ⊢
        cases hpad with
        | none => exact .none
        | some huv =>
          exact .some (hown huv ((s.keeps_enter name values).trans (keeps_renderPad keeps_renderAt hu)))

theorem render (h : s.LooksLike t) (segment : Option String) (values : Option Values) :
    (s.render segment values).LooksLike (t.render segment values) := by
  have hrefusal : t.refusal? (segment.getD "") = s.refusal? (segment.getD "") := by
    simp only [refusal?, h.template, h.isLoaded]
  have hmoved := h.move h.column ⟨segment.getD "", 0⟩ ⟨segment.getD "", 0⟩ s.log t.log
  cases hm : s.refusal? (segment.getD "") with
  | some m =>
    rw [render_of_refusal hm, render_of_refusal (hrefusal.trans hm)]
    exact hmoved.move h.column _ _ _ _
  | none =>
    have hrendered := hmoved.renderAt (s.template.length + 1) (segment.getD "") values
    have hlength : t.template.length = s.template.length := by rw [h.template]
    rw [render_of_accepted hm, render_of_accepted (hrefusal.trans hm), hlength]
    dsimp only
    generalize Session.renderAt _ _ (segment.getD "") values = u at hrendered ⊢
    generalize Session.renderAt _ _ (segment.getD "") values = v at hrendered ⊢
    cases hrendered with
    | none => exact hmoved.written
    | some huv => exact huv.written

theorem resetSegment (h : s.LooksLike t) (segment : Option String) :
    (s.resetSegment segment).LooksLike (t.resetSegment segment) := by
  have hmodified := h.modify (segment.getD "") (f := Segment.unrendered) fun _ => rfl
  have hkeys : t.template.keys = s.template.keys := by rw [h.template]
  unfold Session.resetSegment
  dsimp only
  rw [hkeys]
  split
  · exact hmodified.move h.column _ _ _ _
  · exact h.move h.column _ _ _ _

/-- **Sessions that look alike go on alike.** -/
theorem perform (h : s.LooksLike t) {op : Operation} (hop : op.GoesOn) :
    (s.perform op).1.LooksLike (t.perform op).1 := by
  cases op with
  | render segment values => exact h.render segment values
  | loadValues segment values => exact h.loadValues segment values
  | setTabSize n => exact h.setTabSize n
  | resetSegment segment => exact h.resetSegment segment
  | _ => exact hop.elim

end LooksLike

/-- What a host sees of the rendering: the output, the column and the tab size. -/
structure View where
  output : List String
  column : Int
  tabSize : Int
  deriving DecidableEq, Repr

def view (s : Session) : View := ⟨s.output, s.column.column, s.column.tabSize⟩

/-- What the host sees before operations and after each of them. -/
def views (s : Session) : List Operation → List View
  | [] => [s.view]
  | op :: ops => s.view :: (s.perform op).1.views ops

/-- The host sees the same of sessions that look alike, whatever goes on. -/
theorem LooksLike.views {s t : Session} (h : s.LooksLike t) {ops : List Operation}
    (hops : ∀ op ∈ ops, op.GoesOn) : s.views ops = t.views ops := by
  have hview : s.view = t.view := by rw [view, view, h.output, h.column]
  -- the views before the first operation agree, and the sessions behind it look alike
  induction ops generalizing s t with
  | nil => exact congrArg (fun v => [v]) hview
  | cons op ops ih =>
    have hnext := h.perform (hops op List.mem_cons_self)
    have hnextView : (s.perform op).1.view = (t.perform op).1.view := by
      rw [view, view, hnext.output, hnext.column]
    rw [Session.views, Session.views, hview,
      ih hnext (fun op hop => hops op (List.mem_cons_of_mem _ hop)) hnextView]

/-! ## 3. The same lines, loaded again -/

/-- **Lines that have been loaded can be loaded again**, under whatever name and delimiters, and come
to the same template. -/
theorem load_congr_delimiters {s t : Session} (hnamer : t.namer.reset = s.namer.reset)
    {lines : List String} {name : String} (h : (s.load lines name).2 = .ok true)
    (name' : String) :
    (t.load lines name').2 = .ok true ∧
      (t.load lines name').1.template = (s.load lines name).1.template := by
  by_cases hempty : isEmptyTemplate lines = true
  · rw [load_of_empty name hempty] at h
    exact absurd (Except.ok.inj h) (by simp)
  · -- both are read in this draft, behind different logs and under different delimiters
    let d : Draft := { namer := s.namer.reset }
    have hs : s.loading name
        = d.behind (s.log.report {} [.info .loading (.loading name)]) := by
      simp only [loading, draft, clear, report, d, Draft.behind, List.append_nil]
    have ht : t.loading name'
        = (d.withTokens {}).behind (t.log.report {} [.info .loading (.loading name')]) := by
      simp only [loading, draft, clear, report, d, Draft.behind, Draft.withTokens, List.append_nil,
        hnamer]
    obtain ⟨u, hread⟩ := Draft.read_withTokens {} d s.delimiters t.delimiters lines
    rw [load_of_not_empty name hempty, hs, Draft.read_behind] at h ⊢
    rw [load_of_not_empty name' hempty, ht, Draft.read_behind, hread]
    generalize d.read s.delimiters lines = result at h ⊢
    rcases result with ⟨d', _ | (f | o)⟩
    · exact ⟨rfl, rfl⟩
    · exact absurd (Except.ok.inj h) (by simp)
    · exact absurd h (by simp [conclude])

/-- A template is loaded, from given lines or from a file. -/
def Loads : Event := fun s op => LoadsLines s op ∨ ReadsFile s op

/-- The lines of a template are loaded, as they are given or as a file has them. -/
def LoadsFrom (lines : List String) : Event
  | s, .load lines' name => LoadsLines s (.load lines' name) ∧ lines' = lines
  | s, .loadFile files path =>
    ReadsFile s (.loadFile files path) ∧ TextFile.read files (some path) = .ok (.ok lines)
  | _, _ => False

/-- What a session has loaded comes to the same template in any session of the same settings. -/
theorem load_of_loadsFrom {settings : Settings} {s t : Session} (hs : Reachable settings s)
    (ht : Reachable settings t) {op : Operation} {lines : List String} (h : LoadsFrom lines s op)
    (name : String) :
    (t.load lines name).2 = .ok true ∧
      (t.load lines name).1.template = (s.perform op).1.template := by
  have hnamer : t.namer.reset = s.namer.reset :=
    (congrArg Session.namer ht.clear_eq).trans (congrArg Session.namer hs.clear_eq).symm
  cases op with
  | load lines' name' =>
    obtain ⟨hload, rfl⟩ := h
    exact load_congr_delimiters hnamer hload name
  | loadFile files path =>
    obtain ⟨hreads, hlines⟩ := h
    obtain ⟨log, lines', u, hread, hload, hloaded⟩ := load_of_readsFile hreads
    obtain rfl : lines = lines' := Except.ok.inj (Except.ok.inj (hlines.symm.trans hread))
    have hagain := load_congr_delimiters (s := { s with log }) hnamer (congrArg Prod.snd hload) name
    rw [hload] at hagain
    rw [perform, hloaded]
    exact hagain
  | _ => exact h.elim

/-- The template of a session, as its lines come to it in any session of the same settings. -/
theorem load_of_since {settings : Settings} {ops : List Operation} {lines : List String}
    (hsince : Since (LoadsFrom lines) Loads (ofSettings settings) ops)
    (hloaded : ((ofSettings settings).run ops).isLoaded = true) {t : Session}
    (ht : Reachable settings t) (name : String) :
    (t.load lines name).2 = .ok true ∧
      (t.load lines name).1.template = ((ofSettings settings).run ops).template.startOver := by
  obtain ⟨before, op, after, rfl, hload, hnever⟩ := hsince
  have hs : Reachable settings ((ofSettings settings).run before) := ⟨before, rfl⟩
  have hloads : Loads ((ofSettings settings).run before) op := by
    cases op with
    | load => exact .inl hload.1
    | loadFile => exact .inr hload.1
    | _ => exact hload.elim
  rw [run_append] at hloaded ⊢
  -- since that load the template is the one it left, up to what has been rendered
  have hkept := template_of_load op hloads (hnever.imp fun _ _ => .inl)
    (hnever.imp fun _ _ => .inr) hloaded
  have hagain := load_of_loadsFrom hs ht hload name
  exact ⟨hagain.1, hagain.2.trans hkept.symm⟩

/-! ## 4. Bindings that are given -/

/-- The requests that supply bindings, one for each segment. -/
def supplies (b : Table (Option String) Bindings) : List Operation :=
  b.map fun p => .loadValues p.1 (some (Tokens.asValues p.2))

theorem run_supplies (s : Session) (b : Table (Option String) Bindings) :
    ∃ log, s.run (supplies b) = { s with
      tokens := b.foldl (fun t p => (t.load p.1 (some (Tokens.asValues p.2))).1) s.tokens, log } := by
  induction b generalizing s with
  | nil => exact ⟨s.log, rfl⟩
  | cons p b ih => exact ih (s.loadValues p.1 (some (Tokens.asValues p.2)))

/-- The second session is the first with the given bindings: as they are, or supplied to it by
requests. -/
def IsGiven (s : Session) (b : Table (Option String) Bindings) (t : Session) : Prop :=
  t = { s with tokens := { s.tokens with bindings := b } } ∨ t = s.run (supplies b)

/-! ## 5. Starting over -/

/-- What resetting the output leaves looks like the same lines, loaded again and given the same
bindings. -/
theorem resetOutput_looksLike {settings : Settings} {s t u given : Session} {lines : List String}
    {name : String} (hs : Reachable settings s) (hloaded : s.isLoaded = true)
    (ht : Reachable settings t) (hd : t.delimiters = s.delimiters)
    (hload : t.load lines name = (u, .ok true)) (htemplate : u.template = s.template.startOver)
    (hgiven : u.IsGiven s.tokens.bindings given) : (s.resetOutput false).LooksLike given := by
  obtain rfl : (t.load lines name).1 = u := congrArg Prod.fst hload
  have hu : Reachable settings (t.load lines name).1 := ht.run [.load lines name]
  have huloaded : (t.load lines name).1.isLoaded = true := (load_state (congrArg Prod.snd hload)).1
  obtain ⟨-, hdelimiters, houtput⟩ := t.load_leaves lines name
  have hcolumn : (t.load lines name).1.column = s.column.reset := by
    rw [load_column, Column.reset, Column.reset, ht.column_home, hs.column_home]
  -- the names on record are told by the template and the delimiters, in both
  have hknown : (t.load lines name).1.tokens.known = s.tokens.known := by
    rw [hu.recordsNames huloaded, hs.recordsNames hloaded, htemplate, Template.tokenNames_startOver,
      hdelimiters, hd]
  have hplain : (s.resetOutput false).LooksLike { (t.load lines name).1 with
      tokens := { (t.load lines name).1.tokens with bindings := s.tokens.bindings } } :=
    ⟨htemplate, huloaded.trans hloaded.symm, hdelimiters.trans hd, hcolumn, houtput, hknown,
      fun _ _ _ _ _ => rfl⟩
  rcases hgiven with rfl | rfl
  · exact hplain
  · obtain ⟨log, hrun⟩ := (t.load lines name).1.run_supplies s.tokens.bindings
    rw [hrun]
    refine { hplain with
      known := (Tokens.known_foldl_load _ _).trans hknown
      bindings := fun segment names hget token htoken => ?_ }
    have hnames : (t.load lines name).1.tokens.known.get? segment = some names := by
      rw [hknown, hs.recordsNames hloaded, ← Template.tokenNames_startOver]
      exact hget
    have haccept := Tokens.accept_of_mem hnames htoken (Template.isName_of_mem_tokenNames hget htoken)
    -- a fresh load has no bindings, so that what is supplied is all there is
    have hnone : (t.load lines name).1.tokens.binding? (some segment) token = none := by
      rw [Tokens.binding?, Tokens.bindingsOf, load_bindings]
      rfl
    have hsupplied := Tokens.binding?_foldl_load hs.distinct.segments hs.distinct.names haccept
    rw [hnone, Option.or_none] at hsupplied
    exact hsupplied

/-- **Resetting the output makes rendering start over.**  Let the template of a session have come from
lines, and let anything have happened since but another load.  Take any session of the same settings
with the same delimiters, load the same lines in it and give it the same bindings.  Then the host sees
the same of both, however rendering goes on. -/
theorem resetOutput_startsOver {settings : Settings} {ops : List Operation} {lines : List String}
    (hsince : Since (LoadsFrom lines) Loads (ofSettings settings) ops) {s : Session}
    (hs : (ofSettings settings).run ops = s) (hloaded : s.isLoaded = true) (mention : Bool)
    {t : Session} (ht : Reachable settings t) (hd : t.delimiters = s.delimiters) (name : String) :
    ∃ u, t.load lines name = (u, .ok true) ∧
      ∀ given, u.IsGiven s.tokens.bindings given → ∀ later : List Operation,
        (∀ op ∈ later, op.GoesOn) → (s.resetOutput mention).views later = given.views later := by
  subst hs
  obtain ⟨hanswer, htemplate⟩ := load_of_since hsince hloaded ht name
  have hload : t.load lines name = ((t.load lines name).1, .ok true) := Prod.ext rfl hanswer
  refine ⟨_, hload, fun given hgiven later hlater => ?_⟩
  have hreset := resetOutput_looksLike ⟨ops, rfl⟩ hloaded ht hd hload htemplate hgiven
  cases mention with
  | false => exact hreset.views hlater
  | true => exact (hreset.move hreset.column _ given.position _ given.log).views hlater

/-- A segment with a first indent and a pad, which has options and values of its own, rendered twice
behind a change of the delimiters.  One of the bindings is for a name that is a token no more. -/
theorem resetOutput_startsOver_padded :
    ∃ (settings : Settings) (ops : List Operation) (lines : List String) (s t u : Session)
      (later : List Operation),
      Since (LoadsFrom lines) Loads (ofSettings settings) ops ∧ (ofSettings settings).run ops = s ∧
      s.output = ["        one", "  (y)", "   <#b#>|", "    one", "  (y)"] ∧ s.column.tabSize = 7 ∧
      s.tokens.bindings = [(some "Bar", [("b", some "stale"), ("a", some "|")]),
        (some "Row", [("x", some "one")])] ∧
      Reachable settings t ∧ t.delimiters = s.delimiters ∧ t.load lines "again" = (u, .ok true) ∧
      (u.run (supplies s.tokens.bindings)).tokens.bindings = [(some "Bar", [("a", some "|")]),
        (some "Row", [("x", some "one")])] ∧
      ((u.run (supplies s.tokens.bindings)).run later).output
        = ["        one", "  (y)", "   <#b#>|", "    one", "  two", "        one", "  two"] ∧
      (s.resetOutput true).views later = (u.run (supplies s.tokens.bindings)).views later := by
  let settings : Settings := { tabSize := 2 }
  let lines := ["### Bar FTI=3 TAB=1", "    <#b#>(a)", "### Row FTI=4 PAD=Bar TAB=2", "@+1 (x)",
    "@=1 (y)"]
  let change : Operation := .setDelimiters (some "(") (some ")") (some "!")
  let after : List Operation :=
    [.loadValues (some "Bar") (some [(.name "b", .string "stale")]), change,
      .loadValues (some "Bar") (some [(.name "a", .string "|")]),
      .render (some "Row") (some [(.name "x", .string "one")]), .render (some "Row") none,
      .setTabSize 7]
  let ops : List Operation := .load lines "first" :: after
  let s := (ofSettings settings).run ops
  let t := (ofSettings settings).run [change]
  let u := (t.load lines "again").1
  let later : List Operation :=
    [.render (some "Row") none, .setTabSize 3,
      .render (some "Row") (some [(.name "y", .string "two")]), .resetSegment (some "Row"),
      .render (some "Row") none]
  have hload : LoadsLines (ofSettings settings) (.load lines "first") :=
    toOption_eq_some_iff.mp (by decide +kernel)
  have hsince : Since (LoadsFrom lines) Loads (ofSettings settings) ops :=
    ⟨[], .load lines "first", after, rfl, ⟨hload, rfl⟩,
      by simp [after, change, Never, Loads, LoadsLines, ReadsFile]⟩
  have hloaded : s.isLoaded = true := by decide +kernel
  have houtput : s.output = ["        one", "  (y)", "   <#b#>|", "    one", "  (y)"] := by
    decide +kernel
  have hdelimiters : t.delimiters = s.delimiters := by decide +kernel
  obtain ⟨v, hv, hviews⟩ :=
    resetOutput_startsOver hsince (s := s) rfl hloaded true ⟨[change], rfl⟩ hdelimiters "again"
  obtain rfl : u = v := congrArg Prod.fst hv
  exact ⟨settings, ops, lines, s, t, u, later, hsince, rfl, houtput, by decide +kernel,
    by decide +kernel, ⟨[change], rfl⟩, hdelimiters, hv, by decide +kernel, by decide +kernel,
    hviews _ (.inr rfl) later (by simp [later, Operation.GoesOn])⟩

end Session

end Stencil
