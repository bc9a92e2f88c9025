/-
# Loads that fail

A load can fail after segments, default names, token names and a position have come together.  All of
it is dropped again, on each of the ways to fail: the session is as empty as it began, with the
delimiters that are in force, and it holds the fault.

The fault is told by what is wrong with the lines or with the file (`Flaw`, `FileFlaw`), not by what
loading answers.

* `load_fault_iff`: when lines are not loaded, and what is noted as the fault;
* `Reachable.load_failed`: what a load that fails leaves.
-/
import Stencil.Proofs.Session.Reachable
import Stencil.Proofs.Template.Stops

namespace Stencil

namespace Session

/-! ## 1. What is wrong -/

/-- What keeps lines from being loaded: they count as no template at all, or one of them has a fault,
past lines that are read. -/
inductive Flaw (s : Session) (lines : List String) (name : String) : LoadFault → Prop
  | empty : isEmptyTemplate lines = true → Flaw s lines name .empty
  | line {before after : List String} {line : String} {d : Draft} {f : LoadFault} :
      ¬ isEmptyTemplate lines = true → lines = before ++ line :: after →
      (s.loading name).readLines s.delimiters before = (d, none) → d.Flaw line f →
      Flaw s lines name f

/-- What keeps a file from being loaded: it cannot be read, or its lines cannot be loaded, whatever
has been noted by then. -/
inductive FileFlaw (s : Session) (files : FileTree) (path : String) : LoadFault → Prop
  | unreadable {m : Message} :
      TextFile.read files (some path) = .ok (.error m) → FileFlaw s files path .unreadable
  | lines {log : Log} {lines : List String} {f : LoadFault} :
      TextFile.read files (some path) = .ok (.ok lines) →
      { s with log }.Flaw lines (Path.ofString path).resolved.name f → FileFlaw s files path f

/-- Lines that are no empty template have a flaw where reading them ends with a fault. -/
theorem flaw_iff_of_not_empty {s : Session} {lines : List String} {name : String} {f : LoadFault}
    (h : ¬ isEmptyTemplate lines = true) :
    s.Flaw lines name f ↔ ((s.loading name).read s.delimiters lines).2 = some (.fault f) := by
  rw [Draft.read_fault_iff]
  constructor
  · rintro (hempty | ⟨-, hl, hread, hflaw⟩)
    · exact absurd hempty h
    · exact ⟨_, _, _, _, hl, hread, hflaw⟩
  · rintro ⟨before, line, after, d, hl, hread, hflaw⟩
    exact .line h hl hread hflaw

/-- **Lines are not loaded exactly if there is something wrong with them**, and that is the fault
that is noted. -/
theorem load_fault_iff {s : Session} {lines : List String} {name : String} {f : LoadFault} :
    ((s.load lines name).2 = .ok false ∧ (s.load lines name).1.lastFault = some f) ↔
      s.Flaw lines name f := by
  by_cases hempty : isEmptyTemplate lines = true
  · rw [load_of_empty name hempty]
    constructor
    · rintro ⟨-, h⟩
      obtain rfl := Option.some.inj h
      exact .empty hempty
    · rintro (- | ⟨hne, -⟩)
      · exact ⟨rfl, rfl⟩
      · exact absurd hempty hne
  · rw [flaw_iff_of_not_empty hempty, load_of_not_empty name hempty]
    -- read to the end, stopped by a fault, or broken off without one
    rcases (s.loading name).read s.delimiters lines with ⟨d, _ | (f' | o)⟩
    · simp [conclude]
    · simp [conclude]
    · simp [conclude]

/-! ## 2. What is left -/

/-- Nothing is loaded, rendered or supplied, no default name has been handed out, and the column is
at the margin, with the given tab size and no state saved. -/
structure IsVacant (s : Session) (tabSize : Int) : Prop where
  template : s.template = []
  controls : s.controls = []
  output : s.output = []
  position : s.position = ⟨"", 0⟩
  count : s.namer.count = 0
  column : s.column.column = 0
  tabSize : s.column.tabSize = tabSize
  saved : s.column.saved = []
  bindings : s.tokens.bindings = []
  known : s.tokens.known = []
  isLoaded : s.isLoaded = false
  isWritten : s.isWritten = false

/-- A session that was cleared is empty, whatever path, log and fault it holds. -/
theorem isVacant_clear (s : Session) (path : Option Path) (log : Log) (lastFault : Option LoadFault) :
    { s.clear with path, log, lastFault }.IsVacant s.column.home :=
  ⟨rfl, rfl, rfl, rfl, rfl, rfl, rfl, rfl, rfl, rfl, rfl, rfl⟩

/-- Lines that are not loaded leave a session that was cleared after them. -/
theorem load_false {s : Session} {lines : List String} {name : String}
    (h : (s.load lines name).2 = .ok false) (path : Option Path) :
    { (s.load lines name).1 with path }.IsVacant s.column.home ∧
      (s.load lines name).1.delimiters = s.delimiters ∧
      ∃ f, (s.load lines name).1.lastFault = some f ∧ s.Flaw lines name f := by
  have hfault : ∀ f, (s.load lines name).1.lastFault = some f → s.Flaw lines name f :=
    fun f hf => load_fault_iff.mp ⟨h, hf⟩
  by_cases hempty : isEmptyTemplate lines = true
  · rw [load_of_empty name hempty] at hfault ⊢
    exact ⟨isVacant_clear s path _ _, rfl, _, rfl, hfault _ rfl⟩
  · rw [load_of_not_empty name hempty] at h hfault ⊢
    generalize (s.loading name).read s.delimiters lines = result at h hfault ⊢
    rcases result with ⟨d, _ | (f | o)⟩
    · exact absurd h (by simp [conclude])
    -- what had been read when the reading was stopped is cleared away
    · let t := (s.clear.report [.info .loading (.loading name)]).adopt d
      exact ⟨isVacant_clear t path _ _, rfl, f, rfl, hfault f rfl⟩
    · exact absurd h (by simp [conclude])

/-- **A load that fails leaves an empty session**, in every reachable session, whether lines or a file
were to be loaded, and however far reading came: no template, no output, no values and no token
names, with the position, the namer and the column as they were in the beginning.  The delimiters
are those from before, and the fault that is noted is what was wrong. -/
theorem Reachable.load_failed {settings : Settings} {s : Session} (hs : Reachable settings s) :
    (∀ lines name, (s.load lines name).2 = .ok false →
      (s.load lines name).1.IsVacant settings.tabSize ∧
      (s.load lines name).1.delimiters = s.delimiters ∧
      ∃ f, (s.load lines name).1.lastFault = some f ∧ s.Flaw lines name f) ∧
    (∀ files path, (s.loadFile files path).2 = .ok false →
      (s.loadFile files path).1.IsVacant settings.tabSize ∧
      (s.loadFile files path).1.delimiters = s.delimiters ∧
      (s.loadFile files path).1.path = none ∧
      ∃ f, (s.loadFile files path).1.lastFault = some f ∧ s.FileFlaw files path f) := by
  rw [← hs.column_home]
  constructor
  · intro lines name h
    exact load_false h (s.load lines name).1.path
  · intro files path h
    have hload := s.fileLoad files path
    generalize (s.loadFile files path).1 = s' at hload
    rw [h] at hload
    cases hload with
    -- the file cannot be read, or its lines cannot be loaded
    | unreadable hread => exact ⟨isVacant_clear s none _ _, rfl, rfl, _, rfl, .unreadable hread⟩
    | @read log lines t _ hread hload =>
      have hfalse : ({ s with log }.load lines (Path.ofString path).resolved.name).2 = .ok false := by
        rw [hload]
      obtain ⟨hvacant, hdelimiters, f, hf, hflaw⟩ := load_false hfalse none
      rw [hload] at hvacant hdelimiters hf
      exact ⟨hvacant, hdelimiters, rfl, f, hf, .lines hread hflaw⟩

/-- Lines with a fault behind a segment without a name, and a file that is not there, in a session
with output, values and delimiters of its own. -/
theorem Reachable.load_failed_halfway :
    ∃ s, Reachable {} s ∧ s.delimiters = ⟨"[", "]", "!"⟩ ∧ s.output = ["  v"] ∧
      ((s.load ["    [x]", "### A B", "text"] "lines").1.IsVacant 4 ∧
        (s.load ["    [x]", "### A B", "text"] "lines").1.delimiters = s.delimiters ∧
        ∃ f, (s.load ["    [x]", "### A B", "text"] "lines").1.lastFault = some f ∧
          s.Flaw ["    [x]", "### A B", "text"] "lines" f) ∧
      (s.loadFile {} "missing").1.IsVacant 4 ∧
      (s.loadFile {} "missing").1.delimiters = s.delimiters ∧
      (s.loadFile {} "missing").1.path = none ∧
      ∃ f, (s.loadFile {} "missing").1.lastFault = some f ∧ s.FileFlaw {} "missing" f := by
  let ops : List Operation :=
    [.setDelimiters (some "[") (some "]") (some "!"), .load ["### A TAB=2", "@+1 [x]"] "template",
      .render (some "A") (some [(.name "x", .string "v")])]
  let s := (ofSettings {}).run ops
  have hdelimiters : s.delimiters = ⟨"[", "]", "!"⟩ := by decide +kernel
  have houtput : s.output = ["  v"] := by decide +kernel
  have hlines : (s.load ["    [x]", "### A B", "text"] "lines").2 = .ok false :=
    toOption_eq_some_iff.mp (by decide +kernel)
  have hfile : (s.loadFile {} "missing").2 = .ok false :=
    toOption_eq_some_iff.mp (by decide +kernel)
  have h := Reachable.load_failed (s := s) ⟨ops, rfl⟩
  exact ⟨s, ⟨ops, rfl⟩, hdelimiters, houtput, h.1 _ _ hlines, h.2 _ _ hfile⟩

end Session

end Stencil
