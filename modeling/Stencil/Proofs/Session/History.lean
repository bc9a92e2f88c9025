/-
# What a session has been through

Some of what a session holds is told by the operations behind it: what is in force is what was done
last.  An `Event` says of an operation, and of the session it is performed in, that something
happens; `Since` says that one event has happened in a run and another has not since.

The events here are the two ways in which a template comes into a session: from given lines, and
from a file that is not ignored as the one that is loaded.

* `since_snoc`: what holds after one operation more;
* `perform_asRead`: an operation that loads leaves a template as it was read;
* `perform_retains`: any other leaves the template and the path, or none.
-/
import Mathlib.Data.List.Induction
import Stencil.Proofs.Session.Sound

namespace Stencil

namespace Session

/-! ## 1. Runs -/

theorem run_append (s : Session) (ops later : List Operation) :
    s.run (ops ++ later) = (s.run ops).run later := List.foldl_append

theorem run_snoc (s : Session) (ops : List Operation) (op : Operation) :
    s.run (ops ++ [op]) = ((s.run ops).perform op).1 := run_append s ops [op]

theorem Reachable.run {settings : Settings} {s : Session} (h : Reachable settings s)
    (ops : List Operation) : Reachable settings (s.run ops) := by
  obtain ⟨before, rfl⟩ := h
  exact ⟨before ++ ops, run_append _ before ops⟩

/-! ## 2. Events -/

/-- What can happen when an operation is performed in a session. -/
abbrev Event := Session → Operation → Prop

/-- The event does not happen while operations are performed. -/
def Never (e : Event) (s : Session) : List Operation → Prop
  | [] => True
  | op :: ops => ¬ e s op ∧ Never e (s.perform op).1 ops

/-- The first event has happened while operations were performed, and the second has not since. -/
def Since (done undone : Event) (s : Session) (ops : List Operation) : Prop :=
  ∃ before op after, ops = before ++ op :: after ∧ done (s.run before) op ∧
    Never undone ((s.run before).perform op).1 after

section Event

variable {e done undone : Event} {s : Session} {ops : List Operation} {op : Operation}

/-- What does not happen in a run happens in no part of it. -/
theorem never_append {later : List Operation} :
    Never e s (ops ++ later) ↔ Never e s ops ∧ Never e (s.run ops) later := by
  induction ops generalizing s with
  | nil => exact ⟨fun h => ⟨trivial, h⟩, And.right⟩
  | cons op ops ih =>
    have h : Never e (s.perform op).1 (ops ++ later) ↔ _ := ih
    simp only [List.cons_append, Never, h, and_assoc]
    rfl

theorem never_snoc : Never e s (ops ++ [op]) ↔ Never e s ops ∧ ¬ e (s.run ops) op := by
  rw [never_append]
  exact and_congr_right fun _ => ⟨And.left, fun h => ⟨h, trivial⟩⟩

/-- What does not happen does not happen in a special way either. -/
theorem Never.imp {e' : Event} (himp : ∀ s op, e s op → e' s op) (h : Never e' s ops) :
    Never e s ops := by
  induction ops generalizing s with
  | nil => trivial
  | cons op ops ih => exact ⟨fun he => h.1 (himp s op he), ih h.2⟩

/-- **One operation more**: either the event happens now, or it has happened and is not undone
now. -/
theorem since_snoc :
    Since done undone s (ops ++ [op]) ↔
      done (s.run ops) op ∨ (Since done undone s ops ∧ ¬ undone (s.run ops) op) := by
  constructor
  · rintro ⟨before, op', after, h, hdone, hnever⟩
    -- the event happened at the last operation, or before it
    rcases List.eq_nil_or_concat after with rfl | ⟨after, last, rfl⟩
    · obtain ⟨rfl, hop⟩ := List.append_inj' h rfl
      obtain rfl := List.singleton_inj.mp hop
      exact .inl hdone
    · rw [List.concat_eq_append, ← List.cons_append, ← List.append_assoc] at h
      obtain ⟨rfl, hop⟩ := List.append_inj' h rfl
      obtain rfl := List.singleton_inj.mp hop
      rw [List.concat_eq_append, never_snoc] at hnever
      refine .inr ⟨⟨before, op', after, rfl, hdone, hnever.1⟩, ?_⟩
      rw [run_append]
      exact hnever.2
  · rintro (hdone | ⟨⟨before, op', after, rfl, hdone, hnever⟩, hundone⟩)
    · exact ⟨ops, op, [], rfl, hdone, trivial⟩
    · rw [run_append] at hundone
      exact ⟨before, op', after ++ [op], by simp, hdone, never_snoc.mpr ⟨hnever, hundone⟩⟩

/-- What has happened has happened a last time. -/
theorem since_self_of_not_never (h : ¬ Never e s ops) : Since e e s ops := by
  induction ops using List.reverseRecOn with
  | nil => exact absurd trivial h
  | append_singleton ops op ih =>
    rw [since_snoc]
    by_cases hop : e (s.run ops) op
    · exact .inl hop
    · exact .inr ⟨ih fun hnever => h (never_snoc.mpr ⟨hnever, hop⟩), hop⟩

end Event

/-! ## 3. Loads -/

/-- A template is loaded from given lines. -/
def LoadsLines : Event
  | s, .load lines name => (s.load lines name).2 = .ok true
  | _, _ => False

/-- A template is loaded from a file, which is read for that. -/
def ReadsFile : Event
  | s, .loadFile files path => (s.loadFile files path).2 = .ok true ∧ s.isCurrent path = false
  | _, _ => False

theorem load_asRead {s t : Session} {lines : List String} {name : String}
    (h : s.load lines name = (t, .ok true)) : t.template.AsRead := by
  by_cases hempty : isEmptyTemplate lines = true
  · rw [load_of_empty name hempty, Prod.mk.injEq] at h
    exact absurd (Except.ok.inj h.2) (by simp)
  · rw [load_of_not_empty name hempty] at h
    rcases hread : (s.loading name).read s.delimiters lines with ⟨d, _ | (f | o)⟩ <;>
      simp only [hread, conclude, Prod.mk.injEq] at h
    · obtain ⟨rfl, -⟩ := h
      exact Draft.read_asRead hread
    · exact absurd (Except.ok.inj h.2) (by simp)
    · exact absurd h.2 (by simp)

/-- Lines that are not loaded leave no template. -/
theorem load_isLoaded {s t : Session} {lines : List String} {name : String}
    {answer : Except Text.DigitOverflow Bool} (h : s.load lines name = (t, answer))
    (hanswer : answer ≠ .ok true) : t.isLoaded = false := by
  by_cases hempty : isEmptyTemplate lines = true
  · rw [load_of_empty name hempty, Prod.mk.injEq] at h
    obtain ⟨rfl, -⟩ := h
    rfl
  · rw [load_of_not_empty name hempty] at h
    generalize (s.loading name).read s.delimiters lines = result at h
    rcases result with ⟨d, _ | (f | o)⟩
    · exact absurd (congrArg Prod.snd h).symm hanswer
    · exact (congrArg (fun r => r.1.isLoaded) h).symm
    · exact (congrArg (fun r => r.1.isLoaded) h).symm

/-- A file that is read has lines, and these are loaded, whatever has been noted before. -/
theorem load_of_readsFile {s : Session} {files : FileTree} {path : String}
    (h : ReadsFile s (.loadFile files path)) :
    ∃ log lines t, TextFile.read files (some path) = .ok (.ok lines) ∧
      { s with log }.load lines (Path.ofString path).resolved.name = (t, .ok true) ∧
      (s.loadFile files path).1 = { t with path := some (Path.ofString path).resolved } := by
  obtain ⟨htrue, hother⟩ := h
  have hload := s.fileLoad files path
  generalize (s.loadFile files path).1 = s' at hload ⊢
  rw [htrue] at hload
  cases hload with
  -- the file is not the one that is loaded, so that it was read
  | ignored hcurrent => exact absurd (hcurrent.symm.trans hother) (by simp)
  | read hread hload => exact ⟨_, _, _, hread, hload, rfl⟩

/-- **An operation that loads leaves a template as it was read.** -/
theorem perform_asRead {s : Session} {op : Operation} (h : LoadsLines s op ∨ ReadsFile s op) :
    (s.perform op).1.template.AsRead := by
  cases op with
  | load lines name => exact load_asRead (Prod.ext rfl (h.resolve_right id))
  | loadFile files path =>
    obtain ⟨log, lines, t, -, hload, hloaded⟩ := load_of_readsFile (h.resolve_left id)
    have hasRead : t.template.AsRead := load_asRead hload
    rw [perform, hloaded]
    exact hasRead
  | _ => exact (h.elim id id).elim

/-- The template of the second session is that of the first but for what has been rendered, if it
has one; and its path is that of the first, if it has one. -/
structure Retains (s s' : Session) : Prop where
  template : s'.isLoaded = true →
    s.isLoaded = true ∧ s'.template.startOver = s.template.startOver
  path : s'.path = s.path ∨ s'.path = none

theorem Retains.trans {s₁ s₂ s₃ : Session} (h₁ : s₁.Retains s₂) (h₂ : s₂.Retains s₃) :
    s₁.Retains s₃ where
  template hloaded :=
    have h := h₂.template hloaded
    ⟨(h₁.template h.1).1, h.2.trans (h₁.template h.1).2⟩
  path := h₂.path.elim (fun h => h₁.path.imp h.trans h.trans) .inr

theorem Retains.of_keeps {s s' : Session} (h : s.Keeps s') : s.Retains s' where
  template hloaded := ⟨h.isLoaded.symm.trans hloaded, h.template⟩
  path := .inl h.path

theorem Retains.of_not_loaded {s s' : Session} (h : s'.isLoaded = false)
    (hpath : s'.path = s.path ∨ s'.path = none) : s.Retains s' where
  template hloaded := absurd (h.symm.trans hloaded) (by simp)
  path := hpath

/-- However a load ends, the path and the delimiters stay and the output is gone. -/
theorem load_leaves (s : Session) (lines : List String) (name : String) :
    (s.load lines name).1.path = s.path ∧ (s.load lines name).1.delimiters = s.delimiters ∧
      (s.load lines name).1.output = [] := by
  by_cases hempty : isEmptyTemplate lines = true
  · rw [load_of_empty name hempty]
    exact ⟨rfl, rfl, rfl⟩
  · rw [load_of_not_empty name hempty]
    rcases (s.loading name).read s.delimiters lines with ⟨d, _ | (f | o)⟩ <;> exact ⟨rfl, rfl, rfl⟩

/-- However a load ends, the column is back where it began. -/
theorem load_column (s : Session) (lines : List String) (name : String) :
    (s.load lines name).1.column = s.column.reset := by
  by_cases hempty : isEmptyTemplate lines = true
  · rw [load_of_empty name hempty]
    rfl
  · rw [load_of_not_empty name hempty]
    rcases (s.loading name).read s.delimiters lines with ⟨d, _ | (f | o)⟩ <;> rfl

theorem load_path (s : Session) (lines : List String) (name : String) :
    (s.load lines name).1.path = s.path := (s.load_leaves lines name).1

/-- A file that is not read leaves the session as it is, or without a template. -/
theorem loadFile_of_not_readsFile {s : Session} {files : FileTree} {path : String}
    (h : ¬ ReadsFile s (.loadFile files path)) :
    (∃ log, (s.loadFile files path).1 = { s with log }) ∨
      ((s.loadFile files path).1.isLoaded = false ∧
        ((s.loadFile files path).1.path = s.path ∨ (s.loadFile files path).1.path = none)) := by
  have hload := s.fileLoad files path
  have hresult : (s.loadFile files path).2 = .ok true → s.isCurrent path = true := fun htrue =>
    of_not_not fun hother => h ⟨htrue, Bool.eq_false_iff.mpr hother⟩
  generalize (s.loadFile files path).1 = s' at hload ⊢
  generalize (s.loadFile files path).2 = result at hload hresult
  cases hload with
  | broken => exact .inl ⟨_, rfl⟩
  | ignored => exact .inl ⟨_, rfl⟩
  | unreadable => exact .inr ⟨rfl, .inr rfl⟩
  -- lines that were read but not loaded leave no template
  | @read log lines t loaded _ hload hother =>
    cases loaded with
    | true => exact absurd ((hresult rfl).symm.trans hother) (by simp)
    | false =>
      have hnot : t.isLoaded = false := load_isLoaded hload (by simp)
      exact .inr ⟨hnot, .inr rfl⟩
  | @overflow log lines _ _ _ hload =>
    have hpath := load_path { s with log } lines (Path.ofString path).resolved.name
    rw [hload] at hpath
    exact .inr ⟨load_isLoaded hload (by simp), .inl hpath⟩

/-- **Any other operation leaves the template and the path, or none.** -/
theorem perform_retains {s : Session} {op : Operation} (hlines : ¬ LoadsLines s op)
    (hfile : ¬ ReadsFile s op) : s.Retains (s.perform op).1 := by
  cases op with
  | load lines name =>
    exact .of_not_loaded (load_isLoaded rfl hlines) (.inl (load_path s lines name))
  | loadFile files path =>
    rcases loadFile_of_not_readsFile hfile with ⟨log, hlog⟩ | ⟨hnot, hpath⟩
    · exact hlog ▸ .of_keeps (keeps_log s log)
    · exact .of_not_loaded hnot hpath
  | render segment values => exact .of_keeps (keeps_render s segment values)
  | loadValues segment values => exact .of_keeps (keeps_loadValues s segment values)
  | setTabSize n => exact .of_keeps (keeps_setTabSize s n)
  | setDelimiters start stop escape =>
    have h := s.delimiterChange start stop escape
    rw [perform]
    generalize s.setDelimiters start stop escape = r at h ⊢
    cases h with
    | accepted => exact ⟨fun hloaded => ⟨hloaded, rfl⟩, .inl rfl⟩
    | refused => exact .of_not_loaded rfl (.inr rfl)
  | resetAll => exact .of_not_loaded rfl (.inr rfl)
  | resetOutput mention => exact .of_keeps (keeps_resetOutput s mention)
  | resetSegment segment => exact .of_keeps (keeps_resetSegment s segment)
  | writeOutput files path reset => exact .of_keeps (keeps_writeOutput s files path reset)

end Session

end Stencil
