/-
# Delimiters in force

Delimiters come into force in two ways.  The settings have them from the beginning and have them again
after a reset; a request to change them has others in between.  Both are checked, but not alike: a
request is refused if a delimiter is blank, and settings only if one is empty.

So no two delimiters in force are ever the same, and whether one is blank depends on the settings alone,
as long as they are in force.  A request that is accepted mends that, and a reset brings it back.

* `check_current_iff`: delimiters that are accepted as they are;
* `delimiters_run`: which delimiters are in force;
* `blank_iff_since`: when one of them is blank, and what comes of it;
* `blank_settings`: settings that are accepted, with delimiters that are not.
-/
import Stencil.Proofs.Session.History

namespace Stencil

namespace Delimiters

/-! ## 1. Blank delimiters -/

/-- One of the delimiters is blank. -/
def HasBlank (d : Delimiters) : Prop :=
  Text.isBlank d.start = true ∨ Text.isBlank d.stop = true ∨ Text.isBlank d.escape = true

theorem legal_iff {d : Delimiters} :
    d.Legal ↔ Settings.delimitersDiffer d = true ∧ ¬ d.HasBlank := by
  simp only [Legal, HasBlank, Settings.delimitersDiffer, not_or, Bool.not_eq_true,
    Bool.and_eq_true, decide_eq_true_eq]
  constructor
  · rintro ⟨hstart, hstop, hescape, h⟩
    exact ⟨⟨⟨h.1, h.2.1⟩, h.2.2⟩, hstart, hstop, hescape⟩
  · rintro ⟨⟨⟨h₁, h₂⟩, h₃⟩, hstart, hstop, hescape⟩
    exact ⟨hstart, hstop, hescape, h₁, h₂, h₃⟩

/-- Delimiters are accepted as they are if they are legal. -/
theorem check_current_iff {d : Delimiters} :
    (∃ d', check (some d.start) (some d.stop) (some d.escape) = .ok d') ↔ d.Legal := by
  constructor
  · rintro ⟨d', h⟩
    obtain ⟨hstart, hstop, hescape, hlegal⟩ := check_eq_ok_iff.mp h
    -- nothing is left out of the request, so that what is accepted is what was asked for
    have hsame : d = d' := by
      rcases d with ⟨start, stop, escape⟩
      rcases d' with ⟨start', stop', escape'⟩
      obtain rfl := Option.some.inj hstart
      obtain rfl := Option.some.inj hstop
      obtain rfl := Option.some.inj hescape
      rfl
    exact hsame ▸ hlegal
  · intro h
    exact ⟨d, check_eq_ok_iff.mpr ⟨rfl, rfl, rfl, h⟩⟩

end Delimiters

namespace Session

/-! ## 2. Which delimiters are in force -/

def ChangesDelimiters : Event
  | s, .setDelimiters start stop escape => (s.setDelimiters start stop escape).2 = true
  | _, _ => False

/-- The delimiters go back to those of the settings: the session is reset, or a request to change them
is refused. -/
def RestoresDelimiters : Event
  | s, .setDelimiters start stop escape => (s.setDelimiters start stop escape).2 = false
  | _, .resetAll => True
  | _, _ => False

theorem setDelimiters_eq_true_iff {s : Session} {start stop escape : Option String} :
    (s.setDelimiters start stop escape).2 = true ↔
      ∃ d, Delimiters.check start stop escape = .ok d := by
  have h := s.delimiterChange start stop escape
  generalize s.setDelimiters start stop escape = r at h ⊢
  cases h with
  | accepted hd => exact iff_of_true rfl ⟨_, hd⟩
  | refused hnone => exact iff_of_false Bool.false_ne_true fun ⟨d, hd⟩ => hnone d hd

theorem loadFile_delimiters (s : Session) (files : FileTree) (path : String) :
    (s.loadFile files path).1.delimiters = s.delimiters := by
  rcases s.loadFile_session files path with ⟨log, h⟩ | ⟨log, h⟩ | ⟨log, lines, name, path', h⟩
  · rw [h]
  · rw [h]
    rfl
  · rw [h]
    exact (load_leaves { s with log } lines name).2.1

/-- Any operation that neither changes the delimiters nor restores them leaves them. -/
theorem perform_delimiters {s : Session} {op : Operation} (hchanges : ¬ ChangesDelimiters s op)
    (hrestores : ¬ RestoresDelimiters s op) : (s.perform op).1.delimiters = s.delimiters := by
  cases op with
  | load lines name => exact (s.load_leaves lines name).2.1
  | loadFile files path => exact s.loadFile_delimiters files path
  | render segment values => exact (keeps_render s segment values).delimiters
  | loadValues => rfl
  | setTabSize => rfl
  | setDelimiters start stop escape =>
    cases h : (s.setDelimiters start stop escape).2 with
    | false => exact absurd h hrestores
    | true => exact absurd h hchanges
  | resetAll => exact absurd trivial hrestores
  | resetOutput mention => exact (keeps_resetOutput s mention).delimiters
  | resetSegment segment => exact (keeps_resetSegment s segment).delimiters
  | writeOutput files path reset => exact (keeps_writeOutput s files path reset).delimiters

/-- Delimiters that come into force by a request are legal. -/
theorem legal_of_changes {s : Session} {op : Operation} (h : ChangesDelimiters s op) :
    (s.perform op).1.delimiters.Legal := by
  cases op with
  | setDelimiters start stop escape =>
    have hchange := s.delimiterChange start stop escape
    rw [ChangesDelimiters] at h
    rw [perform]
    generalize s.setDelimiters start stop escape = r at h hchange ⊢
    cases hchange with
    | accepted hd => exact (Delimiters.check_eq_ok_iff.mp hd).2.2.2
    | refused => exact absurd h Bool.false_ne_true
  | _ => exact h.elim

/-- Delimiters that are restored are those of the settings. -/
theorem delimiters_of_restores {s : Session} {op : Operation} (h : RestoresDelimiters s op) :
    (s.perform op).1.delimiters = s.home := by
  cases op with
  | setDelimiters start stop escape =>
    have hchange := s.delimiterChange start stop escape
    rw [RestoresDelimiters] at h
    rw [perform]
    generalize s.setDelimiters start stop escape = r at h hchange ⊢
    cases hchange with
    | accepted => exact absurd h.symm Bool.false_ne_true
    | refused => rfl
  | resetAll => rfl
  | _ => exact h.elim

/-- **The delimiters in force** are legal if they have been changed since they were restored last, and
otherwise those of the settings, by induction on the operations from the last one back. -/
theorem delimiters_run (settings : Settings) (ops : List Operation) :
    (Since ChangesDelimiters RestoresDelimiters (ofSettings settings) ops →
        ((ofSettings settings).run ops).delimiters.Legal) ∧
      (¬ Since ChangesDelimiters RestoresDelimiters (ofSettings settings) ops →
        ((ofSettings settings).run ops).delimiters = settings.delimiters) := by
  induction ops using List.reverseRecOn with
  | nil =>
    refine ⟨?_, fun _ => rfl⟩
    rintro ⟨before, op, after, h, -⟩
    exact absurd h (by simp)
  | append_singleton ops op ih =>
    rw [run_snoc, since_snoc]
    let s := (ofSettings settings).run ops
    -- the last operation changes the delimiters, restores them, or leaves them
    by_cases hchanges : ChangesDelimiters s op
    · exact ⟨fun _ => legal_of_changes hchanges, fun h => absurd (.inl hchanges) h⟩
    · by_cases hrestores : RestoresDelimiters s op
      · have hhome : s.home = settings.delimiters := Reachable.home ⟨ops, rfl⟩
        refine ⟨fun h => ?_, fun _ => (delimiters_of_restores hrestores).trans hhome⟩
        rcases h with h | h
        · exact absurd h hchanges
        · exact absurd hrestores h.2
      · rw [perform_delimiters hchanges hrestores]
        refine ⟨fun h => ?_, fun h => ih.2 fun hsince => h (.inr ⟨hsince, hrestores⟩)⟩
        rcases h with h | h
        · exact absurd h hchanges
        · exact ih.1 h.1

/-! ## 3. When they are legal -/

/-- **A delimiter in force is blank if and only if one of the settings is and no change has been
accepted since they came into force.**  Settings that are accepted may have one.  No two delimiters in
force are ever the same, so that a request for those in force is accepted if and only if none is
blank. -/
theorem blank_iff_since {settings : Settings} (hvalid : settings.validate = .ok settings)
    {ops : List Operation} {s : Session} (hs : (ofSettings settings).run ops = s) :
    let d := s.delimiters
    Settings.delimitersDiffer d = true ∧
      (d.HasBlank ↔ settings.delimiters.HasBlank ∧
        ¬ Since ChangesDelimiters RestoresDelimiters (ofSettings settings) ops) ∧
      ((s.setDelimiters (some d.start) (some d.stop) (some d.escape)).2 = true ↔
        ¬ d.HasBlank) := by
  subst hs
  intro d
  have hdiffer : Settings.delimitersDiffer settings.delimiters = true :=
    (Settings.validate_eq_ok_iff.mp hvalid).2.1
  obtain ⟨hchanged, hrestored⟩ := delimiters_run settings ops
  -- legal delimiters differ, and so do those of settings that are accepted
  have hd : Settings.delimitersDiffer d = true := by
    by_cases h : Since ChangesDelimiters RestoresDelimiters (ofSettings settings) ops
    · exact (Delimiters.legal_iff.mp (hchanged h)).1
    · exact (congrArg Settings.delimitersDiffer (hrestored h)).trans hdiffer
  refine ⟨hd, ?_, ?_⟩
  · by_cases h : Since ChangesDelimiters RestoresDelimiters (ofSettings settings) ops
    · have hnone : ¬ d.HasBlank := (Delimiters.legal_iff.mp (hchanged h)).2
      exact iff_of_false hnone fun hblank => hblank.2 h
    -- the settings are in force, and with them a blank delimiter if they have one
    · have hsame : d = settings.delimiters := hrestored h
      rw [hsame]
      exact (and_iff_left h).symm
  · rw [setDelimiters_eq_true_iff, Delimiters.check_current_iff, Delimiters.legal_iff]
    exact and_iff_right hd

/-- Settings with a blank delimiter, which a change replaces and a change that is refused brings
back. -/
theorem blank_iff_since_restored :
    ∃ settings ops s, settings.validate = .ok settings ∧ (ofSettings settings).run ops = s ∧
      ((ofSettings settings).run (ops.take 1)).delimiters.Legal ∧
      s.delimiters = ⟨" ", "#>", "\\"⟩ ∧ s.delimiters.HasBlank ∧
      ¬ Since ChangesDelimiters RestoresDelimiters (ofSettings settings) ops ∧
      (s.setDelimiters (some " ") (some "#>") (some "\\")).2 = false := by
  let settings : Settings := { delimiters := ⟨" ", "#>", "\\"⟩ }
  let ops : List Operation :=
    [.setDelimiters (some "[") (some "]") (some "!"), .load ["    x"] "template",
      .setDelimiters (some "[") (some "[") (some "!")]
  let s := (ofSettings settings).run ops
  have hvalid : settings.validate = .ok settings := rfl
  have hin : s.delimiters = ⟨" ", "#>", "\\"⟩ := by decide +kernel
  have hblank : s.delimiters.HasBlank := by
    rw [hin]
    exact .inl rfl
  obtain ⟨-, hsince, hrequest⟩ := blank_iff_since hvalid (s := s) rfl
  rw [hin] at hrequest
  refine ⟨settings, ops, s, hvalid, rfl, by decide +kernel, hin, hblank, (hsince.mp hblank).2, ?_⟩
  exact Bool.eq_false_iff.mpr fun h => hrequest.mp h (.inl rfl)

/-- **Settings that are accepted, with delimiters that are not**: the start delimiter is a single blank,
and a request for the delimiters in force resets the session. -/
theorem blank_settings :
    let settings : Settings := { delimiters := ⟨" ", "#>", "\\"⟩ }
    settings.validate = .ok settings ∧ (ofSettings settings).delimiters = ⟨" ", "#>", "\\"⟩ ∧
      ((ofSettings settings).setDelimiters (some " ") (some "#>") (some "\\")).2 = false :=
  ⟨rfl, rfl, rfl⟩

end Session

end Stencil
