/-
# Templates of reachable sessions

What reading leaves stays, whatever is rendered from it: the template of a reachable session is one
that was read, up to what has been rendered.  So every pad that a segment names is there, and no
segment that stands in the template is refused.

* `Draft.read_asRead`: what reading leaves;
* `Reachable.sound`: what holds of every reachable session;
* `Sound.pad`, `Sound.not_refused`: what rendering relies on.
-/
import Stencil.Proofs.Session.Reachable
import Stencil.Proofs.Template.WellFormed

namespace Stencil

/-! ## 1. Names -/

namespace Reading

/-- Every segment has a name of its own or a default one. -/
def Named (stem : String) (r : Reading) : Prop :=
  ∀ p ∈ r.segments, isName p.1 = true ∨ IsDefaultName stem p.1

theorem Named.settled {stem : String} {r : Reading} (h : r.Named stem) :
    ∀ p ∈ r.settled, isName p.1 = true ∨ IsDefaultName stem p.1 := by
  intro p hp
  rcases r.settled_eq with e | e
  · exact h p (List.mem_append_left _ (e ▸ hp))
  · exact h p (e ▸ hp)

theorem Step.named {stem s : String} {r r' : Reading} (hstep : Step stem s r r')
    (h : r.Named stem) : r'.Named stem := by
  intro p hp
  cases hstep with
  | pass => exact h p hp
  -- the segment that is read goes on under the name it has
  | @join _ _ name seg _ =>
    rcases List.mem_append.mp hp with hp | hp
    · exact h p (List.mem_append_left _ hp)
    · obtain rfl := List.mem_singleton.mp hp
      exact h (name, seg) (by simp [segments])
  | first _ hdef _ =>
    rcases List.mem_append.mp hp with hp | hp
    · exact h p (List.mem_append_left _ hp)
    · obtain rfl := List.mem_singleton.mp hp
      exact .inr hdef
  | header _ hname _ _ =>
    rcases List.mem_append.mp hp with hp | hp
    · exact h.settled p hp
    · obtain rfl := List.mem_singleton.mp hp
      exact hname

theorem Run.named {stem : String} {lines : List String} {r r' : Reading}
    (hrun : Run stem lines r r') (h : r.Named stem) : r'.Named stem := by
  induction hrun with
  | nil => exact h
  | cons hstep _ ih => exact ih (hstep.named h)

end Reading

/-! ## 2. Templates as they are read -/

/-- A template as reading leaves it. -/
structure Template.AsRead (t : Template) : Prop where
  wellFormed : t.WellFormed
  items : ∀ p ∈ t, p.2.items ≠ []
  names : ∀ p ∈ t, Text.isBlank p.1 = false

theorem Draft.read_asRead {d d' : Draft} {delimiters : Delimiters} {lines : List String}
    (h : d.read delimiters lines = (d', none)) : d'.segments.AsRead := by
  obtain ⟨r, hrun, -, hseg⟩ := Draft.read_run h
  -- both invariants hold at the start and are kept by every line
  have hsound := (hrun.sound (.start _)).settled
  have hnamed : r.Named d.namer.stem := hrun.named (by simp [Reading.Named, Reading.segments])
  rw [hseg]
  refine ⟨by simpa [Reading.segments] using hsound.wellFormed, hsound.items, fun p hp => ?_⟩
  exact (hnamed.settled p hp).elim not_isBlank_of_isName IsDefaultName.not_isBlank

namespace Template

/-- Nothing has been rendered of a template that was just read. -/
theorem AsRead.startOver {t : Template} (h : t.AsRead) : t.startOver = t := by
  rw [Template.startOver]
  refine (List.map_congr_left fun p hp => ?_).trans (List.map_id t)
  have hfirst : p.2.control.isFirstTime = true := (h.wellFormed.declared p hp).isFirstTime
  exact Prod.ext rfl (by simp [← hfirst])

theorem mem_startOver {t : Template} {p : String × Segment} (h : p ∈ t) :
    (p.1, p.2.unrendered) ∈ t.startOver := List.mem_map_of_mem h

theorem get?_startOver (t : Template) (name : String) :
    t.startOver.get? name = (t.get? name).map Segment.unrendered := by
  induction t with
  | nil => rfl
  | cons p t ih =>
    simp only [Template.startOver, List.map_cons] at ih ⊢
    by_cases h : p.1 = name <;> simp [Table.get?, h, ih, Segment.unrendered]

end Template

/-! ## 3. Sound sessions -/

namespace Session

/-- The template is one that was read, up to what has been rendered, and a session with segments
counts as loaded. -/
structure Sound (s : Session) : Prop where
  template : s.template.startOver.AsRead
  isLoaded : s.template ≠ [] → s.isLoaded = true

theorem Sound.of_nil {s : Session} (h : s.template = []) : s.Sound where
  template := h ▸ ⟨.nil, by simp [Template.startOver], by simp [Template.startOver]⟩
  isLoaded hne := absurd h hne

theorem Step.sound {s s' : Session} {a : Option Abort} (hstep : s.Step s' a) (h : s.Sound) :
    s'.Sound := by
  cases hstep with
  | keep hkeep =>
    refine ⟨hkeep.template ▸ h.template, fun hne => ?_⟩
    -- the two start over as the same template, so that neither is empty
    have hne' : s.template ≠ [] := fun e => hne (by simpa [e, Template.startOver] using hkeep.template)
    exact hkeep.isLoaded.trans (h.isLoaded hne')
  | drop _ hnil => exact .of_nil hnil
  | rescan _ htemplate hloaded =>
    exact ⟨htemplate ▸ h.template, fun hne => hloaded.trans (h.isLoaded (htemplate ▸ hne))⟩
  | load _ _ hread htemplate _ hloaded =>
    have hseg := Draft.read_asRead hread
    exact ⟨by rw [htemplate, hseg.startOver]; exact hseg, fun _ => hloaded⟩
  | breakOff _ hnil => exact .of_nil hnil

/-- **Every reachable session is sound.** -/
theorem Reachable.sound {settings : Settings} {s : Session} (h : Reachable settings s) : s.Sound :=
  h.induction (.of_nil rfl) fun s op hs => (perform_step s op).sound hs

section Sound

variable {s : Session} {name : String} {seg : Segment}

theorem Sound.nodup (h : s.Sound) : s.template.keys.Nodup :=
  Template.keys_startOver s.template ▸ h.template.wellFormed.nodup

theorem Sound.items (h : s.Sound) (hget : s.template.get? name = some seg) : seg.items ≠ [] :=
  h.template.items _ (Template.mem_startOver (Table.mem_of_get?_eq_some hget))

theorem Sound.not_refused (h : s.Sound) (hget : s.template.get? name = some seg) :
    s.refusal? name = none := by
  have hmem := Table.mem_of_get?_eq_some hget
  have hname : Text.isBlank name = false := h.template.names _ (Template.mem_startOver hmem)
  have hloaded : s.isLoaded = true := h.isLoaded (List.ne_nil_of_mem hmem)
  refine Option.eq_none_iff_forall_ne_some.mpr fun m hm => ?_
  cases refusal_of_refusal? hm with
  | blank hblank => exact absurd (hname.symm.trans hblank) (by decide)
  | unloaded _ hnot => exact absurd (hloaded.symm.trans hnot) (by decide)
  | unknown _ _ hnone => exact absurd (hget.symm.trans hnone) (by simp)
  | bare hsome hitems => exact h.items hsome hitems

/-- The pad of a segment is another segment, and has none itself. -/
theorem Sound.pad (h : s.Sound) (hget : s.template.get? name = some seg)
    (hpad : seg.control.padSegment ≠ "") :
    ∃ pad, s.template.get? seg.control.padSegment = some pad ∧ seg.control.padSegment ≠ name ∧
      pad.control.padSegment = "" := by
  obtain ⟨before, after, hsplit⟩ :=
    List.append_of_mem (Template.mem_startOver (Table.mem_of_get?_eq_some hget))
  -- pads stand before their segments in the template as it was read
  obtain ⟨p, hp, hname, hne, hnone⟩ := h.template.wellFormed.pads before _ after hsplit hpad
  have hmem : p ∈ s.template.startOver := hsplit ▸ List.mem_append_left _ hp
  have hfound := Table.get?_eq_some_of_mem h.template.wellFormed.nodup hmem
  rw [Template.get?_startOver] at hfound
  obtain ⟨pad, hpad, he⟩ := Option.map_eq_some_iff.mp hfound
  refine ⟨pad, hname ▸ hpad, hname ▸ hne, ?_⟩
  rw [← he] at hnone
  exact hnone

end Sound

end Session

end Stencil
