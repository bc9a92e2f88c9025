/-
# Templates that were read are well-formed

The two tables in which a template is loaded have the same names in the same order, which is what
keeping them in step comes to (`Loading.InStep`).  Reading keeps more than that: names are distinct,
controls lie within the bounds of their options, and a pad stands before every segment that it pads and
has no pad of its own.

The last of these is where the order of the headers comes in.  A segment without text is dropped
when the next header is read, before that header's pad is looked up, so that a pad that was found is
never dropped later (`settled` in the `header` step).

* `Control.padIn_checkPad`: a pad that passes the check stands earlier;
* `Reading.Run.sound`: what every step keeps, a run keeps;
* `Draft.wellFormed_of_read`: the template that is read, as one table;
* `Loading.read_wellFormed`: the two tables of a template that is loaded.
-/
import Stencil.Proofs.Template.Loading
import Stencil.Proofs.Template.Reading

namespace Stencil

/-! ## 1. Well-formed templates -/

/-- The pad of a segment, if it has one, is another segment that stands before it and has none. -/
def Control.PadIn (before : Template) (name : String) (c : Control) : Prop :=
  c.padSegment ≠ "" →
    ∃ p ∈ before, p.1 = c.padSegment ∧ p.1 ≠ name ∧ p.2.control.padSegment = ""

/-- Distinct names, controls within bounds, and pads that stand earlier. -/
structure Template.WellFormed (t : Template) : Prop where
  nodup : t.keys.Nodup
  declared : ∀ p ∈ t, p.2.control.Declared
  pads : ∀ before p after, t = before ++ p :: after → p.2.control.PadIn before p.1

namespace Template

theorem WellFormed.nil : WellFormed [] :=
  ⟨by simp, by simp, fun before p after e => absurd e (by simp)⟩

/-- The beginning of a well-formed template is well-formed. -/
theorem WellFormed.of_append {t u : Template} (h : WellFormed (t ++ u)) : WellFormed t where
  nodup := by
    have hnd := h.nodup
    rw [Table.keys_append] at hnd
    exact (List.nodup_append.mp hnd).1
  declared p hp := h.declared p (List.mem_append_left _ hp)
  pads before p after e := h.pads before p (after ++ u) (by simp [e])

/-- A template goes on being well-formed when a segment of a new name joins it whose control is
within bounds and whose pad is there. -/
theorem wellFormed_snoc_iff {t : Template} {p : String × Segment} :
    WellFormed (t ++ [p]) ↔
      WellFormed t ∧ p.1 ∉ t.keys ∧ p.2.control.Declared ∧ p.2.control.PadIn t p.1 := by
  constructor
  · intro h
    exact ⟨h.of_append, (Table.nodup_keys_snoc_iff.mp h.nodup).2, h.declared p (by simp),
      h.pads t p [] rfl⟩
  · rintro ⟨ht, hfree, hdecl, hpad⟩
    refine ⟨?_, ?_, ?_⟩
    · exact Table.nodup_keys_snoc_iff.mpr ⟨ht.nodup, hfree⟩
    · intro q hq
      rcases List.mem_append.mp hq with hq | hq
      · exact ht.declared q hq
      · exact List.mem_singleton.mp hq ▸ hdecl
    · intro before q after e
      -- the segment is the one that joins, or an earlier one with the same segments before it
      rcases List.eq_nil_or_concat after with rfl | ⟨rest, last, rfl⟩
      · obtain ⟨rfl, hq⟩ := List.append_inj' e rfl
        obtain rfl := List.singleton_inj.mp hq
        exact hpad
      · have e' : t ++ [p] = (before ++ q :: rest) ++ [last] := by simpa using e
        exact ht.pads before q rest (List.append_inj' e' rfl).1

end Template

/-! ## 2. The check of pads -/

/-- A pad that stands earlier and has none itself passes the check, without a notice. -/
theorem Control.PadIn.checkPad {t : Template} {name : String} {c : Control}
    (h : c.PadIn t name) (hnd : t.keys.Nodup) : Draft.checkPad t name c = (c, []) := by
  by_cases hp : c.padSegment = ""
  · simp [Draft.checkPad, hp]
  · obtain ⟨p, hmem, hname, hne, hnone⟩ := h hp
    have hget : t.get? c.padSegment = some p.2 := hname ▸ Table.get?_eq_some_of_mem hnd hmem
    simp [Draft.checkPad, hp, hname ▸ hne, hget, hnone]

/-- The check takes a pad away at most. -/
theorem Control.declared_checkPad {c : Control} (h : c.Declared) (t : Template) (name : String) :
    (Draft.checkPad t name c).1.Declared := by
  have hdrop : ({ c with padSegment := "" } : Control).Declared := ⟨h.isFirstTime, h.indent, h.tabSize⟩
  unfold Draft.checkPad
  dsimp only
  -- whatever the check finds, the control is the given one or has lost its pad
  repeat' split
  all_goals first | exact h | exact hdrop

/-- A pad that passes the check stands earlier and has none itself. -/
theorem Control.padIn_checkPad (t : Template) (name : String) (c : Control) :
    (Draft.checkPad t name c).1.PadIn t name := by
  unfold Draft.checkPad
  dsimp only
  split
  · rename_i hnone
    exact fun h => absurd hnone h
  · split
    · exact fun h => absurd rfl h
    · rename_i hne
      split
      · exact fun h => absurd rfl h
      · rename_i s hs
        split
        · rename_i hpad
          -- the pad is found, is not the segment itself, and has no pad
          exact fun _ => ⟨_, Table.mem_of_get?_eq_some hs, rfl, hne, hpad⟩
        · exact fun h => absurd rfl h

/-! ## 3. What reading keeps -/

namespace Reading

/-- What holds of a template while it is read. -/
structure Sound (stem : String) (r : Reading) : Prop where
  wellFormed : r.segments.WellFormed
  items : ∀ p ∈ r.closed, p.2.items ≠ []
  names : isName stem = true → ∀ p ∈ r.segments, isName p.1 = true

theorem Sound.start (stem : String) : Sound stem {} :=
  ⟨.nil, by simp, by simp [segments]⟩

/-- Closing the open segment leaves a well-formed template whose segments all have text. -/
theorem Sound.settled {stem : String} {r : Reading} (h : Sound stem r) :
    Sound stem ⟨r.settled, none⟩ := by
  rcases r with ⟨closed, _ | ⟨name, seg⟩⟩
  · exact h
  · by_cases hi : seg.items = []
    -- the open segment has no text and is dropped: what is left is the beginning
    · rw [settled_of_nil hi]
      refine ⟨?_, h.items, fun hs p hp => h.names hs p ?_⟩
      · simpa [segments] using h.wellFormed.of_append
      · exact List.mem_append_left _ (by simpa [segments] using hp)
    · rw [settled_of_ne_nil hi]
      refine ⟨by simpa [segments] using h.wellFormed, ?_, fun hs p hp => h.names hs p ?_⟩
      · intro p hp
        rcases List.mem_append.mp hp with hp | hp
        · exact h.items p hp
        · exact List.mem_singleton.mp hp ▸ hi
      · simpa [segments] using hp

/-- A segment of a new name, open behind closed ones. -/
theorem Sound.opened {stem name : String} {closed : Template} {seg : Segment}
    (h : Sound stem ⟨closed, none⟩) (hname : isName name = true ∨ IsDefaultName stem name)
    (hfree : name ∉ closed.keys) (hdecl : seg.control.Declared)
    (hpad : seg.control.PadIn closed name) : Sound stem ⟨closed, some (name, seg)⟩ where
  wellFormed := by
    have hw : closed.WellFormed := by simpa [segments] using h.wellFormed
    exact Template.wellFormed_snoc_iff.mpr ⟨hw, hfree, hdecl, hpad⟩
  items := h.items
  names hs p hp := by
    rcases List.mem_append.mp hp with hp | hp
    · exact h.names hs p (by simpa [segments] using hp)
    · obtain rfl := List.mem_singleton.mp hp
      exact hname.elim id (isName_of_isDefault hs)

theorem Step.sound {stem s : String} {r r' : Reading} (hstep : Step stem s r r')
    (h : Sound stem r) : Sound stem r' := by
  cases hstep with
  | pass => exact h
  | @join _ closed name seg _ =>
    obtain ⟨hw, hfree, hdecl, hpad⟩ := Template.wellFormed_snoc_iff.mp h.wellFormed
    refine ⟨Template.wellFormed_snoc_iff.mpr ⟨hw, hfree, hdecl, hpad⟩, h.items, fun hs p hp => ?_⟩
    rcases List.mem_append.mp hp with hp | hp
    · exact h.names hs p (List.mem_append_left _ hp)
    · obtain rfl := List.mem_singleton.mp hp
      exact h.names hs (name, seg) (by simp [segments])
  | first _ hdef hfree =>
    exact h.opened (.inr hdef) hfree Control.declared_default fun hne => absurd rfl hne
  | header _ hname hfree hopt =>
    -- the open segment is settled first, so that the pad is looked for among segments that stay
    exact h.settled.opened hname hfree
      (Control.declared_checkPad (Header.readOptions_declared hopt) _ _)
      (Control.padIn_checkPad _ _ _)

theorem Run.sound {stem : String} {lines : List String} {r r' : Reading}
    (hrun : Run stem lines r r') (h : Sound stem r) : Sound stem r' := by
  induction hrun with
  | nil => exact h
  | cons hstep _ ih => exact ih (hstep.sound h)

end Reading

/-! ## 4. The template that is read -/

/-- A template that is read is well-formed, and every segment of it has text. -/
theorem Draft.wellFormed_of_read {d d' : Draft} {delimiters : Delimiters} {lines : List String}
    (h : d.read delimiters lines = (d', none)) :
    d'.segments.WellFormed ∧ (∀ p ∈ d'.segments, p.2.items ≠ []) ∧
      (isName d.namer.stem = true → ∀ p ∈ d'.segments, isName p.1 = true) := by
  obtain ⟨r, hrun, -, hseg⟩ := Draft.read_run h
  have hsound := (hrun.sound (.start _)).settled
  -- behind the last line no segment is open
  have hsettled : (Reading.mk r.settled none).segments = r.settled := by simp [Reading.segments]
  rw [hseg]
  exact ⟨hsettled ▸ hsound.wellFormed, hsound.items, hsettled ▸ hsound.names⟩

/-! ## 5. The tables of a template -/

namespace Loading

/-- The tables of a template as it is to be: the same names in both, text for each of them, controls
within bounds, and for every pad another segment that stands earlier, has text, and has no pad. -/
structure WellFormed (l : Loading) : Prop where
  keys : l.texts.keys = l.controls.keys
  nodup : l.controls.keys.Nodup
  items : ∀ p ∈ l.texts, p.2 ≠ []
  declared : ∀ p ∈ l.controls, p.2.Declared
  pads : ∀ before p after, l.controls = before ++ p :: after → p.2.padSegment ≠ "" →
    ∃ q ∈ before, q.1 = p.2.padSegment ∧ q.1 ≠ p.1 ∧ q.2.padSegment = "" ∧ q.1 ∈ l.texts.keys

/-- Tables in step that one well-formed table comes to, where every segment has text. -/
theorem InStep.wellFormed {d : Draft} (h : d.tables.InStep) (hw : d.segments.WellFormed)
    (hitems : ∀ p ∈ d.segments, p.2.items ≠ []) : d.tables.WellFormed where
  keys := h.keys
  nodup := h.nodup
  items p hp := by
    obtain ⟨q, hq, rfl⟩ := List.mem_map.mp hp
    exact hitems q hq
  declared p hp := by
    obtain ⟨q, hq, rfl⟩ := List.mem_map.mp hp
    exact hw.declared q hq
  pads before p after e hpad := by
    -- the controls before the one in question are those of the segments before its segment
    obtain ⟨earlier, later, hsegments, rfl, hlater⟩ := List.map_eq_append_iff.mp e
    obtain ⟨q, rest, rfl, rfl, -⟩ := List.map_eq_cons_iff.mp hlater
    obtain ⟨pad, hmem, hname, hne, hnone⟩ := hw.pads earlier q rest hsegments hpad
    have hpadded : pad ∈ d.segments := hsegments ▸ List.mem_append_left _ hmem
    refine ⟨(pad.1, pad.2.control), List.mem_map_of_mem hmem, hname, hne, hnone, ?_⟩
    -- the pad has text lines, since the tables have the same keys
    rw [h.keys]
    exact Table.mem_keys_of_mem (List.mem_map_of_mem hpadded)

/-- **A template that is loaded is well-formed**, from whatever loading before and with whatever namer:
the names of its texts and of its controls are the same and distinct, every segment has text, controls
are within bounds, and pads stand earlier.  If the stem of the default names is a valid name, all names
are valid. -/
theorem read_wellFormed {l l' : Loading} {delimiters : Delimiters} {lines : List String}
    (h : l.read delimiters lines = (l', none)) :
    l'.WellFormed ∧
      (isName l.namer.stem = true → ∀ name ∈ l'.texts.keys, isName name = true) := by
  have hstep := l.inStep_read delimiters lines
  -- nothing of the tables before is left, so that the loading follows a draft without segments
  have hfollows := Draft.tables_read { namer := l.namer, tokens := l.tokens, log := l.log } delimiters
    lines
  have hread : l.read delimiters lines = _ := hfollows
  rw [h] at hread hstep
  rcases hd : ({ namer := l.namer, tokens := l.tokens, log := l.log } : Draft).read delimiters lines
    with ⟨d, stop⟩
  rw [hd] at hread
  obtain ⟨rfl, rfl⟩ := Prod.mk.inj hread
  obtain ⟨hw, hitems, hnames⟩ := Draft.wellFormed_of_read hd
  refine ⟨hstep.wellFormed hw hitems, fun hs name hname => ?_⟩
  obtain ⟨p, hp, rfl⟩ := Table.mem_keys_iff.mp hname
  -- every text belongs to a segment, whose name is its own
  obtain ⟨q, hq, rfl⟩ := List.mem_map.mp hp
  exact hnames hs q hq

/-- A repeated name, an empty segment that is asked for as a pad, a pad that is there, and a tab size
out of bounds, loaded over two tables that are not in step. -/
theorem read_wellFormed_crowded :
    ∃ l', Loading.read { texts := [("Z", [])] } {}
        ["### A", "    a", "### E", "### A FTI=2 PAD=A TAB=12", "@+1 b", "### C PAD=E", "    c"]
          = (l', none) ∧
      l'.WellFormed ∧ ∀ name ∈ l'.texts.keys, isName name = true := by
  have hread : (Loading.read { texts := [("Z", [])] } {}
      ["### A", "    a", "### E", "### A FTI=2 PAD=A TAB=12", "@+1 b", "### C PAD=E", "    c"]).2
        = none := by decide +kernel
  obtain ⟨hw, hn⟩ := read_wellFormed (Prod.ext rfl hread)
  exact ⟨_, Prod.ext rfl hread, hw, hn (by decide)⟩

end Loading

end Stencil
