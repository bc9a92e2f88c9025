/-
# What becomes of the text lines

No text line of a template is lost, repeated or moved.  The items of the segments, one segment after
the other, are the items of the text lines (`items_run`), and each stands in the segment that was
open at its line.  Two lines have the same segment exactly when no header stands between them.

For the second part every item is given the name of its segment (`Template.owners`), in the order of
the text lines.  A run only adds to that list.  While no header is read the open segment keeps its
name; once one is read, a segment that has text is closed for good, and names are distinct.

* `read_textLines`: both parts, for a template that is read.
-/
import Stencil.Proofs.Template.WellFormed

namespace Stencil

/-! ## 1. Items and their segments -/

/-- The text items of lines, in order. -/
def textItems (lines : List String) : List TextItem :=
  lines.filterMap fun s => (Line.ofString s).item?

namespace Template

/-- The text items of a template, one segment after the other. -/
def items (t : Template) : List TextItem := t.flatMap (·.2.items)

/-- The name of the segment of each text item. -/
def owners (t : Template) : List String := t.flatMap fun p => p.2.items.map fun _ => p.1

theorem items_append (t u : Template) : items (t ++ u) = t.items ++ u.items := List.flatMap_append

theorem owners_append (t u : Template) : owners (t ++ u) = t.owners ++ u.owners :=
  List.flatMap_append

@[simp] theorem items_singleton (p : String × Segment) : items [p] = p.2.items := by simp [items]

@[simp] theorem owners_singleton (p : String × Segment) :
    owners [p] = p.2.items.map fun _ => p.1 := by simp [owners]

theorem length_owners (t : Template) : t.owners.length = t.items.length := by
  induction t with
  | nil => rfl
  | cons p t ih => simp only [owners, items, List.flatMap_cons, List.length_append,
      List.length_map] at ih ⊢; omega

end Template

namespace Reading

/-- Closing a segment loses no item: one that is dropped has none. -/
theorem items_settled (r : Reading) : r.settled.items = r.segments.items := by
  rcases r with ⟨closed, _ | ⟨name, seg⟩⟩
  · simp [settled, segments]
  · by_cases hi : seg.items = []
    · rw [settled_of_nil hi]
      simp [segments, Template.items_append, hi]
    · rw [settled_of_ne_nil hi]
      rfl

theorem owners_settled (r : Reading) : r.settled.owners = r.segments.owners := by
  rcases r with ⟨closed, _ | ⟨name, seg⟩⟩
  · simp [settled, segments]
  · by_cases hi : seg.items = []
    · rw [settled_of_nil hi]
      simp [segments, Template.owners_append, hi]
    · rw [settled_of_ne_nil hi]
      rfl

/-! ## 2. What a line adds -/

/-- A text line adds its item, and no other line adds one. -/
theorem Step.items {stem s : String} {r r' : Reading} (h : Step stem s r r') :
    r'.segments.items = r.segments.items ++ (Line.ofString s).item?.toList := by
  cases h with
  | pass hs => rcases hs with hs | hs <;> simp [hs, Line.item?]
  | join hs => simp [segments, Template.items_append, hs, Line.item?]
  | first hs => simp [segments, Template.items_append, hs, Line.item?]
  -- a header closes the open segment, which loses no item, and opens one that has none
  | header hs =>
    rw [segments, Template.items_append, items_settled]
    simp [hs, Line.item?]

/-- A text line adds the name of the segment that is open after it. -/
theorem Step.owners {stem s : String} {r r' : Reading} (h : Step stem s r r') :
    r'.segments.owners
      = r.segments.owners ++ (Line.ofString s).item?.toList.map fun _ => r'.name := by
  cases h with
  | pass hs => rcases hs with hs | hs <;> simp [hs, Line.item?]
  | join hs => simp [segments, name, Template.owners_append, hs, Line.item?]
  | first hs => simp [segments, name, Template.owners_append, hs, Line.item?]
  | header hs =>
    rw [segments, Template.owners_append, owners_settled]
    simp [hs, Line.item?]

/-- The items of a run are those of its text lines. -/
theorem items_run {stem : String} {lines : List String} {r r' : Reading}
    (h : Run stem lines r r') : r'.segments.items = r.segments.items ++ textItems lines := by
  induction h with
  | nil => simp [textItems]
  | @cons s lines _ _ _ hstep _ ih =>
    rw [ih, hstep.items, List.append_assoc]
    cases hs : (Line.ofString s).item? <;> simp [textItems, hs]

/-- Later lines leave the owners of the items as they are. -/
theorem owners_run {stem : String} {lines : List String} {r r' : Reading}
    (h : Run stem lines r r') : r.segments.owners <+: r'.segments.owners := by
  induction h with
  | nil => exact List.prefix_rfl
  | cons hstep _ ih => exact (hstep.owners ▸ List.prefix_append _ _).trans ih

/-! ## 3. Open and closed segments -/

/-- What is no header leaves the open segment open. -/
theorem Step.name_eq {stem s : String} {r r' : Reading} (h : Step stem s r r')
    (hs : Line.ofString s ≠ .header) (hr : r.current.isSome = true) :
    r'.name = r.name ∧ r'.current.isSome = true := by
  cases h with
  | pass => exact ⟨rfl, hr⟩
  | join => exact ⟨rfl, rfl⟩
  | first => simp at hr
  | header hh => exact absurd hh hs

/-- Without a header the open segment stays open. -/
theorem name_run {stem : String} {lines : List String} {r r' : Reading}
    (h : Run stem lines r r') (hl : ∀ s ∈ lines, Line.ofString s ≠ .header)
    (hr : r.current.isSome = true) : r'.name = r.name ∧ r'.current.isSome = true := by
  induction h with
  | nil => exact ⟨rfl, hr⟩
  | cons hstep _ ih =>
    obtain ⟨hname, hcur⟩ := hstep.name_eq (hl _ List.mem_cons_self) hr
    obtain ⟨hname', hcur'⟩ := ih (fun s hs => hl s (List.mem_cons_of_mem _ hs)) hcur
    exact ⟨hname'.trans hname, hcur'⟩

/-- Closing the open segment leaves the closed ones in front. -/
theorem closed_prefix_settled (r : Reading) : r.closed <+: r.settled := by
  rcases r.settled_eq with e | e
  · exact e ▸ List.prefix_rfl
  · rw [e, segments]
    exact List.prefix_append _ _

/-- Nothing that is closed is opened again, renamed, moved or dropped. -/
theorem Step.closed_prefix {stem s : String} {r r' : Reading} (h : Step stem s r r') :
    r.closed <+: r'.closed := by
  cases h with
  | pass => exact List.prefix_rfl
  | join => exact List.prefix_rfl
  | first => exact List.prefix_rfl
  | header => exact r.closed_prefix_settled

theorem Run.closed_prefix {stem : String} {lines : List String} {r r' : Reading}
    (h : Run stem lines r r') : r.closed <+: r'.closed := by
  induction h with
  | nil => exact List.prefix_rfl
  | cons hstep _ ih => exact hstep.closed_prefix.trans ih

/-- A segment that would stay if it were closed now goes on to be there. -/
theorem Step.settled_keys {stem s : String} {r r' : Reading} (h : Step stem s r r') :
    r.settled.keys ⊆ r'.settled.keys := by
  cases h with
  | pass => exact List.Subset.refl _
  | @join item closed name seg _ =>
    -- before the line the segment may have had no text, and would have been dropped
    have hlast : (Reading.mk closed (some (name, seg))).settled.keys ⊆ closed.keys ++ [name] := by
      by_cases hi : seg.items = []
      · rw [settled_of_nil hi]
        exact List.subset_append_left _ _
      · rw [settled_of_ne_nil hi]
        simp
    rw [settled_of_ne_nil (s := { seg with items := seg.items ++ [item] }) (by simp)]
    simpa using hlast
  | first =>
    rw [settled_of_ne_nil (by simp)]
    intro key hkey
    simp only [Table.keys_append, List.mem_append]
    exact .inl hkey
  | header =>
    rw [settled_of_nil rfl]
    exact List.Subset.refl _

/-- A header closes the segment that is open. -/
theorem Step.closed_of_header {stem s : String} {r r' : Reading} (h : Step stem s r r')
    (hs : Line.ofString s = .header) : r'.closed = r.settled := by
  cases h with
  | pass hp => rcases hp with hp | hp <;> simp [hs] at hp
  | join ht => simp [hs] at ht
  | first ht => simp [hs] at ht
  | header => rfl

/-- A header closes every segment that has text, and none of them is opened again. -/
theorem settled_run {stem : String} {lines : List String} {r r' : Reading}
    (h : Run stem lines r r') (hl : ∃ s ∈ lines, Line.ofString s = .header) :
    r.settled.keys ⊆ r'.closed.keys := by
  induction h with
  | nil => simp at hl
  | @cons s lines r₁ r₂ r₃ hstep hrun ih =>
    -- the first line is a header, or the one that is lies further on
    by_cases hs : Line.ofString s = .header
    · rw [← hstep.closed_of_header hs]
      exact List.map_subset _ hrun.closed_prefix.subset
    · obtain ⟨t, ht, hh⟩ := hl
      have htail : t ∈ lines :=
        (List.mem_cons.mp ht).resolve_left fun e => hs (e ▸ hh)
      exact List.Subset.trans hstep.settled_keys (ih ⟨t, htail, hh⟩)

/-- The segment that a text line has joined is open and has text. -/
theorem Step.open_of_text {stem s : String} {r r' : Reading} (h : Step stem s r r')
    (hs : (Line.ofString s).item?.isSome = true) :
    r'.current.isSome = true ∧ r'.name ∈ r'.settled.keys := by
  cases h with
  | pass hp => rcases hp with hp | hp <;> simp [hp, Line.item?] at hs
  | join =>
    rw [settled_of_ne_nil (by simp)]
    exact ⟨rfl, by simp [name]⟩
  | first =>
    rw [settled_of_ne_nil (by simp)]
    exact ⟨rfl, by simp [name]⟩
  | header hh => simp [hh, Line.item?] at hs

/-- The open segment has not the name of a closed one. -/
theorem name_not_mem_closed {r : Reading} (hnd : r.segments.keys.Nodup)
    (hr : r.current.isSome = true) : r.name ∉ r.closed.keys := by
  rcases r with ⟨closed, _ | ⟨n, seg⟩⟩
  · simp at hr
  · exact (Table.nodup_keys_snoc_iff.mp hnd).2

/-- The name of the segment that a text line joins stands at the place of its item. -/
theorem owner_of_text {stem s : String} {after : List String} {r r' r'' : Reading}
    (hstep : Step stem s r r') (hrun : Run stem after r' r'')
    (hs : (Line.ofString s).item?.isSome = true) :
    r''.settled.owners[r.segments.items.length]? = some r'.name := by
  obtain ⟨item, hi⟩ := Option.isSome_iff_exists.mp hs
  obtain ⟨more, hmore⟩ := owners_run hrun
  -- the owner is appended at the line, and what comes after leaves it in its place
  rw [owners_settled, ← hmore, hstep.owners, ← Template.length_owners, hi]
  simp

/-- Two text lines join segments of one name exactly when no header stands between them. -/
theorem name_eq_iff {stem a b : String} {between : List String} {r₁ r₂ r₃ r₄ : Reading}
    (h : Sound stem r₁) (ha : Step stem a r₁ r₂) (hbetween : Run stem between r₂ r₃)
    (hb : Step stem b r₃ r₄) (ha' : (Line.ofString a).item?.isSome = true)
    (hb' : (Line.ofString b).item?.isSome = true) :
    r₂.name = r₄.name ↔ ∀ s ∈ between, Line.ofString s ≠ .header := by
  obtain ⟨hopen₂, hkept₂⟩ := ha.open_of_text ha'
  obtain ⟨hopen₄, -⟩ := hb.open_of_text hb'
  constructor
  · -- a header would have closed the segment of `a`, and the one of `b` is open
    intro hname s hs hheader
    have hclosed : r₂.name ∈ r₄.closed.keys :=
      List.map_subset _ hb.closed_prefix.subset (settled_run hbetween ⟨s, hs, hheader⟩ hkept₂)
    have hsound₄ : Sound stem r₄ := hb.sound (hbetween.sound (ha.sound h))
    exact name_not_mem_closed hsound₄.wellFormed.nodup hopen₄ (hname ▸ hclosed)
  -- without a header the segment of `a` is still the open one at `b`
  · intro hno
    obtain ⟨hname₃, hopen₃⟩ := name_run hbetween hno hopen₂
    have hne : Line.ofString b ≠ .header := by
      intro e
      simp [e, Line.item?] at hb'
    exact hname₃.symm.trans (hb.name_eq hne hopen₃).1.symm

end Reading

/-! ## 4. The template that is read -/

/-- **No text line is lost, repeated, reordered or moved.**  The items of the segments are those of
the text lines, in order, and two text lines have the same segment exactly when no header stands
between them.  Names tell segments apart, since they are distinct. -/
theorem read_textLines {d d' : Draft} {delimiters : Delimiters} {lines : List String}
    (h : d.read delimiters lines = (d', none)) :
    d'.segments.items = textItems lines ∧ d'.segments.keys.Nodup ∧
      ∀ before a between b after, lines = before ++ a :: (between ++ b :: after) →
        (Line.ofString a).item?.isSome = true → (Line.ofString b).item?.isSome = true →
        ∃ m n, d'.segments.owners[(textItems before).length]? = some m ∧
          d'.segments.owners[(textItems (before ++ a :: between)).length]? = some n ∧
          (m = n ↔ ∀ s ∈ between, Line.ofString s ≠ .header) := by
  obtain ⟨r, hrun, hnd, hseg⟩ := Draft.read_run h
  rw [hseg]
  refine ⟨?_, Reading.settled_nodup hnd, ?_⟩
  · rw [Reading.items_settled, Reading.items_run hrun]
    simp [Reading.segments, Template.items]
  · intro before a between b after hl ha hb
    subst hl
    -- the run comes past four readings: before and after each of the two lines
    obtain ⟨r₁, hbefore, hrest⟩ := hrun.split
    obtain ⟨r₂, ha₂, hrun₂⟩ := hrest.of_cons
    obtain ⟨r₃, hbetween, hrest⟩ := hrun₂.split
    obtain ⟨r₄, hb₄, hrun₄⟩ := hrest.of_cons
    -- so many items stand before the first line, and so many before the second
    have hitems₁ : r₁.segments.items = textItems before := by
      rw [Reading.items_run hbefore]
      simp [Reading.segments, Template.items]
    have hitems₃ : r₃.segments.items = textItems (before ++ a :: between) := by
      rw [Reading.items_run hbetween, ha₂.items, hitems₁]
      cases hi : (Line.ofString a).item? <;> simp [textItems, hi]
    exact ⟨r₂.name, r₄.name, hitems₁ ▸ Reading.owner_of_text ha₂ hrun₂ ha,
      hitems₃ ▸ Reading.owner_of_text hb₄ hrun₄ hb,
      Reading.name_eq_iff (hbefore.sound (.start _)) ha₂ hbetween hb₄ ha hb⟩

/-- Two headers between two text lines, of which the first segment is dropped. -/
theorem read_textLines_apart :
    ∃ d', Draft.read {} {} ["    a", "/// b", "@+1 c", "### S", "### S", "O=2 e"] = (d', none) ∧
      d'.segments.items
        = [⟨0, true, false, "a"⟩, ⟨1, true, false, "c"⟩, ⟨2, false, true, "e"⟩] ∧
      ∃ m n, d'.segments.owners[1]? = some m ∧ d'.segments.owners[2]? = some n ∧ m ≠ n := by
  have hread : (Draft.read {} {} ["    a", "/// b", "@+1 c", "### S", "### S", "O=2 e"]).2
      = none := by decide +kernel
  obtain ⟨hitems, -, hpairs⟩ := read_textLines (Prod.ext rfl hread)
  obtain ⟨m, n, hm, hn, hiff⟩ := hpairs ["    a", "/// b"] "@+1 c" ["### S", "### S"] "O=2 e" []
    rfl (by decide +kernel) (by decide +kernel)
  refine ⟨_, Prod.ext rfl hread, hitems.trans (by decide +kernel), m, n, hm, hn, fun e => ?_⟩
  exact hiff.mp e "### S" List.mem_cons_self (by decide +kernel)

end Stencil
