/-
# Runs of the column

The column by itself, through any number of lines and calls.  Two things hold whatever their mix.

A one-time line is placed by the same rule as any other, truncation included, but the column stays
where it is.  So the other lines are placed as if there were no one-time lines among them.

Saving and restoring is a bracket.  Inside of it the column and the tab size may go anywhere, and more
may be saved and restored; as long as each restoring has its saving in there, and each saving its
restoring, what lay on the stack before is never reached.  The induction runs over the calls with
the number of states that were saved and not yet restored, and its invariant is that these lie on top
of the stack from before (`Above`).

* `place_persistent`: lines with the one-time lines taken out;
* `Above.perform`, `Above.run`: what a call and a run of them do to the stack;
* `run_bracketed`: saving, a balanced run and restoring.
-/
import Mathlib.Data.List.Infix
import Stencil.Column

namespace Stencil

namespace Column

/-! ## 1. Lines one after the other -/

/-- A text line in its place: the column, and what was noted about it. -/
structure Placed where
  item : TextItem
  column : Int
  noted : Log

/-- Places text lines one after the other, each for the position at which it is asked for; the state
of the column after them goes with it. -/
def place (c : Column) : List (Position × TextItem) → List Placed × Column
  | [] => ([], c)
  | (p, item) :: lines =>
    let (n, c, ms) := c.advance p.segment item
    let (placed, c) := c.place lines
    (⟨item, n, Log.report [] p (ms.map (Notice.warning .generating))⟩ :: placed, c)

/-- A one-time line leaves the column where it was. -/
theorem advance_of_isOneTime {item : TextItem} (h : item.isOneTime = true) (c : Column)
    (segment : String) : (c.advance segment item).2.1 = c := by
  simp [advance, h]

/-- **One-time lines make no difference to the others.**  Without them the other lines have the same
columns, the same is noted about them, and the column is the same in the end. -/
theorem place_persistent (c : Column) (lines : List (Position × TextItem)) :
    c.place (lines.filter fun line => !line.2.isOneTime)
      = ((c.place lines).1.filter fun placed => !placed.item.isOneTime, (c.place lines).2) := by
  induction lines generalizing c with
  | nil => rfl
  | cons line lines ih =>
    rcases line with ⟨p, item⟩
    -- a one-time line is taken out and moves nothing; any other is placed on both sides
    cases hitem : item.isOneTime with
    | true =>
      rw [List.filter_cons_of_neg (by simp [hitem]), ih]
      simp only [place, advance_of_isOneTime hitem]
      rw [List.filter_cons_of_neg (by simp [hitem])]
    | false =>
      rw [List.filter_cons_of_pos (by simp [hitem])]
      simp only [place, ih]
      rw [List.filter_cons_of_pos (by simp [hitem])]

/-! ## 2. The stack -/

/-- The second column state has the saved states and the home of the first. -/
def SameStack (c c' : Column) : Prop := c'.saved = c.saved ∧ c'.home = c.home

theorem SameStack.trans {c₁ c₂ c₃ : Column} (h₁ : c₁.SameStack c₂) (h₂ : c₂.SameStack c₃) :
    c₁.SameStack c₃ := ⟨h₂.1.trans h₁.1, h₂.2.trans h₁.2⟩

/-- A text line saves nothing and restores nothing. -/
theorem sameStack_advance (c : Column) (segment : String) (item : TextItem) :
    c.SameStack (c.advance segment item).2.1 := by
  simp only [advance]
  split <;> exact ⟨rfl, rfl⟩

theorem sameStack_advanceFirst (c : Column) (segment : String) (n : Int) (item : TextItem) :
    c.SameStack (c.advanceFirst segment n item).2.1 := by
  unfold advanceFirst
  split
  · exact sameStack_advance c segment item
  · exact ⟨rfl, rfl⟩

/-- A state that was saved is there again, however the column has moved since. -/
theorem restore_saved {c c' : Column} (h : c.save.SameStack c') : c'.restore = c := by
  rcases c' with ⟨column, tabSize, saved, home⟩
  obtain ⟨rfl, rfl⟩ := h
  rfl

/-! ## 3. Calls -/

/-- What can be asked of the column. -/
inductive Call where
  | advance (segment : String) (item : TextItem)
  | advanceFirst (segment : String) (firstTimeIndent : Int) (item : TextItem)
  | setTabSize (n : Int)
  | setColumn (n : Int)
  | tabSizeOption (text : Option String)
  | save
  | restore

/-- The state after a call.  Reading the tab size of a header changes nothing, whatever comes of
it. -/
def perform (c : Column) : Call → Column
  | .advance segment item => (c.advance segment item).2.1
  | .advanceFirst segment n item => (c.advanceFirst segment n item).2.1
  | .setTabSize n => (c.setTabSize n).1
  | .setColumn n => { c with column := n }
  | .tabSizeOption _ => c
  | .save => c.save
  | .restore => c.restore

/-- The state after several calls. -/
def run (c : Column) (cs : List Call) : Column := cs.foldl perform c

namespace Call

/-- How much higher the stack is after the call, if there was something to restore. -/
def rise : Call → Int
  | save => 1
  | restore => -1
  | _ => 0

/-- How much higher the stack is after several calls. -/
def height : List Call → Int
  | [] => 0
  | a :: cs => a.rise + height cs

/-- Each restoring has a saving before it, and each saving is followed by its restoring. -/
structure Balanced (cs : List Call) : Prop where
  matched : ∀ before, before <+: cs → 0 ≤ height before
  closed : height cs = 0

instance (cs : List Call) : Decidable (Balanced cs) :=
  decidable_of_iff ((∀ before ∈ cs.inits, 0 ≤ height before) ∧ height cs = 0)
    ⟨fun h => ⟨fun before hb => h.1 before ((List.mem_inits _ _).mpr hb), h.2⟩,
      fun h => ⟨fun before hb => h.matched before ((List.mem_inits _ _).mp hb), h.closed⟩⟩

end Call

open Call

/-! ## 4. Brackets -/

/-- The second state lies above the first: on what was saved there, so many more states are saved. -/
structure Above (base : Column) (n : Int) (c : Column) : Prop where
  home : c.home = base.home
  saved : ∃ inner : List (Int × Int), inner.length = n ∧ c.saved = inner ++ base.saved

namespace Above

variable {base c c' : Column} {n : Int}

theorem refl (c : Column) : c.Above 0 c := ⟨rfl, [], rfl, rfl⟩

/-- What does not touch the stack leaves the saved states where they lie. -/
theorem of_sameStack (h : base.Above n c) (hs : c.SameStack c') : base.Above n c' := by
  obtain ⟨hhome, inner, hlength, hsaved⟩ := h
  exact ⟨hs.2.trans hhome, inner, hlength, hs.1.trans hsaved⟩

/-- With nothing on top of it, the stack is the one from before. -/
theorem sameStack (h : base.Above 0 c) : base.SameStack c := by
  obtain ⟨hhome, inner, hlength, hsaved⟩ := h
  obtain rfl := List.eq_nil_of_length_eq_zero (Int.natCast_eq_zero.mp hlength)
  exact ⟨hsaved, hhome⟩

theorem save (h : base.Above n c) : base.Above (n + 1) c.save := by
  obtain ⟨hhome, inner, hlength, hsaved⟩ := h
  refine ⟨hhome, (c.column, c.tabSize) :: inner, ?_, congrArg _ hsaved⟩
  rw [List.length_cons, Int.natCast_add, hlength]
  rfl

/-- What is restored is not from below. -/
theorem restore (h : base.Above n c) (hn : 0 < n) : base.Above (n - 1) c.restore := by
  obtain ⟨hhome, inner, hlength, hsaved⟩ := h
  cases inner with
  -- there is something on top, so that it is not the stack from before that is taken
  | nil =>
    rw [List.length_nil] at hlength
    omega
  | cons top inner =>
    have hrestore : c.restore = { c with
        column := top.1, tabSize := top.2, saved := inner ++ base.saved } := by
      rw [Column.restore, restore?, hsaved]
      rfl
    rw [hrestore]
    refine ⟨hhome, inner, ?_, rfl⟩
    rw [List.length_cons] at hlength
    omega

/-- **A call stays above**, if it does not restore what lies below. -/
theorem perform (h : base.Above n c) (a : Call) (ha : 0 ≤ n + a.rise) :
    base.Above (n + a.rise) (c.perform a) := by
  have hstay : ∀ c', c.SameStack c' → base.Above (n + 0) c' := fun c' hs =>
    (Int.add_zero n).symm ▸ h.of_sameStack hs
  cases a with
  | advance segment item => exact hstay _ (c.sameStack_advance segment item)
  | advanceFirst segment k item => exact hstay _ (c.sameStack_advanceFirst segment k item)
  | setTabSize | setColumn | tabSizeOption => exact hstay _ ⟨rfl, rfl⟩
  | save => exact h.save
  | restore =>
    have hn : 0 < n := by
      simp only [rise] at ha
      omega
    exact h.restore hn

/-- **A run stays above**, if none of its calls restores what lies below. -/
theorem run {cs : List Call} (h : base.Above n c)
    (hcs : ∀ before, before <+: cs → 0 ≤ n + height before) :
    base.Above (n + height cs) (c.run cs) := by
  induction cs generalizing c n with
  | nil =>
    have hn : n + height [] = n := Int.add_zero n
    exact hn.symm ▸ h
  | cons a cs ih =>
    have hheight : ∀ before, n + height (a :: before) = n + a.rise + height before := by
      intro before
      rw [height, Int.add_assoc]
    have ha : 0 ≤ n + a.rise := by
      simpa [height] using hcs [a] (by simp)
    rw [hheight]
    refine ih (h.perform a ha) fun before hbefore => ?_
    rw [← hheight]
    exact hcs (a :: before) (List.cons_prefix_cons.mpr ⟨rfl, hbefore⟩)

end Above

/-- **Saving, a balanced run and restoring** leave the column, the tab size and the stack as they were,
in every state and whatever the run does; and where nothing is saved, restoring does nothing. -/
theorem run_bracketed {cs : List Call} (hcs : Balanced cs) (c : Column) :
    c.run (.save :: (cs ++ [.restore])) = c ∧ ∀ e : Column, e.saved = [] → e.perform .restore = e := by
  constructor
  · have habove : c.save.Above (0 + height cs) (c.save.run cs) :=
      (Above.refl c.save).run fun before hbefore => (hcs.matched before hbefore).trans_eq
        (Int.zero_add _).symm
    -- as much was restored as was saved, so that the saved state of the bracket lies on top again
    rw [hcs.closed] at habove
    have hrun : c.run (.save :: (cs ++ [.restore])) = (c.save.run cs).restore := by
      rw [run, List.foldl_cons, List.foldl_append]
      rfl
    rw [hrun, restore_saved habove.sameStack]
  · intro e he
    rw [perform, restore, restore?, he]
    rfl

/-- Brackets within a bracket, in a state in which something was saved, with a column that is set left
of the margin and a tab size that cannot be had. -/
theorem run_bracketed_nested :
    ∃ cs, cs = [.advance "A" ⟨-3, true, false, "x"⟩, .save, .setTabSize 12, .save, .setColumn (-7),
        .restore, .advanceFirst "A" 2 ⟨1, false, true, "y"⟩, .restore, .tabSizeOption (some "0"),
        .save, .restore, .setTabSize 1] ∧
      Balanced cs ∧
      run { column := 5, tabSize := 4, saved := [(8, 2)], home := 4 } cs
        = { column := 0, tabSize := 1, saved := [(8, 2)], home := 4 } ∧
      run { column := 5, tabSize := 4, saved := [(8, 2)], home := 4 } (.save :: (cs ++ [.restore]))
        = { column := 5, tabSize := 4, saved := [(8, 2)], home := 4 } := by
  have hcs : Balanced [.advance "A" ⟨-3, true, false, "x"⟩, .save, .setTabSize 12, .save,
      .setColumn (-7), .restore, .advanceFirst "A" 2 ⟨1, false, true, "y"⟩, .restore,
      .tabSizeOption (some "0"), .save, .restore, .setTabSize 1] := by decide +kernel
  exact ⟨_, rfl, hcs, by decide +kernel, (run_bracketed hcs _).1⟩

end Column

end Stencil
