/-
# Decimal numerals

A decimal numeral is one or more ASCII digits, with or without a sign before them.  Each digit counts as
often as its place says, so that zeros in front make no difference.  This tells what `parseInt` reads
without following its steps: the reader takes off a sign, turns every digit into a number and adds them up
from the left, ten times what it has and the next one.

* `numeral_iff`: a numeral is what has only digits behind its sign, with the value of these;
* `parseInt_numeral`: within the limit of digits `parseInt` reads the numerals and nothing else.
-/
import Mathlib.Tactic.Ring
import Stencil.Proofs.Text.Integer

namespace Stencil.Text

/-! ## 1. Numerals -/

/-- One or more ASCII digits. -/
def IsDigits (cs : List Char) : Prop := cs ≠ [] ∧ ∀ c ∈ cs, c.isDigit = true

instance (cs : List Char) : Decidable (IsDigits cs) :=
  decidable_of_iff (cs ≠ [] ∧ cs.all Char.isDigit = true) (and_congr_right' List.all_eq_true)

/-- The number that digits write: each counts as often as its place says. -/
def placeValue : List Char → Nat
  | [] => 0
  | c :: cs => (c.toNat - '0'.toNat) * 10 ^ cs.length + placeValue cs

/-- A numeral and the integer that it writes. -/
inductive Numeral : List Char → Int → Prop
  | plain {ds : List Char} : IsDigits ds → Numeral ds (placeValue ds)
  | plus {ds : List Char} : IsDigits ds → Numeral ('+' :: ds) (placeValue ds)
  | minus {ds : List Char} : IsDigits ds → Numeral ('-' :: ds) (-(placeValue ds : Int))

/-- The integer that digits behind a sign write. -/
def signed (negative : Bool) (ds : List Char) : Int :=
  if negative then -(placeValue ds : Int) else (placeValue ds : Int)

/-- A numeral is what has only digits behind its sign. -/
theorem numeral_iff {cs : List Char} {n : Int} :
    Numeral cs n ↔ IsDigits (splitSign cs).2 ∧ signed (splitSign cs).1 (splitSign cs).2 = n := by
  constructor
  · intro h
    cases h with
    | plain hds =>
      rw [splitSign_of_isDigit hds.2]
      exact ⟨hds, rfl⟩
    | plus hds => exact ⟨hds, rfl⟩
    | minus hds => exact ⟨hds, rfl⟩
  · rintro ⟨hds, rfl⟩
    -- the sign decides which of the three it is
    unfold splitSign at hds ⊢
    split at hds
    · exact .minus hds
    · exact .plus hds
    · exact .plain hds

/-- A numeral has no digits but those behind its sign. -/
theorem countP_isDigit {cs : List Char} (h : IsDigits (splitSign cs).2) :
    cs.countP Char.isDigit = (splitSign cs).2.length := by
  rw [← List.countP_eq_length.mpr h.2]
  unfold splitSign
  split
  · rw [List.countP_cons_of_neg (by decide)]
  · rw [List.countP_cons_of_neg (by decide)]
  · rfl

/-! ## 2. Digits as they are read -/

theorem isDigit_of_asciiDigit? {c : Char} {d : Nat} (h : asciiDigit? c = some d) :
    c.isDigit = true := by
  unfold asciiDigit? at h
  split at h
  · rename_i hbounds
    rw [Char.isDigit, Bool.and_eq_true, decide_eq_true_eq, decide_eq_true_eq]
    exact hbounds
  · exact absurd h (by simp)

theorem isDigit_of_mapM {cs : List Char} {ds : List Nat} (h : cs.mapM asciiDigit? = some ds) :
    ∀ c ∈ cs, c.isDigit = true := by
  induction cs generalizing ds with
  | nil => simp
  | cons c cs ih =>
    simp only [List.mapM_cons, Option.bind_eq_bind, Option.bind_eq_some_iff] at h
    obtain ⟨d, hd, ds', hds, -⟩ := h
    exact List.forall_mem_cons.mpr ⟨isDigit_of_asciiDigit? hd, ih hds⟩

/-- Digits are read where there are only digits, and at least one. -/
theorem asciiDigits?_eq_some_iff {cs : List Char} {ds : List Nat} :
    asciiDigits? cs = some ds ↔ IsDigits cs ∧ cs.map (fun c => c.toNat - '0'.toNat) = ds := by
  unfold asciiDigits?
  constructor
  · intro h
    split at h
    · exact absurd h (by simp)
    · rename_i hne
      have hdigits := isDigit_of_mapM h
      exact ⟨⟨hne, hdigits⟩, Option.some.inj ((mapM_asciiDigit? hdigits).symm.trans h)⟩
  · rintro ⟨⟨hne, hdigits⟩, rfl⟩
    rw [if_neg hne, mapM_asciiDigit? hdigits]

/-- What the reader has made of a number counts for every digit that is still to come. -/
theorem foldl_digits (n : Nat) (cs : List Char) :
    (cs.map fun c => c.toNat - '0'.toNat).foldl (fun n d => 10 * n + d) n
      = n * 10 ^ cs.length + placeValue cs := by
  -- for every number that is there already, since each digit adds to it
  induction cs generalizing n with
  | nil => simp [placeValue]
  | cons c cs ih =>
    rw [List.map_cons, List.foldl_cons, ih, placeValue, List.length_cons]
    ring

/-- **The value from the left is the value by places.** -/
theorem ofDigits_eq_placeValue (cs : List Char) :
    ofDigits (cs.map fun c => c.toNat - '0'.toNat) = placeValue cs := by
  rw [ofDigits, foldl_digits, Nat.zero_mul, Nat.zero_add]

/-! ## 3. What is read -/

theorem toList_strip (s : String) : (strip s).toList = trim s.toList := by
  simp [strip]

/-- Only what stands between the blanks is read. -/
theorem parseInt_congr {s t : String} (h : trim s.toList = trim t.toList) :
    parseInt s = parseInt t := by
  rw [parseInt, parseInt, h]

theorem parseInt_some_iff {s : String} {n : Int} :
    parseInt s = .ok (some n) ↔
      (strip s).toList.countP Char.isDigit ≤ digitLimit ∧ Numeral (strip s).toList n := by
  rw [parseInt_eq_some_iff, toList_strip, numeral_iff]
  constructor
  · rintro ⟨ds, hds, hlimit, hvalue⟩
    obtain ⟨hdigits, rfl⟩ := asciiDigits?_eq_some_iff.mp hds
    rw [ofDigits_eq_placeValue] at hvalue
    rw [countP_isDigit hdigits]
    exact ⟨by simpa using hlimit, hdigits, hvalue⟩
  · rintro ⟨hlimit, hdigits, hvalue⟩
    rw [countP_isDigit hdigits] at hlimit
    refine ⟨_, asciiDigits?_eq_some_iff.mpr ⟨hdigits, rfl⟩, by simpa using hlimit, ?_⟩
    rw [ofDigits_eq_placeValue]
    exact hvalue

theorem parseInt_none_iff {s : String} :
    parseInt s = .ok none ↔ ∀ n, ¬ Numeral (strip s).toList n := by
  -- the sign and the limit make no difference: there are digits or there are none
  have hnone : parseInt s = .ok none ↔ asciiDigits? (splitSign (trim s.toList)).2 = none := by
    unfold parseInt
    cases hds : asciiDigits? (splitSign (trim s.toList)).2 with
    | none => simp [hds]
    | some ds => cases hv : signedValue (splitSign (trim s.toList)).1 ds <;> simp [hds, hv, Except.map]
  rw [hnone, Option.eq_none_iff_forall_ne_some, toList_strip]
  constructor
  · intro h n hn
    exact h _ (asciiDigits?_eq_some_iff.mpr ⟨(numeral_iff.mp hn).1, rfl⟩)
  · intro h ds hds
    exact h _ (numeral_iff.mpr ⟨(asciiDigits?_eq_some_iff.mp hds).1, rfl⟩)

/-- **Within the limit of digits the numerals are read, with the integers that they write, and nothing
else is.**  So an integer that is written out is read back, whatever blanks stand around it. -/
theorem parseInt_numeral :
    (∀ s : String, (strip s).toList.countP Char.isDigit ≤ digitLimit →
      (∀ n, parseInt s = .ok (some n) ↔ Numeral (strip s).toList n) ∧
        (parseInt s = .ok none ↔ ∀ n, ¬ Numeral (strip s).toList n)) ∧
    ∀ (n : Int) (p q : String), (Nat.toDigits 10 n.natAbs).length ≤ digitLimit →
      isBlank p = true → isBlank q = true → parseInt (p ++ toString n ++ q) = .ok (some n) := by
  constructor
  · intro s hlimit
    refine ⟨fun n => ?_, parseInt_none_iff⟩
    rw [parseInt_some_iff]
    exact and_iff_right hlimit
  · intro n p q hlimit hp hq
    -- stripping takes off the blanks on both sides
    have hbetween : trim (p ++ toString n ++ q).toList = trim (toString n).toList := by
      rw [String.toList_append, String.toList_append, trim_append_blank hq, trim_blank_append hp]
    rw [parseInt_congr hbetween]
    exact parseInt_toString hlimit

/-- Zeros in front and blanks outside of ASCII are read; digits of another script are not. -/
theorem parseInt_numeral_signed :
    (strip "\u00a0-0042\u2003").toList = "-0042".toList ∧
      Numeral "-0042".toList (-42) ∧ parseInt "\u00a0-0042\u2003" = .ok (some (-42)) ∧
      (∀ n, ¬ Numeral "\uff14\uff12".toList n) ∧ parseInt "\uff14\uff12" = .ok none ∧
      isBlank "\u2003\x1c" = true ∧ isBlank "\u0085" = true ∧
      parseInt ("\u2003\x1c" ++ toString (-120 : Int) ++ "\u0085") = .ok (some (-120)) := by
  have hbare : (strip "\u00a0-0042\u2003").toList = "-0042".toList := by decide +kernel
  have hminus : Numeral "-0042".toList (-42) := @Numeral.minus "0042".toList (by decide +kernel)
  have hother : ∀ n, ¬ Numeral "\uff14\uff12".toList n := by
    intro n hn
    exact absurd ((numeral_iff.mp hn).1.2 '\uff14' (by decide +kernel)) (by decide)
  have hstripped : (strip "\uff14\uff12").toList = "\uff14\uff12".toList := by decide +kernel
  obtain ⟨hread, hwritten⟩ := parseInt_numeral
  refine ⟨hbare, hminus, ?_, hother, ?_, by decide +kernel, by decide +kernel, ?_⟩
  · exact ((hread _ (by decide +kernel)).1 _).mpr (hbare ▸ hminus)
  · exact (hread _ (by decide +kernel)).2.mpr (hstripped ▸ hother)
  · exact hwritten (-120) _ _ (by decide) (by decide +kernel) (by decide +kernel)

end Stencil.Text
