/-
# Integers that are written out

An integer that is written in decimal reads back as itself, if its digits are within the limit.  The
text has no blanks at its ends, so that `trim` leaves it alone; `splitSign` takes off the minus that
a negative number has; and the digits have the value of the number.

* `parseInt_toString`: reading undoes writing.
-/
import Stencil.Text.Integer

namespace Stencil.Text

/-! ## 1. Digits -/

theorem bounds_of_isDigit {c : Char} (h : c.isDigit = true) : '0' ≤ c ∧ c ≤ '9' := by
  rw [Char.isDigit, Bool.and_eq_true, decide_eq_true_eq, decide_eq_true_eq] at h
  exact h

theorem asciiDigit?_of_isDigit {c : Char} (h : c.isDigit = true) :
    asciiDigit? c = some (c.toNat - '0'.toNat) := if_pos (bounds_of_isDigit h)

theorem mapM_asciiDigit? {cs : List Char} (h : ∀ c ∈ cs, c.isDigit = true) :
    cs.mapM asciiDigit? = some (cs.map fun c => c.toNat - '0'.toNat) := by
  induction cs with
  | nil => rfl
  | cons c cs ih =>
    have hc := asciiDigit?_of_isDigit (h c List.mem_cons_self)
    have hcs := ih fun d hd => h d (List.mem_cons_of_mem _ hd)
    simp [List.mapM_cons, hc, hcs]

theorem isDigit_of_mem_toDigits {n : Nat} {c : Char} (h : c ∈ Nat.toDigits 10 n) :
    c.isDigit = true := Nat.isDigit_of_mem_toDigits (by decide) (by decide) h

/-- The digits of a number are read, and their value is the number. -/
theorem asciiDigits?_toDigits (n : Nat) :
    ∃ ds, asciiDigits? (Nat.toDigits 10 n) = some ds ∧ ds.length = (Nat.toDigits 10 n).length ∧
      ofDigits ds = n := by
  refine ⟨(Nat.toDigits 10 n).map fun c => c.toNat - '0'.toNat, ?_, by simp, ?_⟩
  · rw [asciiDigits?, if_neg Nat.toDigits_ne_nil]
    exact mapM_asciiDigit? fun c hc => isDigit_of_mem_toDigits hc
  · rw [ofDigits, List.foldl_map, ← Nat.ofDigitChars_eq_foldl]
    exact Nat.ofDigitChars_ten_toDigits

/-! ## 2. Blanks and signs -/

theorem isBlankChar_of_isDigit {c : Char} (h : c.isDigit = true) : isBlankChar c = false := by
  obtain ⟨hlow, hhigh⟩ := bounds_of_isDigit h
  have hlow' : 48 ≤ c.toNat := hlow
  have hhigh' : c.toNat ≤ 57 := hhigh
  simp [isBlankChar]
  omega

/-- Without blanks there is nothing to strip. -/
theorem trim_eq_self {cs : List Char} (h : ∀ c ∈ cs, isBlankChar c = false) : trim cs = cs := by
  have hdrop : ∀ {xs : List Char}, (∀ c ∈ xs, isBlankChar c = false) →
      xs.dropWhile isBlankChar = xs := by
    intro xs hxs
    cases xs with
    | nil => rfl
    | cons x xs => simp [hxs x List.mem_cons_self]
  rw [trim, hdrop h, hdrop fun c hc => h c (List.mem_reverse.mp hc), List.reverse_reverse]

theorem splitSign_of_isDigit {cs : List Char} (h : ∀ c ∈ cs, c.isDigit = true) :
    splitSign cs = (false, cs) := by
  unfold splitSign
  split
  · exact absurd (h '-' List.mem_cons_self) (by decide)
  · exact absurd (h '+' List.mem_cons_self) (by decide)
  · rfl

/-! ## 3. Reading undoes writing -/

/-- The characters of an integer that is written out. -/
def intDigits (n : Int) : List Char :=
  if 0 ≤ n then Nat.toDigits 10 n.natAbs else '-' :: Nat.toDigits 10 n.natAbs

theorem toList_toString (n : Int) : (toString n).toList = intDigits n := by
  rw [Int.toString_eq_repr, Int.repr_eq_if, intDigits]
  by_cases hn : 0 ≤ n
  · have hnat : n.toNat = n.natAbs := by omega
    simp [hn, hnat]
  · have hnat : (-n).toNat = n.natAbs := by omega
    simp [hn, hnat]

/-- An integer is written in digits, behind a minus at most. -/
theorem eq_or_isDigit_of_mem_intDigits {n : Int} {c : Char} (h : c ∈ intDigits n) :
    c = '-' ∨ c.isDigit = true := by
  unfold intDigits at h
  split at h
  · exact .inr (isDigit_of_mem_toDigits h)
  · rcases List.mem_cons.mp h with rfl | h
    · exact .inl rfl
    · exact .inr (isDigit_of_mem_toDigits h)

/-- The sign of an integer is taken off again. -/
theorem splitSign_intDigits (n : Int) :
    splitSign (intDigits n) = (decide (n < 0), Nat.toDigits 10 n.natAbs) := by
  by_cases hn : 0 ≤ n
  · have hneg : ¬ n < 0 := Int.not_lt.mpr hn
    rw [intDigits, if_pos hn, splitSign_of_isDigit fun c hc => isDigit_of_mem_toDigits hc]
    simp [hneg]
  · have hneg : n < 0 := Int.not_le.mp hn
    rw [intDigits, if_neg hn]
    simp [splitSign, hneg]

/-- **Reading undoes writing**, for an integer whose digits are within the limit. -/
theorem parseInt_toString {n : Int} (h : (Nat.toDigits 10 n.natAbs).length ≤ digitLimit) :
    parseInt (toString n) = .ok (some n) := by
  have hblank : ∀ c ∈ intDigits n, isBlankChar c = false := by
    intro c hc
    rcases eq_or_isDigit_of_mem_intDigits hc with rfl | hd
    · decide
    · exact isBlankChar_of_isDigit hd
  obtain ⟨ds, hds, hlen, hval⟩ := asciiDigits?_toDigits n.natAbs
  -- nothing is stripped, and what stands behind the sign are the digits
  rw [parseInt_eq_some_iff, toList_toString, trim_eq_self hblank, splitSign_intDigits]
  refine ⟨ds, hds, hlen ▸ h, ?_⟩
  rw [hval]
  by_cases hn : n < 0
  · simp only [hn, decide_true, if_true]
    omega
  · simp only [hn, decide_false]
    simp
    omega

end Stencil.Text
