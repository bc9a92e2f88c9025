/-
# Default names

What a namer can hand out: its stem with a number.  Such a name is never blank, and it is a valid
name if the stem is one.

* `next_isDefault`: every name that is handed out is of this form;
* `next_error_iff`: when there is no name left;
* `isName_of_isDefault`: the names of a valid stem are valid.
-/
import Stencil.Name
import Stencil.Text.Blank

namespace Stencil

/-! ## 1. Valid names -/

theorem ne_empty_of_isName {s : String} (h : isName s = true) : s ≠ "" := by
  rintro rfl
  exact absurd h (by decide)

/-- A valid name goes on being one when characters of names follow it. -/
theorem isName_append {s t : String} (hs : isName s = true)
    (ht : ∀ c ∈ t.toList, isNameChar c = true) : isName (s ++ t) = true := by
  unfold isName at hs ⊢
  rw [String.toList_append]
  cases hl : s.toList with
  | nil => simp [hl] at hs
  | cons c cs =>
    simp only [hl, Bool.and_eq_true] at hs
    simp only [List.cons_append, List.all_append, Bool.and_eq_true]
    exact ⟨hs.1, hs.2, List.all_eq_true.mpr ht⟩

theorem isNameChar_of_isName {s : String} (h : isName s = true) :
    ∀ c ∈ s.toList, isNameChar c = true := by
  unfold isName at h
  cases hl : s.toList with
  | nil => simp
  | cons c cs =>
    simp only [hl, Bool.and_eq_true] at h
    intro d hd
    rcases List.mem_cons.mp hd with rfl | hd
    · simp [isNameChar, Char.isAlphanum, h.1]
    · exact List.all_eq_true.mp h.2 d hd

/-- The characters of names lie between `0` and `z`. -/
theorem toNat_of_isNameChar {c : Char} (h : isNameChar c = true) :
    48 ≤ c.toNat ∧ c.toNat ≤ 122 := by
  have hkinds : (((c.isUpper || c.isLower) || c.isDigit) || c == '_') = true := h
  simp only [Bool.or_eq_true, beq_iff_eq] at hkinds
  rcases hkinds with ((hupper | hlower) | hdigit) | rfl
  · have hbounds : 'A'.val ≤ c.val ∧ c.val ≤ 'Z'.val := of_decide_eq_true hupper
    exact ⟨Nat.le_trans (by decide) hbounds.1, Nat.le_trans hbounds.2 (by decide)⟩
  · obtain ⟨hlow, hhigh⟩ := Bool.and_eq_true_iff.mp hlower
    have hlow' : 'a'.val ≤ c.val := of_decide_eq_true hlow
    have hhigh' : c.val ≤ 'z'.val := of_decide_eq_true hhigh
    exact ⟨Nat.le_trans (by decide) hlow', Nat.le_trans hhigh' (by decide)⟩
  · obtain ⟨hlow, hhigh⟩ := Char.isDigit_iff_toNat.mp hdigit
    exact ⟨hlow, Nat.le_trans hhigh (by decide)⟩
  · decide

theorem isBlankChar_of_isNameChar {c : Char} (h : isNameChar c = true) :
    Text.isBlankChar c = false := by
  obtain ⟨hlow, hhigh⟩ := toNat_of_isNameChar h
  simp [Text.isBlankChar]
  omega

theorem not_isBlank_of_isName {s : String} (h : isName s = true) : Text.isBlank s = false := by
  rw [Text.isBlank, List.all_eq_false]
  obtain ⟨c, hc⟩ := List.exists_mem_of_ne_nil _
    (fun e => ne_empty_of_isName h (String.toList_eq_nil_iff.mp e))
  exact ⟨c, hc, by simp [isBlankChar_of_isNameChar (isNameChar_of_isName h c hc)]⟩

theorem isNameChar_of_mem_toString {n : Nat} {c : Char} (h : c ∈ (toString n).toList) :
    isNameChar c = true := by
  rw [Nat.toString_eq_repr, Nat.toList_repr] at h
  have hd : c.isDigit = true := Nat.isDigit_of_mem_toDigits (by decide) (by decide) h
  simp [isNameChar, Char.isAlphanum, hd]

/-! ## 2. Names with a number -/

/-- A name that a namer with the given stem can hand out. -/
def IsDefaultName (stem name : String) : Prop := ∃ k : Nat, name = stem ++ toString k

theorem IsDefaultName.ne_empty {stem name : String} (h : IsDefaultName stem name) : name ≠ "" := by
  obtain ⟨k, rfl⟩ := h
  intro e
  have he := congrArg String.toList e
  rw [String.toList_append, Nat.toString_eq_repr, Nat.toList_repr] at he
  exact Nat.toDigits_ne_nil (List.append_eq_nil_iff.mp he).2

theorem IsDefaultName.not_isBlank {stem name : String} (h : IsDefaultName stem name) :
    Text.isBlank name = false := by
  obtain ⟨k, rfl⟩ := h
  have hne : (toString k).toList ≠ [] := by
    rw [Nat.toString_eq_repr, Nat.toList_repr]
    exact Nat.toDigits_ne_nil
  obtain ⟨c, hc⟩ := List.exists_mem_of_ne_nil _ hne
  rw [Text.isBlank, List.all_eq_false, String.toList_append]
  exact ⟨c, List.mem_append_right _ hc,
    by simp [isBlankChar_of_isNameChar (isNameChar_of_mem_toString hc)]⟩

/-- A number behind a valid name leaves it valid. -/
theorem isName_of_isDefault {stem name : String} (hs : isName stem = true)
    (h : IsDefaultName stem name) : isName name = true := by
  obtain ⟨k, rfl⟩ := h
  exact isName_append hs fun _ hc => isNameChar_of_mem_toString hc

namespace Namer

/-- Whatever number is handed out, it stands behind the stem. -/
theorem next_isDefault {n n' : Namer} {taken : List String} {name : String}
    (h : n.next taken = (.ok name, n')) : IsDefaultName n.stem name := by
  fun_induction next n taken with
  | case1 n _ m _ ih => exact ih h
  | case2 n _ m _ => exact ⟨_, (Except.ok.inj (Prod.mk.inj h).1).symm⟩
  | case3 n _ => exact absurd (Prod.mk.inj h).1 (by simp)

theorem stem_next (n : Namer) (taken : List String) : (n.next taken).2.stem = n.stem := by
  fun_induction next n taken with
  | case1 n _ m _ ih => exact ih
  | case2 n _ m _ => rfl
  | case3 n _ => rfl

/-- A namer has no name left exactly if all numbers up to its ceiling are taken. -/
theorem next_error_iff {n : Namer} {taken : List String} :
    (∃ limit, (n.next taken).1 = .error limit) ↔
      ∀ k : Nat, n.count < k → (k : Int) ≤ n.ceiling → n.name k ∈ taken := by
  fun_induction next n taken with
  | case1 n _ m hmem ih =>
    rw [ih]
    constructor
    · intro h k hlow hhigh
      -- the number that was tried is taken; the rest of the search is about those beyond it
      rcases Nat.eq_or_lt_of_le hlow with rfl | hlow
      · exact hmem
      · exact h k hlow hhigh
    · intro h k hlow hhigh
      exact h k (Nat.lt_of_succ_lt hlow) hhigh
  | case2 n hlt m hfree =>
    constructor
    · rintro ⟨limit, h⟩
      exact absurd h (by simp)
    · intro h
      exact absurd (h (n.count + 1) (Nat.lt_succ_self _) (by omega)) hfree
  | case3 n hge =>
    constructor
    · intro _ k hlow hhigh
      omega
    · intro _
      exact ⟨n.limit, rfl⟩

end Namer

end Stencil
