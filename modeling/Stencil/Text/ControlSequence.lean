/-
# Control sequences

A terminal is told about colours and the cursor by control sequences inside the text: the escape
character, an opening bracket, parameters and one letter.  A stream that is no terminal is sent the
text without them.

Only complete sequences count, and the text is gone through once: what stands on both sides of a
sequence is not joined to a new one.

* `plain_of_notMem`: a text without the escape character is kept as it is;
* `plain_sequence`: a sequence in front of a text makes no difference.
-/

namespace Stencil.Text

/-! ## 1. Sequences -/

/-- Whether a character is part of the parameters of a control sequence. -/
def isParameter (c : Char) : Bool := c.isDigit || c == ';' || c == '?'

/-- A letter is no parameter. -/
theorem isParameter_of_isAlpha {c : Char} (h : c.isAlpha = true) : isParameter c = false := by
  have hletter : 65 ≤ c.toNat := by
    rcases Bool.or_eq_true_iff.mp (show (c.isUpper || c.isLower) = true from h) with h | h
    · have h' : decide (c.val ≥ 'A'.val ∧ c.val ≤ 'Z'.val) = true := h
      exact UInt32.le_iff_toNat_le.mp (of_decide_eq_true h').1
    · have h' : (decide (c.val ≥ 'a'.val) && decide (c.val ≤ 'z'.val)) = true := h
      have hlow := UInt32.le_iff_toNat_le.mp (of_decide_eq_true (Bool.and_eq_true_iff.mp h').1)
      exact Nat.le_trans (by decide) hlow
  have hdigit : c.isDigit = false := by
    cases hd : c.isDigit with
    | false => rfl
    | true =>
      have h9 : c.toNat ≤ 57 := (Char.isDigit_iff_toNat.mp hd).2
      omega
  have hmark : c ≠ ';' ∧ c ≠ '?' := by
    constructor <;> rintro rfl <;> exact absurd hletter (by decide)
  simp [isParameter, hdigit, hmark]

/-- What follows the parameters and the letter at the head of the text, if there is a letter. -/
def afterLetter? (cs : List Char) : Option (List Char) :=
  match cs.dropWhile isParameter with
  | [] => none
  | final :: rest => if final.isAlpha then some rest else none

/-- What follows the control sequence at the head of the text, if there is one. -/
def afterSequence? : List Char → Option (List Char)
  | '\x1b' :: '[' :: body => afterLetter? body
  | _ => none

theorem length_afterLetter? {cs rest : List Char} (h : afterLetter? cs = some rest) :
    rest.length < cs.length := by
  have hle := (List.dropWhile_suffix (l := cs) isParameter).length_le
  unfold afterLetter? at h
  split at h
  · exact absurd h (by simp)
  · rename_i final rest' heq
    split at h
    · obtain rfl := Option.some.inj h
      rw [heq] at hle
      exact hle
    · exact absurd h (by simp)

theorem length_afterSequence? {cs rest : List Char} (h : afterSequence? cs = some rest) :
    rest.length < cs.length := by
  unfold afterSequence? at h
  split at h
  · have := length_afterLetter? h
    simp only [List.length_cons]
    omega
  · exact absurd h (by simp)

theorem afterSequence?_of_ne {c : Char} (h : c ≠ '\x1b') (cs : List Char) :
    afterSequence? (c :: cs) = none := by
  unfold afterSequence?
  split
  · rename_i heq
    exact absurd (List.cons.inj heq).1 h
  · rfl

/-! ## 2. Text without them -/

/-- The characters outside the control sequences. -/
def plain (cs : List Char) : List Char :=
  match cs with
  | [] => []
  | c :: cs =>
    match _h : afterSequence? (c :: cs) with
    | some rest => plain rest
    | none => c :: plain cs
termination_by cs.length
decreasing_by
  · exact length_afterSequence? _h
  · simp

/-- A text without its control sequences. -/
def plainText (s : String) : String := String.ofList (plain s.toList)

theorem plain_of_afterSequence? {cs rest : List Char} (h : afterSequence? cs = some rest) :
    plain cs = plain rest := by
  cases cs with
  | nil => exact absurd h (by simp [afterSequence?])
  | cons c cs =>
    rw [plain]
    split
    · rename_i rest' h'
      rw [h] at h'
      rw [Option.some.inj h']
    · rename_i h'
      rw [h] at h'
      exact absurd h' (by simp)

theorem plain_cons {c : Char} {cs : List Char} (h : afterSequence? (c :: cs) = none) :
    plain (c :: cs) = c :: plain cs := by
  rw [plain]
  split
  · rename_i rest h'
    rw [h] at h'
    exact absurd h' (by simp)
  · rfl

/-- A text without the escape character is kept as it is. -/
theorem plain_of_notMem {cs : List Char} (h : '\x1b' ∉ cs) : plain cs = cs := by
  induction cs with
  | nil => simp [plain]
  | cons c cs ih =>
    have hc : c ≠ '\x1b' := fun e => h (e ▸ List.mem_cons_self)
    rw [plain_cons (afterSequence?_of_ne hc cs), ih fun hm => h (List.mem_cons_of_mem c hm)]

/-- A sequence in front of a text makes no difference. -/
theorem plain_sequence {ps : List Char} {final : Char} (hps : ∀ c ∈ ps, isParameter c = true)
    (hfinal : final.isAlpha = true) (rest : List Char) :
    plain ('\x1b' :: '[' :: (ps ++ final :: rest)) = plain rest := by
  apply plain_of_afterSequence?
  simp [afterSequence?, afterLetter?, List.dropWhile_append_of_pos hps,
    isParameter_of_isAlpha hfinal, hfinal]

end Stencil.Text
