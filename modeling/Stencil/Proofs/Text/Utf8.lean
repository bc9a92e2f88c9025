/-
# Characters and their bytes

The bytes of a character are read back as that character, wherever they stand and whatever comes behind
them.  The first byte says how many follow and between which bounds the next one lies; the bounds are met
by every character that needs so many bytes (`begin?_two`, `begin?_three`, `begin?_four`).  Each byte that
follows brings the next six bits, so that what is still to come is told by the character and a number of
bytes (`Pending.Awaits`), which is what the induction is on.

* `decodeFrom_tail`: the bytes behind the first one make up the character;
* `decodeUtf8_encodeUtf8`: decoding undoes encoding.
-/
import Mathlib.Algebra.Group.Nat.Defs
import Stencil.Text.Utf8

namespace Stencil.Text

/-! ## 1. One byte -/

/-- A byte that completes a character is read as that character. -/
theorem decodeFrom_char (under : Option Pending) {position : Nat} {b : UInt8} {c : Char}
    (h : under.elim (begin? position b) (·.continue? b) = .ok (.inl c)) (bs : List UInt8) :
    decodeFrom position under (b :: bs) = (decodeFrom (position + 1) none bs).map (c :: ·) := by
  rw [decodeFrom, h]

/-- A byte that does not leaves the character under way. -/
theorem decodeFrom_pending (under : Option Pending) {position : Nat} {b : UInt8} {p : Pending}
    (h : under.elim (begin? position b) (·.continue? b) = .ok (.inr p)) (bs : List UInt8) :
    decodeFrom position under (b :: bs) = decodeFrom (position + 1) (some p) bs := by
  rw [decodeFrom, h]

/-! ## 2. The bytes that follow -/

/-- The byte that brings six bits of a code point, with `k` more such bytes behind it. -/
def tailByte (n k : Nat) : UInt8 := .ofNat (0x80 + n / 0x40 ^ k % 0x40)

/-- The last `k` bytes of a code point. -/
def tail (n : Nat) : Nat → List UInt8
  | 0 => []
  | k + 1 => tailByte n k :: tail n k

theorem toNat_tailByte (n k : Nat) : (tailByte n k).toNat = 0x80 + n / 0x40 ^ k % 0x40 := by
  have := Nat.mod_lt (n / 0x40 ^ k) (show 0 < 0x40 by decide)
  exact UInt8.toNat_ofNat_of_lt' (show _ < 0x100 by omega)

/-- The code point is under way, with `k` bytes to come behind the next one, which is within bounds. -/
structure Pending.Awaits (p : Pending) (n k : Nat) : Prop where
  owed : p.owed = k + 1
  payload : p.payload = n / 0x40 ^ (k + 1)
  bounds : p.low ≤ 0x80 + n / 0x40 ^ k % 0x40 ∧ 0x80 + n / 0x40 ^ k % 0x40 ≤ p.high

namespace Pending.Awaits

variable {p : Pending} {n k : Nat}

/-- The bits that are there and the next six. -/
theorem payload_next (h : p.Awaits n k) :
    p.payload * 0x40 + ((tailByte n k).toNat - 0x80) = n / 0x40 ^ k := by
  -- six bits less than the ones that are there
  have hdiv : n / 0x40 ^ (k + 1) = n / 0x40 ^ k / 0x40 := by
    rw [Nat.pow_succ, Nat.div_div_eq_div_mul]
  rw [toNat_tailByte, h.payload, hdiv]
  omega

/-- The next byte brings the code point one byte on. -/
theorem continue? (h : p.Awaits n (k + 1)) :
    ∃ p', p.continue? (tailByte n (k + 1)) = .ok (.inr p') ∧ p'.Awaits n k := by
  let b := tailByte n (k + 1)
  let p' : Pending :=
    ⟨p.lead, p.position, p.read + 1, p.payload * 0x40 + (b.toNat - 0x80), p.owed - 1, 0x80, 0xBF⟩
  -- more than one byte is to come, so that this is not the last
  have howed : ¬ p.owed ≤ 1 := by
    rw [h.owed]
    omega
  have hsix := Nat.mod_lt (n / 0x40 ^ k) (show 0 < 0x40 by decide)
  refine ⟨p', ?_, ⟨?_, h.payload_next, Nat.le_add_right _ _, ?_⟩⟩
  · have hbounds := h.bounds
    rw [← toNat_tailByte] at hbounds
    rw [Pending.continue?, if_pos hbounds, if_neg howed]
  · exact congrArg (· - 1) h.owed
  · exact Nat.le_of_lt_succ (Nat.add_lt_add_left hsix 0x80)

/-- The last byte ends it. -/
theorem continue?_last (h : p.Awaits n 0) :
    p.continue? (tailByte n 0) = .ok (.inl (Char.ofNat n)) := by
  have hpayload := h.payload_next
  rw [toNat_tailByte, Nat.pow_zero, Nat.div_one] at hpayload
  have hbounds := h.bounds
  rw [Nat.pow_zero, Nat.div_one] at hbounds
  rw [Pending.continue?, toNat_tailByte, Nat.pow_zero, Nat.div_one, if_pos hbounds,
    if_pos (Nat.le_of_eq h.owed), hpayload]

end Pending.Awaits

/-- **The bytes behind the first one make up the character**, by induction on how many there are. -/
theorem decodeFrom_tail {p : Pending} {n k : Nat} (h : p.Awaits n k) (position : Nat)
    (bs : List UInt8) :
    decodeFrom position (some p) (tail n (k + 1) ++ bs)
      = (decodeFrom (position + (k + 1)) none bs).map (Char.ofNat n :: ·) := by
  induction k generalizing p position with
  | zero => exact decodeFrom_char (some p) h.continue?_last bs
  | succ k ih =>
    obtain ⟨p', hp', hawaits⟩ := h.continue?
    rw [tail, List.cons_append, decodeFrom_pending (some p) hp', ih hawaits, Nat.add_assoc,
      Nat.add_comm 1]

/-! ## 3. The first byte -/

/-- What a first byte begins is the code point whose first bits it brings and whose next six are within
its bounds. -/
theorem exists_awaits {b : UInt8} {position payload low high n k : Nat}
    (hpayload : payload = n / 0x40 ^ (k + 1)) (hlow : low ≤ 0x80 + n / 0x40 ^ k % 0x40)
    (hhigh : 0x80 + n / 0x40 ^ k % 0x40 ≤ high) :
    ∃ p, (.ok (.inr ⟨b, position, 1, payload, k + 1, low, high⟩) : Except Utf8Fault (Char ⊕ Pending))
      = .ok (.inr p) ∧ p.Awaits n k :=
  ⟨_, rfl, rfl, hpayload, hlow, hhigh⟩

theorem begin?_one {n : Nat} (h : n < 0x80) (position : Nat) :
    begin? position (.ofNat n) = .ok (.inl (Char.ofNat n)) := by
  have hbyte := UInt8.toNat_ofNat_of_lt' (show n < 0x100 by omega)
  rw [begin?, hbyte]
  exact if_pos h

theorem begin?_two {n : Nat} (hlow : 0x80 ≤ n) (hhigh : n < 0x800) (position : Nat) :
    ∃ p, begin? position (.ofNat (0xC0 + n / 0x40)) = .ok (.inr p) ∧ p.Awaits n 0 := by
  have hbyte := UInt8.toNat_ofNat_of_lt' (show 0xC0 + n / 0x40 < 0x100 by omega)
  rw [begin?, hbyte]
  dsimp only
  rw [if_neg (by omega), if_neg (by omega), if_pos (by omega)]
  exact exists_awaits (by omega) (by omega) (by omega)

/-- The second byte has bounds of its own where a shorter sequence would do and where there are no
characters. -/
theorem begin?_three {n : Nat} (hlow : 0x800 ≤ n) (hhigh : n < 0x10000)
    (hvalid : n < 0xD800 ∨ 0xDFFF < n) (position : Nat) :
    ∃ p, begin? position (.ofNat (0xE0 + n / 0x1000)) = .ok (.inr p) ∧ p.Awaits n 1 := by
  have hbyte := UInt8.toNat_ofNat_of_lt' (show 0xE0 + n / 0x1000 < 0x100 by omega)
  rw [begin?, hbyte]
  dsimp only
  rw [if_neg (by omega), if_neg (by omega), if_neg (by omega)]
  by_cases hfirst : n / 0x1000 = 0
  · rw [if_pos (by omega)]
    exact exists_awaits (by omega) (by omega) (by omega)
  rw [if_neg (by omega)]
  by_cases hgap : n / 0x1000 = 0xD
  · rw [if_pos (by omega)]
    exact exists_awaits (by omega) (by omega) (by omega)
  · rw [if_neg (by omega), if_pos (by omega)]
    exact exists_awaits (by omega) (by omega) (by omega)

/-- Here the second byte also keeps the code point below the last one. -/
theorem begin?_four {n : Nat} (hlow : 0x10000 ≤ n) (hhigh : n < 0x110000) (position : Nat) :
    ∃ p, begin? position (.ofNat (0xF0 + n / 0x40000)) = .ok (.inr p) ∧ p.Awaits n 2 := by
  have hbyte := UInt8.toNat_ofNat_of_lt' (show 0xF0 + n / 0x40000 < 0x100 by omega)
  rw [begin?, hbyte]
  dsimp only
  rw [if_neg (by omega), if_neg (by omega), if_neg (by omega), if_neg (by omega), if_neg (by omega),
    if_neg (by omega)]
  by_cases hfirst : n / 0x40000 = 0
  · rw [if_pos (by omega)]
    exact exists_awaits (by omega) (by omega) (by omega)
  rw [if_neg (by omega)]
  by_cases hlast : n / 0x40000 = 4
  · rw [if_neg (by omega), if_pos (by omega)]
    exact exists_awaits (by omega) (by omega) (by omega)
  · rw [if_pos (by omega)]
    exact exists_awaits (by omega) (by omega) (by omega)

/-! ## 4. Characters and texts -/

/-- A character is a byte of its own, or a first byte and those that follow. -/
theorem encodeChar_eq (c : Char) :
    encodeChar c =
      if c.toNat < 0x80 then [.ofNat c.toNat]
      else if c.toNat < 0x800 then .ofNat (0xC0 + c.toNat / 0x40) :: tail c.toNat 1
      else if c.toNat < 0x10000 then .ofNat (0xE0 + c.toNat / 0x1000) :: tail c.toNat 2
      else .ofNat (0xF0 + c.toNat / 0x40000) :: tail c.toNat 3 := by
  simp [encodeChar, tail, tailByte]

/-- As many bytes follow as are called for. -/
theorem length_tail (n k : Nat) : (tail n k).length = k := by
  induction k with
  | zero => rfl
  | succ k ih => rw [tail, List.length_cons, ih]

/-- A first byte and the bytes that it calls for make up the character. -/
theorem decodeFrom_long {c : Char} {b : UInt8} {position k : Nat}
    (h : ∃ p, begin? position b = .ok (.inr p) ∧ p.Awaits c.toNat k) (bs : List UInt8) :
    decodeFrom position none (b :: tail c.toNat (k + 1) ++ bs)
      = (decodeFrom (position + (b :: tail c.toNat (k + 1)).length) none bs).map (c :: ·) := by
  obtain ⟨p, hbegin, hawaits⟩ := h
  rw [List.cons_append, decodeFrom_pending none hbegin, decodeFrom_tail hawaits,
    Char.ofNat_toNat, List.length_cons, length_tail, Nat.add_assoc, Nat.add_comm 1]

/-- **The bytes of a character are read back as that character**, wherever they stand and whatever comes
behind them. -/
theorem decodeFrom_encodeChar (c : Char) (position : Nat) (bs : List UInt8) :
    decodeFrom position none (encodeChar c ++ bs)
      = (decodeFrom (position + (encodeChar c).length) none bs).map (c :: ·) := by
  -- no character lies in the gap, which three bytes would otherwise reach
  have hvalid : c.toNat < 0xD800 ∨ 0xDFFF < c.toNat ∧ c.toNat < 0x110000 := c.valid
  rw [encodeChar_eq]
  split
  · rename_i hone
    have hchar := begin?_one hone position
    rw [Char.ofNat_toNat] at hchar
    exact decodeFrom_char none hchar bs
  rename_i hone
  split
  · rename_i htwo
    exact decodeFrom_long (begin?_two (Nat.le_of_not_lt hone) htwo position) bs
  rename_i htwo
  split
  · rename_i hthree
    exact decodeFrom_long
      (begin?_three (Nat.le_of_not_lt htwo) hthree (hvalid.imp_right And.left) position) bs
  · rename_i hthree
    have hhigh : c.toNat < 0x110000 := by omega
    exact decodeFrom_long (begin?_four (Nat.le_of_not_lt hthree) hhigh position) bs

/-- Whole texts are read back, wherever they stand. -/
theorem decodeFrom_encodeUtf8 (cs : List Char) (position : Nat) :
    decodeFrom position none (encodeUtf8 cs) = .ok cs := by
  -- over the characters; the position moves on with each
  induction cs generalizing position with
  | nil => rfl
  | cons c cs ih =>
    rw [encodeUtf8, List.flatMap_cons, decodeFrom_encodeChar]
    exact congrArg _ (ih _)

/-- **Decoding undoes encoding.** -/
theorem decodeUtf8_encodeUtf8 (cs : List Char) : decodeUtf8 (encodeUtf8 cs) = .ok cs :=
  decodeFrom_encodeUtf8 cs 0

end Stencil.Text
