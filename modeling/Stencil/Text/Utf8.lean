/-
# UTF-8

Characters as bytes and back.  The decoder goes through the bytes once; between two bytes it holds
the character that is under way (`Pending`), with the bounds for its next byte, so that overlong
forms, surrogates and code points above U+10FFFF are refused at the byte that rules them out.

A refusal says where the defective sequence starts and how many of its bytes were still in order
(`Utf8Fault`), which is what its message shows.
-/
import Stencil.Text.Quoted

namespace Stencil.Text

/-! ## 1. Encoding -/

/-- The bytes of one character. -/
def encodeChar (c : Char) : List UInt8 :=
  let n := c.toNat
  if n < 0x80 then [.ofNat n]
  else if n < 0x800 then [.ofNat (0xC0 + n / 0x40), .ofNat (0x80 + n % 0x40)]
  else if n < 0x10000 then
    [.ofNat (0xE0 + n / 0x1000), .ofNat (0x80 + n / 0x40 % 0x40), .ofNat (0x80 + n % 0x40)]
  else
    [.ofNat (0xF0 + n / 0x40000), .ofNat (0x80 + n / 0x1000 % 0x40),
      .ofNat (0x80 + n / 0x40 % 0x40), .ofNat (0x80 + n % 0x40)]

def encodeUtf8 (cs : List Char) : List UInt8 :=
  cs.flatMap encodeChar

/-! ## 2. Faults -/

/-- What is wrong with a sequence of bytes. -/
inductive Utf8Defect where
  | invalidStart
  | invalidContinuation
  | unexpectedEnd
  deriving DecidableEq, Repr

/-- A defective sequence: its first byte, where that stands, and the number of bytes it spans. -/
structure Utf8Fault where
  defect : Utf8Defect
  lead : UInt8
  position : Nat
  length : Nat
  deriving DecidableEq, Repr

def Utf8Defect.message : Utf8Defect → String
  | .invalidStart => "invalid start byte"
  | .invalidContinuation => "invalid continuation byte"
  | .unexpectedEnd => "unexpected end of data"

/-- The fault in words; a single byte is shown with its value. -/
def Utf8Fault.message (f : Utf8Fault) : String :=
  let place :=
    if f.length ≤ 1 then
      "byte 0x" ++ String.ofList (hexDigits 2 f.lead.toNat) ++ s!" in position {f.position}"
    else s!"bytes in position {f.position}-" ++ toString (f.position + f.length - 1)
  "'utf-8' codec can't decode " ++ place ++ ": " ++ f.defect.message

/-! ## 3. Decoding -/

/-- A character of which some bytes have been read: `payload` is their contribution, `owed` counts
the bytes still to come, and the next of them lies between `low` and `high`. -/
structure Pending where
  lead : UInt8
  position : Nat
  read : Nat
  payload : Nat
  owed : Nat
  low : Nat
  high : Nat

/-- The fault of a character that breaks off. -/
def Pending.fault (p : Pending) (defect : Utf8Defect) : Utf8Fault :=
  ⟨defect, p.lead, p.position, p.read⟩

/-- What a first byte begins: a character of its own, a longer sequence, or nothing. -/
def begin? (position : Nat) (b : UInt8) : Except Utf8Fault (Char ⊕ Pending) :=
  let n := b.toNat
  let long (payload owed low high : Nat) : Except Utf8Fault (Char ⊕ Pending) :=
    .ok (.inr ⟨b, position, 1, payload, owed, low, high⟩)
  if n < 0x80 then .ok (.inl (Char.ofNat n))
  else if n < 0xC2 then .error ⟨.invalidStart, b, position, 1⟩
  else if n < 0xE0 then long (n - 0xC0) 1 0x80 0xBF
  else if n = 0xE0 then long 0 2 0xA0 0xBF
  else if n = 0xED then long 0xD 2 0x80 0x9F
  else if n < 0xF0 then long (n - 0xE0) 2 0x80 0xBF
  else if n = 0xF0 then long 0 3 0x90 0xBF
  else if n < 0xF4 then long (n - 0xF0) 3 0x80 0xBF
  else if n = 0xF4 then long 4 3 0x80 0x8F
  else .error ⟨.invalidStart, b, position, 1⟩

/-- The next byte of a character under way: the character, or what is still under way. -/
def Pending.continue? (p : Pending) (b : UInt8) : Except Utf8Fault (Char ⊕ Pending) :=
  let n := b.toNat
  if p.low ≤ n ∧ n ≤ p.high then
    let payload := p.payload * 0x40 + (n - 0x80)
    if p.owed ≤ 1 then .ok (.inl (Char.ofNat payload))
    else .ok (.inr ⟨p.lead, p.position, p.read + 1, payload, p.owed - 1, 0x80, 0xBF⟩)
  else .error (p.fault .invalidContinuation)

/-- Decodes the bytes from `position` on, with the character that is under way there. -/
def decodeFrom (position : Nat) : Option Pending → List UInt8 → Except Utf8Fault (List Char)
  | none, [] => .ok []
  | some p, [] => .error (p.fault .unexpectedEnd)
  | under, b :: bs =>
    match under.elim (begin? position b) (·.continue? b) with
    | .error f => .error f
    | .ok (.inl c) => (decodeFrom (position + 1) none bs).map (c :: ·)
    | .ok (.inr p) => decodeFrom (position + 1) (some p) bs

/-- The characters of a sequence of bytes, or its first fault. -/
def decodeUtf8 (bs : List UInt8) : Except Utf8Fault (List Char) :=
  decodeFrom 0 none bs

end Stencil.Text
