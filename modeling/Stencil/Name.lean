/-
# Names

Segments and tokens are named by an ASCII letter followed by ASCII letters, digits and underscores.

A segment without a usable name gets one from a `Namer`, which counts upwards, passes over names
that are taken, and stops at a ceiling.

* `Namer.next_taken`: a name that is handed out was not taken.
-/
import Stencil.Text.Quoted

namespace Stencil

/-! ## 1. Valid names -/

/-- Whether a character may follow the first one of a name. -/
def isNameChar (c : Char) : Bool :=
  c.isAlphanum || c == '_'

/-- Whether a text is a name. -/
def isName (s : String) : Bool :=
  match s.toList with
  | [] => false
  | c :: cs => c.isAlpha && cs.all isNameChar

theorem isName_empty : isName "" = false := rfl

/-! ## 2. Default names -/

/-- Hands out the names `stem1`, `stem2`, …, up to the number `ceiling`; `count` is the last number
that was tried. -/
structure Namer where
  stem : String := "DefaultSegment"
  ceiling : Int := 999
  count : Nat := 0
  deriving DecidableEq, Repr

/-- The request for a default name after the last one. -/
structure NameLimit where
  stem : String
  ceiling : Int
  deriving DecidableEq, Repr

def NameLimit.message (l : NameLimit) : String :=
  s!"More than {l.ceiling} default segment names were requested " ++
    "(prefix " ++ Text.quote l.stem ++ ")"

namespace Namer

def name (n : Namer) (k : Nat) : String :=
  n.stem ++ toString k

def limit (n : Namer) : NameLimit := ⟨n.stem, n.ceiling⟩

/-- The first name after the counter that is not taken, and the namer with its counter there. -/
def next (n : Namer) (taken : List String) : Except NameLimit String × Namer :=
  if n.count < n.ceiling then
    let n' := { n with count := n.count + 1 }
    if n.name n'.count ∈ taken then n'.next taken else (.ok (n.name n'.count), n')
  else (.error n.limit, n)
termination_by (n.ceiling - n.count).toNat
decreasing_by
  simp only [Int.natCast_add, Int.cast_ofNat_Int]
  omega

/-- The namer at the start of its count. -/
def reset (n : Namer) : Namer := { n with count := 0 }

theorem next_taken {n : Namer} {taken : List String} {name : String} {n' : Namer}
    (h : n.next taken = (.ok name, n')) : name ∉ taken := by
  fun_induction next n taken with
  | case1 n _ m _ ih => exact ih h
  | case2 n _ m hm => exact Except.ok.inj (Prod.mk.inj h).1 ▸ hm
  | case3 n _ => exact absurd (Prod.mk.inj h).1 (by simp)

end Namer

end Stencil
