/-
# Quoted texts

A text in quotes, the way messages show a piece of input whose blanks and line breaks have to be
seen: in single quotes, unless it holds a single quote and no double one.  Inside, the backslash and
the quote in use are escaped, and a character without a visible form is written by number.

* `quote_plain`: a text of printable characters without quotes and backslashes stands as it is.
-/
import Stencil.Text.Unprintable

namespace Stencil.Text

/-! ## 1. Numbers of fixed width -/

/-- The last `width` hexadecimal digits of `n`, most significant first, in lower case. -/
def hexDigits : Nat → Nat → List Char
  | 0, _ => []
  | width + 1, n => hexDigits width (n / 16) ++ [Nat.digitChar (n % 16)]

/-! ## 2. Quoting -/

/-- The quote that encloses a text. -/
def quoteMark (cs : List Char) : Char :=
  if cs.contains '\'' && !cs.contains '"' then '"' else '\''

/-- One character inside quotes. -/
def quoteChar (mark c : Char) : List Char :=
  if c = mark ∨ c = '\\' then ['\\', c]
  else if c = '\n' then ['\\', 'n']
  else if c = '\r' then ['\\', 'r']
  else if c = '\t' then ['\\', 't']
  else if isPrintable c then [c]
  else if c.toNat < 0x100 then '\\' :: 'x' :: hexDigits 2 c.toNat
  else if c.toNat < 0x10000 then '\\' :: 'u' :: hexDigits 4 c.toNat
  else '\\' :: 'U' :: hexDigits 8 c.toNat

/-- A text in quotes. -/
def quote (s : String) : String :=
  let mark := quoteMark s.toList
  String.ofList (mark :: s.toList.flatMap (quoteChar mark) ++ [mark])

theorem quoteChar_plain {mark c : Char} (h : isPrintable c = true) (hm : c ≠ mark) (hb : c ≠ '\\') :
    quoteChar mark c = [c] := by
  have hn : c ≠ '\n' := by rintro rfl; exact absurd h (by decide)
  have hr : c ≠ '\r' := by rintro rfl; exact absurd h (by decide)
  have ht : c ≠ '\t' := by rintro rfl; exact absurd h (by decide)
  simp [quoteChar, h, hm, hb, hn, hr, ht]

/-- A text of printable characters without quotes and backslashes stands as it is. -/
theorem quote_plain {cs : List Char}
    (h : ∀ c ∈ cs, isPrintable c = true ∧ c ≠ '\'' ∧ c ≠ '\\') :
    quote (String.ofList cs) = String.ofList ('\'' :: cs ++ ['\'']) := by
  have hq : cs.contains '\'' = false := by
    simpa using fun hc => (h _ hc).2.1 rfl
  have hmark : quoteMark cs = '\'' := by
    simp only [quoteMark, hq, Bool.false_and]; rfl
  have hflat : cs.flatMap (quoteChar '\'') = cs := by
    clear hq hmark
    induction cs with
    | nil => rfl
    | cons c cs ih =>
      have hc := h c (by simp)
      rw [List.flatMap_cons, quoteChar_plain hc.1 hc.2.1 hc.2.2,
        ih fun d hd => h d (List.mem_cons_of_mem c hd)]
      rfl
  simp [quote, hmark, hflat]

end Stencil.Text
