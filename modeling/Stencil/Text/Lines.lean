/-
# Lines of a text

A file is read in two steps: `\r\n` and a lone `\r` become `\n`, and the result is cut at every line
boundary, of which there are nine besides `\r`.  A boundary ends a line, so that a text that ends in
one has no empty line after it.

* `isBoundary_of_mem_splitLines`: no line that is read holds a boundary;
* `splitLines_endLines`: cutting undoes ending each line with `\n`, if no line holds a boundary;
* `unifyNewlines_of_notMem`: without `\r` there is nothing to replace.
-/

namespace Stencil.Text

/-! ## 1. Boundaries -/

/-- Whether a character ends a line. -/
def isBoundary (c : Char) : Bool :=
  let n := c.toNat
  (0x0A ≤ n && n ≤ 0x0D) || (0x1C ≤ n && n ≤ 0x1E) || n == 0x85 || n == 0x2028 || n == 0x2029

/-- The text with `\r\n` and every other `\r` replaced by `\n`. -/
def unifyNewlines : List Char → List Char
  | [] => []
  | '\r' :: '\n' :: cs => '\n' :: unifyNewlines cs
  | '\r' :: cs => '\n' :: unifyNewlines cs
  | c :: cs => c :: unifyNewlines cs

theorem unifyNewlines_of_notMem {cs : List Char} (h : '\r' ∉ cs) : unifyNewlines cs = cs := by
  fun_induction unifyNewlines cs with
  | case1 => rfl
  | case2 => exact absurd List.mem_cons_self h
  | case3 => exact absurd List.mem_cons_self h
  | case4 c cs _ _ ih => rw [ih fun hmem => h (List.mem_cons_of_mem c hmem)]

/-! ## 2. Cutting -/

/-- The lines of a text without their boundaries.  The text holds no `\r`, or every `\r` is a
boundary by itself. -/
def splitLines : List Char → List (List Char)
  | [] => []
  | c :: cs =>
    if isBoundary c then [] :: splitLines cs
    else match splitLines cs with
      | [] => [[c]]
      | line :: rest => (c :: line) :: rest

/-- The lines one after the other, each ended by `\n`. -/
def endLines (lines : List (List Char)) : List Char :=
  lines.flatMap (· ++ ['\n'])

theorem isBoundary_of_mem_splitLines {cs line : List Char} (h : line ∈ splitLines cs) :
    ∀ c ∈ line, isBoundary c = false := by
  induction cs generalizing line with
  | nil => simp [splitLines] at h
  | cons c cs ih =>
    rw [splitLines] at h
    split at h
    · rcases List.mem_cons.mp h with rfl | h
      · simp
      · exact ih h
    · rename_i hc
      split at h
      · obtain rfl := List.mem_singleton.mp h
        intro d hd
        obtain rfl := List.mem_singleton.mp hd
        simpa using hc
      · rename_i first rest hs
        rcases List.mem_cons.mp h with rfl | h
        · intro d hd
          rcases List.mem_cons.mp hd with rfl | hd
          · simpa using hc
          · exact ih (by rw [hs]; exact List.mem_cons_self) d hd
        · exact ih (by rw [hs]; exact List.mem_cons_of_mem _ h)

theorem splitLines_line_append (cs : List Char) {line : List Char}
    (h : ∀ c ∈ line, isBoundary c = false) : splitLines (line ++ '\n' :: cs) = line :: splitLines cs := by
  induction line with
  | nil => simp [splitLines, show isBoundary '\n' = true from rfl]
  | cons c line ih =>
    have hc : isBoundary c = false := h c List.mem_cons_self
    rw [List.cons_append, splitLines, ih fun d hd => h d (List.mem_cons_of_mem c hd)]
    simp [hc]

theorem splitLines_endLines {lines : List (List Char)}
    (h : ∀ line ∈ lines, ∀ c ∈ line, isBoundary c = false) :
    splitLines (endLines lines) = lines := by
  induction lines with
  | nil => rfl
  | cons line lines ih =>
    have := splitLines_line_append (endLines lines) (h line List.mem_cons_self)
    simp only [endLines, List.flatMap_cons, List.append_assoc, List.singleton_append] at this ⊢
    rw [this]
    exact congrArg _ (ih fun l hl => h l (List.mem_cons_of_mem line hl))

end Stencil.Text
