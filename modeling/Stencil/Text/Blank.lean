/-
# Blank characters

The white space that the whole library agrees on: a delimiter made of it is refused, a segment
name made of it cannot be rendered, and it is stripped around token names and option values.

The class is the Unicode property White_Space together with the four information separators
U+001C to U+001F.  Zero-width characters (U+200B, U+FEFF) are not in it.

* `trim_append_blank`, `trim_blank_append`: blanks at the ends make no difference to `trim`;
* `isBlank_iff_strip`: a text is blank exactly when stripping leaves nothing of it.
-/

namespace Stencil.Text

/-! ## 1. The class -/

/-- Whether a character is white space. -/
def isBlankChar (c : Char) : Bool :=
  let n := c.toNat
  (0x09 ≤ n && n ≤ 0x0D) || (0x1C ≤ n && n ≤ 0x20) || n == 0x85 || n == 0xA0 || n == 0x1680 ||
    (0x2000 ≤ n && n ≤ 0x200A) || n == 0x2028 || n == 0x2029 || n == 0x202F || n == 0x205F ||
    n == 0x3000

/-! ## 2. Stripping -/

/-- The characters without the blanks at either end. -/
def trim (cs : List Char) : List Char :=
  ((cs.dropWhile isBlankChar).reverse.dropWhile isBlankChar).reverse

/-- A text without the white space at either end. -/
def strip (s : String) : String :=
  String.ofList (trim s.toList)

/-- Whether a text holds white space only; the empty text does. -/
def isBlank (s : String) : Bool :=
  s.toList.all isBlankChar

theorem dropWhile_append_of_all {p : Char → Bool} {xs ys : List Char} (h : xs.all p = true) :
    (xs ++ ys).dropWhile p = ys.dropWhile p := by
  induction xs with
  | nil => rfl
  | cons x xs ih =>
    simp only [List.all_cons, Bool.and_eq_true] at h
    simp [h.1, ih h.2]

theorem dropWhile_eq_nil_iff {p : Char → Bool} {xs : List Char} :
    xs.dropWhile p = [] ↔ xs.all p = true := by
  induction xs with
  | nil => simp
  | cons x xs ih => by_cases h : p x <;> simp [h, ih]

theorem trim_blank_append {xs ys : List Char} (h : xs.all isBlankChar = true) :
    trim (xs ++ ys) = trim ys := by
  simp [trim, dropWhile_append_of_all h]

theorem trim_append_blank {xs ys : List Char} (h : ys.all isBlankChar = true) :
    trim (xs ++ ys) = trim xs := by
  unfold trim
  rw [List.dropWhile_append]
  split
  · rename_i hx
    have hx' : xs.dropWhile isBlankChar = [] := by simpa using hx
    have hy : ys.dropWhile isBlankChar = [] := dropWhile_eq_nil_iff.mpr h
    simp [hx', hy]
  · rw [List.reverse_append, dropWhile_append_of_all (by simpa using h)]

theorem trim_eq_nil_iff {xs : List Char} : trim xs = [] ↔ xs.all isBlankChar = true := by
  constructor
  · intro h
    have h1 : ((xs.dropWhile isBlankChar).reverse).all isBlankChar = true :=
      dropWhile_eq_nil_iff.mp (by simpa [trim] using h)
    have h2 : (xs.dropWhile isBlankChar).all isBlankChar = true := by simpa using h1
    have h3 : (xs.dropWhile isBlankChar).dropWhile isBlankChar = [] := dropWhile_eq_nil_iff.mpr h2
    cases hd : xs.dropWhile isBlankChar with
    | nil => exact dropWhile_eq_nil_iff.mp hd
    | cons y ys =>
      exfalso
      have hy : isBlankChar y = false := by
        have := List.head?_dropWhile_not isBlankChar xs
        simpa [hd] using this
      simp [hd, hy] at h3
  · intro h
    have : xs.dropWhile isBlankChar = [] := dropWhile_eq_nil_iff.mpr h
    simp [trim, this]

/-- A text is blank exactly when stripping leaves nothing of it. -/
theorem isBlank_iff_strip {s : String} : isBlank s = true ↔ strip s = "" := by
  unfold isBlank strip
  rw [← trim_eq_nil_iff]
  constructor
  · intro h; rw [h]
  · intro h
    have := congrArg String.toList h
    simpa using this

end Stencil.Text
