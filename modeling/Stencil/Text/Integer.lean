/-
# Integers in texts

Two readers.  `parseInt` reads the values of segment options: an optional sign and ASCII digits, with
white space around them; anything else is no integer, which is an answer and not a fault.
`readInteger` reads a setting: it also takes the decimal digits of every script, and single
underscores between digits, and refuses the rest.

Both stop at numbers of more than `digitLimit` digits (`DigitOverflow`).

* `parseInt_eq_some_iff`: the texts that `parseInt` accepts, and their values.
-/
import Stencil.Text.Blank
import Stencil.Text.Quoted

namespace Stencil.Text

/-! ## 1. Digits -/

/-- The value of an ASCII digit. -/
def asciiDigit? (c : Char) : Option Nat :=
  if '0' ≤ c ∧ c ≤ '9' then some (c.toNat - 48) else none

/-- A number of one digit is the value of that digit. -/
theorem asciiDigit?_digitChar : ∀ n < 10, asciiDigit? (Nat.digitChar n) = some n := by decide

/-- The zeros of the scripts with decimal digits; the other nine digits follow each of them. -/
def decimalZeros : List Nat :=
  [0x30, 0x660, 0x6F0, 0x7C0, 0x966, 0x9E6, 0xA66, 0xAE6, 0xB66, 0xBE6, 0xC66, 0xCE6, 0xD66,
   0xDE6, 0xE50, 0xED0, 0xF20, 0x1040, 0x1090, 0x17E0, 0x1810, 0x1946, 0x19D0, 0x1A80, 0x1A90,
   0x1B50, 0x1BB0, 0x1C40, 0x1C50, 0xA620, 0xA8D0, 0xA900, 0xA9D0, 0xA9F0, 0xAA50, 0xABF0,
   0xFF10, 0x104A0, 0x10D30, 0x11066, 0x110F0, 0x11136, 0x111D0, 0x112F0, 0x11450, 0x114D0,
   0x11650, 0x116C0, 0x11730, 0x118E0, 0x11950, 0x11C50, 0x11D50, 0x11DA0, 0x16A60, 0x16AC0,
   0x16B50, 0x1D7CE, 0x1D7D8, 0x1D7E2, 0x1D7EC, 0x1D7F6, 0x1E140, 0x1E2F0, 0x1E950, 0x1FBF0]

/-- The value of a decimal digit of any script. -/
def decimalDigit? (c : Char) : Option Nat :=
  let n := c.toNat
  (decimalZeros.find? fun z => z ≤ n && n < z + 10).map (n - ·)

/-- The number that a list of digits writes, most significant first. -/
def ofDigits (ds : List Nat) : Nat :=
  ds.foldl (fun n d => 10 * n + d) 0

/-! ## 2. The limit -/

/-- The greatest number of digits that is read. -/
def digitLimit : Nat := 4300

/-- A number with more digits than are read. -/
structure DigitOverflow where
  digits : Nat
  deriving DecidableEq, Repr

def DigitOverflow.message (o : DigitOverflow) : String :=
  s!"Exceeds the limit ({digitLimit} digits) for integer string conversion: " ++
    s!"value has {o.digits} digits; use sys.set_int_max_str_digits() to increase the limit"

/-- The signed number of a list of digits, within the limit. -/
def signedValue (negative : Bool) (ds : List Nat) : Except DigitOverflow Int :=
  if ds.length ≤ digitLimit then
    .ok (if negative then -(ofDigits ds : Int) else (ofDigits ds : Int))
  else .error ⟨ds.length⟩

/-- A text without its sign, and whether that was a minus. -/
def splitSign : List Char → Bool × List Char
  | '-' :: cs => (true, cs)
  | '+' :: cs => (false, cs)
  | cs => (false, cs)

/-! ## 3. Option values -/

/-- The values of a text of ASCII digits, if it is one and not empty. -/
def asciiDigits? (cs : List Char) : Option (List Nat) :=
  if cs = [] then none else cs.mapM asciiDigit?

/-- Reads a plain decimal integer; `none` for any other text. -/
def parseInt (s : String) : Except DigitOverflow (Option Int) :=
  let signed := splitSign (trim s.toList)
  match asciiDigits? signed.2 with
  | some ds => (signedValue signed.1 ds).map some
  | none => .ok none

theorem parseInt_eq_some_iff {s : String} {n : Int} :
    parseInt s = .ok (some n) ↔
      ∃ ds, asciiDigits? (splitSign (trim s.toList)).2 = some ds ∧ ds.length ≤ digitLimit ∧
        (if (splitSign (trim s.toList)).1 then -(ofDigits ds : Int) else (ofDigits ds : Int)) = n := by
  unfold parseInt
  cases hd : asciiDigits? (splitSign (trim s.toList)).2 with
  | none => simp [hd]
  | some ds =>
    by_cases hl : ds.length ≤ digitLimit
    · simp [hd, hl, signedValue, Except.map]
    · simp [hd, hl, signedValue, Except.map]

/-! ## 4. Settings -/

/-- Why a setting is not an integer. -/
inductive IntegerFault where
  | malformed (text : String)
  | tooLong (overflow : DigitOverflow)
  deriving DecidableEq, Repr

/-- The fault in words; the text is quoted, and shown up to 200 characters of the quotation. -/
def IntegerFault.message : IntegerFault → String
  | .malformed text =>
    "invalid literal for int() with base 10: " ++ String.ofList ((quote text).toList.take 200)
  | .tooLong overflow => overflow.message

/-- White space around a setting: the blanks without the information separators. -/
def isNumeralBlank (c : Char) : Bool :=
  isBlankChar c && !(0x1C ≤ c.toNat && c.toNat ≤ 0x1F)

/-- Digits with single underscores between them, and what follows; `none` if an underscore does not
stand between digits or, with `expected`, if no digit is first. -/
def groupedDigits (expected : Bool) : List Char → Option (List Nat × List Char)
  | [] => if expected then none else some ([], [])
  | c :: cs =>
    match decimalDigit? c with
    | some d => (groupedDigits false cs).map fun (ds, rest) => (d :: ds, rest)
    | none =>
      if expected then none
      else if c = '_' then groupedDigits true cs
      else some ([], c :: cs)

/-- Reads the integer of a setting. -/
def readInteger (s : String) : Except IntegerFault Int :=
  let body := ((s.toList.dropWhile isNumeralBlank).reverse.dropWhile isNumeralBlank).reverse
  let (negative, digits) := splitSign body
  match groupedDigits true digits with
  | none => .error (.malformed s)
  | some (ds, rest) =>
    match signedValue negative ds with
    | .error overflow => .error (.tooLong overflow)
    | .ok n => if rest = [] then .ok n else .error (.malformed s)

end Stencil.Text
