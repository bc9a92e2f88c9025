/-
# Reading JSON

The reader of JSON texts.  Members of an object that share a name are merged, the last value in the
place of the first.  Besides the standard it takes `NaN`, `Infinity` and `-Infinity`; a text that
begins with a byte order mark is refused, and so is one that nests arrays and objects too deep.

Reading consumes characters, and every function here returns what is left.  Strings go by the length
of the rest, nested values by a count of steps that no text of its length exceeds.
-/
import Stencil.Json.Basic
import Stencil.Table
import Stencil.Text.Integer

namespace Stencil

/-- A kind of value with others inside. -/
inductive Container where
  | array
  | object
  deriving DecidableEq, Repr

def Container.name : Container → String
  | array => "array"
  | object => "object"

/-- Why a text is not read as JSON. -/
inductive JsonFault where
  | malformed
  | tooManyDigits (overflow : Text.DigitOverflow)
  | tooDeep (container : Container)
  deriving DecidableEq, Repr

/-- The fault in words; for a text that is not JSON there are none. -/
def JsonFault.message? : JsonFault → Option String
  | malformed => none
  | tooManyDigits overflow => overflow.message
  | tooDeep container =>
    s!"maximum recursion depth exceeded while decoding a JSON {container.name}" ++
      " from a unicode string"

namespace Json

open Text (DigitOverflow)

/-! ## 1. White space and literals -/

/-- The text from its first character on that is not JSON white space. -/
def skipBlank (cs : List Char) : List Char :=
  cs.dropWhile fun c => c = ' ' ∨ c = '\t' ∨ c = '\n' ∨ c = '\r'

/-- The rest of the text after the given word, if it begins with that. -/
def after? (word : String) (cs : List Char) : Option (List Char) :=
  if word.toList.isPrefixOf cs then some (cs.drop word.toList.length) else none

/-! ## 2. Strings -/

/-- The value of a hexadecimal digit. -/
def hexDigit? (c : Char) : Option Nat :=
  if '0' ≤ c ∧ c ≤ '9' then some (c.toNat - 48)
  else if 'a' ≤ c ∧ c ≤ 'f' then some (c.toNat - 87)
  else if 'A' ≤ c ∧ c ≤ 'F' then some (c.toNat - 55)
  else none

/-- The number at the head of the text that its four hexadecimal digits write, and the rest. -/
def unit? : (cs : List Char) → Option (Nat × { rest : List Char // rest.length < cs.length })
  | a :: b :: c :: d :: rest =>
    match hexDigit? a, hexDigit? b, hexDigit? c, hexDigit? d with
    | some a, some b, some c, some d =>
      some (a * 0x1000 + b * 0x100 + c * 0x10 + d, ⟨rest, by simp only [List.length_cons]; omega⟩)
    | _, _, _, _ => none
  | _ => none

/-- The character of a numeric escape, after its `u`.  A high surrogate joins the low one that
follows it; a surrogate without a partner becomes the replacement character. -/
def numericEscape? (cs : List Char) :
    Option (Char × { rest : List Char // rest.length < cs.length }) :=
  match unit? cs with
  | none => none
  | some (n, ⟨rest, hrest⟩) =>
    if 0xD800 ≤ n ∧ n < 0xDC00 then
      match rest, hrest with
      | '\\' :: 'u' :: more, hmore =>
        match unit? more with
        | none => none
        | some (low, ⟨final, hfinal⟩) =>
          if 0xDC00 ≤ low ∧ low < 0xE000 then
            some (Char.ofNat (0x10000 + (n - 0xD800) * 0x400 + (low - 0xDC00)),
              ⟨final, by simp only [List.length_cons] at hmore; omega⟩)
          else some ('\uFFFD', ⟨'\\' :: 'u' :: more, hmore⟩)
      | rest, hrest => some ('\uFFFD', ⟨rest, hrest⟩)
    else if 0xDC00 ≤ n ∧ n < 0xE000 then some ('\uFFFD', ⟨rest, hrest⟩)
    else some (Char.ofNat n, ⟨rest, hrest⟩)

/-- The character of an escape, after its backslash. -/
def escape? : (cs : List Char) → Option (Char × { rest : List Char // rest.length < cs.length })
  | [] => none
  | c :: cs =>
    let plain (d : Char) : Option (Char × { rest : List Char // rest.length < (c :: cs).length }) :=
      some (d, ⟨cs, by simp⟩)
    match c with
    | '"' => plain '"'
    | '\\' => plain '\\'
    | '/' => plain '/'
    | 'b' => plain '\x08'
    | 'f' => plain '\x0c'
    | 'n' => plain '\n'
    | 'r' => plain '\r'
    | 't' => plain '\t'
    | 'u' => (numericEscape? cs).map fun (d, rest) =>
      (d, ⟨rest.1, Nat.lt_succ_of_lt rest.2⟩)
    | _ => none

/-- The characters of a string up to its closing quote, and what follows that. -/
def stringBody? (cs : List Char) : Option (List Char × List Char) :=
  match cs with
  | [] => none
  | c :: cs =>
    if c = '"' then some ([], cs)
    else if c.toNat < 0x20 then none
    else if c = '\\' then
      match escape? cs with
      | none => none
      | some (d, ⟨rest, _⟩) => (stringBody? rest).map fun (ds, end_) => (d :: ds, end_)
    else (stringBody? cs).map fun (ds, end_) => (c :: ds, end_)
termination_by cs.length
decreasing_by
  all_goals simp only [List.length_cons]
  all_goals omega

/-! ## 3. Numbers -/

/-- The longest run of ASCII digits at the head of the text, and the rest. -/
def digitRun (cs : List Char) : List Nat × List Char :=
  ((cs.takeWhile Char.isDigit).map (·.toNat - 48), cs.dropWhile Char.isDigit)

/-- The digits after a decimal point, if the text has both; none otherwise. -/
def fraction (cs : List Char) : Option (List Nat) × List Char :=
  match cs with
  | '.' :: rest =>
    let (ds, rest') := digitRun rest
    if ds = [] then (none, cs) else (some ds, rest')
  | _ => (none, cs)

/-- The exponent at the head of the text, if there is a complete one. -/
def exponent (cs : List Char) : Option Int × List Char :=
  match cs with
  | c :: rest =>
    if c = 'e' ∨ c = 'E' then
      let (negative, digits) := Text.splitSign rest
      let (ds, rest') := digitRun digits
      if ds = [] then (none, cs)
      else
        let n : Int := Text.ofDigits ds
        (some (if negative then -n else n), rest')
    else (none, cs)
  | [] => (none, cs)

/-- The number at the head of the text.  A number without fraction and exponent is an integer; no
integer begins with a zero and goes on. -/
def readNumber (cs : List Char) : Except JsonFault (Json × List Char) :=
  let (negative, body) : Bool × List Char :=
    match cs with
    | '-' :: rest => (true, rest)
    | _ => (false, cs)
  let (whole, rest) : List Nat × List Char :=
    match body with
    | '0' :: rest => ([0], rest)
    | _ => digitRun body
  if whole = [] then .error .malformed
  else
    let (places, rest) := fraction rest
    let (power, rest) := exponent rest
    match places, power with
    | none, none =>
      match Text.signedValue negative whole with
      | .ok n => .ok (integer n, rest)
      | .error overflow => .error (.tooManyDigits overflow)
    | places, power =>
      let places := places.getD []
      let digits := Text.ofDigits (whole ++ places)
      .ok (number (Binary64.ofDecimal negative digits (power.getD 0 - places.length)), rest)

/-! ## 4. Values -/

/-- How many arrays and objects may be open at a time.  Each is read within the call for the one around
it; calls are nested at most 1000 deep, and ten are taken to be open when the reading begins. -/
def maxDepth : Nat := 990

mutual

/-- The value at the head of the text, with room for so many levels of arrays and objects. -/
def readValue : Nat → Nat → List Char → Except JsonFault (Json × List Char)
  | 0, _, _ => .error .malformed
  | steps + 1, room, cs =>
    match cs with
    | '"' :: rest =>
      match stringBody? rest with
      | some (ds, rest) => .ok (string (String.ofList ds), rest)
      | none => .error .malformed
    | '[' :: rest =>
      match room with
      | 0 => .error (.tooDeep .array)
      | room + 1 =>
        match skipBlank rest with
        | ']' :: rest => .ok (array [], rest)
        | rest => readItems steps room [] rest
    | '\x7b' :: rest =>
      match room with
      | 0 => .error (.tooDeep .object)
      | room + 1 =>
        match skipBlank rest with
        | '\x7d' :: rest => .ok (object [], rest)
        | rest => readMembers steps room [] rest
    | _ =>
      let literals : List (String × Json) :=
        [("null", null), ("true", bool true), ("false", bool false),
          ("NaN", number .notANumber), ("Infinity", number (.infinite false)),
          ("-Infinity", number (.infinite true))]
      match literals.findSome? fun (word, v) => (after? word cs).map fun rest => (v, rest) with
      | some found => .ok found
      | none => readNumber cs

/-- The items of an array from one item on, after those already read. -/
def readItems : Nat → Nat → List Json → List Char → Except JsonFault (Json × List Char)
  | 0, _, _, _ => .error .malformed
  | steps + 1, room, read, cs =>
    match readValue steps room cs with
    | .error fault => .error fault
    | .ok (v, rest) =>
      match skipBlank rest with
      | ',' :: rest => readItems steps room (v :: read) (skipBlank rest)
      | ']' :: rest => .ok (array (v :: read).reverse, rest)
      | _ => .error .malformed

/-- The members of an object from one member on, after those already read. -/
def readMembers :
    Nat → Nat → Table String Json → List Char → Except JsonFault (Json × List Char)
  | 0, _, _, _ => .error .malformed
  | steps + 1, room, read, cs =>
    match cs with
    | '"' :: rest =>
      match stringBody? rest with
      | none => .error .malformed
      | some (name, rest) =>
        match skipBlank rest with
        | ':' :: rest =>
          match readValue steps room (skipBlank rest) with
          | .error fault => .error fault
          | .ok (v, rest) =>
            let read := read.put (String.ofList name) v
            match skipBlank rest with
            | ',' :: rest => readMembers steps room read (skipBlank rest)
            | '\x7d' :: rest => .ok (object read, rest)
            | _ => .error .malformed
        | _ => .error .malformed
    | _ => .error .malformed

end

/-- The value that a whole text writes. -/
def read (cs : List Char) : Except JsonFault Json :=
  if cs.head? = some '\uFEFF' then .error .malformed
  else
    match readValue (2 * cs.length + 2) maxDepth (skipBlank cs) with
    | .error fault => .error fault
    | .ok (v, rest) => if skipBlank rest = [] then .ok v else .error .malformed

end Json

end Stencil
