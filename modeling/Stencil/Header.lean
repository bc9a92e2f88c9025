/-
# Segment headers

    ### SegmentName FTI=1 PAD=Separator TAB=2

The name starts in column 5; options follow it, separated by blanks or commas.  A header never ends
the reading of a template: whatever is wrong with the name or with an option is noted, and a default
takes its place.

A header is read in three steps.  `Header.ofString` takes the line apart, `settle` gives the segment
a name, and `readOptions` works through the options, whose notices are already about that name.

* `readOption_written`: an option that is written out is read back;
* `readOptions_malformed`: a malformed option makes no difference to the others.
-/
import Stencil.Column
import Stencil.Name

namespace Stencil

/-! ## 1. The parts of a header -/

/-- What stands where the name of a segment belongs. -/
inductive NameField where
  | missing
  | given (name : String)
  deriving DecidableEq, Repr

structure Header where
  name : NameField
  options : List String
  deriving DecidableEq, Repr

namespace Header

/-- Whether a character separates the fields of a header. -/
def isSeparator (c : Char) : Bool := c = ' ' || c = ','

/-- The fields of a line: the runs of characters between separators. -/
def fieldsOf (cs : List Char) : List (List Char) :=
  (cs.splitOnP isSeparator).filter (· ≠ [])

/-- Takes a header line apart.  Only a name that starts in column 5 is one; a line that ends there
has no options. -/
def ofString (line : String) : Header :=
  let cs := line.toList
  if cs.length ≤ 4 then ⟨.missing, []⟩
  else
    let fields := (fieldsOf cs).map String.ofList
    match cs[4]?, fields with
    | some ' ', _ => ⟨.missing, fields.drop 1⟩
    | _, _ :: name :: options => ⟨.given name, options⟩
    | _, _ => ⟨.missing, []⟩

/-! ## 2. The name -/

/-- The name that a segment gets, and the notice of a default name. -/
def settle (h : Header) (namer : Namer) (taken : List String) :
    Except NameLimit (String × List Message) × Namer :=
  match h.name with
  | .missing =>
    let (named, namer) := namer.next taken
    (named.map fun name => (name, [.nameNotInColumnFive name]), namer)
  | .given name =>
    if isName name then (.ok (name, []), namer)
    else
      let (named, namer) := namer.next taken
      (named.map fun default => (default, [.invalidSegmentName name default]), namer)

/-! ## 3. Options -/

/-- Why an option is passed over. -/
inductive OptionFault where
  | malformed
  | withoutKey
  | unknown
  | withoutValue (key : OptionKey)
  deriving DecidableEq, Repr

/-- What there is to say about a malformed option of a segment. -/
def OptionFault.message (segment option : String) : OptionFault → Message
  | malformed => .malformedOption segment option
  | withoutKey => .optionWithoutKey segment
  | unknown => .unknownOption segment option
  | withoutValue key => .optionWithoutValue segment key

/-- Takes an option apart at its first equals sign. -/
def readOption (option : String) : Except OptionFault (OptionKey × String) :=
  let key := option.toList.takeWhile (· ≠ '=')
  match option.toList.dropWhile (· ≠ '=') with
  | [] => .error .malformed
  | _ :: value =>
    if key = [] then .error .withoutKey
    else
      match OptionKey.ofName? (String.ofList key) with
      | none => .error .unknown
      | some k => if value = [] then .error (.withoutValue k) else .ok (k, String.ofList value)

/-- Puts the value of an option into the control of a segment, unless it is refused. -/
def setOption (segment : String) (c : Control) (key : OptionKey) (value : String) :
    Except Text.DigitOverflow (Control × List Message) :=
  match key with
  | .firstTimeIndent =>
    (Column.readIndent (some value)).map fun
      | .ok n =>
        ({ c with firstTimeIndent := n }, if n = 0 then [.zeroFirstTimeIndent segment] else [])
      | .error m => (c, [m])
  | .padSegment =>
    .ok (if isName value then ({ c with padSegment := value }, [])
      else (c, [.invalidPadName segment value]))
  | .tabSize =>
    (Column.tabSizeOption (some value)).map fun
      | (some n, ms) => ({ c with tabSize := some n }, ms)
      | (none, ms) => (c, ms)

/-- Works through the options of a segment, given the keys that have occurred and the control so
far.  The first option with a key decides, also if its value is refused. -/
def readOptionsFrom (segment : String) (found : List OptionKey) (c : Control) :
    List String → List Message × Except Text.DigitOverflow Control
  | [] => ([], .ok c)
  | option :: options =>
    match readOption option with
    | .error fault =>
      let (ms, result) := readOptionsFrom segment found c options
      (fault.message segment option :: ms, result)
    | .ok (key, value) =>
      if key ∈ found then
        let (ms, result) := readOptionsFrom segment found c options
        (.duplicateOption segment key :: ms, result)
      else
        match setOption segment c key value with
        | .error overflow => ([], .error overflow)
        | .ok (c, said) =>
          let (ms, result) := readOptionsFrom segment (key :: found) c options
          (said ++ ms, result)

/-- The control that the options of a segment describe, and what there is to say about them. -/
def readOptions (segment : String) (options : List String) :
    List Message × Except Text.DigitOverflow Control :=
  readOptionsFrom segment [] {} options

theorem readOption_written (k : OptionKey) {value : String} (h : value ≠ "") :
    readOption (k.name ++ "=" ++ value) = .ok (k, value) := by
  have hkey : ∀ c ∈ k.name.toList, decide (c ≠ '=') = true := by
    cases k <;> simp [OptionKey.name]
  have hne : k.name.toList ≠ [] := by cases k <;> simp [OptionKey.name]
  have hv : value.toList ≠ [] := fun e => h (String.toList_eq_nil_iff.mp e)
  simp only [readOption, String.toList_append, List.append_assoc]
  rw [List.takeWhile_append_of_pos hkey, List.dropWhile_append_of_pos hkey]
  simp [hne, hv, OptionKey.ofName?_name]

theorem readOptions_malformed {segment option : String} {found : List OptionKey} {c : Control}
    {options : List String} {fault : OptionFault} (h : readOption option = .error fault) :
    (readOptionsFrom segment found c (option :: options)).2
      = (readOptionsFrom segment found c options).2 := by
  rw [readOptionsFrom, h]

end Header

end Stencil
