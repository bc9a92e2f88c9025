/-
# Segments

What a template consists of: named segments, each with its text lines and the options of its header.
Indents are in tab units; they become columns only when a line is rendered.

* `Control.padIsDue_iff`: when a render of a segment is preceded by one of its pad.
-/
import Stencil.Table
import Stencil.Text.CaseMapping

namespace Stencil

/-! ## 1. Text lines -/

/-- A text line.  A relative one moves the column from where the line before it left it, an absolute
one sets it; a one-time line moves no other line. -/
structure TextItem where
  indent : Int
  isRelative : Bool
  isOneTime : Bool
  text : String
  deriving DecidableEq, Repr

/-! ## 2. Options -/

/-- The options of a segment header. -/
inductive OptionKey where
  | firstTimeIndent
  | padSegment
  | tabSize
  deriving DecidableEq, Repr

namespace OptionKey

/-- The key as it is written in a header. -/
def name : OptionKey → String
  | firstTimeIndent => "FTI"
  | padSegment => "PAD"
  | tabSize => "TAB"

/-- The option with the given key, in letters of either case. -/
def ofName? (key : String) : Option OptionKey :=
  [firstTimeIndent, padSegment, tabSize].find? fun k => k.name == Text.upper key

theorem ofName?_name (k : OptionKey) : ofName? k.name = some k := by
  cases k <;> decide +kernel

end OptionKey

/-- The options in force for a segment, and whether it is still to be rendered for the first time.
An empty `padSegment` means that there is no pad. -/
structure Control where
  isFirstTime : Bool := true
  firstTimeIndent : Int := 0
  padSegment : String := ""
  tabSize : Option Int := none
  deriving DecidableEq, Repr

namespace Control

/-- Whether the pad goes before the next render: a pad stands between renders, never before the
first. -/
def padIsDue (c : Control) : Bool :=
  c.padSegment ≠ "" && !c.isFirstTime

/-- The options in one line. -/
def text (c : Control) : String :=
  let first := if c.isFirstTime then "True" else "False"
  let tab := match c.tabSize with
    | none => "None"
    | some n => toString n
  s!"Is first time: {first} / FTI: {c.firstTimeIndent} / PAD: {c.padSegment} / TAB: {tab}"

theorem padIsDue_iff {c : Control} :
    c.padIsDue = true ↔ c.padSegment ≠ "" ∧ c.isFirstTime = false := by
  simp [padIsDue]

end Control

/-! ## 3. Segments and templates -/

/-- A segment: its options and its text lines. -/
structure Segment where
  control : Control := {}
  items : List TextItem := []
  deriving DecidableEq, Repr

/-- The segments of a template by name, in the order of their headers. -/
abbrev Template := Table String Segment

namespace Template

/-- The template with one segment changed, if it is there. -/
def modify (t : Template) (name : String) (f : Segment → Segment) : Template :=
  t.map fun (k, s) => if k = name then (k, f s) else (k, s)

/-- The template with every segment to be rendered for the first time. -/
def startOver (t : Template) : Template :=
  t.map fun (k, s) => (k, { s with control := { s.control with isFirstTime := true } })

theorem keys_startOver (t : Template) : t.startOver.keys = t.keys := by
  simp only [startOver, Table.keys, List.map_map]
  rfl

theorem get?_modify_self (t : Template) (name : String) (f : Segment → Segment) :
    (t.modify name f).get? name = (t.get? name).map f := by
  induction t with
  | nil => rfl
  | cons p t ih =>
    simp only [modify, List.map_cons] at ih ⊢
    by_cases h : p.1 = name <;> simp [Table.get?, h, ih]

theorem get?_modify_of_ne (t : Template) {name other : String} (f : Segment → Segment)
    (h : name ≠ other) : (t.modify name f).get? other = t.get? other := by
  induction t with
  | nil => rfl
  | cons p t ih =>
    simp only [modify, List.map_cons] at ih ⊢
    by_cases hp : p.1 = name
    · simp [Table.get?, hp, h, ih]
    · by_cases ho : p.1 = other <;> simp [Table.get?, hp, ho, Ne.symm h, ih]

end Template

end Stencil
