/-
# Texts with given values

What a host means by giving values for names can be said without a table of bindings: in the text, each
token whose name has a value is replaced by it, in the case that its flag asks for, and by nothing if
the value is null; everything else stays as it is, and of the names without a value it is said that they
were not found.  This is what a text comes to if the bindings have for its names what the values bind
them to.

* `substitute_given`: a text under such bindings.
-/
import Mathlib.Data.List.Basic
import Stencil.Proofs.Template.TokenNames
import Stencil.Token.Substitution

namespace Stencil

/-! ## 1. What values come to -/

/-- What a token is replaced by with a value: the text of the value as the case flag wants it, and
nothing for null. -/
def Fragment.valueText (flag : CaseFlag) (v : Json) : String :=
  (boundValue v).elim "" (withFlag flag)

/-- What a fragment comes to in a text for whose names values are given. -/
def Fragment.filled (d : Delimiters) (given : String → Option Json) : Fragment → List Char
  | token body =>
    if isName (nameOf body) then
      (given (nameOf body)).elim (source d (token body)) fun v => (valueText (flagOf body) v).toList
    else source d (token body)
  | f => f.source d

/-- A text with given values in place. -/
def filledText (d : Delimiters) (given : String → Option Json) (text : String) : String :=
  String.ofList ((scan d text.toList).flatMap (Fragment.filled d given))

/-- The names in a text for which no value is given, in the order of the text. -/
def missingNames (d : Delimiters) (given : String → Option Json) (text : String) : List String :=
  (Tokens.namesIn d text).filter fun name => (given name).isNone

/-- The segment and the name, if the message says that a token name was not found. -/
def Message.unfound? : Message → Option (String × String)
  | .unboundToken segment name => some (segment, name)
  | _ => none

/-! ## 2. Fragments and texts -/

namespace Fragment

theorem withFlag_empty (flag : CaseFlag) : withFlag flag "" = "" := by cases flag <;> rfl

variable {d : Delimiters} {segment : String} {b : Bindings} {given : String → Option Json}
  {f : Fragment}

/-- A fragment becomes what is given for its name. -/
theorem expand_given (h : ∀ name, f.tokenName? = some name →
    b.get? name = (given name).map boundValue) : (f.expand d segment b).1 = f.filled d given := by
  cases f with
  | literal text => rfl
  | unterminated text => rfl
  | token body =>
    by_cases hname : isName (nameOf body) = true
    · have hne : nameOf body ≠ "" := ne_empty_of_isName hname
      have hget := h (nameOf body) (by simp [tokenName?, hname])
      simp only [expand, filled, hname, if_neg hne, if_true, hget]
      cases given (nameOf body) with
      | none => rfl
      | some v =>
        simp only [Option.map_some, Option.elim_some, valueText]
        cases boundValue v with
        | none => rfl
        | some text =>
          -- an empty text is replaced by nothing, as is null
          by_cases hempty : text = ""
          · simp [hempty, withFlag_empty]
          · simp [hempty]
    · simp only [expand, filled, if_neg hname]
      split <;> rfl

/-- Of a fragment it is said that its name was not found exactly if nothing is given for it. -/
theorem unfound_expand (h : ∀ name, f.tokenName? = some name →
    b.get? name = (given name).map boundValue) :
    (f.expand d segment b).2.filterMap Message.unfound?
      = (f.tokenName?.toList.filter fun name => (given name).isNone).map (segment, ·) := by
  cases f with
  | literal text => rfl
  | unterminated text => rfl
  | token body =>
    by_cases hname : isName (nameOf body) = true
    · have hne : nameOf body ≠ "" := ne_empty_of_isName hname
      have hget := h (nameOf body) (by simp [tokenName?, hname])
      simp only [expand, tokenName?, hname, if_neg hne, if_true, hget]
      -- with a value, there may be a message about it, but none that the name was not found
      cases hgiven : given (nameOf body) with
      | none => simp [hgiven, Message.unfound?]
      | some v =>
        simp only [Option.map_some]
        cases boundValue v with
        | none => simp [hgiven, Message.unfound?]
        | some text =>
          by_cases hempty : text = ""
          · simp [hgiven, hempty, Message.unfound?]
          · simp [hgiven, hempty]
    · simp only [expand, tokenName?, if_neg hname]
      split <;> rfl

end Fragment

/-- **A text whose names are bound to given values** has these in place, and of the names without one it
is said that they were not found. -/
theorem substitute_given {d : Delimiters} {segment : String} {b : Bindings}
    {given : String → Option Json} {text : String}
    (h : ∀ name ∈ Tokens.namesIn d text, b.get? name = (given name).map boundValue) :
    (substitute d segment b text).1 = filledText d given text ∧
      (substitute d segment b text).2.filterMap Message.unfound?
        = (missingNames d given text).map (segment, ·) := by
  -- the names of the text are the names of its fragments
  have hfragment : ∀ f ∈ scan d text.toList, ∀ name, f.tokenName? = some name →
      b.get? name = (given name).map boundValue := fun f hf name hname =>
    h name (Tokens.mem_namesIn_iff.mpr ⟨f, hf, hname⟩)
  constructor
  · simp only [substitute, filledText, List.flatMap_map]
    exact congrArg String.ofList (List.flatMap_congr fun f hf =>
      Fragment.expand_given (hfragment f hf))
  · simp only [substitute, missingNames, Tokens.namesIn, List.flatMap_map, List.filterMap_flatMap,
      List.filterMap_eq_flatMap_toList Fragment.tokenName?, List.filter_flatMap, List.map_flatMap]
    exact List.flatMap_congr fun f hf => Fragment.unfound_expand (hfragment f hf)

end Stencil
