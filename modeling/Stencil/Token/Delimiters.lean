/-
# Delimiters of tokens

A token is a name between a start and an end delimiter.  The escape before either delimiter makes
that literal.  A set of three is accepted when each is given and not blank and no two are equal;
`Delimiters.check` names the first of these rules that is broken.

* `check_eq_ok_iff`: the accepted sets.
-/
import Stencil.Text.Blank

namespace Stencil

/-! ## 1. The three delimiters -/

/-- The start, the end and the escape of tokens. -/
structure Delimiters where
  start : String := "<#"
  stop : String := "#>"
  escape : String := "\\"
  deriving DecidableEq, Repr

/-- One of the three. -/
inductive Delimiter where
  | start
  | stop
  | escape
  deriving DecidableEq, Repr

def Delimiter.description : Delimiter → String
  | .start => "token start delimiter"
  | .stop => "token end delimiter"
  | .escape => "token escape character"

/-! ## 2. Case flags -/

/-- What happens to the first character of a value. -/
inductive CaseFlag where
  | lower
  | upper
  | same
  deriving DecidableEq, Repr

namespace CaseFlag

/-- The flag that a character is. -/
def ofChar? : Char → Option CaseFlag
  | '-' => some lower
  | '+' => some upper
  | '=' => some same
  | _ => none

end CaseFlag

/-! ## 3. Acceptance -/

/-- Why a set of delimiters is refused. -/
inductive DelimiterFault where
  | missing (d : Delimiter)
  | blank (d : Delimiter)
  | equal (first second : Delimiter) (text : String)
  deriving DecidableEq, Repr

def DelimiterFault.message : DelimiterFault → String
  | .missing d => s!"The {d.description} must not be null."
  | .blank d => s!"The {d.description} must not be empty or whitespace."
  | .equal first second text =>
    s!"The {first.description} \"{text}\" must not be the same as " ++
      s!"the {second.description} \"{text}\"."

namespace Delimiters

/-- Accepts a set of delimiters or says what is wrong with it. -/
def check : (start stop escape : Option String) → Except DelimiterFault Delimiters
  | none, _, _ => .error (.missing .start)
  | _, none, _ => .error (.missing .stop)
  | _, _, none => .error (.missing .escape)
  | some start, some stop, some escape =>
    if Text.isBlank start then .error (.blank .start)
    else if Text.isBlank stop then .error (.blank .stop)
    else if Text.isBlank escape then .error (.blank .escape)
    else if start = stop then .error (.equal .start .stop start)
    else if start = escape then .error (.equal .start .escape start)
    else if stop = escape then .error (.equal .stop .escape stop)
    else .ok ⟨start, stop, escape⟩

/-- Whether the start delimiter ends in a character that is also a case flag, which reads badly but
is allowed. -/
def startEndsInFlag (d : Delimiters) : Bool :=
  (d.start.toList.getLast?.bind CaseFlag.ofChar?).isSome

/-- A set of delimiters that is accepted as it is. -/
def Legal (d : Delimiters) : Prop :=
  Text.isBlank d.start = false ∧ Text.isBlank d.stop = false ∧ Text.isBlank d.escape = false ∧
    d.start ≠ d.stop ∧ d.start ≠ d.escape ∧ d.stop ≠ d.escape

instance (d : Delimiters) : Decidable d.Legal := by unfold Legal; infer_instance

theorem check_eq_ok_iff {start stop escape : Option String} {d : Delimiters} :
    check start stop escape = .ok d ↔
      start = some d.start ∧ stop = some d.stop ∧ escape = some d.escape ∧ d.Legal := by
  unfold check Legal
  split
  · simp
  · simp
  · simp
  · rename_i a b c
    rcases d with ⟨x, y, z⟩
    simp only [Option.some.injEq]
    constructor
    · intro h
      repeat' split at h
      all_goals simp_all
    · rintro ⟨rfl, rfl, rfl, h1, h2, h3, h4, h5, h6⟩
      simp [h1, h2, h3, h4, h5, h6]

theorem Legal.ne_empty {d : Delimiters} (h : d.Legal) :
    d.start ≠ "" ∧ d.stop ≠ "" ∧ d.escape ≠ "" := by
  obtain ⟨hstart, hstop, hescape, -⟩ := h
  refine ⟨?_, ?_, ?_⟩ <;> (intro e; simp [e, Text.isBlank] at hstart hstop hescape)

theorem Legal.toList_ne_nil {d : Delimiters} (h : d.Legal) :
    d.start.toList ≠ [] ∧ d.stop.toList ≠ [] ∧ d.escape.toList ≠ [] := by
  simpa only [ne_eq, String.toList_eq_nil_iff] using h.ne_empty

end Delimiters

end Stencil
