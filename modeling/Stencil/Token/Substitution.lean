/-
# Substitution

A text with the values of its tokens in place.  Each fragment stands for itself: a token with a value
is replaced by that, anything else that looks like a token stays as it is and is noted.  Values are
not scanned again, since they never become fragments.

* `substitute_of_unbound`: a text whose tokens have no values stays as it is, escapes apart.
-/
import Stencil.Text.CaseMapping
import Stencil.Token.Tokens

namespace Stencil

namespace Fragment

/-- A value as the case flag of a token wants it. -/
def withFlag : CaseFlag → String → String
  | .upper, v => Text.raiseFirst v
  | .lower, v => Text.lowerFirst v
  | .same, v => v

/-- What a fragment is replaced by in a text of the given segment, and what there is to say about
it. -/
def expand (d : Delimiters) (segment : String) (b : Bindings) (f : Fragment) :
    List Char × List Message :=
  match f with
  | literal text => (text, [])
  | unterminated text => (text, [.unterminatedToken])
  | token body =>
    let name := nameOf body
    if name = "" then (f.source d, [.tokenWithoutName])
    else if isName name then
      match b.get? name with
      | none => (f.source d, [.unboundToken segment name])
      | some none => ([], [.absentValue segment name])
      | some (some v) =>
        if v = "" then ([], [.emptyValue segment name])
        else ((withFlag (flagOf body) v).toList, [])
    else (f.source d, [.invalidTokenName name])

theorem expand_of_unbound {d : Delimiters} {segment : String} {b : Bindings} {f : Fragment}
    (h : ∀ name, f.tokenName? = some name → b.get? name = none) :
    (f.expand d segment b).1 = f.source d := by
  cases f with
  | literal text => rfl
  | unterminated text => rfl
  | token body =>
    by_cases hempty : nameOf body = ""
    · simp [expand, hempty]
    · by_cases hname : isName (nameOf body) = true
      · simp [expand, hempty, hname, h (nameOf body) (by simp [tokenName?, hname])]
      · simp [expand, hempty, hname]

end Fragment

/-- The text with the values of its tokens in place, and what there is to say about the tokens, in
the order of the text. -/
def substitute (d : Delimiters) (segment : String) (b : Bindings) (text : String) :
    String × List Message :=
  let parts := (scan d text.toList).map (·.expand d segment b)
  (String.ofList (parts.flatMap (·.1)), parts.flatMap (·.2))

theorem substitute_of_unbound {d : Delimiters} {segment : String} {b : Bindings} {text : String}
    (h : ∀ f ∈ scan d text.toList, ∀ name, f.tokenName? = some name → b.get? name = none) :
    (substitute d segment b text).1
      = String.ofList ((scan d text.toList).flatMap (Fragment.source d)) := by
  simp only [substitute, List.flatMap_def, List.map_map]
  exact congrArg (fun parts => String.ofList parts.flatten)
    (List.map_congr_left fun f hf => Fragment.expand_of_unbound (h f hf))

end Stencil
