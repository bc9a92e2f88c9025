/-
# Results that may be errors

What reads a number, a file or a header gives a value or an error.  These are the equations by which
such a result is taken apart: which of the two it is, and what is made of the value.

* `map_eq_ok_iff`, `map_eq_error_iff`: a result of which something is made;
* `toOption_eq_some_iff`: its value, also where errors cannot be compared;
* `exists_ok_iff`: there is a value exactly where there is no error.
-/

namespace Stencil

variable {ε α β : Type}

theorem map_eq_ok_iff {x : Except ε α} {f : α → β} {b : β} :
    x.map f = .ok b ↔ ∃ a, x = .ok a ∧ f a = b := by
  cases x <;> simp [Except.map]

theorem toOption_eq_some_iff {x : Except ε α} {a : α} :
    x.toOption = some a ↔ x = .ok a := by
  cases x <;> simp [Except.toOption]

theorem exists_ok_iff {x : Except ε α} : (∃ a, x = .ok a) ↔ ¬ ∃ e, x = .error e := by
  cases x <;> simp

theorem map_eq_error_iff {x : Except ε α} {f : α → β} {e : ε} :
    x.map f = .error e ↔ x = .error e := by
  cases x <;> simp [Except.map]

end Stencil
