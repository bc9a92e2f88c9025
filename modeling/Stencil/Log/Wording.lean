/-
# Wording with places for arguments

The wording of a message may have the places `{0}` and `{1}`, filled from a list of arguments; a
doubled brace stands for the brace.  A message without arguments is taken as it is.

* `fill_plain`: wording without braces is its own text.
-/

namespace Stencil

/-- Why wording cannot be filled. -/
inductive WordingFault where
  | missingArgument (place : Nat)
  | loneOpening
  | loneClosing
  deriving DecidableEq, Repr

def WordingFault.message : WordingFault → String
  | .missingArgument place => s!"Replacement index {place} out of range for positional args tuple"
  | .loneOpening => "Single '\x7b' encountered in format string"
  | .loneClosing => "Single '\x7d' encountered in format string"

namespace Wording

/-- The place that a brace opens, after the brace, and the rest of the wording. -/
def place? (cs : List Char) : Option (Nat × { rest : List Char // rest.length ≤ cs.length }) :=
  match cs with
  | '0' :: '\x7d' :: rest => some (0, ⟨rest, by simp only [List.length_cons]; omega⟩)
  | '1' :: '\x7d' :: rest => some (1, ⟨rest, by simp only [List.length_cons]; omega⟩)
  | _ => none

/-- Fills the places of a wording. -/
def fillChars (args : List String) (cs : List Char) : Except WordingFault (List Char) :=
  match cs with
  | [] => .ok []
  | '\x7b' :: '\x7b' :: rest => (fillChars args rest).map ('\x7b' :: ·)
  | '\x7d' :: '\x7d' :: rest => (fillChars args rest).map ('\x7d' :: ·)
  | c :: rest =>
    if c = '\x7b' then
      match place? rest with
      | none => .error .loneOpening
      | some (k, ⟨rest, _⟩) =>
        match args[k]? with
        | none => .error (.missingArgument k)
        | some arg => (fillChars args rest).map (arg.toList ++ ·)
    else if c = '\x7d' then .error .loneClosing
    else (fillChars args rest).map (c :: ·)
termination_by cs.length
decreasing_by
  all_goals simp only [List.length_cons]
  all_goals omega

/-- The text of a wording with up to two arguments.  Without a first argument the wording is the
text, whatever it holds. -/
def fill (wording : String) (first second : Option String) : Except WordingFault String :=
  match first with
  | none => .ok wording
  | some first => (fillChars (first :: second.toList) wording.toList).map String.ofList

theorem fill_plain (args : List String) {cs : List Char}
    (h : ∀ c ∈ cs, c ≠ '\x7b' ∧ c ≠ '\x7d') : fillChars args cs = .ok cs := by
  induction cs with
  | nil => simp [fillChars]
  | cons c cs ih =>
    have hc := h c List.mem_cons_self
    rw [fillChars]
    · simp [hc.1, hc.2, ih fun d hd => h d (List.mem_cons_of_mem c hd), Except.map]
    · rintro r e; exact absurd e hc.1
    · rintro r e; exact absurd e hc.2

end Wording

end Stencil
