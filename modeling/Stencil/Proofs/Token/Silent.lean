/-
# What is said about a text

Not every mark in a text can be replaced by a value: a start delimiter may not be closed, a token may
have no name or an invalid one, and a name may be unbound, or bound to nothing or to the empty text.
Each such mark gets one warning, in the order of the text, and nothing else gets any.  So a text about
which nothing is said is one in which every mark has been replaced.

The pieces of the text are those of `Delimiters.FallsInto`, and what is said about a piece depends on
nothing but the piece and the bindings (`Piece.expand_fragment`).

* `forall₂_objections`: the marks without a value against what is said;
* `substitute_silent_iff`: what silence says about a text.
-/
import Mathlib.Data.List.Forall2
import Stencil.Proofs.Token.Pieces
import Stencil.Token.Substitution

namespace Stencil

/-! ## 1. Marks and their values -/

/-- The value that a name has: it is bound to a text, and that is not empty. -/
def Bindings.value? (b : Bindings) (name : String) : Option String :=
  match b.get? name with
  | some (some v) => if v = "" then none else some v
  | _ => none

namespace Piece

open Fragment

/-- Whether the piece begins with a start delimiter, and not with an escaped one. -/
def isMark : Piece → Bool
  | token _ | unclosed _ => true
  | _ => false

/-- What a token with a valid name is replaced by: the value of the name, in the case that the flag of
the token asks for. -/
def value? (b : Bindings) : Piece → Option String
  | token body =>
    if isName (nameOf body) then (b.value? (nameOf body)).map (withFlag (flagOf body)) else none
  | _ => none

/-- Whether the piece is a mark that is not replaced. -/
def isBare (b : Bindings) (p : Piece) : Bool := p.isMark && (p.value? b).isNone

/-- The piece with its value in place, or without its escape. -/
def filled (d : Delimiters) (b : Bindings) (p : Piece) : List Char :=
  ((p.value? b).map String.toList).getD (p.unescaped d)

/-- What there is to say about a mark of a text of the given segment. -/
inductive Objection (segment : String) (b : Bindings) : Piece → Message → Prop
  | unclosed {rest : List Char} : Objection segment b (.unclosed rest) .unterminatedToken
  | nameless {body : List Char} : nameOf body = "" →
      Objection segment b (.token body) .tokenWithoutName
  | invalid {body : List Char} : nameOf body ≠ "" → isName (nameOf body) = false →
      Objection segment b (.token body) (.invalidTokenName (nameOf body))
  | unbound {body : List Char} : isName (nameOf body) = true → b.get? (nameOf body) = none →
      Objection segment b (.token body) (.unboundToken segment (nameOf body))
  | absent {body : List Char} : isName (nameOf body) = true → b.get? (nameOf body) = some none →
      Objection segment b (.token body) (.absentValue segment (nameOf body))
  | empty {body : List Char} : isName (nameOf body) = true →
      b.get? (nameOf body) = some (some "") →
      Objection segment b (.token body) (.emptyValue segment (nameOf body))

/-- The entry of the log is the warning about a mark of a text at the given position. -/
structure Warns (segment : String) (b : Bindings) (position : Position) (p : Piece) (e : Entry) :
    Prop where
  objection : Objection segment b p e.message
  level : e.level = .warning
  category : e.category = .generating
  position : e.position = position

/-! ## 2. One piece -/

variable {d : Delimiters} {segment : String} {b : Bindings} {p : Piece}

/-- Nothing is said about a piece that is replaced. -/
theorem Objection.isBare {m : Message} (h : Objection segment b p m) : p.isBare b = true := by
  cases h with
  | unclosed => rfl
  | nameless hempty => simp [Piece.isBare, isMark, value?, hempty, isName_empty]
  | invalid _ hname => simp [Piece.isBare, isMark, value?, hname]
  -- without a binding, or with one to nothing or to the empty text, there is no value
  | unbound hname hget | absent hname hget | empty hname hget =>
    simp [Piece.isBare, isMark, value?, hname, Bindings.value?, hget]

/-- One thing is said about a piece, or nothing is said about it and it is filled. -/
theorem expand_fragment (d : Delimiters) (segment : String) (b : Bindings) (p : Piece) :
    (∃ m, Objection segment b p m ∧ ((p.fragment d).expand d segment b).2 = [m]) ∨
      (p.isBare b = false ∧ (p.fragment d).expand d segment b = (p.filled d b, [])) := by
  cases p with
  | plain | escape | escapedStart | escapedStop => exact .inr ⟨rfl, rfl⟩
  | unclosed => exact .inl ⟨_, .unclosed, rfl⟩
  | token body =>
    -- first the name is looked at and then its value, as in the objections
    by_cases hempty : nameOf body = ""
    · exact .inl ⟨_, .nameless hempty, by simp [fragment, expand, hempty]⟩
    · cases hname : isName (nameOf body) with
      | false => exact .inl ⟨_, .invalid hempty hname, by simp [fragment, expand, hempty, hname]⟩
      | true =>
        rcases hget : b.get? (nameOf body) with _ | _ | v
        · exact .inl ⟨_, .unbound hname hget, by simp [fragment, expand, hempty, hname, hget]⟩
        · exact .inl ⟨_, .absent hname hget, by simp [fragment, expand, hempty, hname, hget]⟩
        · by_cases hv : v = ""
          · subst hv
            exact .inl ⟨_, .empty hname hget, by simp [fragment, expand, hempty, hname, hget]⟩
          · have hvalue : value? b (token body) = some (withFlag (flagOf body) v) := by
              simp [value?, hname, Bindings.value?, hget, hv]
            refine .inr ⟨by simp [isBare, hvalue], ?_⟩
            simp [fragment, expand, hempty, hname, hget, hv, filled, hvalue]

/-! ## 3. All pieces -/

/-- **The marks without a value and what is said, one against the other.** -/
theorem forall₂_objections (d : Delimiters) (segment : String) (b : Bindings) (ps : List Piece) :
    List.Forall₂ (Objection segment b) (ps.filter (·.isBare b))
      (ps.flatMap fun p => ((p.fragment d).expand d segment b).2) := by
  induction ps with
  | nil => exact .nil
  | cons p ps ih =>
    rw [List.flatMap_cons]
    rcases expand_fragment d segment b p with ⟨m, hobjection, hm⟩ | ⟨hbare, hexpand⟩
    -- a piece with an objection is a mark without a value
    · rw [List.filter_cons_of_pos hobjection.isBare, hm, List.singleton_append]
      exact .cons hobjection ih
    · rw [List.filter_cons_of_neg (by simp [hbare]), hexpand]
      exact ih

/-- Where no mark is without a value, the pieces come to what they are filled with. -/
theorem flatMap_filled {ps : List Piece} (h : ∀ p ∈ ps, p.isBare b = false) :
    ps.flatMap (fun p => ((p.fragment d).expand d segment b).1) = ps.flatMap (filled d b) := by
  refine List.flatMap_congr fun p hp => ?_
  rcases expand_fragment d segment b p with ⟨_, hobjection, -⟩ | ⟨-, hexpand⟩
  · exact absurd hobjection.isBare (by simp [h p hp])
  · rw [hexpand]

/-- A mark that is replaced has a value. -/
theorem isBare_eq_false_iff :
    p.isBare b = false ↔ (p.isMark = true → ∃ v, p.value? b = some v) := by
  unfold isBare
  cases hmark : p.isMark with
  | false => simp
  | true => simp [Option.isSome_iff_exists]

end Piece

/-! ## 4. Texts -/

/-- The log behind the tokens of a text that stands at a position. -/
def Log.substituted (l : Log) (position : Position) (d : Delimiters) (segment : String)
    (b : Bindings) (text : String) : Log :=
  l.report position ((substitute d segment b text).2.map (Notice.warning .generating))

/-- What is said about a text is noted where it stands. -/
theorem Log.entries_substituted (l : Log) (position : Position) (d : Delimiters) (segment : String)
    (b : Bindings) (text : String) :
    (l.substituted position d segment b text).entries
      = l.entries ++ (substitute d segment b text).2.map fun m =>
          ⟨.generating, .warning, position, m⟩ := by
  rw [substituted, entries_warnings]

/-- A text comes to its pieces. -/
theorem substitute_of_fallsInto {d : Delimiters} {text : String} {ps : List Piece}
    (h : d.FallsInto text.toList ps) (hescape : d.escape ≠ "") (hstart : d.start ≠ "")
    (segment : String) (b : Bindings) :
    substitute d segment b text
      = (String.ofList (ps.flatMap fun p => ((p.fragment d).expand d segment b).1),
          ps.flatMap fun p => ((p.fragment d).expand d segment b).2) := by
  have hscan := h.scan_eq (mt String.toList_eq_nil_iff.mp hescape)
    (mt String.toList_eq_nil_iff.mp hstart)
  simp only [substitute, hscan, List.map_map, List.flatMap_map, Function.comp_apply]

/-- **What silence says about a text.**  A text falls into pieces, and each mark among them that is not
replaced gets one warning, in the order of the text, and nothing else gets any.  So nothing is noted if
and only if every mark is a token with a valid name and a value that is not empty, and then the text
comes to its pieces without their escapes and with these values in place. -/
theorem substitute_silent_iff {d : Delimiters} (hescape : d.escape ≠ "") (hstart : d.start ≠ "")
    (segment : String) (b : Bindings) (text : String) (l : Log) (position : Position) :
    (∃ ps, d.FallsInto text.toList ps) ∧ ∀ ps, d.FallsInto text.toList ps →
      ps.flatMap (Piece.written d) = text.toList ∧
      (∃ es, (l.substituted position d segment b text).entries = l.entries ++ es ∧
        List.Forall₂ (Piece.Warns segment b position) (ps.filter (·.isBare b)) es) ∧
      ((l.substituted position d segment b text).entries = l.entries ↔
        ∀ p ∈ ps, p.isMark = true → ∃ v, p.value? b = some v) ∧
      ((l.substituted position d segment b text).entries = l.entries →
        (substitute d segment b text).1 = String.ofList (ps.flatMap (Piece.filled d b))) := by
  refine ⟨d.exists_fallsInto (mt String.toList_eq_nil_iff.mp hescape)
    (mt String.toList_eq_nil_iff.mp hstart) _, fun ps hps => ?_⟩
  have htext := substitute_of_fallsInto hps hescape hstart segment b
  have hsaid : List.Forall₂ (Piece.Objection segment b) (ps.filter (·.isBare b))
      (substitute d segment b text).2 := by
    rw [htext]
    exact Piece.forall₂_objections d segment b ps
  -- as many messages as marks without a value, so that both are none or neither is
  have hnone : (substitute d segment b text).2 = [] ↔ ps.filter (·.isBare b) = [] := by
    rw [← List.length_eq_zero_iff, ← hsaid.length_eq, List.length_eq_zero_iff]
  -- and nothing is noted but the messages
  have hsilent : (l.substituted position d segment b text).entries = l.entries ↔
      ∀ p ∈ ps, p.isBare b = false := by
    rw [l.entries_substituted, List.append_right_eq_self, List.map_eq_nil_iff, hnone,
      List.filter_eq_nil_iff]
    simp only [Bool.not_eq_true]
  refine ⟨hps.flatMap_written, ?_, ?_, ?_⟩
  · refine ⟨_, l.entries_substituted position d segment b text, ?_⟩
    rw [List.forall₂_map_right_iff]
    exact hsaid.imp fun p m h => ⟨h, rfl, rfl, rfl⟩
  · rw [hsilent]
    exact forall₂_congr fun p _ => Piece.isBare_eq_false_iff
  · intro h
    rw [htext]
    exact congrArg String.ofList (Piece.flatMap_filled (hsilent.mp h))

/-- Both delimiters behind an escape, and a token whose name is in the text before it as well. -/
theorem substitute_silent_iff_escaped :
    Delimiters.FallsInto {} "\\<#a\\#><#+a#>".toList
        [.escapedStart, .plain 'a', .escapedStop, .token ['+', 'a']] ∧
      (∀ p ∈ [Piece.escapedStart, .plain 'a', .escapedStop, .token ['+', 'a']],
        p.isMark = true → ∃ v, p.value? [("a", some "bob")] = some v) ∧
      (substitute {} "Greeting" [("a", some "bob")] "\\<#a\\#><#+a#>").1 = "<#a#>Bob" := by
  have hfirst : FirstBehind ['#', '>'] ['+', 'a'] ['+', 'a', '#', '>'] :=
    before?_eq_some_iff.mp (by decide)
  have htoken : Delimiters.FallsInto {} "<#+a#>".toList [.token ['+', 'a']] :=
    @Delimiters.FallsInto.token {} ['+', 'a'] [] [] (by decide) hfirst .nil
  have hpieces : Delimiters.FallsInto {} "\\<#a\\#><#+a#>".toList
      [.escapedStart, .plain 'a', .escapedStop, .token ['+', 'a']] :=
    .escapedStart (.plain (by decide) (by decide) (.escapedStop (by decide) htoken))
  obtain ⟨-, h⟩ := substitute_silent_iff (d := {}) (by decide) (by decide) "Greeting"
    [("a", some "bob")] "\\<#a\\#><#+a#>" [] {}
  obtain ⟨-, -, hiff, htext⟩ := h _ hpieces
  have hsilent : (Log.substituted [] {} {} "Greeting" [("a", some "bob")]
      "\\<#a\\#><#+a#>").entries = [] := by decide +kernel
  exact ⟨hpieces, hiff.mp hsilent, (htext hsilent).trans (by decide +kernel)⟩

end Stencil
