/-
# Fragments of a text

A text falls into literal pieces and tokens.  It is scanned once from the left: at each place the
escape is tried first, then the start delimiter; a token reaches to the next end delimiter, and a
start delimiter without one takes the rest of the text.

Scanning does not look at values; what a token is replaced by is a matter of the fragment alone.

* `scan_of_ne_nil`: a text that is not empty has a first fragment and the fragments of the rest;
* `prefix_of_before?_eq_some`: an end delimiter that is found follows what stands before it.
-/
import Stencil.Name
import Stencil.Text.Blank
import Stencil.Token.Delimiters

namespace Stencil

/-! ## 1. Fragments -/

/-- A piece of a text.  A token is given by what stands between its delimiters. -/
inductive Fragment where
  | literal (text : List Char)
  | token (body : List Char)
  | unterminated (text : List Char)
  deriving DecidableEq, Repr

namespace Fragment

/-- The case flag of a token: its first character, if that is one. -/
def flagOf (body : List Char) : CaseFlag :=
  (body.head?.bind CaseFlag.ofChar?).getD .same

/-- The name in a token: what follows the case flag, without white space at the ends. -/
def nameOf (body : List Char) : String :=
  let rest := if (body.head?.bind CaseFlag.ofChar?).isSome then body.tail else body
  String.ofList (Text.trim rest)

/-- The fragment as it stands in the text; of an escaped delimiter only the delimiter. -/
def source (d : Delimiters) : Fragment → List Char
  | literal text => text
  | token body => d.start.toList ++ body ++ d.stop.toList
  | unterminated text => text

/-- The name by which a fragment can get a value. -/
def tokenName? : Fragment → Option String
  | token body => if isName (nameOf body) then some (nameOf body) else none
  | _ => none

end Fragment

/-! ## 2. Looking for the end of a token -/

/-- The text before the first occurrence of a delimiter. -/
def before? (delimiter : List Char) : List Char → Option (List Char)
  | [] => if delimiter = [] then some [] else none
  | c :: cs =>
    if delimiter.isPrefixOf (c :: cs) then some [] else (before? delimiter cs).map (c :: ·)

theorem prefix_of_before?_eq_some {delimiter cs before : List Char}
    (h : before? delimiter cs = some before) : before ++ delimiter <+: cs := by
  induction cs generalizing before with
  | nil =>
    rw [before?] at h
    split at h
    · rename_i hd
      obtain rfl := Option.some.inj h
      simp [hd]
    · exact absurd h (by simp)
  | cons c cs ih =>
    rw [before?] at h
    split at h
    · rename_i hp
      obtain rfl := Option.some.inj h
      exact List.isPrefixOf_iff_prefix.mp hp
    · obtain ⟨b, hb, rfl⟩ := Option.map_eq_some_iff.mp h
      exact List.cons_prefix_cons.mpr ⟨rfl, ih hb⟩

/-! ## 3. Scanning -/

/-- The first fragment of a text, and how many characters of the text it takes. -/
def nextFragment (d : Delimiters) (cs : List Char) : Fragment × Nat :=
  if d.escape.toList.isPrefixOf cs then
    let after := cs.drop d.escape.length
    if d.start.toList.isPrefixOf after then
      (.literal d.start.toList, d.escape.length + d.start.length)
    else if d.stop.toList.isPrefixOf after then
      (.literal d.stop.toList, d.escape.length + d.stop.length)
    else (.literal d.escape.toList, d.escape.length)
  else if d.start.toList.isPrefixOf cs then
    match before? d.stop.toList (cs.drop d.start.length) with
    | none => (.unterminated cs, cs.length)
    | some body => (.token body, d.start.length + body.length + d.stop.length)
  else (.literal (cs.take 1), 1)

/-- The fragments of a text.  Each takes at least one character, also among empty delimiters. -/
def scan (d : Delimiters) (cs : List Char) : List Fragment :=
  match cs with
  | [] => []
  | c :: rest =>
    let (fragment, width) := nextFragment d (c :: rest)
    fragment :: scan d (rest.drop (width - 1))
termination_by cs.length
decreasing_by
  simp only [List.length_drop, List.length_cons]
  omega

theorem nextFragment_width_pos {d : Delimiters} (hescape : d.escape ≠ "") (hstart : d.start ≠ "")
    {cs : List Char} (hcs : cs ≠ []) : 0 < (nextFragment d cs).2 := by
  have hcs := List.length_pos_iff.mpr hcs
  have hescape : 0 < d.escape.length :=
    Nat.pos_of_ne_zero fun h => hescape (String.length_eq_zero_iff.mp h)
  have hstart : 0 < d.start.length :=
    Nat.pos_of_ne_zero fun h => hstart (String.length_eq_zero_iff.mp h)
  unfold nextFragment
  split
  · dsimp only
    split
    · exact Nat.add_pos_left hescape _
    · split
      · exact Nat.add_pos_left hescape _
      · exact hescape
  · split
    · split
      · exact hcs
      · dsimp only; omega
    · exact Nat.one_pos

theorem scan_nil (d : Delimiters) : scan d [] = [] := by rw [scan]

theorem scan_of_ne_nil {d : Delimiters} (hescape : d.escape ≠ "") (hstart : d.start ≠ "")
    {cs : List Char} (hcs : cs ≠ []) :
    scan d cs = (nextFragment d cs).1 :: scan d (cs.drop (nextFragment d cs).2) := by
  have hwidth := nextFragment_width_pos hescape hstart hcs
  cases cs with
  | nil => exact absurd rfl hcs
  | cons c rest =>
    obtain ⟨n, hn⟩ := Nat.exists_eq_add_of_lt hwidth
    rw [scan]
    simp [hn]

end Stencil
