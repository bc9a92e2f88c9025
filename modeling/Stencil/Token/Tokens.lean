/-
# Token names and values

What is known about tokens while a template is loaded: for each segment the names that occur in its
text, and the values that have been supplied for it.  A value for a name that does not occur is
ignored.  Supplied values are merged into those of earlier calls.

* `mem_insertName`: a recorded name joins those that are there;
* `Delimiters.legal_of_change`: delimiters that are accepted are as they have to be;
* `get?_load_of_ne`: values supplied for one segment are no other segment's.
-/
import Stencil.Json.Basic
import Stencil.Log.Basic
import Stencil.Token.Fragment

namespace Stencil

/-! ## 1. Supplied values -/

/-- The key of a supplied value.  Keys that are not texts are refused, but they are shown. -/
inductive ValueKey where
  | name (s : String)
  | integer (n : Int)
  | absent
  deriving DecidableEq, Repr

namespace ValueKey

/-- The key as messages show it. -/
def text : ValueKey → String
  | name s => s
  | integer n => toString n
  | absent => "None"

/-- The key, if it is a valid name. -/
def name? : ValueKey → Option String
  | name s => if isName s then some s else none
  | _ => none

end ValueKey

/-- Values by key, in the order in which they were supplied. -/
abbrev Values := Table ValueKey Json

/-- Values by token name; a token can be bound to nothing. -/
abbrev Bindings := Table String (Option String)

/-- What a token is bound to by a supplied value. -/
def boundValue : Json → Option String
  | .null => none
  | v => some v.text

/-- The delimiters after a request to change them, if it is accepted, and what there is to say about
it. -/
def Delimiters.change (start stop escape : Option String) : Option Delimiters × List Message :=
  match check start stop escape with
  | .error fault => (none, [.delimitersRefused fault])
  | .ok d => (some d, if d.startEndsInFlag then [.startEndsInFlag] else [])

theorem Delimiters.legal_of_change {start stop escape : Option String} {d : Delimiters}
    (h : (change start stop escape).1 = some d) : d.Legal := by
  unfold change at h
  split at h
  · exact absurd h (by simp)
  · rename_i d' hcheck
    obtain rfl := Option.some.inj h
    exact (check_eq_ok_iff.mp hcheck).2.2.2

/-! ## 2. The state -/

/-- The token names of each segment, and the bindings of each.  Bindings can also be supplied for no
segment in particular. -/
structure Tokens where
  known : Table String (List String) := []
  bindings : Table (Option String) Bindings := []
  deriving DecidableEq

namespace Tokens

/-- A list of names with one more, if that is new. -/
def insertName (names : List String) (name : String) : List String :=
  if name ∈ names then names else names ++ [name]

/-- The token names of a segment. -/
def knownOf (t : Tokens) (segment : String) : List String :=
  (t.known.get? segment).getD []

def bindingsOf (t : Tokens) (segment : Option String) : Bindings :=
  (t.bindings.get? segment).getD []

/-- The names that a text can take values for. -/
def namesIn (d : Delimiters) (text : String) : List String :=
  (scan d text.toList).filterMap Fragment.tokenName?

/-- Records the token names of a text as belonging to a segment. -/
def extract (t : Tokens) (d : Delimiters) (segment text : String) : Tokens :=
  { t with known := t.known.put segment ((namesIn d text).foldl insertName (t.knownOf segment)) }

/-- Records the token names of all segments anew. -/
def rescan (t : Tokens) (d : Delimiters) (segments : Table String (List String)) : Tokens :=
  segments.foldl
    (fun t (segment, texts) =>
      texts.foldl (fun t text => t.extract d segment text)
        { t with known := t.known.put segment [] })
    { t with known := [] }

/-- Accepts a supplied key as the name of a token, if the segment has such a token. -/
def accept (t : Tokens) (segment : Option String) (key : ValueKey) : Except Message String :=
  match key.name? with
  | none => .error (.invalidValueName segment key.text)
  | some name =>
    match segment.bind t.known.get? with
    | none => .ok name
    | some known =>
      if name ∈ known then .ok name else .error (.unknownValueName segment name)

/-- Merges supplied values into bindings, with what there is to say about those ignored. -/
def merge (t : Tokens) (segment : Option String) :
    Values → Bindings → Bindings × List Message
  | [], b => (b, [])
  | (key, value) :: values, b =>
    match t.accept segment key with
    | .ok name => merge t segment values (b.put name (boundValue value))
    | .error m =>
      let (b, ms) := merge t segment values b
      (b, m :: ms)

/-- Supplies values for a segment. -/
def load (t : Tokens) (segment : Option String) (values : Option Values) :
    Tokens × List Message :=
  match values with
  | none => (t, [.absentValues segment])
  | some [] => (t, [.noValues segment])
  | some values =>
    let (b, ms) := t.merge segment values (t.bindingsOf segment)
    ({ t with bindings := t.bindings.put segment b }, ms)

/-! ## 3. What the operations change -/

theorem mem_insertName {names : List String} {name other : String} :
    other ∈ insertName names name ↔ other ∈ names ∨ other = name := by
  unfold insertName
  split
  · rename_i h
    constructor
    · exact Or.inl
    · rintro (h' | rfl)
      · exact h'
      · exact h
  · simp

theorem mem_foldl_insertName {new names : List String} {name : String} :
    name ∈ new.foldl insertName names ↔ name ∈ names ∨ name ∈ new := by
  induction new generalizing names with
  | nil => simp
  | cons n new ih => simp [ih, mem_insertName, or_assoc]

theorem mem_namesIn_iff {d : Delimiters} {text name : String} :
    name ∈ namesIn d text ↔ ∃ f ∈ scan d text.toList, f.tokenName? = some name :=
  List.mem_filterMap

theorem get?_load_of_ne (t : Tokens) {segment other : Option String} (values : Option Values)
    (h : segment ≠ other) : (t.load segment values).1.bindings.get? other = t.bindings.get? other := by
  unfold load
  split
  · rfl
  · rfl
  · exact Table.get?_put_of_ne t.bindings _ h

theorem known_load (t : Tokens) (segment : Option String) (values : Option Values) :
    (t.load segment values).1.known = t.known := by
  unfold load
  split <;> rfl

end Tokens

end Stencil
