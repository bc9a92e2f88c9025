/-
# Bindings

A text reads its bindings by look-up alone, and only for the names of its tokens.  So what counts of a
table of bindings is what it has for the names of a segment, and supplying values is told by what a
look-up gives afterwards: the value, for a name that is accepted, and otherwise what was there.

A name that is bound is bound once in the table of its segment.  That is why bindings which are taken
from one record and supplied to another are found there again.

* `substitute_congr`: a text under bindings that agree on its names;
* `Tokens.binding?_load_self`: what a name is bound to once values have been supplied;
* `Tokens.Distinct.load`: supplying keeps the keys distinct;
* `Tokens.binding?_foldl_load`: the bindings of one record, supplied to another.
-/
import Mathlib.Data.List.Nodup
import Stencil.Proofs.Table
import Stencil.Proofs.Template.TokenNames
import Stencil.Token.Substitution

namespace Stencil

/-! ## 1. Bindings of a text -/

namespace Fragment

/-- A fragment looks up the name of its token and nothing else. -/
theorem expand_congr {d : Delimiters} {segment : String} {b b' : Bindings} {f : Fragment}
    (h : ∀ name, f.tokenName? = some name → b'.get? name = b.get? name) :
    f.expand d segment b' = f.expand d segment b := by
  cases f with
  | literal text => rfl
  | unterminated text => rfl
  | token body =>
    by_cases hname : isName (nameOf body) = true
    · have hget := h (nameOf body) (by simp [tokenName?, hname])
      simp only [expand, hget]
    · simp only [expand, if_neg hname]

end Fragment

/-- **A text under bindings that agree on its names** comes to the same, and the same is said about
it. -/
theorem substitute_congr {d : Delimiters} {segment : String} {b b' : Bindings} {text : String}
    (h : ∀ name ∈ Tokens.namesIn d text, b'.get? name = b.get? name) :
    substitute d segment b' text = substitute d segment b text := by
  have hparts : (scan d text.toList).map (·.expand d segment b')
      = (scan d text.toList).map (·.expand d segment b) :=
    List.map_congr_left fun f hf => Fragment.expand_congr fun name hname =>
      h name (Tokens.mem_namesIn_iff.mpr ⟨f, hf, hname⟩)
  simp only [substitute, hparts]

namespace Tokens

/-! ## 2. Names that are accepted -/

/-- What a name is bound to for a segment. -/
def binding? (t : Tokens) (segment : Option String) (name : String) : Option (Option String) :=
  (t.bindingsOf segment).get? name

variable {t : Tokens} {segment : Option String} {name : String}

/-- What is accepted is the name itself. -/
theorem eq_of_accept {key : ValueKey} (h : t.accept segment key = .ok name) : key = .name name := by
  cases key with
  | name s =>
    by_cases hs : isName s = true
    · simp only [accept, ValueKey.name?, hs, if_true] at h
      split at h
      · exact congrArg _ (Except.ok.inj h)
      · split at h
        · exact congrArg _ (Except.ok.inj h)
        · exact absurd h (by simp)
    · simp [accept, ValueKey.name?, hs] at h
  | integer n => simp [accept, ValueKey.name?] at h
  | absent => simp [accept, ValueKey.name?] at h

/-- A valid name is accepted for a segment that has it on record. -/
theorem accept_of_mem {segment : String} {names : List String}
    (hget : t.known.get? segment = some names) (hmem : name ∈ names) (hname : isName name = true) :
    t.accept (some segment) (.name name) = .ok name := by
  simp [accept, ValueKey.name?, hname, hget, hmem]

/-- Which names are accepted depends on the record alone. -/
theorem accept_congr {t' : Tokens} (h : t'.known = t.known) (segment : Option String)
    (key : ValueKey) : t'.accept segment key = t.accept segment key := by
  simp only [accept, h]

/-! ## 3. Supplied values -/

/-- What a name is bound to once values have been merged: its value, or what it was bound to. -/
theorem get?_merge {values : Values} (hnd : values.keys.Nodup)
    (haccept : t.accept segment (.name name) = .ok name) (b : Bindings) :
    (t.merge segment values b).1.get? name
      = ((values.get? (.name name)).map boundValue).or (b.get? name) := by
  -- over the values, for all bindings, since each is merged into what the ones before it left
  induction values generalizing b with
  | nil => rfl
  | cons p values ih =>
    rcases p with ⟨key, value⟩
    obtain ⟨hfree, hrest⟩ := List.nodup_cons.mp hnd
    cases hkey : t.accept segment key with
    | ok other =>
      obtain rfl := eq_of_accept hkey
      simp only [merge, hkey, ih hrest, Table.get?]
      by_cases hother : other = name
      · subst hother
        have hnone : Table.get? values (.name other) = none := Table.get?_eq_none_iff.mpr hfree
        simp [hnone, Table.get?_put_self]
      · rw [if_neg (fun e => hother (ValueKey.name.inj e)), Table.get?_put_of_ne b _ hother]
    -- the value of another key is dropped
    | error m =>
      have hne : key ≠ .name name := fun e => by simp [e, haccept] at hkey
      simp only [merge, hkey, ih hrest, Table.get?, if_neg hne]

/-- Of what is accepted, only the acceptance of the name itself makes a difference to its binding. -/
theorem get?_merge_congr {t' : Tokens}
    (haccept : t'.accept segment (.name name) = .ok name ↔ t.accept segment (.name name) = .ok name)
    (values : Values) {b b' : Bindings} (h : b'.get? name = b.get? name) :
    (t'.merge segment values b').1.get? name = (t.merge segment values b).1.get? name := by
  induction values generalizing b b' with
  | nil => exact h
  | cons p values ih =>
    rcases p with ⟨key, value⟩
    rw [merge, merge]
    -- the two can differ in what becomes of another name, and not in what becomes of this one
    cases hkey : t.accept segment key with
    | error m =>
      cases hkey' : t'.accept segment key with
      | error m' => exact ih h
      | ok other =>
        obtain rfl := eq_of_accept hkey'
        have hother : other ≠ name := by
          rintro rfl
          simp [haccept.mp hkey'] at hkey
        exact ih ((Table.get?_put_of_ne b' _ hother).trans h)
    | ok other =>
      obtain rfl := eq_of_accept hkey
      cases hkey' : t'.accept segment (.name other) with
      | error m' =>
        have hother : other ≠ name := by
          rintro rfl
          simp [haccept.mpr hkey] at hkey'
        exact ih (h.trans (Table.get?_put_of_ne b _ hother).symm)
      | ok other' =>
        obtain rfl := ValueKey.name.inj (eq_of_accept hkey')
        exact ih (Table.get?_put_congr h other _)

/-- What a name is bound to once values have been supplied is what merging leaves. -/
theorem binding?_load_some (t : Tokens) (segment : Option String) (values : Values)
    (name : String) :
    (t.load segment (some values)).1.binding? segment name
      = (t.merge segment values (t.bindingsOf segment)).1.get? name := by
  cases values with
  | nil => rfl
  | cons p values =>
    simp only [load, binding?, bindingsOf, Table.get?_put_self, Option.getD_some]

/-- Supplying values for a segment leaves the bindings of the others. -/
theorem binding?_load_of_ne (t : Tokens) {other : Option String} (values : Option Values)
    (name : String) (h : segment ≠ other) :
    (t.load segment values).1.binding? other name = t.binding? other name := by
  simp only [binding?, bindingsOf, get?_load_of_ne t values h]

/-- **What a name is bound to once values have been supplied**: its value, or what it was bound
to. -/
theorem binding?_load_self {values : Values} (hnd : values.keys.Nodup)
    (haccept : t.accept segment (.name name) = .ok name) :
    (t.load segment (some values)).1.binding? segment name
      = ((values.get? (.name name)).map boundValue).or (t.binding? segment name) := by
  rw [binding?_load_some, get?_merge hnd haccept]
  rfl

/-- Where two records have the same binding of a name, and both accept it or both refuse it, they still
have once values have been supplied to both. -/
theorem binding?_load_congr {t' : Tokens} {other : Option String}
    (haccept : t'.accept segment (.name name) = .ok name ↔ t.accept segment (.name name) = .ok name)
    (h : t'.binding? other name = t.binding? other name) (values : Option Values) :
    (t'.load segment values).1.binding? other name
      = (t.load segment values).1.binding? other name := by
  by_cases hother : segment = other
  · subst hother
    cases values with
    | none => exact h
    | some values =>
      rw [binding?_load_some, binding?_load_some]
      exact get?_merge_congr haccept values h
  · rw [binding?_load_of_ne t' values name hother, binding?_load_of_ne t values name hother, h]

/-! ## 4. Distinct keys -/

/-- Every segment has one table of bindings, and every name is bound once in it. -/
structure Distinct (t : Tokens) : Prop where
  segments : t.bindings.keys.Nodup
  names : ∀ p ∈ t.bindings, p.2.keys.Nodup

theorem Distinct.of_nil (h : t.bindings = []) : t.Distinct := ⟨by simp [h], by simp [h]⟩

/-- Every name is bound once in the table of a segment, also if it has none yet. -/
theorem Distinct.bindingsOf (h : t.Distinct) (segment : Option String) :
    (t.bindingsOf segment).keys.Nodup := by
  unfold Tokens.bindingsOf
  cases hget : t.bindings.get? segment with
  | none => simp
  | some b => exact h.names _ (Table.mem_of_get?_eq_some hget)

theorem nodup_merge (t : Tokens) (segment : Option String) (values : Values) {b : Bindings}
    (h : b.keys.Nodup) : (t.merge segment values b).1.keys.Nodup := by
  induction values generalizing b with
  | nil => exact h
  | cons p values ih =>
    rcases p with ⟨key, value⟩
    rw [merge]
    cases t.accept segment key with
    | error m => exact ih h
    | ok name => exact ih (Table.nodup_keys_put _ _ h)

theorem Distinct.load (h : t.Distinct) (segment : Option String) (values : Option Values) :
    (t.load segment values).1.Distinct := by
  -- without values nothing is stored
  rcases values with _ | _ | ⟨p, values⟩
  · exact h
  · exact h
  · refine ⟨Table.nodup_keys_put _ _ h.segments, fun q hq => ?_⟩
    rcases Table.mem_put hq with hq | rfl
    · exact h.names q hq
    · exact t.nodup_merge segment (p :: values) (h.bindingsOf segment)

/-! ## 5. Bindings supplied anew -/

/-- The values that bind names as a table of bindings does. -/
def asValues (b : Bindings) : Values :=
  b.map fun p => (.name p.1, p.2.elim .null .string)

/-- Values bind a name as the table does that they are made of. -/
theorem get?_asValues (b : Bindings) (name : String) :
    ((asValues b).get? (.name name)).map boundValue = b.get? name := by
  induction b with
  | nil => rfl
  | cons p b ih =>
    rcases p with ⟨other, value⟩
    simp only [asValues, List.map_cons, Table.get?, ValueKey.name.injEq] at ih ⊢
    split
    · cases value <;> rfl
    · exact ih

theorem nodup_asValues {b : Bindings} (h : b.keys.Nodup) : (asValues b).keys.Nodup := by
  have hkeys : (asValues b).keys = b.keys.map ValueKey.name := by
    simp only [asValues, Table.keys, List.map_map]
    rfl
  rw [hkeys]
  exact List.Nodup.map (fun _ _ => ValueKey.name.inj) h

/-- Supplying values leaves the names on record. -/
theorem known_foldl_load (t : Tokens) (table : Table (Option String) Bindings) :
    (table.foldl (fun t p => (t.load p.1 (some (asValues p.2))).1) t).known = t.known := by
  induction table generalizing t with
  | nil => rfl
  | cons p table ih => exact (ih _).trans (t.known_load p.1 _)

/-- **The bindings of one record, supplied to another**: for a name that the other accepts, what it is
bound to in the first, or else what it was bound to in the other. -/
theorem binding?_foldl_load {table : Table (Option String) Bindings} (hnd : table.keys.Nodup)
    (hnames : ∀ p ∈ table, p.2.keys.Nodup)
    (haccept : t.accept segment (.name name) = .ok name) :
    (table.foldl (fun t p => (t.load p.1 (some (asValues p.2))).1) t).binding? segment name
      = (((table.get? segment).getD []).get? name).or (t.binding? segment name) := by
  induction table generalizing t with
  | nil => rfl
  | cons p table ih =>
    obtain ⟨hfree, hnd⟩ := List.nodup_cons.mp hnd
    have hknown := t.known_load p.1 (some (asValues p.2))
    have hloaded := (accept_congr hknown segment (.name name)).trans haccept
    rw [List.foldl_cons, ih hnd (fun q hq => hnames q (List.mem_cons_of_mem p hq)) hloaded,
      Table.get?]
    -- the segment has one table, so that no later one is for it
    by_cases hp : p.1 = segment
    · subst hp
      have hnone : Table.get? table p.1 = none := Table.get?_eq_none_iff.mpr hfree
      rw [binding?_load_self (nodup_asValues (hnames p List.mem_cons_self)) haccept, get?_asValues]
      simp [hnone, Table.get?]
    · rw [if_neg hp, binding?_load_of_ne t _ name hp]

end Tokens

end Stencil
