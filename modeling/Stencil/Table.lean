/-
# Tables in order of insertion

A finite map as a list of pairs.  Storing under a new key appends it; storing under a key that is
there replaces the value and keeps the place.  The order shows in reports and in the answers about
bindings and segments, so it is part of the value.

* `get?_put_self`, `get?_put_of_ne`: a stored value is found, and nothing else changes;
* `keys_put_of_mem`, `keys_put_of_not_mem`: what storing does to the order;
* `update_append`: storing two lists of pairs one after the other is storing both at once.
-/

namespace Stencil

/-- A finite map from `α` to `β`, in order of insertion. -/
abbrev Table (α β : Type) := List (α × β)

namespace Table

variable {α β : Type} [DecidableEq α]

/-! ## 1. Operations -/

/-- The value stored under a key. -/
def get? : Table α β → α → Option β
  | [], _ => none
  | (k, v) :: t, key => if k = key then some v else get? t key

/-- Stores a value under a key. -/
def put : Table α β → α → β → Table α β
  | [], key, value => [(key, value)]
  | (k, v) :: t, key, value => if k = key then (k, value) :: t else (k, v) :: put t key value

/-- The table with the value under a key changed, if there is one. -/
def adjust : Table α β → α → (β → β) → Table α β
  | [], _, _ => []
  | (k, v) :: t, key, f => if k = key then (k, f v) :: t else (k, v) :: adjust t key f

/-- Stores the pairs of a list, first to last. -/
def update (t : Table α β) (pairs : List (α × β)) : Table α β :=
  pairs.foldl (fun t p => t.put p.1 p.2) t

/-- The table of a list of pairs: a key keeps its first place and has its last value. -/
def ofPairs (pairs : List (α × β)) : Table α β := update [] pairs

def erase (t : Table α β) (key : α) : Table α β :=
  t.filter fun p => p.1 ≠ key

def keys (t : Table α β) : List α := t.map (·.1)

/-- The table with other values under the same keys. -/
def mapValues {γ : Type} (t : Table α β) (f : β → γ) : Table α γ :=
  t.map fun p => (p.1, f p.2)

/-! ## 2. Reading what was stored -/

theorem get?_put_self (t : Table α β) (k : α) (v : β) : (t.put k v).get? k = some v := by
  induction t with
  | nil => simp [put, get?]
  | cons p t ih => by_cases h : p.1 = k <;> simp [put, get?, h, ih]

theorem get?_put_of_ne (t : Table α β) {k key : α} (v : β) (h : k ≠ key) :
    (t.put k v).get? key = t.get? key := by
  induction t with
  | nil => simp [put, get?, h]
  | cons p t ih =>
    by_cases hp : p.1 = k
    · subst hp; simp [put, get?, h]
    · by_cases hk : p.1 = key <;> simp [put, get?, hp, hk, ih, Ne.symm h]

theorem get?_eq_none_iff {t : Table α β} {k : α} : t.get? k = none ↔ k ∉ t.keys := by
  induction t with
  | nil => simp [get?, keys]
  | cons p t ih =>
    by_cases h : p.1 = k
    · simp [get?, keys, h]
    · simp only [keys] at ih
      simp [get?, keys, h, ih, Ne.symm h]

theorem keys_put_of_mem {t : Table α β} {k : α} (v : β) (h : k ∈ t.keys) :
    (t.put k v).keys = t.keys := by
  induction t with
  | nil => simp [keys] at h
  | cons p t ih =>
    by_cases hp : p.1 = k
    · simp [put, keys, hp]
    · have hk : k ∈ keys t := by
        rcases List.mem_cons.mp h with h | h
        · exact absurd h.symm hp
        · exact h
      have := ih hk
      simp only [keys] at this
      simp [put, keys, hp, this]

theorem keys_put_of_not_mem {t : Table α β} {k : α} (v : β) (h : k ∉ t.keys) :
    (t.put k v).keys = t.keys ++ [k] := by
  induction t with
  | nil => simp [put, keys]
  | cons p t ih =>
    have hp : p.1 ≠ k := fun e => h (by simp [keys, e])
    have hk : k ∉ keys t := fun m => h (List.mem_cons_of_mem _ m)
    have := ih hk
    simp only [keys] at this
    simp [put, keys, hp, this]

theorem update_append (t : Table α β) (xs ys : List (α × β)) :
    t.update (xs ++ ys) = (t.update xs).update ys := by
  simp [update, List.foldl_append]

end Table

end Stencil
