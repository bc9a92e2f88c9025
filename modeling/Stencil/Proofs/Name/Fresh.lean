/-
# Default names, one after the other

A request for a default name is answered with the least number behind the counter that can be had, and
refused if there is none.  The counter stays where it has come to, so that a number that was handed
out, or passed over because its name was taken, is never tried again.

What holds over any sequence of requests follows from this alone.  The numbers of the names that are
handed out go up and stay within the ceiling (`exists_numbers`): no name comes twice, and there are not
more names than the ceiling.  Behind a refusal the counter is at the ceiling, and there it stays.

* `next_of_isLeast`, `next_of_none_free`: the answer to one request;
* `exists_numbers`: the names that several requests are answered with;
* `answers_fresh`: both, and what follows.
-/
import Mathlib.Data.List.Nodup
import Mathlib.Data.List.Perm.Subperm
import Mathlib.Data.Set.Basic
import Mathlib.Order.Nat
import Stencil.Proofs.Name

namespace Stencil

namespace Namer

/-! ## 1. One request -/

/-- The numbers that can be had: those behind the counter up to the ceiling whose names are not
taken. -/
def free (n : Namer) (taken : List String) : Set Nat :=
  {k | n.count < k ∧ (k : Int) ≤ n.ceiling ∧ n.name k ∉ taken}

/-- A number whose name is taken is not missed. -/
theorem free_of_taken {n : Namer} {taken : List String} (h : n.name (n.count + 1) ∈ taken) :
    { n with count := n.count + 1 }.free taken = n.free taken := by
  ext k
  constructor
  · rintro ⟨hlow, hhigh, hfree⟩
    exact ⟨Nat.lt_of_succ_lt hlow, hhigh, hfree⟩
  · rintro ⟨hlow, hhigh, hfree⟩
    refine ⟨Nat.lt_of_le_of_ne hlow ?_, hhigh, hfree⟩
    -- the number that is passed over is not free
    rintro rfl
    exact hfree h

/-- The namer hands out the least free number. -/
theorem next_of_isLeast {n : Namer} {taken : List String} {k : Nat}
    (h : IsLeast (n.free taken) k) : n.next taken = (.ok (n.name k), { n with count := k }) := by
  -- over the numbers that are tried: taken ones change nothing about which is the least
  fun_induction next n taken with
  | case1 n _ m hmem ih => exact ih (free_of_taken hmem ▸ h)
  | case2 n hlt m hfree =>
    have hnext : n.count + 1 ∈ n.free taken := ⟨Nat.lt_succ_self _, by omega, hfree⟩
    obtain rfl : k = n.count + 1 := Nat.le_antisymm (h.2 hnext) h.1.1
    rfl
  | case3 n hge =>
    obtain ⟨hlow, hhigh, -⟩ := h.1
    omega

/-- Without a free number the namer refuses, and its counter has gone up to the ceiling. -/
theorem next_of_none_free {n : Namer} {taken : List String} (h : n.free taken = ∅) :
    n.next taken
      = (.error n.limit, { n with count := (max (n.count : Int) n.ceiling).toNat }) := by
  fun_induction next n taken with
  | case1 n hlt m hmem ih =>
    -- the counter goes up by one below the ceiling, so that the greater of the two stays
    have hmax : max (m.count : Int) m.ceiling = max (n.count : Int) n.ceiling := by
      simp only [m]
      omega
    rw [ih ((free_of_taken hmem).trans h), hmax]
    rfl
  | case2 n hlt m hfree =>
    have hnext : n.count + 1 ∈ n.free taken := ⟨Nat.lt_succ_self _, by omega, hfree⟩
    exact absurd (h ▸ hnext) (Set.notMem_empty _)
  | case3 n hge =>
    have hmax : max (n.count : Int) n.ceiling = n.count := by omega
    rw [hmax]
    rfl

/-- **The answer to a request**: the least number that can be had, or the limit. -/
theorem next_cases (n : Namer) (taken : List String) :
    (∃ k, IsLeast (n.free taken) k ∧ n.next taken = (.ok (n.name k), { n with count := k })) ∨
      (n.free taken = ∅ ∧ n.next taken
        = (.error n.limit, { n with count := (max (n.count : Int) n.ceiling).toNat })) := by
  classical
  rcases (n.free taken).eq_empty_or_nonempty with h | h
  · exact .inr ⟨h, next_of_none_free h⟩
  · have hleast := Nat.isLeast_find h
    exact .inl ⟨_, hleast, next_of_isLeast hleast⟩

/-! ## 2. One request after the other -/

/-- The answers to requests that are made one after the other, each with the names that are taken by
then. -/
def answers (n : Namer) : List (List String) → List (Except NameLimit String)
  | [] => []
  | taken :: requests => (n.next taken).1 :: (n.next taken).2.answers requests

/-- The names that requests are answered with. -/
def names (n : Namer) (requests : List (List String)) : List String :=
  (n.answers requests).filterMap Except.toOption

/-- Different numbers give different names, since their digits can be read back. -/
theorem name_injective (n : Namer) : Function.Injective n.name := by
  intro k l h
  have hdigits : Nat.toDigits 10 k = Nat.toDigits 10 l := by
    rw [← Nat.toList_repr, ← Nat.toList_repr]
    exact congrArg String.toList ((String.append_right_inj n.stem).mp h)
  calc k = Nat.ofDigitChars 10 (Nat.toDigits 10 k) 0 := Nat.ofDigitChars_ten_toDigits.symm
    _ = Nat.ofDigitChars 10 (Nat.toDigits 10 l) 0 := by rw [hdigits]
    _ = l := Nat.ofDigitChars_ten_toDigits

/-- **The names are numbered upwards**, from behind the counter to the ceiling. -/
theorem exists_numbers (n : Namer) (requests : List (List String)) :
    ∃ ks : List Nat, n.names requests = ks.map n.name ∧ ks.Pairwise (· < ·) ∧
      ∀ k ∈ ks, n.count < k ∧ (k : Int) ≤ n.ceiling := by
  -- for every namer: the numbers handed out from here on lie above its counter
  induction requests generalizing n with
  | nil => exact ⟨[], rfl, .nil, by simp⟩
  | cons taken requests ih =>
    rcases n.next_cases taken with ⟨k, hk, hnext⟩ | ⟨-, hnext⟩
    · obtain ⟨ks, hnames, hup, hin⟩ := ih { n with count := k }
      refine ⟨k :: ks, ?_, List.pairwise_cons.mpr ⟨fun l hl => (hin l hl).1, hup⟩, ?_⟩
      · rw [names, answers, hnext]
        exact congrArg (n.name k :: ·) hnames
      · intro l hl
        rcases List.mem_cons.mp hl with rfl | hl
        · exact ⟨hk.1.1, hk.1.2.1⟩
        · exact ⟨Nat.lt_trans hk.1.1 (hin l hl).1, (hin l hl).2⟩
    · obtain ⟨ks, hnames, hup, hin⟩ := ih { n with count := (max (n.count : Int) n.ceiling).toNat }
      refine ⟨ks, ?_, hup, fun k hk => ⟨?_, (hin k hk).2⟩⟩
      · rw [names, answers, hnext]
        exact hnames
      -- after a refusal the counter is at the ceiling, beyond which there is no number
      · have hbehind := (hin k hk).1
        dsimp only at hbehind
        omega

/-- Numbers that go up within the ceiling are not more than that. -/
theorem length_le_of_numbers {ks : List Nat} {ceiling : Int} (hup : ks.Pairwise (· < ·))
    (hin : ∀ k ∈ ks, 0 < k ∧ (k : Int) ≤ ceiling) : ks.length ≤ ceiling.toNat := by
  have hsub : ks ⊆ List.range' 1 ceiling.toNat := by
    intro k hk
    have hk := hin k hk
    exact List.mem_range'_1.mpr (by omega)
  have hnodup : ks.Nodup := hup.imp Nat.ne_of_lt
  have hlength := (hnodup.subperm hsub).length_le
  rwa [List.length_range'] at hlength

/-- At the ceiling every request is refused. -/
theorem answers_of_exhausted {n : Namer} (h : n.ceiling ≤ n.count) (requests : List (List String)) :
    ∀ answer ∈ n.answers requests, answer = .error n.limit := by
  induction requests with
  | nil => simp [answers]
  | cons taken requests ih =>
    have hnext : n.next taken = (.error n.limit, n) := by
      rw [next, if_neg (by omega)]
    rw [answers, hnext]
    exact List.forall_mem_cons.mpr ⟨rfl, ih⟩

/-- Behind a refusal there is nothing but refusals. -/
theorem pairwise_refused (n : Namer) (requests : List (List String)) :
    (n.answers requests).Pairwise fun earlier later =>
      ∀ limit, earlier = .error limit → later = .error limit := by
  induction requests generalizing n with
  | nil => exact .nil
  | cons taken requests ih =>
    rw [answers]
    rcases n.next_cases taken with ⟨k, -, hnext⟩ | ⟨-, hnext⟩
    · rw [hnext]
      exact List.pairwise_cons.mpr ⟨fun _ _ _ h => absurd h (by simp), ih { n with count := k }⟩
    · let stopped : Namer := { n with count := (max (n.count : Int) n.ceiling).toNat }
      -- once refused, the counter stands at the ceiling, and every later answer is the same refusal
      have hstopped : stopped.ceiling ≤ stopped.count := by
        simp only [stopped]
        omega
      rw [hnext]
      refine List.pairwise_cons.mpr ⟨fun later hlater limit h => ?_, ih stopped⟩
      rw [answers_of_exhausted hstopped requests later hlater]
      exact h

/-- No name is one of those that were taken when it was asked for. -/
theorem forall₂_answers (n : Namer) (requests : List (List String)) :
    List.Forall₂ (fun taken answer => ∀ name, answer = .ok name → name ∉ taken) requests
      (n.answers requests) := by
  induction requests generalizing n with
  | nil => exact .nil
  | cons taken requests ih => exact .cons (fun _ h => next_taken (Prod.ext h rfl)) (ih _)

/-! ## 3. Both together -/

/-- **Default names are fresh, and there are no more of them than the ceiling.**  A request is answered
with the least number that can be had, and refused at the ceiling if there is none.  So over any
requests no name is handed out twice, none that is taken by then, and not more than the ceiling; and
behind a refusal every request is refused. -/
theorem answers_fresh (n : Namer) :
    (∀ taken,
      ((n.free taken).Nonempty → ∃ k, IsLeast (n.free taken) k ∧
        n.next taken = (.ok (n.stem ++ toString k), { n with count := k })) ∧
      (n.free taken = ∅ → n.next taken
        = (.error n.limit, { n with count := (max (n.count : Int) n.ceiling).toNat }))) ∧
    ∀ requests,
      (n.names requests).Nodup ∧
      List.Forall₂ (fun taken answer => ∀ name, answer = .ok name → name ∉ taken) requests
        (n.answers requests) ∧
      (n.names requests).length ≤ n.ceiling.toNat ∧
      (n.answers requests).Pairwise fun earlier later =>
        ∀ limit, earlier = .error limit → later = .error limit := by
  constructor
  · intro taken
    refine ⟨fun hsome => ?_, next_of_none_free⟩
    rcases n.next_cases taken with h | ⟨hnone, -⟩
    · exact h
    · exact absurd hnone hsome.ne_empty
  · intro requests
    obtain ⟨ks, hnames, hup, hin⟩ := n.exists_numbers requests
    -- numbers that go up are distinct, and so are their names
    have hnodup : ks.Nodup := hup.imp Nat.ne_of_lt
    have hbounds : ∀ k ∈ ks, 0 < k ∧ (k : Int) ≤ n.ceiling := fun k hk =>
      ⟨Nat.zero_lt_of_lt (hin k hk).1, (hin k hk).2⟩
    refine ⟨?_, n.forall₂_answers requests, ?_, n.pairwise_refused requests⟩
    · rw [hnames]
      exact hnodup.map n.name_injective
    · rw [hnames, List.length_map]
      exact length_le_of_numbers hup hbounds

/-- Three names, of which the first is taken to begin with, and one request too many. -/
theorem answers_fresh_crowded :
    ∃ n : Namer, n = { stem := "Seg", ceiling := 3 } ∧
      (∃ k, IsLeast (n.free ["Seg1"]) k ∧
        n.next ["Seg1"] = (.ok (n.stem ++ toString k), { n with count := k })) ∧
      n.next ["Seg3", "Seg1", "Seg2"]
        = (.error n.limit, { n with count := (max (n.count : Int) n.ceiling).toNat }) ∧
      n.names [["Seg1"], [], ["Seg3"], []] = ["Seg2", "Seg3"] ∧
      (n.names [["Seg1"], [], ["Seg3"], []]).Nodup ∧
      (n.names [["Seg1"], [], ["Seg3"], []]).length ≤ n.ceiling.toNat := by
  let n : Namer := { stem := "Seg", ceiling := 3 }
  have hsome : (n.free ["Seg1"]).Nonempty := ⟨2, by decide, by decide, by decide⟩
  have hnone : n.free ["Seg3", "Seg1", "Seg2"] = ∅ := by
    refine Set.eq_empty_of_forall_notMem ?_
    rintro k ⟨hlow, hhigh, hfree⟩
    simp only [n] at hlow hhigh
    obtain rfl | rfl | rfl : k = 1 ∨ k = 2 ∨ k = 3 := by omega
    · exact hfree (by decide)
    · exact hfree (by decide)
    · exact hfree (by decide)
  obtain ⟨hone, hmany⟩ := n.answers_fresh
  obtain ⟨hnodup, -, hlength, -⟩ := hmany [["Seg1"], [], ["Seg3"], []]
  exact ⟨n, rfl, (hone _).1 hsome, (hone _).2 hnone, by decide +kernel, hnodup, hlength⟩

end Namer

end Stencil
