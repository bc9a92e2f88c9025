/-
# Options in any order

Of the options of a header only those count that are well-formed, and of these the first with each key,
even if its value is refused: the control is made of one value for each key (`readOptions_ok_iff`).
So nothing is lost when the others are left out, and of what remains no two options have one key, so
that their order makes no difference.

Which of two numbers that are too long stops the reading does depend on the order, but whether one
does is a matter of the same three values.  Options are therefore compared by the control that they
give, or that they give none (`control?`).

* `values_wellFormed`, `values_leading`: what leaving options out does to the values by key;
* `control?_congr`: the values by key decide;
* `control?_of_perm`: leaving out what does not count, in any order.
-/
import Stencil.Proofs.Header
import Stencil.Proofs.Table

namespace Stencil

namespace Header

/-! ## 1. Options that count -/

/-- The key of an option, if it is well-formed. -/
def key? (option : String) : Option OptionKey := (readOption option).toOption.map Prod.fst

/-- Both options are well-formed, and have one key. -/
def sameKey (option other : String) : Bool := (key? option).isSome && key? option == key? other

/-- The options without those that are malformed. -/
def wellFormed (options : List String) : List String :=
  options.filter fun option => (key? option).isSome

/-- The options without those whose key an earlier one has. -/
def leading : List String → List String
  | [] => []
  | option :: options => option :: (leading options).filter fun later => !sameKey option later

/-- The control that options give; `none` if a number among them is too long to be read. -/
def control? (segment : String) (options : List String) : Option Control :=
  (readOptions segment options).2.toOption

/-- A malformed option has no value. -/
theorem values_wellFormed (options : List String) : values (wellFormed options) = values options := by
  rw [values, wellFormed, List.filterMap_filter]
  refine List.filterMap_congr fun option _ => ?_
  cases h : readOption option <;> simp [key?, h, Except.toOption]

/-- Leaving out the options with the key of an earlier one erases that key. -/
theorem values_filter_sameKey {option value : String} {key : OptionKey}
    (h : readOption option = .ok (key, value)) (options : List String) :
    values (options.filter fun later => !sameKey option later) = (values options).erase key := by
  induction options with
  | nil => rfl
  | cons later options ih =>
    -- a later option goes if it is well-formed and has the same key
    cases hlater : readOption later with
    | error fault =>
      have hother : sameKey option later = false := by
        simp [sameKey, key?, h, hlater, Except.toOption]
      rw [List.filter_cons_of_pos (by simp [hother])]
      simpa [values, hlater, Except.toOption] using ih
    | ok p =>
      obtain ⟨other, value'⟩ := p
      by_cases hkey : other = key
      · subst hkey
        have hsame : sameKey option later = true := by
          simp [sameKey, key?, h, hlater, Except.toOption]
        rw [List.filter_cons_of_neg (by simp [hsame]), ih, values_cons hlater,
          Table.erase_cons_self]
      · have hother : sameKey option later = false := by
          simp [sameKey, key?, h, hlater, Except.toOption, Ne.symm hkey]
        rw [List.filter_cons_of_pos (by simp [hother]), values_cons hlater, values_cons hlater, ih,
          Table.erase_cons_of_ne hkey]

/-- The first options of each key have the first values of each key. -/
theorem values_leading (options : List String) :
    values (leading options) = (values options).firsts := by
  induction options with
  | nil => rfl
  | cons option options ih =>
    rw [leading]
    cases h : readOption option with
    | error fault =>
      have hnone : key? option = none := by simp [key?, h, Except.toOption]
      -- a malformed option has no key, so that nothing is left out for its sake
      have hall : (leading options).filter (fun later => !sameKey option later) = leading options :=
        List.filter_eq_self.mpr fun later _ => by simp [sameKey, hnone]
      rw [hall]
      simpa [values, h, Except.toOption] using ih
    | ok p =>
      obtain ⟨key, value⟩ := p
      rw [values_cons h, values_cons h, values_filter_sameKey h, ih]
      rfl

/-! ## 2. The control -/

/-- The values by key decide which control options give, and whether they give one. -/
theorem control?_congr {options other : List String}
    (h : (values options).get? = (values other).get?) (segment : String) :
    control? segment options = control? segment other := by
  refine Option.ext fun c => ?_
  rw [control?, control?, toOption_eq_some_iff, toOption_eq_some_iff, readOptions_ok_iff,
    readOptions_ok_iff, h]

/-- What a control holds for a key that is not written is its default. -/
def AtDefault (c : Control) : OptionKey → Prop
  | .firstTimeIndent => c.firstTimeIndent = 0
  | .padSegment => c.padSegment = ""
  | .tabSize => c.tabSize = none

/-- Of a key without a value the control has the default. -/
theorem atDefault_of_setBy {text : OptionKey → Option String} {c : Control} {key : OptionKey}
    (h : SetBy text {} c) (hkey : text key = none) : AtDefault c key := by
  cases key with
  | firstTimeIndent =>
    have hset := h.indent
    rw [hkey] at hset
    exact (Except.ok.inj hset).symm
  | padSegment =>
    have hset := h.pad
    rw [hkey] at hset
    exact hset.symm
  | tabSize =>
    have hset := h.tabSize
    rw [hkey] at hset
    exact (Except.ok.inj hset).symm

theorem keys_values (options : List String) : (values options).keys = options.filterMap key? := by
  rw [values, Table.keys, List.map_filterMap]
  rfl

/-- **The options of a header mean the first well-formed one of each key, in any order.**  The control
that they give, or that they give none, is the same without the malformed ones, without those whose key
an earlier one has, and for whatever then remains in any order.  It is made of the values in what
remains, and what it holds for a key that no remaining option has is the default. -/
theorem control?_of_perm {options reordered : List String}
    (h : reordered.Perm (leading (wellFormed options))) (segment : String) :
    control? segment (wellFormed options) = control? segment options ∧
    control? segment (leading options) = control? segment options ∧
    control? segment reordered = control? segment options ∧
    (∀ c, control? segment options = some c ↔ SetBy (values reordered).get? {} c) ∧
    ∀ c ∈ control? segment options, c.isFirstTime = true ∧
      ∀ key, key ∉ reordered.filterMap key? → AtDefault c key := by
  -- what remains has the first value of every key, and no key twice
  have hkept : values (leading (wellFormed options)) = (values options).firsts := by
    rw [values_leading, values_wellFormed]
  have hreordered : (values reordered).get? = (values options).get? := by
    have hperm : (values reordered).Perm (values options).firsts := hkept ▸ h.filterMap _
    -- with distinct keys the order makes no difference to a look-up
    rw [Table.get?_of_perm hperm (Table.nodup_keys_firsts _), Table.get?_firsts]
  have hset : ∀ c, control? segment options = some c ↔ SetBy (values reordered).get? {} c := by
    intro c
    rw [hreordered, control?, toOption_eq_some_iff, readOptions_ok_iff]
  refine ⟨control?_congr (by rw [values_wellFormed]) segment,
    control?_congr (by rw [values_leading, Table.get?_firsts]) segment,
    control?_congr hreordered segment, hset, fun c hc => ?_⟩
  have hc := (hset c).mp hc
  refine ⟨hc.isFirstTime, fun key hkey => atDefault_of_setBy hc ?_⟩
  exact Table.get?_eq_none_iff.mpr (keys_values reordered ▸ hkey)

/-- The first value for the tab size is no number, and still the second does not count. -/
theorem control?_of_perm_refused :
    ∃ options, options = ["tab=x", "FTI", "PAD=Sep", "=2", "TAB=4", "pad=Other"] ∧
      ["PAD=Sep", "tab=x"].Perm (leading (wellFormed options)) ∧
      control? "A" options = some { padSegment := "Sep" } ∧
      control? "A" (wellFormed options) = control? "A" options ∧
      control? "A" (leading options) = control? "A" options ∧
      control? "A" ["PAD=Sep", "tab=x"] = control? "A" options ∧
      SetBy (values ["PAD=Sep", "tab=x"]).get? {} { padSegment := "Sep" } ∧
      AtDefault { padSegment := "Sep" } .firstTimeIndent := by
  let options := ["tab=x", "FTI", "PAD=Sep", "=2", "TAB=4", "pad=Other"]
  have hkept : leading (wellFormed options) = ["tab=x", "PAD=Sep"] := by decide +kernel
  have hperm : ["PAD=Sep", "tab=x"].Perm (leading (wellFormed options)) := hkept ▸ .swap _ _ _
  have hcontrol : control? "A" options = some { padSegment := "Sep" } := by decide +kernel
  obtain ⟨hformed, hleading, hreordered, hset, hdefault⟩ := control?_of_perm hperm "A"
  exact ⟨options, rfl, hperm, hcontrol, hformed, hleading, hreordered, (hset _).mp hcontrol,
    (hdefault _ hcontrol).2 _ (by decide +kernel)⟩

end Header

end Stencil
