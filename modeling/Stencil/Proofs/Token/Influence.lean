/-
# The names that make a difference

The names that are recorded for a segment decide which values are accepted for it.  They are the names
that can make a difference to its text, no more and no fewer.  No more is left to be accepted, since a
text looks up nothing but its own names.  And none is recorded in vain: a token with a value of one
character and with a value of two stands at the same places of the text, so that with the second the
text comes out longer, whatever else is in it (`length_substitute_lt`).

* `mem_knownOf_extractAll`: what is recorded for the texts of a segment;
* `substitute_ne_of_mem`: a name of a text makes a difference to it;
* `knownOf_decisive`: the names on record are those that make a difference.
-/
import Mathlib.Algebra.Order.BigOperators.Group.List
import Mathlib.Algebra.Order.Ring.Nat
import Stencil.Proofs.Token.Bindings
import Stencil.Proofs.Token.Enclosed

namespace Stencil

/-! ## 1. Recording the texts of a segment -/

namespace Tokens

/-- The record after the texts of a segment, one after the other. -/
def extractAll (t : Tokens) (d : Delimiters) (segment : String) (texts : List String) : Tokens :=
  texts.foldl (fun t text => t.extract d segment text) t

theorem mem_knownOf_extract {t : Tokens} {d : Delimiters} {segment text name : String} :
    name ∈ (t.extract d segment text).knownOf segment ↔
      name ∈ t.knownOf segment ∨ name ∈ namesIn d text := by
  rw [knownOf, extract, Table.get?_put_self]
  exact mem_foldl_insertName

theorem mem_knownOf_extractAll {t : Tokens} {d : Delimiters} {segment name : String}
    {texts : List String} :
    name ∈ (t.extractAll d segment texts).knownOf segment ↔
      name ∈ t.knownOf segment ∨ ∃ text ∈ texts, name ∈ namesIn d text := by
  induction texts generalizing t with
  | nil => simp [extractAll]
  | cons text texts ih =>
    have hrest : name ∈ ((t.extract d segment text).extractAll d segment texts).knownOf segment ↔
        name ∈ (t.extract d segment text).knownOf segment ∨
          ∃ other ∈ texts, name ∈ namesIn d other := ih
    rw [mem_knownOf_extract, or_assoc] at hrest
    rw [List.exists_mem_cons_iff]
    exact hrest

/-! ## 2. Values that are dropped -/

/-- A name on record for a segment is accepted for it. -/
theorem accept_of_mem_knownOf {t : Tokens} {segment name : String} (h : name ∈ t.knownOf segment)
    (hname : isName name = true) : t.accept (some segment) (.name name) = .ok name := by
  rw [knownOf] at h
  cases hget : t.known.get? segment with
  | none => simp [hget] at h
  | some names =>
    rw [hget] at h
    exact accept_of_mem hget h hname

/-- For a name on record, supplying values binds it to what it is bound to where no name is on record,
so that no value is dropped as unknown. -/
theorem binding?_load_of_mem {t : Tokens} {segment name : String} (h : name ∈ t.knownOf segment)
    (hname : isName name = true) (values : Option Values) :
    (t.load (some segment) values).1.binding? (some segment) name
      = (({ t with known := [] } : Tokens).load (some segment) values).1.binding? (some segment)
          name := by
  have hopen : ({ t with known := [] } : Tokens).accept (some segment) (.name name) = .ok name := by
    simp [accept, ValueKey.name?, hname, Table.get?]
  exact binding?_load_congr (iff_of_true (accept_of_mem_knownOf h hname) hopen) rfl values

end Tokens

/-! ## 3. Values that make a difference -/

namespace Fragment

theorem withFlag_zero (flag : CaseFlag) : withFlag flag "0" = "0" := by
  cases flag <;> decide +kernel

theorem withFlag_zeros (flag : CaseFlag) : withFlag flag "00" = "00" := by
  cases flag <;> decide +kernel

/-- A token becomes the value that its name has. -/
theorem expand_zero_zeros {f : Fragment} {name : String} (h : f.tokenName? = some name)
    (d : Delimiters) (segment : String) (b : Bindings) :
    (f.expand d segment (b.put name (some "0"))).1 = ['0'] ∧
      (f.expand d segment (b.put name (some "00"))).1 = ['0', '0'] := by
  cases f with
  | literal text => simp [tokenName?] at h
  | unterminated text => simp [tokenName?] at h
  | token body =>
    simp only [tokenName?, Option.ite_none_right_eq_some, Option.some.injEq] at h
    obtain ⟨hname, hbody⟩ := h
    rw [hbody] at hname
    have hput : ∀ v, Table.get? (b.put name (some v)) name = some (some v) := fun v =>
      Table.get?_put_self b name (some v)
    rw [expand_of_bound hbody hname (hput "0") (by decide), withFlag_zero,
      expand_of_bound hbody hname (hput "00") (by decide), withFlag_zeros]
    exact ⟨rfl, rfl⟩

/-- No fragment is shorter with the longer value. -/
theorem length_expand_le (f : Fragment) (name : String) (d : Delimiters) (segment : String)
    (b : Bindings) :
    (f.expand d segment (b.put name (some "0"))).1.length
      ≤ (f.expand d segment (b.put name (some "00"))).1.length := by
  by_cases h : f.tokenName? = some name
  · obtain ⟨hzero, hzeros⟩ := expand_zero_zeros h d segment b
    rw [hzero, hzeros]
    exact Nat.le_succ 1
  · rw [expand_put_of_ne h, expand_put_of_ne h]

end Fragment

/-- A text is as long as its fragments together. -/
theorem length_substitute (d : Delimiters) (segment : String) (b : Bindings) (text : String) :
    (substitute d segment b text).1.length
      = ((scan d text.toList).map fun f => (f.expand d segment b).1.length).sum := by
  rw [substitute, ← String.length_toList, String.toList_ofList, List.length_flatMap, List.map_map]
  rfl

theorem length_substitute_lt {d : Delimiters} {text name : String}
    (h : name ∈ Tokens.namesIn d text) (segment : String) (b : Bindings) :
    (substitute d segment (b.put name (some "0")) text).1.length
      < (substitute d segment (b.put name (some "00")) text).1.length := by
  obtain ⟨f, hf, hname⟩ := Tokens.mem_namesIn_iff.mp h
  rw [length_substitute, length_substitute]
  -- no fragment gets shorter, and the one with the name gets longer
  refine List.sum_lt_sum _ _ (fun g _ => g.length_expand_le name d segment b) ⟨f, hf, ?_⟩
  obtain ⟨hzero, hzeros⟩ := Fragment.expand_zero_zeros hname d segment b
  rw [hzero, hzeros]
  exact Nat.lt_succ_self 1

/-- **A name of a text makes a difference to it**, whatever else is bound. -/
theorem substitute_ne_of_mem {d : Delimiters} {text name : String}
    (h : name ∈ Tokens.namesIn d text) (segment : String) (b : Bindings) :
    (substitute d segment (b.put name (some "0")) text).1
      ≠ (substitute d segment (b.put name (some "00")) text).1 := by
  intro e
  -- two texts of different lengths are not the same
  have hlt := length_substitute_lt h segment b
  rw [e] at hlt
  exact Nat.lt_irrefl _ hlt

/-! ## 4. The names on record -/

/-- **The names on record for a segment are those that can make a difference to its texts.**  Bindings
that agree on them come to the same, in what the texts become and in what is said about them; so the
values that are dropped as unknown could not have changed anything.  And each of the names has two
values with which one of the texts becomes another, whatever the other names are bound to. -/
theorem knownOf_decisive {t t' : Tokens} {d : Delimiters} {segment : String} {texts : List String}
    (hfresh : t.knownOf segment = []) (hrecord : t.extractAll d segment texts = t') :
    (∀ b b' : Bindings, (∀ name ∈ t'.knownOf segment, b'.get? name = b.get? name) →
        ∀ text ∈ texts, substitute d segment b' text = substitute d segment b text) ∧
      (∀ values, ∀ text ∈ texts,
        substitute d segment ((t'.load (some segment) values).1.bindingsOf (some segment)) text
          = substitute d segment ((({ t' with known := [] } : Tokens).load (some segment)
              values).1.bindingsOf (some segment)) text) ∧
      ∀ name ∈ t'.knownOf segment, ∃ v v' : String, ∃ text ∈ texts, ∀ b : Bindings,
        (substitute d segment (b.put name (some v)) text).1
          ≠ (substitute d segment (b.put name (some v')) text).1 := by
  subst hrecord
  -- the names of each text are on record
  have hknown : ∀ {text name}, text ∈ texts → name ∈ Tokens.namesIn d text →
      name ∈ (t.extractAll d segment texts).knownOf segment := fun htext hname =>
    Tokens.mem_knownOf_extractAll.mpr (.inr ⟨_, htext, hname⟩)
  refine ⟨?_, ?_, ?_⟩
  · intro b b' hagree text htext
    exact substitute_congr fun name hname => hagree name (hknown htext hname)
  · intro values text htext
    refine substitute_congr fun name hname => ?_
    obtain ⟨-, -, -, hvalid⟩ := Tokens.mem_namesIn.mp hname
    exact Tokens.binding?_load_of_mem (hknown htext hname) hvalid values
  · intro name hname
    rw [Tokens.mem_knownOf_extractAll, hfresh] at hname
    -- nothing was on record before, so that the name is that of a text
    obtain ⟨text, htext, hin⟩ := hname.resolve_left List.not_mem_nil
    exact ⟨"0", "00", text, htext, substitute_ne_of_mem hin segment⟩

/-- Two names on record, one of them with a flag and one between blanks.  An escaped token, an invalid
one and an empty one record nothing, and whether the name of the escaped one has a value makes no
difference. -/
theorem knownOf_decisive_escaped :
    (Tokens.extractAll { known := [("Other", ["z"])] } {} "S"
        ["<#+a#> \\<#b#> <#2#>", "<##><# c #>"]).knownOf "S" = ["a", "c"] ∧
      substitute {} "S" [("b", some "B"), ("a", some "x")] "<#+a#> \\<#b#> <#2#>"
        = substitute {} "S" [("a", some "x")] "<#+a#> \\<#b#> <#2#>" ∧
      ∃ v v' : String, ∃ text ∈ ["<#+a#> \\<#b#> <#2#>", "<##><# c #>"], ∀ b : Bindings,
        (substitute {} "S" (b.put "c" (some v)) text).1
          ≠ (substitute {} "S" (b.put "c" (some v')) text).1 := by
  have hknown : (Tokens.extractAll { known := [("Other", ["z"])] } {} "S"
      ["<#+a#> \\<#b#> <#2#>", "<##><# c #>"]).knownOf "S" = ["a", "c"] := by decide +kernel
  have hfresh : Tokens.knownOf { known := [("Other", ["z"])] } "S" = [] := by decide
  obtain ⟨hagree, -, hdecides⟩ := knownOf_decisive hfresh
    (rfl : Tokens.extractAll _ {} _ ["<#+a#> \\<#b#> <#2#>", "<##><# c #>"] = _)
  rw [hknown] at hagree hdecides
  exact ⟨hknown, hagree _ _ (by decide) _ (by decide), hdecides "c" (by decide)⟩

end Stencil
