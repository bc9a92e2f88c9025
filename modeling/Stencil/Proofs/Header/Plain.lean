/-
# Headers that are taken at their word

While a header is read, whatever is wrong with it is put right and noted.  If there is nothing to note,
nothing was put right: the segment has the name that stands in the header, and its control holds what
is written for each key and the default where nothing is.

For the options this is a claim about every place at which one is passed over or a value is replaced,
and each of them has a notice: a malformed option, a key that occurs again, an indent that is no number
or too far, an invalid pad, a tab size that is no number or pulled to a bound.

* `readOption_ok_spells`: an option that is read is a key, an equals sign and a value;
* `plain_of_readOptionsFrom`: the options of which there is nothing to say;
* `declares_of_readOptions`: the name and the control of a header.
-/
import Mathlib.Data.List.Forall2
import Mathlib.Data.List.TakeWhile
import Stencil.Proofs.Header
import Stencil.Proofs.Table

namespace Stencil

/-! ## 1. What a header line declares -/

/-- The text writes the number. -/
def Text.Writes (s : String) (n : Int) : Prop := parseInt s = .ok (some n)

/-- The control of a segment that has not been rendered holds what is written for each key, and the
default of a key for which nothing is written. -/
structure Control.Holds (c : Control) (written : Table OptionKey String) : Prop where
  isFirstTime : c.isFirstTime = true
  firstTimeIndent : ∃ n, Option.Rel Text.Writes (written.get? .firstTimeIndent) n ∧
    c.firstTimeIndent = n.getD 0
  padSegment : c.padSegment = (written.get? .padSegment).getD ""
  tabSize : Option.Rel Text.Writes (written.get? .tabSize) c.tabSize

namespace Header

def fields (line : String) : List String := (fieldsOf line.toList).map String.ofList

/-- The option is the key, in letters of either case, and a value that is not empty, with an equals
sign between them. -/
def Spells (option : String) (p : OptionKey × String) : Prop :=
  ∃ word, option = word ++ "=" ++ p.2 ∧ '=' ∉ word.toList ∧ Text.upper word = p.1.name ∧ p.2 ≠ ""

/-- The second field of the line is the name, and the fields behind it are options, no two of them with
one key, whose values are those of the control. -/
structure Declares (line name : String) (c : Control) : Prop where
  name : (fields line)[1]? = some name
  options : ∃ written : Table OptionKey String,
    List.Forall₂ Spells ((fields line).drop 2) written ∧ written.keys.Nodup ∧ c.Holds written

/-! ## 2. One option -/

theorem upper_of_ofName? {word : String} {key : OptionKey} (h : OptionKey.ofName? word = some key) :
    Text.upper word = key.name := by
  have hfound := List.find?_some h
  exact (eq_of_beq hfound).symm

/-- An option that is read spells its key and its value. -/
theorem readOption_ok_spells {option : String} {p : OptionKey × String}
    (h : readOption option = .ok p) : Spells option p := by
  have hparts := List.takeWhile_append_dropWhile (p := (· ≠ '=')) (l := option.toList)
  have hword : '=' ∉ option.toList.takeWhile (· ≠ '=') := by
    intro hmem
    simpa using List.mem_takeWhile_imp hmem
  have hhead := List.head?_dropWhile_not (· ≠ '=') option.toList
  unfold readOption at h
  generalize option.toList.takeWhile (· ≠ '=') = word at h hparts hword
  generalize option.toList.dropWhile (· ≠ '=') = rest at h hparts hhead
  -- without an equals sign, a key or a value the option is malformed
  rcases rest with _ | ⟨sign, value⟩
  · exact absurd h (by simp)
  · obtain rfl : sign = '=' := by simpa using hhead
    cases hof : OptionKey.ofName? (String.ofList word) with
    | none =>
      simp only [hof] at h
      split at h <;> exact absurd h (by simp)
    | some key =>
      by_cases hvalue : value = []
      · simp only [hof, hvalue, if_true] at h
        split at h <;> exact absurd h (by simp)
      · simp only [hof, hvalue, if_false] at h
        split at h
        · exact absurd h (by simp)
        · obtain rfl := Except.ok.inj h
          have htext : option = String.ofList word ++ "=" ++ String.ofList value := by
            rw [← String.toList_inj]
            simp [← hparts]
          refine ⟨String.ofList word, htext, by simpa using hword, upper_of_ofName? hof, ?_⟩
          intro hempty
          exact hvalue (String.ofList_eq_empty_iff.mp hempty)

/-- The value is set in some control of the segment, and there is nothing to say about it. -/
def Taken (segment : String) (p : OptionKey × String) : Prop :=
  ∃ c c', setOption segment c p.1 p.2 = .ok (c', [])

/-- An indent of which there is nothing to say is the number that is written. -/
theorem readIndent_of_taken {segment value : String} (h : Taken segment (.firstTimeIndent, value)) :
    ∃ n, Column.readIndent (some value) = .ok (.ok n) ∧ Text.Writes value n := by
  obtain ⟨c, c', hset⟩ := h
  obtain ⟨read, hread, hsaid⟩ := map_eq_ok_iff.mp hset
  obtain ⟨given, hgiven, rfl⟩ := map_eq_ok_iff.mp hread
  cases given with
  | none => simp at hsaid
  | some n =>
    by_cases hn : -Column.farthestIndent ≤ n ∧ n ≤ Column.farthestIndent
    · refine ⟨n, ?_, hgiven⟩
      rw [hread]
      simp [hn]
    · simp [hn] at hsaid

/-- A pad of which there is nothing to say is a valid name. -/
theorem isName_of_taken {segment value : String} (h : Taken segment (.padSegment, value)) :
    isName value = true := by
  obtain ⟨c, c', hset⟩ := h
  by_cases hname : isName value = true
  · exact hname
  · simp [setOption, hname] at hset

/-- A tab size that is not pulled to a bound stays as it is. -/
theorem clampTabSize_of_quiet {n : Int} (h : (Column.clampTabSize n).2 = []) :
    Column.clampTabSize n = (n, []) := by
  unfold Column.clampTabSize at h ⊢
  split at h
  · exact absurd h (by simp)
  · split at h
    · exact absurd h (by simp)
    · rename_i hlow hhigh
      rw [if_neg hlow, if_neg hhigh]

/-- A tab size of which there is nothing to say is the number that is written. -/
theorem tabSizeOption_of_taken {segment value : String} (h : Taken segment (.tabSize, value)) :
    ∃ n, Column.tabSizeOption (some value) = .ok (some n, []) ∧ Text.Writes value n := by
  obtain ⟨c, c', hset⟩ := h
  obtain ⟨read, hread, hsaid⟩ := map_eq_ok_iff.mp hset
  obtain ⟨given, hgiven, rfl⟩ := map_eq_ok_iff.mp hread
  cases given with
  | none => simp at hsaid
  | some n =>
    have hclamp : Column.clampTabSize n = (n, []) :=
      clampTabSize_of_quiet (congrArg Prod.snd hsaid)
    refine ⟨n, ?_, hgiven⟩
    rw [hread]
    simp [hclamp]

/-! ## 3. The options together -/

/-- The options are read, and there is nothing to say about them: their keys are distinct and have not
occurred, and each value is taken. -/
structure Plain (segment : String) (found : List OptionKey) (options : List String)
    (written : Table OptionKey String) : Prop where
  read : List.Forall₂ (fun option p => readOption option = .ok p) options written
  taken : ∀ p ∈ written, Taken segment p
  nodup : written.keys.Nodup
  new : ∀ key ∈ written.keys, key ∉ found

/-- Reading options without a notice: every one of them is read and taken. -/
theorem plain_of_readOptionsFrom {segment : String} {found : List OptionKey} {c c' : Control}
    {options : List String} (h : readOptionsFrom segment found c options = ([], .ok c')) :
    ∃ written, Plain segment found options written := by
  -- each way past an option has its notice, so that only setting it is left
  induction options generalizing found c with
  | nil => exact ⟨[], .nil, by simp, by simp, by simp⟩
  | cons option options ih =>
    rw [readOptionsFrom] at h
    cases hread : readOption option with
    | error fault => simp [hread] at h
    | ok p =>
      obtain ⟨key, value⟩ := p
      by_cases hfound : key ∈ found
      · simp [hread, hfound] at h
      · cases hset : setOption segment c key value with
        | error overflow => simp [hread, hfound, hset] at h
        | ok set =>
          obtain ⟨c₁, said⟩ := set
          simp only [hread, hfound, hset, if_false, Prod.mk.injEq, List.append_eq_nil_iff] at h
          obtain ⟨⟨rfl, hquiet⟩, hrest⟩ := h
          obtain ⟨written, hplain⟩ := ih (Prod.ext hquiet hrest)
          -- the rest was read with this key among those that had occurred
          have hnew : key ∉ Table.keys written := fun hmem =>
            hplain.new key hmem List.mem_cons_self
          refine ⟨(key, value) :: written, .cons hread hplain.read, ?_, ?_, ?_⟩
          · intro p hp
            rcases List.mem_cons.mp hp with rfl | hp
            · exact ⟨c, c₁, hset⟩
            · exact hplain.taken p hp
          · exact List.nodup_cons.mpr ⟨hnew, hplain.nodup⟩
          · intro other hother
            rcases List.mem_cons.mp hother with rfl | hother
            · exact hfound
            · exact fun hmem => hplain.new other hother (List.mem_cons_of_mem _ hmem)

theorem Plain.values_eq {segment : String} {found : List OptionKey} {options : List String}
    {written : Table OptionKey String} (h : Plain segment found options written) :
    values options = written := by
  have hread := h.read
  clear h
  induction hread with
  | nil => rfl
  | cons hoption _ ih => rw [values_cons hoption, ih]

/-- Without a notice the control of a header holds what is written in it. -/
theorem Plain.holds {segment : String} {options : List String} {written : Table OptionKey String}
    {c : Control} (h : Plain segment [] options written)
    (hc : SetBy (values options).get? {} c) : c.Holds written := by
  rw [h.values_eq] at hc
  obtain ⟨hfirst, hindent, hpad, htab⟩ := hc
  refine ⟨hfirst, ?_, ?_, ?_⟩
  -- for each key, either nothing is written and the default stands, or the value is taken
  · cases hget : written.get? .firstTimeIndent with
    | none =>
      rw [hget] at hindent
      exact ⟨none, .none, (Except.ok.inj hindent).symm⟩
    | some value =>
      obtain ⟨n, hread, hwrites⟩ := readIndent_of_taken (h.taken _ (Table.mem_of_get?_eq_some hget))
      rw [hget, indentSet, hread] at hindent
      exact ⟨some n, .some hwrites, (Except.ok.inj hindent).symm⟩
  · rw [← hpad]
    cases hget : written.get? .padSegment with
    | none => rfl
    | some value =>
      have hname := isName_of_taken (h.taken _ (Table.mem_of_get?_eq_some hget))
      rw [padSet, if_pos hname]
      rfl
  · cases hget : written.get? .tabSize with
    | none =>
      rw [hget] at htab
      exact Except.ok.inj htab ▸ .none
    | some value =>
      obtain ⟨n, hread, hwrites⟩ :=
        tabSizeOption_of_taken (h.taken _ (Table.mem_of_get?_eq_some hget))
      rw [hget, tabSizeSet, hread] at htab
      exact Except.ok.inj htab ▸ .some hwrites

/-- What a header is taken apart into are its second field and those behind it. -/
theorem fields_of_ofString {line name : String} {options : List String}
    (h : ofString line = ⟨.given name, options⟩) :
    (fields line)[1]? = some name ∧ (fields line).drop 2 = options := by
  unfold fields
  unfold ofString at h
  dsimp only at h
  by_cases hshort : line.toList.length ≤ 4
  · rw [if_pos hshort] at h
    exact absurd (congrArg Header.name h) (by simp)
  · rw [if_neg hshort] at h
    generalize (fieldsOf line.toList).map String.ofList = fields at h ⊢
    split at h
    · exact absurd (congrArg Header.name h) (by simp)
    · simpa using h
    · exact absurd (congrArg Header.name h) (by simp)

/-- **The name and the control of a header of which there is nothing to say** are those that stand in
its line. -/
theorem declares_of_readOptions {line name : String} {options : List String} {c : Control}
    (hparts : ofString line = ⟨.given name, options⟩)
    (h : readOptions name options = ([], .ok c)) : Declares line name c := by
  obtain ⟨written, hplain⟩ := plain_of_readOptionsFrom h
  have hholds : c.Holds written := hplain.holds (readOptions_ok_iff.mp (congrArg Prod.snd h))
  obtain ⟨hname, hoptions⟩ := fields_of_ofString hparts
  exact ⟨hname, written, hoptions ▸ hplain.read.imp fun _ _ => readOption_ok_spells, hplain.nodup,
    hholds⟩

end Header

end Stencil
