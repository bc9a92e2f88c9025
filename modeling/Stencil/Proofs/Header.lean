/-
# What a header says

`Header.readOptions` works through the options one by one, with the keys that have occurred and the
control so far.  Seen from outside only one value counts for each key: the first that is written for
it in a well-formed option (`Header.values`).  The control is made of these three values
(`readOptions_ok_iff`), and the options cannot be read exactly when one of the two that must be
numbers has too many digits (`readOptions_error_iff`).

* `settle_cases`, `settle_name`: the name that a segment gets is a valid name of its header or a default
  one, which is noted;
* `readOptions_declared`: a control that is read lies within the bounds of its options.
-/
import Mathlib.Logic.Basic
import Stencil.Header
import Stencil.Proofs.Except
import Stencil.Proofs.Name

namespace Stencil

/-! ## 1. Controls as a header can declare them -/

/-- A control before its segment was ever rendered, within the bounds of the options. -/
structure Control.Declared (c : Control) : Prop where
  isFirstTime : c.isFirstTime = true
  indent : -9 ≤ c.firstTimeIndent ∧ c.firstTimeIndent ≤ 9
  tabSize : ∀ n ∈ c.tabSize, 1 ≤ n ∧ n ≤ 9

theorem Control.declared_default : Control.Declared {} := ⟨rfl, by decide, by simp⟩

/-- A text of ASCII digits, signed or not, with more of them than are read as a number. -/
def Text.LongNumber (s : String) : Prop :=
  ∃ ds, asciiDigits? (splitSign (trim s.toList)).2 = some ds ∧ digitLimit < ds.length

/-- Only the number of digits makes reading a number fail; any other text is no number. -/
theorem Text.parseInt_error_iff {s : String} :
    (∃ o, parseInt s = .error o) ↔ LongNumber s := by
  unfold parseInt LongNumber
  cases hd : asciiDigits? (splitSign (trim s.toList)).2 with
  | none => simp [hd]
  | some ds =>
    by_cases hl : ds.length ≤ digitLimit
    · simp [hd, hl, signedValue, Except.map]
    · simp [hd, hl, signedValue, Except.map, Nat.lt_of_not_le hl]

/-! ## 2. The name -/

/-- The message says that the name of a segment is not one that stands in its header. -/
def Message.isAboutName : Message → Bool
  | .nameNotInColumnFive _ => true
  | .invalidSegmentName _ _ => true
  | _ => false

namespace Header

/-- A header gives its own name without a notice, or the next default name with a notice. -/
theorem settle_cases {h : Header} {namer namer' : Namer} {taken : List String} {name : String}
    {ms : List Message} (hs : h.settle namer taken = (.ok (name, ms), namer')) :
    (h.name = .given name ∧ isName name = true ∧ ms = [] ∧ namer' = namer) ∨
      (namer.next taken = (.ok name, namer') ∧ ∃ m, ms = [m] ∧ m.isAboutName = true) := by
  unfold settle at hs
  rcases hnext : namer.next taken with ⟨next, after⟩
  cases hgiven : h.name with
  | missing =>
    simp only [hgiven, hnext, Prod.mk.injEq, map_eq_ok_iff] at hs
    obtain ⟨⟨default, rfl, rfl, rfl⟩, rfl⟩ := hs
    exact .inr ⟨rfl, _, rfl, rfl⟩
  | given given =>
    by_cases hname : isName given = true
    · simp only [hgiven, hname, if_true, Prod.mk.injEq, Except.ok.injEq] at hs
      obtain ⟨⟨rfl, rfl⟩, rfl⟩ := hs
      exact .inl ⟨rfl, hname, rfl, rfl⟩
    · simp only [hgiven, hname, hnext, if_false, Bool.false_eq_true, Prod.mk.injEq,
        map_eq_ok_iff] at hs
      obtain ⟨⟨default, rfl, rfl, rfl⟩, rfl⟩ := hs
      exact .inr ⟨rfl, _, rfl, rfl⟩

/-- The name that a segment gets is a valid name or a default one. -/
theorem settle_name {h : Header} {namer namer' : Namer} {taken : List String} {name : String}
    {ms : List Message} (hs : h.settle namer taken = (.ok (name, ms), namer')) :
    (isName name = true ∨ IsDefaultName namer.stem name) ∧ namer'.stem = namer.stem := by
  rcases settle_cases hs with ⟨-, hname, -, rfl⟩ | ⟨hnext, -⟩
  · exact ⟨.inl hname, rfl⟩
  · have hstem := Namer.stem_next namer taken
    rw [hnext] at hstem
    exact ⟨.inr (Namer.next_isDefault hnext), hstem⟩

/-! ## 3. What is written for a key -/

/-- The well-formed options by key; of several with one key the first decides. -/
def values (options : List String) : Table OptionKey String :=
  options.filterMap fun option => (readOption option).toOption

/-- What decides about a key, unless it has occurred before. -/
def deciding (found : List OptionKey) (options : List String) (key : OptionKey) : Option String :=
  if key ∈ found then none else (values options).get? key

theorem deciding_of_mem {found : List OptionKey} {key : OptionKey} (options : List String)
    (h : key ∈ found) : deciding found options key = none := if_pos h

theorem deciding_malformed {option : String} {fault : OptionFault}
    (h : readOption option = .error fault) (found : List OptionKey) (options : List String) :
    deciding found (option :: options) = deciding found options := by
  funext key
  simp [deciding, values, h, Except.toOption]

theorem values_cons {option value : String} {key : OptionKey}
    (h : readOption option = .ok (key, value)) (options : List String) :
    values (option :: options) = (key, value) :: values options := by
  simp [values, h, Except.toOption]

/-- A key that has occurred is not decided about again. -/
theorem deciding_repeated {option value : String} {key : OptionKey} {found : List OptionKey}
    (h : readOption option = .ok (key, value)) (hk : key ∈ found) (options : List String) :
    deciding found (option :: options) = deciding found options := by
  funext other
  by_cases ho : other ∈ found
  · simp [deciding, ho]
  · have hne : key ≠ other := fun e => ho (e ▸ hk)
    simp [deciding, ho, values_cons h, Table.get?, hne]

theorem deciding_self {option value : String} {key : OptionKey} {found : List OptionKey}
    (h : readOption option = .ok (key, value)) (hk : key ∉ found) (options : List String) :
    deciding found (option :: options) key = some value := by
  simp [deciding, hk, values_cons h, Table.get?]

theorem deciding_other {option value : String} {key other : OptionKey}
    (h : readOption option = .ok (key, value)) (hne : key ≠ other) (found : List OptionKey)
    (options : List String) :
    deciding found (option :: options) other = deciding (key :: found) options other := by
  simp [deciding, values_cons h, Table.get?, hne, Ne.symm hne]

/-! ## 4. The control of a header -/

/-- The indent that a value sets; one that is refused leaves what was there. -/
def indentSet (before : Int) : Option String → Except Text.DigitOverflow Int
  | none => .ok before
  | some value => (Column.readIndent (some value)).map fun n => n.toOption.getD before

/-- The pad that a value sets; one that is refused leaves what was there. -/
def padSet (before : String) : Option String → String
  | none => before
  | some value => if isName value then value else before

/-- The tab size that a value sets; one that is refused leaves what was there. -/
def tabSizeSet (before : Option Int) : Option String → Except Text.DigitOverflow (Option Int)
  | none => .ok before
  | some value => (Column.tabSizeOption (some value)).map fun n => n.1.or before

/-- A control as the values of the keys make it of another. -/
structure SetBy (text : OptionKey → Option String) (before after : Control) : Prop where
  isFirstTime : after.isFirstTime = before.isFirstTime
  indent : indentSet before.firstTimeIndent (text .firstTimeIndent) = .ok after.firstTimeIndent
  pad : padSet before.padSegment (text .padSegment) = after.padSegment
  tabSize : tabSizeSet before.tabSize (text .tabSize) = .ok after.tabSize

/-- What becomes of the control, whatever is said about the value. -/
theorem setOption_control (segment : String) (c : Control) (key : OptionKey) (value : String) :
    (setOption segment c key value).map (·.1) = match key with
      | .firstTimeIndent => (indentSet c.firstTimeIndent (some value)).map fun n =>
          { c with firstTimeIndent := n }
      | .padSegment => .ok { c with padSegment := padSet c.padSegment (some value) }
      | .tabSize => (tabSizeSet c.tabSize (some value)).map fun n => { c with tabSize := n } := by
  cases key with
  | firstTimeIndent =>
    rcases h : Column.readIndent (some value) with o | (m | n) <;>
      simp [setOption, indentSet, h, Except.map, Except.toOption]
  | padSegment =>
    by_cases h : isName value = true <;> simp [setOption, padSet, h, Except.map]
  | tabSize =>
    rcases h : Column.tabSizeOption (some value) with o | ⟨_ | n, ms⟩ <;>
      simp [setOption, tabSizeSet, h, Except.map]

/-- The first option of a key sets its value. -/
theorem readOptionsFrom_set {segment option value : String} {key : OptionKey}
    {found : List OptionKey} {c : Control} (h : readOption option = .ok (key, value))
    (hk : key ∉ found) (options : List String) :
    (readOptionsFrom segment found c (option :: options)).2
      = ((setOption segment c key value).map (·.1)).bind fun c' =>
          (readOptionsFrom segment (key :: found) c' options).2 := by
  rw [readOptionsFrom, h]
  cases hs : setOption segment c key value with
  | error o => simp [hk, hs, Except.map, Except.bind]
  | ok p => simp [hk, hs, Except.map, Except.bind]

/-- A later option of a key is passed over. -/
theorem readOptionsFrom_repeated {segment option value : String} {key : OptionKey}
    {found : List OptionKey} {c : Control} (h : readOption option = .ok (key, value))
    (hk : key ∈ found) (options : List String) :
    (readOptionsFrom segment found c (option :: options)).2
      = (readOptionsFrom segment found c options).2 := by
  rw [readOptionsFrom, h]
  simp [hk]

/-- What is set by the first value of a key and then by the other keys is set by all of them. -/
theorem setBy_step (segment : String) {value : String} {key : OptionKey}
    {text rest : OptionKey → Option String} {before after : Control}
    (hself : text key = some value) (hrest : rest key = none)
    (hother : ∀ other, key ≠ other → text other = rest other) :
    SetBy text before after ↔
      ∃ c, (setOption segment before key value).map (·.1) = .ok c ∧ SetBy rest c after := by
  -- each key sets its own field; the equations of the other two are those of the rest
  rw [setOption_control]
  cases key with
  | firstTimeIndent =>
    have hpad := hother .padSegment (by decide)
    have htab := hother .tabSize (by decide)
    constructor
    · rintro ⟨hf, hi, hp, ht⟩
      refine ⟨{ before with firstTimeIndent := after.firstTimeIndent }, ?_, hf, ?_, ?_, ?_⟩
      · exact map_eq_ok_iff.mpr ⟨_, hself ▸ hi, rfl⟩
      · rw [hrest]; rfl
      · exact hpad ▸ hp
      · exact htab ▸ ht
    · rintro ⟨c, hc, hf, hi, hp, ht⟩
      obtain ⟨n, hn, rfl⟩ := map_eq_ok_iff.mp hc
      rw [hrest] at hi
      obtain rfl := Except.ok.inj hi
      exact ⟨hf, hself ▸ hn, hpad ▸ hp, htab ▸ ht⟩
  | padSegment =>
    have hind := hother .firstTimeIndent (by decide)
    have htab := hother .tabSize (by decide)
    constructor
    · rintro ⟨hf, hi, hp, ht⟩
      refine ⟨_, rfl, hf, hind ▸ hi, ?_, htab ▸ ht⟩
      rw [hrest, ← hself]
      exact hp
    · rintro ⟨c, hc, hf, hi, hp, ht⟩
      obtain rfl := Except.ok.inj hc
      rw [hrest, ← hself] at hp
      exact ⟨hf, hind ▸ hi, hp, htab ▸ ht⟩
  | tabSize =>
    have hind := hother .firstTimeIndent (by decide)
    have hpad := hother .padSegment (by decide)
    constructor
    · rintro ⟨hf, hi, hp, ht⟩
      refine ⟨{ before with tabSize := after.tabSize }, ?_, hf, ?_, ?_, ?_⟩
      · exact map_eq_ok_iff.mpr ⟨_, hself ▸ ht, rfl⟩
      · exact hind ▸ hi
      · exact hpad ▸ hp
      · rw [hrest]; rfl
    · rintro ⟨c, hc, hf, hi, hp, ht⟩
      obtain ⟨n, hn, rfl⟩ := map_eq_ok_iff.mp hc
      rw [hrest] at ht
      obtain rfl := Except.ok.inj ht
      exact ⟨hf, hind ▸ hi, hpad ▸ hp, hself ▸ hn⟩

/-- The control that reading the options from somewhere on ends with. -/
theorem readOptionsFrom_ok_iff {segment : String} {found : List OptionKey} {before after : Control}
    {options : List String} :
    (readOptionsFrom segment found before options).2 = .ok after ↔
      SetBy (deciding found options) before after := by
  -- `deciding` forgets the keys that have occurred, and `before` has their values already
  induction options generalizing found before with
  | nil =>
    have hnone : deciding found [] = fun _ => none := by
      funext key
      simp [deciding, values, Table.get?]
    rw [hnone]
    constructor
    · intro h
      obtain rfl := Except.ok.inj h
      exact ⟨rfl, rfl, rfl, rfl⟩
    · rintro ⟨hf, hi, hp, ht⟩
      obtain ⟨f, n, p, t⟩ := after
      cases Except.ok.inj hi
      cases Except.ok.inj ht
      cases hp
      cases hf
      rfl
  | cons option options ih =>
    cases hr : readOption option with
    | error fault => rw [readOptions_malformed hr, deciding_malformed hr, ih]
    | ok p =>
      obtain ⟨key, value⟩ := p
      by_cases hk : key ∈ found
      · rw [readOptionsFrom_repeated hr hk, deciding_repeated hr hk, ih]
      · rw [readOptionsFrom_set hr hk, setBy_step segment (deciding_self hr hk options)
          (deciding_of_mem options List.mem_cons_self) fun other hne =>
            deciding_other hr hne found options]
        cases hs : (setOption segment before key value).map (·.1) with
        | error o => simp [Except.bind]
        | ok c => simp [Except.bind, ih]

/-- **The control of a header, by its keys.**  Each is set by the first value that is written for it,
and has its default where there is none or that one is refused. -/
theorem readOptions_ok_iff {segment : String} {options : List String} {c : Control} :
    (readOptions segment options).2 = .ok c ↔ SetBy (values options).get? {} c := by
  have h : deciding [] options = (values options).get? := by
    funext key
    simp [deciding]
  rw [readOptions, readOptionsFrom_ok_iff, h]

/-! ## 5. Bounds, and numbers that are too long -/

/-- An indent that is out of bounds is refused, so that the one from before stays. -/
theorem indentSet_bounds {before n : Int} {text : Option String}
    (h : indentSet before text = .ok n) (hb : -9 ≤ before ∧ before ≤ 9) : -9 ≤ n ∧ n ≤ 9 := by
  cases text with
  | none => exact Except.ok.inj h ▸ hb
  | some value =>
    obtain ⟨read, hr, rfl⟩ := map_eq_ok_iff.mp h
    obtain ⟨given, -, hg⟩ := map_eq_ok_iff.mp hr
    cases given with
    | none => exact hg ▸ hb
    | some m =>
      dsimp only at hg
      split at hg
      · rename_i hm
        exact hg ▸ hm
      · exact hg ▸ hb

/-- A tab size that is out of bounds is pulled to the nearer one. -/
theorem tabSizeSet_bounds {before after : Option Int} {text : Option String}
    (h : tabSizeSet before text = .ok after) (hb : ∀ n ∈ before, 1 ≤ n ∧ n ≤ 9) :
    ∀ n ∈ after, 1 ≤ n ∧ n ≤ 9 := by
  cases text with
  | none => exact Except.ok.inj h ▸ hb
  | some value =>
    obtain ⟨read, hr, rfl⟩ := map_eq_ok_iff.mp h
    obtain ⟨given, -, hg⟩ := map_eq_ok_iff.mp hr
    cases given with
    | none => exact hg ▸ hb
    | some m =>
      subst hg
      intro n hn
      obtain rfl := Option.some.inj hn
      exact Column.clampTabSize_bounds m

theorem readOptions_declared {segment : String} {options : List String} {c : Control}
    (h : (readOptions segment options).2 = .ok c) : c.Declared := by
  obtain ⟨hf, hi, -, ht⟩ := readOptions_ok_iff.mp h
  exact ⟨hf, indentSet_bounds hi Control.declared_default.indent,
    tabSizeSet_bounds ht Control.declared_default.tabSize⟩

theorem givenInt_error_iff {value : String} :
    (∃ o, Column.givenInt (some value) = .error o) ↔ Text.LongNumber value :=
  Text.parseInt_error_iff

theorem indentSet_error_iff (before : Int) {text : Option String} :
    (∃ o, indentSet before text = .error o) ↔ ∃ value, text = some value ∧ Text.LongNumber value := by
  cases text with
  | none => simp [indentSet]
  | some value =>
    simp only [indentSet, Column.readIndent, map_eq_error_iff, givenInt_error_iff]
    simp

theorem tabSizeSet_error_iff (before : Option Int) {text : Option String} :
    (∃ o, tabSizeSet before text = .error o) ↔
      ∃ value, text = some value ∧ Text.LongNumber value := by
  cases text with
  | none => simp [tabSizeSet]
  | some value =>
    simp only [tabSizeSet, Column.tabSizeOption, map_eq_error_iff, givenInt_error_iff]
    simp

/-- What decides about an option that must be a number has too many digits to be read. -/
def HasLongNumber (options : List String) : Prop :=
  ∃ key value, key ≠ .padSegment ∧ (values options).get? key = some value ∧ Text.LongNumber value

theorem hasLongNumber_iff {options : List String} :
    HasLongNumber options ↔
      (∃ value, (values options).get? .firstTimeIndent = some value ∧ Text.LongNumber value) ∨
        ∃ value, (values options).get? .tabSize = some value ∧ Text.LongNumber value := by
  constructor
  · rintro ⟨key, value, hne, hv, hl⟩
    cases key with
    | firstTimeIndent => exact .inl ⟨value, hv, hl⟩
    -- a pad is a name, whatever digits it has
    | padSegment => exact absurd rfl hne
    | tabSize => exact .inr ⟨value, hv, hl⟩
  · rintro (⟨value, hv, hl⟩ | ⟨value, hv, hl⟩)
    · exact ⟨_, value, by decide, hv, hl⟩
    · exact ⟨_, value, by decide, hv, hl⟩

/-- **Options cannot be read exactly when a number among them is too long.** -/
theorem readOptions_error_iff {segment : String} {options : List String} :
    (∃ o, (readOptions segment options).2 = .error o) ↔ HasLongNumber options := by
  -- the defaults stand before the options, but no indent and no tab size makes a difference here
  rw [hasLongNumber_iff, ← indentSet_error_iff 0,
    ← tabSizeSet_error_iff none, ← not_iff_not, ← exists_ok_iff, not_or,
    ← exists_ok_iff, ← exists_ok_iff]
  constructor
  · rintro ⟨c, h⟩
    obtain ⟨-, hi, -, ht⟩ := readOptions_ok_iff.mp h
    exact ⟨⟨_, hi⟩, ⟨_, ht⟩⟩
  · rintro ⟨⟨n, hi⟩, ⟨t, ht⟩⟩
    exact ⟨⟨true, n, _, t⟩, readOptions_ok_iff.mpr ⟨rfl, hi, rfl, ht⟩⟩

end Header

end Stencil
