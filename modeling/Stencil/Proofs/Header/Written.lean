/-
# Headers that are written out

A header line as a control is written: the name, and the options that are not at their defaults.  It
reads back as the name and the control, and there is nothing to say about it.

The line is the fields with a blank before each (`fieldsOf_join`), and the options are read one after
the other, each with the keys before it found (`readOptionsFrom_option`).

* `ofString_line`: the parts of a header line;
* `readOptions_options`: the options of a control.
-/
import Stencil.Proofs.Header
import Stencil.Line
import Stencil.Proofs.Text.Integer

namespace Stencil

/-! ## 1. What is written -/

namespace Control

/-- What is written for a key; a default is left out. -/
def value? (c : Control) : OptionKey → Option String
  | .firstTimeIndent => if c.firstTimeIndent = 0 then none else some (toString c.firstTimeIndent)
  | .padSegment => if c.padSegment = "" then none else some c.padSegment
  | .tabSize => c.tabSize.map toString

theorem value?_firstTimeIndent {c : Control} {value : String} :
    c.value? .firstTimeIndent = some value ↔
      c.firstTimeIndent ≠ 0 ∧ toString c.firstTimeIndent = value := by
  simp only [value?]
  split <;> simp [*]

theorem value?_padSegment {c : Control} {value : String} :
    c.value? .padSegment = some value ↔ c.padSegment ≠ "" ∧ c.padSegment = value := by
  simp only [value?]
  split <;> simp [*]

/-- The option of a key, or nothing. -/
def option (c : Control) (key : OptionKey) : List String :=
  ((c.value? key).map (key.name ++ "=" ++ ·)).toList

def options (c : Control) : List String :=
  c.option .firstTimeIndent ++ c.option .padSegment ++ c.option .tabSize

/-- The pad of a control, if it has one, has a valid name. -/
def PadNamed (c : Control) : Prop := c.padSegment ≠ "" → isName c.padSegment = true

end Control

namespace Header

/-- The header line with the given name and options. -/
def line (name : String) (options : List String) : String :=
  "###" ++ String.join ((name :: options).map (" " ++ ·))

/-- The header line of a segment. -/
def written (name : String) (c : Control) : String := line name c.options

/-! ## 2. Fields -/

/-- A text that is one field of a header. -/
def IsField (s : String) : Prop := s.toList ≠ [] ∧ ∀ c ∈ s.toList, isSeparator c = false

/-- A text without separators is one field. -/
theorem fieldsOf_word {cs : List Char} (hne : cs ≠ []) (h : ∀ c ∈ cs, isSeparator c = false) :
    fieldsOf cs = [cs] := by
  rw [fieldsOf, List.splitOnP_eq_singleton h]
  simp [hne]

/-- A field ends where the first separator behind it stands. -/
theorem fieldsOf_append {cs : List Char} (hne : cs ≠ []) (h : ∀ c ∈ cs, isSeparator c = false)
    {s : Char} (hs : isSeparator s = true) (rest : List Char) :
    fieldsOf (cs ++ s :: rest) = cs :: fieldsOf rest := by
  rw [fieldsOf, List.splitOnP_append_cons_of_forall_mem h s hs]
  simp [hne, fieldsOf]

/-- Fields with a blank before each are the fields of their line. -/
theorem fieldsOf_join {cs : List Char} {fields : List String} (hne : cs ≠ [])
    (h : ∀ c ∈ cs, isSeparator c = false) (hf : ∀ f ∈ fields, IsField f) :
    fieldsOf (cs ++ (String.join (fields.map (" " ++ ·))).toList)
      = cs :: fields.map String.toList := by
  -- over the fields, each with the one before it as the text in front
  induction fields generalizing cs with
  | nil => simpa using fieldsOf_word hne h
  | cons f fields ih =>
    obtain ⟨hfne, hfs⟩ := hf f List.mem_cons_self
    have htail := ih hfne hfs fun g hg => hf g (List.mem_cons_of_mem _ hg)
    have hline : cs ++ (String.join ((f :: fields).map (" " ++ ·))).toList
        = cs ++ ' ' :: (f.toList ++ (String.join (fields.map (" " ++ ·))).toList) := by simp
    rw [hline, fieldsOf_append hne h (by decide), htail]
    rfl

/-- No character of a name is a separator. -/
theorem not_isSeparator_of_isNameChar {c : Char} (h : isNameChar c = true) :
    isSeparator c = false := by
  by_cases hb : c = ' '
  · exact absurd (hb ▸ h) (by decide)
  · by_cases hc : c = ','
    · exact absurd (hc ▸ h) (by decide)
    · simp [isSeparator, hb, hc]

theorem isField_of_isName {s : String} (h : isName s = true) : IsField s :=
  ⟨fun e => ne_empty_of_isName h (String.toList_eq_nil_iff.mp e),
    fun c hc => not_isSeparator_of_isNameChar (isNameChar_of_isName h c hc)⟩

theorem isField_toString (n : Int) : IsField (toString n) := by
  rw [IsField, Text.toList_toString]
  refine ⟨?_, fun c hc => ?_⟩
  · rw [Text.intDigits]
    split
    · exact Nat.toDigits_ne_nil
    · exact List.cons_ne_nil _ _
  -- a number is written in digits, with a sign at most
  · rcases Text.eq_or_isDigit_of_mem_intDigits hc with rfl | hd
    · decide
    · exact not_isSeparator_of_isNameChar (by simp [isNameChar, Char.isAlphanum, hd])

/-- An option is a field if its value is one. -/
theorem isField_option {key : OptionKey} {value : String} (h : IsField value) :
    IsField (key.name ++ "=" ++ value) := by
  have hkey : ∀ c ∈ key.name.toList ++ ['='], isSeparator c = false := by
    cases key <;> simp [OptionKey.name, isSeparator]
  rw [IsField, String.toList_append, String.toList_append]
  refine ⟨fun e => h.1 (List.append_eq_nil_iff.mp e).2, fun c hc => ?_⟩
  rcases List.mem_append.mp hc with hc | hc
  · exact hkey c hc
  · exact h.2 c hc

/-! ## 3. The parts of the line -/

theorem isField_value {c : Control} (h : c.PadNamed) {key : OptionKey} {value : String}
    (hv : c.value? key = some value) : IsField value := by
  cases key with
  | firstTimeIndent =>
    obtain ⟨-, rfl⟩ := Control.value?_firstTimeIndent.mp hv
    exact isField_toString _
  | padSegment =>
    obtain ⟨hne, rfl⟩ := Control.value?_padSegment.mp hv
    exact isField_of_isName (h hne)
  | tabSize =>
    obtain ⟨n, -, rfl⟩ := Option.map_eq_some_iff.mp hv
    exact isField_toString n

theorem isField_of_mem_options {c : Control} (h : c.PadNamed) :
    ∀ o ∈ c.options, IsField o := by
  -- the same for each of the three keys
  have hopt : ∀ key, ∀ o ∈ c.option key, IsField o := by
    intro key o ho
    obtain ⟨value, hv, rfl⟩ := Option.map_eq_some_iff.mp (Option.mem_toList.mp ho)
    exact isField_option (isField_value h hv)
  intro o ho
  rcases List.mem_append.mp ho with ho | ho
  · rcases List.mem_append.mp ho with ho | ho
    · exact hopt _ o ho
    · exact hopt _ o ho
  · exact hopt _ o ho

/-- A header line begins with the three signs, a blank and the name. -/
theorem toList_line {name : String} (options : List String) (hn : isName name = true) :
    ∃ a rest, a ≠ ' ' ∧ (line name options).toList = '#' :: '#' :: '#' :: ' ' :: a :: rest := by
  obtain ⟨hne, hsep⟩ := isField_of_isName hn
  obtain ⟨a, as, ha⟩ := List.exists_cons_of_ne_nil hne
  refine ⟨a, _, ?_, by simp [line, String.toList_append, ha]; rfl⟩
  rintro rfl
  exact absurd (hsep ' ' (by simp [ha])) (by decide)

/-- **The parts of a header line are the name and the options that stand in it.** -/
theorem ofString_line {name : String} {options : List String} (hn : isName name = true)
    (ho : ∀ o ∈ options, IsField o) : ofString (line name options) = ⟨.given name, options⟩ := by
  -- the three signs, the name and the options are the fields of the line
  have hfields : (fieldsOf (line name options).toList).map String.ofList
      = "###" :: name :: options := by
    rw [line, String.toList_append, fieldsOf_join (by simp) (by simp [isSeparator])]
    · simp [Function.comp_def]
    · intro f hf
      rcases List.mem_cons.mp hf with rfl | hf
      · exact isField_of_isName hn
      · exact ho f hf
  obtain ⟨a, rest, hblank, hrest⟩ := toList_line options hn
  dsimp only [ofString]
  rw [hfields, hrest]
  simp [hblank]

theorem ofString_written {name : String} {c : Control} (hn : isName name = true)
    (h : c.PadNamed) : ofString (written name c) = ⟨.given name, c.options⟩ :=
  ofString_line hn (isField_of_mem_options h)

theorem isHeader_line {name : String} {options : List String} (hn : isName name = true) :
    Line.ofString (line name options) = .header := by
  obtain ⟨a, rest, -, hrest⟩ := toList_line options hn
  rw [Line.ofString, hrest]
  simp [Line.ofChars, ControlCode.ofChars?]

/-! ## 4. The options -/

/-- An option whose value is taken without a notice. -/
theorem readOptionsFrom_taken {segment value : String} {key : OptionKey} {found : List OptionKey}
    {c c' : Control} (hv : value ≠ "") (hk : key ∉ found)
    (hset : setOption segment c key value = .ok (c', [])) (options : List String) :
    readOptionsFrom segment found c ((key.name ++ "=" ++ value) :: options)
      = readOptionsFrom segment (key :: found) c' options := by
  rw [readOptionsFrom, readOption_written key hv]
  simp [hk, hset]

/-- The option of a key, if there is one, brings the control from one state to the next. -/
theorem readOptionsFrom_option {segment : String} {key : OptionKey} {found : List OptionKey}
    {c c₁ c₂ : Control} (hk : key ∉ found) (hc : c.PadNamed)
    (hnone : c.value? key = none → c₂ = c₁)
    (hsome : ∀ value, c.value? key = some value → setOption segment c₁ key value = .ok (c₂, [])) :
    ∃ found' ⊆ key :: found, ∀ options,
      readOptionsFrom segment found c₁ (c.option key ++ options)
        = readOptionsFrom segment found' c₂ options := by
  cases hv : c.value? key with
  -- nothing is written, and the default is in its place already
  | none =>
    refine ⟨found, List.subset_cons_self _ _, fun options => ?_⟩
    rw [hnone hv, Control.option, hv]
    rfl
  | some value =>
    have hne : value ≠ "" := fun e => (isField_value hc hv).1 (String.toList_eq_nil_iff.mpr e)
    refine ⟨key :: found, List.Subset.refl _, fun options => ?_⟩
    rw [Control.option, hv]
    exact readOptionsFrom_taken hne hk (hsome value hv) options

/-- One digit is never too many. -/
theorem parseInt_toString_of_le {n : Int} (hlow : -9 ≤ n) (hhigh : n ≤ 9) :
    Text.parseInt (toString n) = .ok (some n) := by
  have hlt : n.natAbs < 10 := by omega
  refine Text.parseInt_toString ?_
  rw [Nat.toDigits_of_lt_base hlt, List.length_singleton]
  decide

/-- An indent within the bounds is taken, and there is nothing to say about it unless it is zero. -/
theorem setOption_indent {segment value : String} {n : Int} (c : Control)
    (hv : Text.parseInt value = .ok (some n)) (hne : n ≠ 0) (hn : -9 ≤ n ∧ n ≤ 9) :
    setOption segment c .firstTimeIndent value = .ok ({ c with firstTimeIndent := n }, []) := by
  have hread : Column.readIndent (some value) = .ok (.ok n) := by
    simp [Column.readIndent, Column.givenInt, hv, Except.map, Column.farthestIndent, hn]
  simp [setOption, hread, Except.map, hne]

theorem setOption_pad {segment pad : String} (c : Control) (h : isName pad = true) :
    setOption segment c .padSegment pad = .ok ({ c with padSegment := pad }, []) := by
  simp [setOption, h]

theorem setOption_tabSize {segment value : String} {n : Int} (c : Control)
    (hv : Text.parseInt value = .ok (some n)) (hn : 1 ≤ n ∧ n ≤ 9) :
    setOption segment c .tabSize value = .ok ({ c with tabSize := some n }, []) := by
  have hread : Column.tabSizeOption (some value) = .ok (some n, []) := by
    simp [Column.tabSizeOption, Column.givenInt, hv, Except.map,
      Column.clampTabSize_of_mem hn.1 hn.2]
  simp [setOption, hread, Except.map]

/-- **The options that are written for a control are read back as that control**, and there is
nothing to say about them. -/
theorem readOptions_options {c : Control} (hd : c.Declared) (hp : c.PadNamed) (segment : String) :
    readOptions segment c.options = ([], .ok c) := by
  obtain ⟨first, n, pad, tab⟩ := c
  obtain ⟨hf, hn, ht⟩ := hd
  obtain rfl : first = true := hf
  -- the control under a name, since its fields are set one by one below
  obtain ⟨c, hc⟩ : ∃ c : Control, c = ⟨true, n, pad, tab⟩ := ⟨_, rfl⟩
  rw [← hc] at hp ⊢
  -- one option after the other, from the defaults to the control
  have hindent : ∃ found ⊆ [.firstTimeIndent], ∀ options,
      readOptionsFrom segment [] {} (c.option .firstTimeIndent ++ options)
        = readOptionsFrom segment found ⟨true, n, "", none⟩ options := by
    refine readOptionsFrom_option (by simp) hp (fun hnone => ?_) fun value hv => ?_
    · simpa [Control.value?, hc] using hnone
    · obtain ⟨hne, rfl⟩ := Control.value?_firstTimeIndent.mp hv
      subst hc
      exact setOption_indent _ (parseInt_toString_of_le hn.1 hn.2) hne hn
  obtain ⟨found₁, hf₁, h₁⟩ := hindent
  have hpad : ∃ found ⊆ .padSegment :: found₁, ∀ options,
      readOptionsFrom segment found₁ ⟨true, n, "", none⟩ (c.option .padSegment ++ options)
        = readOptionsFrom segment found ⟨true, n, pad, none⟩ options := by
    refine readOptionsFrom_option (fun hm => by simpa using hf₁ hm) hp (fun hnone => ?_)
      fun value hv => ?_
    · simpa [Control.value?, hc] using hnone
    · obtain ⟨hne, rfl⟩ := Control.value?_padSegment.mp hv
      subst hc
      exact setOption_pad _ (hp hne)
  obtain ⟨found₂, hf₂, h₂⟩ := hpad
  have htab : ∃ found ⊆ .tabSize :: found₂, ∀ options,
      readOptionsFrom segment found₂ ⟨true, n, pad, none⟩ (c.option .tabSize ++ options)
        = readOptionsFrom segment found c options := by
    refine readOptionsFrom_option (fun hm => ?_) hp (fun hnone => ?_) fun value hv => ?_
    · rcases List.mem_cons.mp (hf₂ hm) with e | hm
      · exact absurd e (by decide)
      · simpa using hf₁ hm
    · simpa [Control.value?, hc] using hnone
    · obtain ⟨m, hm, rfl⟩ := Option.map_eq_some_iff.mp hv
      subst hc
      obtain rfl : tab = some m := hm
      obtain ⟨hlow, hhigh⟩ := ht m rfl
      exact setOption_tabSize _ (parseInt_toString_of_le (by omega) hhigh) ⟨hlow, hhigh⟩
  obtain ⟨found₃, -, h₃⟩ := htab
  rw [readOptions, Control.options, List.append_assoc, h₁, h₂]
  exact (List.append_nil (Control.option _ _)) ▸ h₃ []

end Header

end Stencil
