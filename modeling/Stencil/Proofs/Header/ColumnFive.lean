/-
# The name in column 5

The name of a segment begins in column 5 of its header and ends before the next separator.  Where
column 5 holds a blank, or nothing stands from there on, the segment gets a default name, and this is
noted.

The header is taken apart into fields, though, and what is looked at in column 5 is only whether it
holds a blank.  Behind the other separator the name is the next field, wherever it begins, and nothing
is said about that (`readHeader_behindComma`).

* `name_of_header`: what stands where the name belongs, by the text from column 5 on;
* `missing_iff`, `given_fromColumnFive`: when there is none, and which it is;
* `readHeader_columnFive`: what becomes of the name.
-/
import Mathlib.Data.List.TakeWhile
import Stencil.Proofs.Header.Written
import Stencil.Proofs.Template.Reading

namespace Stencil

/-! ## 1. Fields -/

namespace Header

/-- A separator in front makes no field. -/
theorem fieldsOf_separator_cons {c : Char} (h : isSeparator c = true) (cs : List Char) :
    fieldsOf (c :: cs) = fieldsOf cs := by
  rw [fieldsOf, List.splitOnP_cons_eq_if_modifyHead, if_pos h]
  simp [fieldsOf]

/-- The first field is what stands before the next separator. -/
theorem exists_fieldsOf_cons {c : Char} (h : isSeparator c = false) (cs : List Char) :
    ∃ fields, fieldsOf (c :: cs) = (c :: cs).takeWhile (!isSeparator ·) :: fields := by
  have hne : (c :: cs).takeWhile (!isSeparator ·) ≠ [] := by simp [h]
  have hword : ∀ d ∈ (c :: cs).takeWhile (!isSeparator ·), isSeparator d = false := fun d hd => by
    simpa using List.mem_takeWhile_imp hd
  have hparts := List.takeWhile_append_dropWhile (p := (!isSeparator ·)) (l := c :: cs)
  have hhead := List.head?_dropWhile_not (!isSeparator ·) (c :: cs)
  -- what stands before the separator, and the rest that it begins
  generalize (c :: cs).takeWhile (!isSeparator ·) = word at hne hword hparts ⊢
  generalize (c :: cs).dropWhile (!isSeparator ·) = rest at hparts hhead
  rw [← hparts]
  rcases rest with _ | ⟨s, rest⟩
  · rw [List.append_nil]
    exact ⟨[], fieldsOf_word hne hword⟩
  · have hs : isSeparator s = true := by simpa using hhead
    exact ⟨fieldsOf rest, fieldsOf_append hne hword hs rest⟩

/-- Only separators make no field at all. -/
theorem fieldsOf_eq_nil_iff {cs : List Char} :
    fieldsOf cs = [] ↔ ∀ c ∈ cs, isSeparator c = true := by
  induction cs with
  | nil => simp [fieldsOf]
  | cons c cs ih =>
    by_cases h : isSeparator c = true
    · rw [fieldsOf_separator_cons h, ih]
      simp [h]
    · obtain ⟨fields, hfields⟩ := exists_fieldsOf_cons (by simpa using h) cs
      simp [hfields, h]

/-! ## 2. What stands where the name belongs -/

/-- The text from column 5 to the next separator. -/
def fromColumnFive (line : String) : String :=
  String.ofList ((line.toList.drop 4).takeWhile (!isSeparator ·))

/-- No name stands in the line: column 5 is missing or holds a separator, and if that is a comma, only
separators stand behind it. -/
def Nameless (line : String) : Prop :=
  (∀ c ∈ line.toList[4]?, isSeparator c = true) ∧
    (line.toList[4]? = some ',' → ∀ c ∈ line.toList.drop 5, isSeparator c = true)

/-- The name of a header is the first field from column 5 on, unless that column holds a blank. -/
theorem name_of_header {line : String} (h : Line.ofString line = .header) :
    (ofString line).name =
      if line.toList[4]? = some ' ' then .missing
      else match fieldsOf (line.toList.drop 4) with
        | [] => .missing
        | name :: _ => .given (String.ofList name) := by
  obtain ⟨rest, hline, hblank⟩ := Line.toList_of_header h
  unfold ofString
  rw [hline]
  rcases rest with _ | ⟨b, rest⟩
  · simp [fieldsOf]
  · obtain rfl : b = ' ' := hblank b rfl
    -- the three signs are a field of their own, so that the name is the second one
    have hfields : fieldsOf ('#' :: '#' :: '#' :: ' ' :: rest) = ['#', '#', '#'] :: fieldsOf rest :=
      fieldsOf_append (List.cons_ne_nil '#' ['#', '#']) (by simp [isSeparator]) (by decide) rest
    rcases rest with _ | ⟨c, rest⟩
    · simp [fieldsOf]
    -- there is a column 5, which is looked at before the fields are
    · have hlong : ¬ ('#' :: '#' :: '#' :: ' ' :: c :: rest).length ≤ 4 := by
        simp only [List.length_cons]
        omega
      dsimp only
      rw [if_neg hlong]
      by_cases hc : c = ' '
      · simp [hc]
      · rw [hfields]
        cases hrest : fieldsOf (c :: rest) <;> simp [hc, hrest]

theorem missing_iff {line : String} (h : Line.ofString line = .header) :
    (ofString line).name = .missing ↔ Nameless line := by
  have htail : line.toList.drop 5 = (line.toList.drop 4).tail := List.tail_drop.symm
  rw [name_of_header h, Nameless, ← List.head?_drop, htail]
  generalize line.toList.drop 4 = cs
  rcases cs with _ | ⟨c, cs⟩
  · simp [fieldsOf]
  · by_cases hblank : c = ' '
    · simp [hblank, isSeparator]
    -- a comma begins no field itself, so that the one behind it counts
    · by_cases hcomma : c = ','
      · subst hcomma
        rw [fieldsOf_separator_cons (by decide)]
        have hnil : fieldsOf cs = [] ↔ ∀ c ∈ cs, isSeparator c = true := fieldsOf_eq_nil_iff
        cases hfields : fieldsOf cs <;> simpa [hfields, isSeparator] using hnil
      · have hc : isSeparator c = false := by simp [isSeparator, hblank, hcomma]
        obtain ⟨fields, hfields⟩ := exists_fieldsOf_cons hc cs
        simp [hfields, hblank, hc]

/-- Unless a comma stands in column 5, the name is what stands there. -/
theorem given_fromColumnFive {line name : String} (h : Line.ofString line = .header)
    (hname : (ofString line).name = .given name) (hcomma : line.toList[4]? ≠ some ',') :
    name = fromColumnFive line := by
  rw [name_of_header h, ← List.head?_drop] at hname
  rw [← List.head?_drop] at hcomma
  unfold fromColumnFive
  generalize line.toList.drop 4 = cs at hname hcomma ⊢
  rcases cs with _ | ⟨c, cs⟩
  · simp [fieldsOf] at hname
  · by_cases hblank : c = ' '
    · simp [hblank] at hname
    · have hc : isSeparator c = false := by
        have hcomma : c ≠ ',' := fun e => hcomma (congrArg some e)
        simp [isSeparator, hblank, hcomma]
      -- column 5 belongs to a field, which begins there
      obtain ⟨fields, hfields⟩ := exists_fieldsOf_cons hc cs
      rw [hfields] at hname
      simpa [hblank] using hname.symm

/-- Up to a comma in column 5 nothing stands from there on. -/
theorem fromColumnFive_comma {line : String} (h : line.toList[4]? = some ',') :
    fromColumnFive line = "" := by
  rw [← List.head?_drop] at h
  unfold fromColumnFive
  generalize line.toList.drop 4 = cs at h ⊢
  rcases cs with _ | ⟨c, cs⟩
  · rfl
  · obtain rfl : c = ',' := Option.some.inj h
    rfl

end Header

/-! ## 3. What becomes of the name -/

namespace Draft

/-- The entries that a header adds to the log. -/
def headerEntries (d : Draft) (taken : List String) (line : String) : List Entry :=
  Log.entries ((d.readHeader taken line).1.log.drop d.log.length)

theorem readHeader_of_settle {d : Draft} {taken : List String} {line name : String}
    {ms : List Message} {namer : Namer}
    (h : (Header.ofString line).settle d.namer taken = (.ok (name, ms), namer)) :
    d.readHeader taken line =
      ((({ d with namer }.moveTo name).warn ms).warn
          (Header.readOptions name (Header.ofString line).options).1,
        ((Header.readOptions name (Header.ofString line).options).2.map (name, ·)).mapError
          .overflow) := by
  simp only [readHeader, h]
  cases (Header.readOptions name (Header.ofString line).options).2 <;> rfl

/-- A header notes what there is to say about its name, and then about its options. -/
theorem headerEntries_of_settle {d : Draft} {taken : List String} {line name : String}
    {ms : List Message} {namer : Namer}
    (h : (Header.ofString line).settle d.namer taken = (.ok (name, ms), namer)) :
    ∃ said, d.headerEntries taken line
      = (ms ++ said).map fun m => (Notice.warning .parsing m).stamp ⟨name, d.position.line⟩ := by
  let said := (Header.readOptions name (Header.ofString line).options).1
  -- both reports have the position of the segment, name and line
  have hlog : (d.readHeader taken line).1.log
      = d.log ++ (Log.report [] ⟨name, d.position.line⟩ (ms.map (Notice.warning .parsing))).report
          ⟨name, d.position.line⟩ (said.map (Notice.warning .parsing)) := by
    rw [readHeader_of_settle h]
    exact List.append_assoc _ _ _
  refine ⟨said, ?_⟩
  rw [headerEntries, hlog, List.drop_left, Log.entries_report, Log.entries_report, List.map_append,
    List.map_map, List.map_map]
  rfl

/-- **What becomes of the name of a header.**  A name that is taken without a notice is what begins in
column 5, unless a comma stands there.  Where no name stands in the line, the segment gets the next
default name, which is noted; without one the header is not read. -/
theorem readHeader_columnFive {line : String} (hline : Line.ofString line = .header) (d : Draft)
    (taken : List String) :
    (∀ name c, (d.readHeader taken line).2 = .ok (name, c) →
      (∀ e ∈ d.headerEntries taken line, e.message.isAboutName = false) →
      (name = Header.fromColumnFive line ↔ line.toList[4]? ≠ some ',')) ∧
    (Header.Nameless line →
      (∀ default, (d.namer.next taken).1 = .ok default →
        (d.readHeader taken line).2
            = ((Header.readOptions default (Header.ofString line).options).2.map
                (default, ·)).mapError .overflow ∧
          (Notice.warning .parsing (.nameNotInColumnFive default)).stamp ⟨default, d.position.line⟩
            ∈ d.headerEntries taken line) ∧
      ∀ limit, (d.namer.next taken).1 = .error limit →
        (d.readHeader taken line).2 = .error (.nameLimit limit)) := by
  constructor
  · intro name c hread hquiet
    obtain ⟨ms, namer, -, hsettle, -, -⟩ := readHeader_eq_ok (Prod.ext rfl hread)
    obtain ⟨said, hentries⟩ := headerEntries_of_settle hsettle
    -- the name is the given one, or a default one, and then there is a notice about it
    rcases Header.settle_cases hsettle with ⟨hgiven, hvalid, -, -⟩ | ⟨-, m, rfl, habout⟩
    · refine ⟨fun hfrom hcomma => ?_, Header.given_fromColumnFive hline hgiven⟩
      exact ne_empty_of_isName hvalid (hfrom.trans (Header.fromColumnFive_comma hcomma))
    · have hentry : (Notice.warning .parsing m).stamp ⟨name, d.position.line⟩
          ∈ d.headerEntries taken line := by
        rw [hentries]
        exact List.mem_map_of_mem (by simp)
      exact absurd (hquiet _ hentry) (by simp [Notice.stamp, Notice.warning, habout])
  · intro hnameless
    have hmissing := (Header.missing_iff hline).mpr hnameless
    have hsettle : (Header.ofString line).settle d.namer taken
        = ((d.namer.next taken).1.map fun default => (default, [.nameNotInColumnFive default]),
          (d.namer.next taken).2) := by
      simp [Header.settle, hmissing]
    constructor
    · intro default hdefault
      rw [hdefault] at hsettle
      obtain ⟨said, hentries⟩ := headerEntries_of_settle hsettle
      refine ⟨congrArg Prod.snd (readHeader_of_settle hsettle), ?_⟩
      rw [hentries]
      exact List.mem_map_of_mem (by simp)
    · intro limit hlimit
      rw [hlimit] at hsettle
      simp only [readHeader, hsettle, Except.map]

/-- A name at the end of which a comma stands, and a header of separators. -/
theorem readHeader_columnFive_separators :
    ∃ d : Draft, d = { namer := { ceiling := 2 } } ∧
      Line.ofString "### Row,TAB=x" = .header ∧
      (d.readHeader [] "### Row,TAB=x").2 = .ok ("Row", {}) ∧
      ("Row" = Header.fromColumnFive "### Row,TAB=x" ↔ "### Row,TAB=x".toList[4]? ≠ some ',') ∧
      Line.ofString "### ,, ," = .header ∧
      (d.readHeader ["DefaultSegment1"] "### ,, ,").2 = .ok ("DefaultSegment2", {}) ∧
      (Notice.warning .parsing (.nameNotInColumnFive "DefaultSegment2")).stamp ⟨"DefaultSegment2", 0⟩
        ∈ d.headerEntries ["DefaultSegment1"] "### ,, ," := by
  let d : Draft := { namer := { ceiling := 2 } }
  have hrow : Line.ofString "### Row,TAB=x" = .header := by decide +kernel
  have hread : (d.readHeader [] "### Row,TAB=x").2 = .ok ("Row", {}) :=
    toOption_eq_some_iff.mp (by decide +kernel)
  have hquiet : ∀ e ∈ d.headerEntries [] "### Row,TAB=x", e.message.isAboutName = false := by
    decide +kernel
  have hbare : Line.ofString "### ,, ," = .header := by decide +kernel
  have hcomma : "### ,, ,".toList[4]? = some ',' := by decide +kernel
  have hnameless : Header.Nameless "### ,, ," :=
    ⟨fun c hc => Option.some.inj (hcomma.symm.trans hc) ▸ by decide,
      fun _ => List.all_eq_true.mp (by decide +kernel)⟩
  have hnext : (d.namer.next ["DefaultSegment1"]).1 = .ok "DefaultSegment2" :=
    toOption_eq_some_iff.mp (by decide +kernel)
  obtain ⟨hname, -⟩ := readHeader_columnFive hrow d []
  obtain ⟨-, hdefault⟩ := readHeader_columnFive hbare d ["DefaultSegment1"]
  obtain ⟨hresult, hentry⟩ := (hdefault hnameless).1 _ hnext
  have hoptions : (Header.readOptions "DefaultSegment2" (Header.ofString "### ,, ,").options).2
      = .ok {} := toOption_eq_some_iff.mp (by decide +kernel)
  rw [hoptions] at hresult
  exact ⟨d, rfl, hrow, hread, hname _ _ hread hquiet, hbare, hresult, hentry⟩

/-- Behind a comma in column 5 the name is taken from column 6, and there is nothing to say about it. -/
theorem readHeader_behindComma :
    Line.ofString "### ,Name" = .header ∧
      (({} : Draft).readHeader [] "### ,Name").2 = .ok ("Name", {}) ∧
      ({} : Draft).headerEntries [] "### ,Name" = [] ∧
      Header.fromColumnFive "### ,Name" = "" := by
  refine ⟨by decide +kernel, toOption_eq_some_iff.mp ?_, ?_, ?_⟩
  · decide +kernel
  · decide +kernel
  · decide +kernel

end Draft

end Stencil
