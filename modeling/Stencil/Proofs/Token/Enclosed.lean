/-
# Names between delimiters

A name between the start and the end delimiter is a token, and it gets its value, unless the text
begins with the escape.  The delimiters that are accepted need only differ, so that the escape can
begin with the start delimiter or be the beginning of it; then the text is not a token, although
nothing in it is escaped.  Its first fragment is a literal one, and what is left is too short to hold
the name between delimiters (`length_of_token_mem_scan`).

* `scan_enclosed`: without the escape before it, the text is one token;
* `substitute_put_of_escape`: with it, the value of the name makes no difference;
* `substitute_enclosed_iff`: which accepted delimiters can be used for a name.
-/
import Stencil.Proofs.Name
import Stencil.Proofs.Text.Integer
import Stencil.Proofs.Token.Scanning
import Stencil.Token.Substitution

namespace Stencil

/-! ## 1. Names as bodies of tokens -/

/-- No character of a name is a case flag. -/
theorem Fragment.ofChar?_of_isNameChar {c : Char} (h : isNameChar c = true) :
    CaseFlag.ofChar? c = none := by
  unfold CaseFlag.ofChar?
  split
  · exact absurd h (by decide)
  · exact absurd h (by decide)
  · exact absurd h (by decide)
  · rfl

/-- The first character of a valid name is no case flag. -/
theorem Fragment.head_of_isName {name : String} (h : isName name = true) :
    name.toList.head?.bind CaseFlag.ofChar? = none := by
  cases hl : name.toList with
  | nil => rfl
  | cons c cs =>
    exact ofChar?_of_isNameChar (isNameChar_of_isName h c (hl ▸ List.mem_cons_self))

/-- What stands between the delimiters is the name, if it is a valid one. -/
theorem Fragment.nameOf_of_isName {name : String} (h : isName name = true) :
    nameOf name.toList = name := by
  have hblank : ∀ c ∈ name.toList, Text.isBlankChar c = false := fun c hc =>
    isBlankChar_of_isNameChar (isNameChar_of_isName h c hc)
  simp [nameOf, head_of_isName h, Text.trim_eq_self hblank]

theorem Fragment.flagOf_of_isName {name : String} (h : isName name = true) :
    flagOf name.toList = .same := by
  simp [flagOf, head_of_isName h]

/-- A token with a value that is not empty is replaced by it, in the case that its flag asks for. -/
theorem Fragment.expand_of_bound {body : List Char} {b : Bindings} {name v : String}
    (hbody : nameOf body = name) (hname : isName name = true) (hb : b.get? name = some (some v))
    (hv : v ≠ "") (d : Delimiters) (segment : String) :
    (token body).expand d segment b = ((withFlag (flagOf body) v).toList, []) := by
  simp [expand, hbody, ne_empty_of_isName hname, hname, hb, hv]

theorem Text.length_trim_le (cs : List Char) : (trim cs).length ≤ cs.length := by
  have hdrop : ∀ xs : List Char, (xs.dropWhile isBlankChar).length ≤ xs.length :=
    fun xs => (List.dropWhile_sublist _).length_le
  calc (trim cs).length = ((cs.dropWhile isBlankChar).reverse.dropWhile isBlankChar).length :=
        List.length_reverse
    _ ≤ (cs.dropWhile isBlankChar).reverse.length := hdrop _
    _ = (cs.dropWhile isBlankChar).length := List.length_reverse
    _ ≤ cs.length := hdrop cs

/-- The name in a token is no longer than what stands between its delimiters. -/
theorem Fragment.length_nameOf_le (body : List Char) :
    (nameOf body).toList.length ≤ body.length := by
  unfold nameOf
  rw [String.toList_ofList]
  refine Nat.le_trans (Text.length_trim_le _) ?_
  split
  · exact body.length_tail ▸ Nat.sub_le _ _
  · exact Nat.le_refl _

/-! ## 2. Room for tokens -/

/-- An end delimiter that occurs nowhere earlier is the first one. -/
theorem before?_eq_some_of_first {delimiter before : List Char}
    (h : ∀ k < before.length, ¬ delimiter <+: (before ++ delimiter).drop k) :
    before? delimiter (before ++ delimiter) = some before := by
  refine before?_eq_some_iff.mpr ⟨List.prefix_rfl, fun other hother => ?_⟩
  refine Nat.le_of_not_lt fun hlt => ?_
  have hbegins : other <+: before ++ delimiter := (List.prefix_append other delimiter).trans hother
  exact h other.length hlt ((prefix_drop_iff hbegins).mpr hother)

/-- The token that a text begins with takes up its body and both delimiters. -/
theorem length_le_of_nextFragment {d : Delimiters} {cs body : List Char} {width : Nat}
    (h : nextFragment d cs = (.token body, width)) :
    d.start.toList.length + body.length + d.stop.toList.length ≤ cs.length := by
  unfold nextFragment at h
  split at h
  · dsimp only at h
    split at h
    · exact absurd (congrArg Prod.fst h) (by simp)
    · split at h <;> exact absurd (congrArg Prod.fst h) (by simp)
  · split at h
    · rename_i hstart
      split at h
      · exact absurd (congrArg Prod.fst h) (by simp)
      · rename_i body' hbody
        obtain rfl : body' = body := by simpa using congrArg Prod.fst h
        have hstart' := (List.isPrefixOf_iff_prefix.mp hstart).length_le
        have hbody' := (prefix_of_before?_eq_some hbody).length_le
        rw [List.length_append, List.length_drop, ← String.length_toList] at hbody'
        omega
    · exact absurd (congrArg Prod.fst h) (by simp)

/-- A token takes up its body and both delimiters. -/
theorem length_of_token_mem_scan {d : Delimiters} {cs body : List Char}
    (h : .token body ∈ scan d cs) :
    d.start.toList.length + body.length + d.stop.toList.length ≤ cs.length := by
  fun_induction scan d cs with
  | case1 => simp at h
  | case2 c rest fragment width hnext ih =>
    rcases List.mem_cons.mp h with rfl | h
    · exact length_le_of_nextFragment hnext
    · refine Nat.le_trans (ih h) ?_
      rw [List.length_drop, List.length_cons]
      omega

/-! ## 3. Without the escape before it -/

/-- The text with a name between the delimiters. -/
def Delimiters.enclose (d : Delimiters) (name : String) : String := d.start ++ name ++ d.stop

/-- The end delimiter occurs behind the name first, also if the name overlaps with it. -/
def Delimiters.EndsAfter (d : Delimiters) (name : String) : Prop :=
  ∀ k < name.toList.length, ¬ d.stop.toList <+: (name.toList ++ d.stop.toList).drop k

theorem toList_enclose (d : Delimiters) (name : String) :
    (d.enclose name).toList = d.start.toList ++ (name.toList ++ d.stop.toList) := by
  simp [Delimiters.enclose]

/-- Without the escape before it, a name between the delimiters is one token. -/
theorem scan_enclosed {d : Delimiters} {name : String} (hd : d.Legal) (hend : d.EndsAfter name)
    (hescape : ¬ d.escape.toList <+: (d.enclose name).toList) :
    scan d (d.enclose name).toList = [.token name.toList] := by
  obtain ⟨hstart, -, hesc⟩ := hd.ne_empty
  -- the token takes the whole text, so that nothing is left to scan
  have hnext : nextFragment d (d.enclose name).toList
      = (.token name.toList, d.start.length + name.toList.length + d.stop.length) := by
    rw [nextFragment, if_neg (by simpa using hescape), toList_enclose, if_pos (by simp),
      ← String.length_toList, List.drop_left, before?_eq_some_of_first hend]
  have hne : (d.enclose name).toList ≠ [] := by
    rw [toList_enclose]
    exact List.append_ne_nil_of_left_ne_nil (fun e => hstart (String.toList_eq_nil_iff.mp e)) _
  rw [scan_of_ne_nil hesc hstart hne, hnext, List.drop_eq_nil_of_le, scan_nil]
  simp [toList_enclose, String.length_toList, Nat.add_assoc]

theorem substitute_enclosed {d : Delimiters} {name v : String} {b : Bindings} (hd : d.Legal)
    (hname : isName name = true) (hend : d.EndsAfter name)
    (hescape : ¬ d.escape.toList <+: (d.enclose name).toList) (hv : v ≠ "")
    (hb : b.get? name = some (some v)) (segment : String) :
    substitute d segment b (d.enclose name) = (v, []) := by
  have hexpand : (Fragment.token name.toList).expand d segment b = (v.toList, []) := by
    rw [Fragment.expand_of_bound (Fragment.nameOf_of_isName hname) hname hb hv,
      Fragment.flagOf_of_isName hname]
    rfl
  rw [substitute, scan_enclosed hd hend hescape]
  simp [hexpand]

/-! ## 4. With the escape before it -/

/-- A value makes no difference to fragments without its name. -/
theorem Fragment.expand_put_of_ne {name : String} {f : Fragment} (h : f.tokenName? ≠ some name)
    (d : Delimiters) (segment : String) (b : Bindings) (v : Option String) :
    f.expand d segment (b.put name v) = f.expand d segment b := by
  cases f with
  | literal text => rfl
  | unterminated text => rfl
  | token body =>
    by_cases hvalid : isName (nameOf body) = true
    · have hne : name ≠ nameOf body := fun e => h (by simp [tokenName?, hvalid, e])
      simp only [expand, Table.get?_put_of_ne b v hne]
    · simp [expand, hvalid]

/-- A text that begins with the escape begins with a literal fragment. -/
theorem nextFragment_of_escape {d : Delimiters} {cs : List Char} (h : d.escape.toList <+: cs) :
    ∃ text, (nextFragment d cs).1 = .literal text := by
  rw [nextFragment, if_pos (List.isPrefixOf_iff_prefix.mpr h)]
  dsimp only
  split
  · exact ⟨_, rfl⟩
  · split <;> exact ⟨_, rfl⟩

/-- The name is not found in its text once the escape has been taken from that. -/
theorem not_token_of_escape {d : Delimiters} {name : String} (hd : d.Legal)
    (hescape : d.escape.toList <+: (d.enclose name).toList) :
    ∀ f ∈ scan d (d.enclose name).toList, f.tokenName? ≠ some name := by
  obtain ⟨hstart, -, hesc⟩ := hd.ne_empty
  have hne : (d.enclose name).toList ≠ [] := by
    intro e
    rw [e] at hescape
    exact hesc (String.toList_eq_nil_iff.mp (List.prefix_nil.mp hescape))
  -- the literal fragment takes at least one character of the text
  have hwidth := nextFragment_width_pos hesc hstart hne
  obtain ⟨text, hliteral⟩ := nextFragment_of_escape hescape
  intro f hf hname
  rw [scan_of_ne_nil hesc hstart hne, hliteral] at hf
  rcases List.mem_cons.mp hf with rfl | hf
  · exact absurd hname (by simp [Fragment.tokenName?])
  · cases f with
    | literal text => simp [Fragment.tokenName?] at hname
    | unterminated text => simp [Fragment.tokenName?] at hname
    | token body =>
      -- the token would have to hold the whole name, for which there is no room
      have hroom := length_of_token_mem_scan hf
      simp only [Fragment.tokenName?, Option.ite_none_right_eq_some, Option.some.injEq] at hname
      have hbody := Fragment.length_nameOf_le body
      rw [hname.2] at hbody
      have hlength : (d.enclose name).toList.length
          = d.start.toList.length + (name.toList.length + d.stop.toList.length) := by
        rw [toList_enclose, List.length_append, List.length_append]
      have hpos : 0 < d.start.toList.length :=
        List.length_pos_iff.mpr fun e => hstart (String.toList_eq_nil_iff.mp e)
      rw [List.length_drop, hlength] at hroom
      omega

/-- Behind the escape the value of the name makes no difference. -/
theorem substitute_put_of_escape {d : Delimiters} {name : String} (hd : d.Legal)
    (hescape : d.escape.toList <+: (d.enclose name).toList) (segment : String) (b : Bindings)
    (v : Option String) :
    substitute d segment (b.put name v) (d.enclose name) = substitute d segment b (d.enclose name) := by
  have hexpand : (scan d (d.enclose name).toList).map (·.expand d segment (b.put name v))
      = (scan d (d.enclose name).toList).map (·.expand d segment b) :=
    List.map_congr_left fun f hf =>
      Fragment.expand_put_of_ne (not_token_of_escape hd hescape f hf) d segment b v
  simp only [substitute, hexpand]

/-! ## 5. Delimiters that can be used -/

/-- **Which accepted delimiters can be used for a name**: those whose escape is not how the name
between them begins.  Then the text becomes the value, in every segment and whatever the value, and
there is nothing to say about it. -/
theorem substitute_enclosed_iff {start stop escape : Option String} {d : Delimiters}
    (hd : (Delimiters.change start stop escape).1 = some d) {name : String}
    (hname : isName name = true) (hend : d.EndsAfter name) :
    (∀ segment b v, v ≠ "" → Table.get? b name = some (some v) →
        substitute d segment b (d.enclose name) = (v, [])) ↔
      ¬ d.escape.toList <+: (d.enclose name).toList := by
  have hlegal := Delimiters.legal_of_change hd
  constructor
  · intro h hescape
    -- two values would come to the same text
    have hvalue : ∀ v, v ≠ "" → substitute d "" [] (d.enclose name) = (v, []) := by
      intro v hv
      rw [← substitute_put_of_escape hlegal hescape "" [] (some v)]
      exact h "" _ v hv (Table.get?_put_self [] name (some v))
    -- the text does not depend on the value, and so cannot be both
    have hsame : (("0", []) : String × List Message) = ("1", []) :=
      (hvalue "0" (by decide)).symm.trans (hvalue "1" (by decide))
    exact absurd (congrArg Prod.fst hsame) (by decide)
  · intro hescape segment b v hv hb
    exact substitute_enclosed hlegal hname hend hescape hv hb segment

/-- A start delimiter that begins with the end delimiter, and an escape that is none of the text. -/
theorem substitute_enclosed_iff_markers :
    (Delimiters.change (some "--") (some "-") (some "---")).1 = some ⟨"--", "-", "---"⟩ ∧
      ∀ segment b v, v ≠ "" → Table.get? b "name" = some (some v) →
        substitute ⟨"--", "-", "---"⟩ segment b "--name-" = (v, []) := by
  have hd : (Delimiters.change (some "--") (some "-") (some "---")).1
      = some ⟨"--", "-", "---"⟩ := by decide
  have hend : Delimiters.EndsAfter ⟨"--", "-", "---"⟩ "name" := by
    unfold Delimiters.EndsAfter
    decide
  exact ⟨hd, (substitute_enclosed_iff hd (by decide) hend).mpr (by decide)⟩

/-- An escape that is the beginning of the start delimiter: the delimiters are accepted, and the text
stays as it is, with nothing said about it. -/
theorem substitute_overlapping :
    (Delimiters.change (some "<<") (some ">>") (some "<")).1 = some ⟨"<<", ">>", "<"⟩ ∧
      isName "name" = true ∧ Delimiters.EndsAfter ⟨"<<", ">>", "<"⟩ "name" ∧
      substitute ⟨"<<", ">>", "<"⟩ "Greeting" [("name", some "Bob")] "<<name>>"
        = ("<<name>>", []) := by
  refine ⟨by decide, by decide, ?_, by decide +kernel⟩
  unfold Delimiters.EndsAfter
  decide

end Stencil
