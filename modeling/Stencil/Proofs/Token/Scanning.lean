/-
# Scanning by pieces

A text is scanned piece by piece: a piece is an escaped delimiter, an escape by itself, a token or a
single character, and the fragments of the rest follow its own.  What the piece is depends on the marks
with which the text begins (`nextFragment_eq`).

So two texts side by side have the fragments of both, unless a mark stands across the seam between them
or a token that is open at the end of the first is closed in the second.

* `before?_eq_some_iff`, `before?_eq_none_iff`: where a token ends;
* `scan_piece`: the first fragment of a text and those of the rest;
* `scan_token`, `scan_escaped_start`, `scan_escaped_stop`, `scan_escape`, `scan_char`: by the piece;
* `scan_append`: texts side by side.
-/
import Stencil.Token.Fragment

namespace Stencil

/-! ## 1. The first end delimiter -/

/-- The first occurrence of a delimiter in a text stands behind `body`. -/
structure FirstBehind (delimiter body cs : List Char) : Prop where
  occurs : body ++ delimiter <+: cs
  first : ∀ other, other ++ delimiter <+: cs → body.length ≤ other.length

/-- A delimiter with which a text begins is its first one. -/
theorem firstBehind_nil_iff {delimiter body cs : List Char} (h : delimiter <+: cs) :
    FirstBehind delimiter body cs ↔ body = [] := by
  constructor
  · intro hfirst
    exact List.eq_nil_of_length_eq_zero (Nat.le_zero.mp (hfirst.first [] h))
  · rintro rfl
    exact ⟨h, fun _ _ => Nat.zero_le _⟩

/-- Otherwise its first one is that of the rest. -/
theorem firstBehind_cons_iff {delimiter body cs : List Char} {c : Char}
    (h : ¬ delimiter <+: c :: cs) :
    FirstBehind delimiter body (c :: cs) ↔ ∃ rest, FirstBehind delimiter rest cs ∧ c :: rest = body := by
  constructor
  · rintro ⟨hoccurs, hfirst⟩
    cases body with
    | nil => exact absurd hoccurs h
    | cons x rest =>
      obtain ⟨rfl, hrest⟩ := List.cons_prefix_cons.mp hoccurs
      refine ⟨rest, ⟨hrest, fun other hother => ?_⟩, rfl⟩
      exact Nat.le_of_succ_le_succ (hfirst (x :: other) (List.cons_prefix_cons.mpr ⟨rfl, hother⟩))
  · rintro ⟨rest, ⟨hoccurs, hfirst⟩, rfl⟩
    refine ⟨List.cons_prefix_cons.mpr ⟨rfl, hoccurs⟩, fun other hother => ?_⟩
    cases other with
    | nil => exact absurd hother h
    | cons x other => exact Nat.succ_le_succ (hfirst other (List.cons_prefix_cons.mp hother).2)

/-- What is found before an end delimiter stands before the first one. -/
theorem before?_eq_some_iff {delimiter body cs : List Char} :
    before? delimiter cs = some body ↔ FirstBehind delimiter body cs := by
  -- along the text, as the search goes
  induction cs generalizing body with
  | nil =>
    rw [before?]
    split
    · rename_i hempty
      rw [firstBehind_nil_iff (hempty ▸ List.nil_prefix), Option.some.injEq, eq_comm]
    · rename_i hne
      refine iff_of_false (by simp) fun h => hne ?_
      exact (List.append_eq_nil_iff.mp (List.prefix_nil.mp h.occurs)).2
  | cons c cs ih =>
    rw [before?]
    split
    · rename_i hhere
      rw [firstBehind_nil_iff (List.isPrefixOf_iff_prefix.mp hhere), Option.some.injEq, eq_comm]
    · rename_i hnot
      rw [firstBehind_cons_iff (mt List.isPrefixOf_iff_prefix.mpr hnot), Option.map_eq_some_iff]
      simp only [ih]

/-- Nothing is found where there is no end delimiter. -/
theorem before?_eq_none_iff {delimiter cs : List Char} :
    before? delimiter cs = none ↔ ¬ delimiter <:+: cs := by
  induction cs with
  | nil => by_cases h : delimiter = [] <;> simp [before?, h]
  | cons c cs ih =>
    rw [before?, List.infix_cons_iff]
    split
    · rename_i hhere
      simp [List.isPrefixOf_iff_prefix.mp hhere]
    · rename_i hnot
      have hnot' : ¬ delimiter <+: c :: cs := mt List.isPrefixOf_iff_prefix.mpr hnot
      simp [ih, hnot']

/-- An end delimiter goes on being the first one when the text goes on. -/
theorem FirstBehind.append {delimiter body cs : List Char} (h : FirstBehind delimiter body cs)
    (ds : List Char) : FirstBehind delimiter body (cs ++ ds) := by
  refine ⟨h.occurs.trans (List.prefix_append cs ds), fun other hother => ?_⟩
  refine Nat.le_of_not_lt fun hlt => ?_
  -- an earlier one would fit into the first text
  have hfits : (other ++ delimiter).length ≤ cs.length := by
    have hlength := h.occurs.length_le
    rw [List.length_append] at hlength ⊢
    omega
  exact Nat.not_le_of_lt hlt (h.first other
    (List.prefix_of_prefix_length_le hother (List.prefix_append cs ds) hfits))

/-! ## 2. Marks -/

/-- What is looked for at a place of a text, before any end delimiter. -/
def Delimiters.marks (d : Delimiters) : List (List Char) :=
  [d.escape.toList, d.start.toList, d.escape.toList ++ d.start.toList,
    d.escape.toList ++ d.stop.toList]

/-- What stands behind the beginning of a text. -/
theorem prefix_drop_iff {u w cs : List Char} (h : u <+: cs) :
    w <+: cs.drop u.length ↔ u ++ w <+: cs := by
  obtain ⟨rest, rfl⟩ := h
  rw [List.drop_left, List.prefix_append_right_inj]

/-- A prefix of two texts side by side ends in the first or in the second. -/
theorem prefix_append_cases {w cs ds : List Char} (h : w <+: cs ++ ds) :
    w <+: cs ∨ ∃ rest, w = cs ++ rest ∧ rest <+: ds := by
  rcases List.prefix_or_prefix_of_prefix h (List.prefix_append cs ds) with hw | hcs
  · exact .inl hw
  · obtain ⟨rest, rfl⟩ := hcs
    exact .inr ⟨rest, rfl, (List.prefix_append_right_inj cs).mp h⟩

/-- The first fragment by the marks with which the text begins. -/
theorem nextFragment_eq (d : Delimiters) (cs : List Char) :
    nextFragment d cs =
      if d.escape.toList <+: cs then
        if d.escape.toList ++ d.start.toList <+: cs then
          (.literal d.start.toList, (d.escape.toList ++ d.start.toList).length)
        else if d.escape.toList ++ d.stop.toList <+: cs then
          (.literal d.stop.toList, (d.escape.toList ++ d.stop.toList).length)
        else (.literal d.escape.toList, d.escape.toList.length)
      else if d.start.toList <+: cs then
        match before? d.stop.toList (cs.drop d.start.toList.length) with
        | none => (.unterminated cs, cs.length)
        | some body => (.token body, (d.start.toList ++ (body ++ d.stop.toList)).length)
      else (.literal (cs.take 1), 1) := by
  unfold nextFragment
  simp only [List.isPrefixOf_iff_prefix, ← String.length_toList, List.length_append, Nat.add_assoc]
  -- the conditions in their order, each of them read as one about the whole text
  by_cases hescape : d.escape.toList <+: cs
  · simp only [hescape, if_true, prefix_drop_iff hescape]
  · refine (if_neg hescape).trans (Eq.trans ?_ (if_neg hescape).symm)
    by_cases hstart : d.start.toList <+: cs
    · refine (if_pos hstart).trans (Eq.trans ?_ (if_pos hstart).symm)
      cases before? d.stop.toList (cs.drop d.start.toList.length) <;> rfl
    · exact (if_neg hstart).trans (if_neg hstart).symm

/-- A fragment takes no more than there is. -/
theorem nextFragment_width_le (d : Delimiters) {cs : List Char} (hcs : cs ≠ []) :
    (nextFragment d cs).2 ≤ cs.length := by
  rw [nextFragment_eq]
  split
  · rename_i hescape
    split
    · rename_i hmark
      exact hmark.length_le
    · split
      · rename_i hmark
        exact hmark.length_le
      · exact hescape.length_le
  · split
    · rename_i hstart
      split
      · exact Nat.le_refl _
      · rename_i body hbody
        have htoken := (prefix_drop_iff hstart).mp (prefix_of_before?_eq_some hbody)
        exact htoken.length_le
    · exact List.length_pos_iff.mpr hcs

/-! ## 3. Pieces -/

/-- **The first fragment and those of the rest**, by the piece of the text that the first one takes. -/
theorem scan_piece {d : Delimiters} {piece rest : List Char} {f : Fragment} (hne : piece ≠ [])
    (h : nextFragment d (piece ++ rest) = (f, piece.length)) :
    scan d (piece ++ rest) = f :: scan d rest := by
  obtain ⟨c, cs, rfl⟩ := List.exists_cons_of_ne_nil hne
  rw [List.cons_append] at h ⊢
  rw [scan, h]
  simp

section Pieces

variable {d : Delimiters} (rest : List Char)

/-- An escape before a start delimiter makes it literal. -/
theorem scan_escaped_start (hescape : d.escape.toList ≠ []) :
    scan d (d.escape.toList ++ d.start.toList ++ rest)
      = .literal d.start.toList :: scan d rest := by
  refine scan_piece (List.append_ne_nil_of_left_ne_nil hescape _) ?_
  have hbegins : d.escape.toList <+: d.escape.toList ++ d.start.toList ++ rest := by simp
  rw [nextFragment_eq, if_pos hbegins, if_pos (List.prefix_append _ rest)]

/-- The start delimiter is tried first behind an escape. -/
theorem scan_escaped_stop (hescape : d.escape.toList ≠ [])
    (hstart : ¬ d.start.toList <+: d.stop.toList ++ rest) :
    scan d (d.escape.toList ++ d.stop.toList ++ rest)
      = .literal d.stop.toList :: scan d rest := by
  refine scan_piece (List.append_ne_nil_of_left_ne_nil hescape _) ?_
  have hbegins : d.escape.toList <+: d.escape.toList ++ d.stop.toList ++ rest := by simp
  -- no start delimiter stands here, which would take a part of the end delimiter
  have hnot : ¬ d.escape.toList ++ d.start.toList
      <+: d.escape.toList ++ d.stop.toList ++ rest := by
    rwa [List.append_assoc, List.prefix_append_right_inj]
  rw [nextFragment_eq, if_pos hbegins, if_neg hnot, if_pos (List.prefix_append _ rest)]

/-- An escape that is before neither delimiter stands for itself. -/
theorem scan_escape (hescape : d.escape.toList ≠ []) (hstart : ¬ d.start.toList <+: rest)
    (hstop : ¬ d.stop.toList <+: rest) :
    scan d (d.escape.toList ++ rest) = .literal d.escape.toList :: scan d rest := by
  refine scan_piece hescape ?_
  have hnot : ∀ delimiter, ¬ delimiter <+: rest →
      ¬ d.escape.toList ++ delimiter <+: d.escape.toList ++ rest := by
    intro delimiter h
    rwa [List.prefix_append_right_inj]
  rw [nextFragment_eq, if_pos (List.prefix_append _ rest), if_neg (hnot _ hstart),
    if_neg (hnot _ hstop)]

/-- A character that begins no mark stands for itself. -/
theorem scan_char {c : Char} (hescape : ¬ d.escape.toList <+: c :: rest)
    (hstart : ¬ d.start.toList <+: c :: rest) :
    scan d (c :: rest) = .literal [c] :: scan d rest := by
  have hnext : nextFragment d ([c] ++ rest) = (.literal [c], [c].length) := by
    rw [List.singleton_append, nextFragment_eq, if_neg hescape, if_neg hstart]
    rfl
  exact scan_piece (List.cons_ne_nil c []) hnext

/-- A token reaches to the first end delimiter. -/
theorem scan_token {body : List Char} (hne : d.start.toList ≠ [])
    (hescape : ¬ d.escape.toList <+: d.start.toList ++ (body ++ d.stop.toList) ++ rest)
    (hbody : before? d.stop.toList (body ++ d.stop.toList ++ rest) = some body) :
    scan d (d.start.toList ++ (body ++ d.stop.toList) ++ rest) = .token body :: scan d rest := by
  refine scan_piece (List.append_ne_nil_of_left_ne_nil hne _) ?_
  have hbegins : d.start.toList <+: d.start.toList ++ (body ++ d.stop.toList) ++ rest := by simp
  have hdrop : (d.start.toList ++ (body ++ d.stop.toList) ++ rest).drop d.start.toList.length
      = body ++ d.stop.toList ++ rest := by
    rw [List.append_assoc, List.drop_left]
  rw [nextFragment_eq, if_neg hescape, if_pos hbegins, hdrop, hbody]

end Pieces

/-! ## 4. Texts side by side -/

/-- No mark begins in the first text and ends in the second. -/
def Delimiters.PartAt (d : Delimiters) (cs ds : List Char) : Prop :=
  ∀ tail, tail <:+ cs → tail ≠ [] → ∀ mark ∈ d.marks, mark <+: tail ++ ds → mark <+: tail

/-- What parts a text from another parts its end from that. -/
theorem Delimiters.PartAt.of_suffix {d : Delimiters} {cs cs' ds : List Char} (h : d.PartAt cs ds)
    (hs : cs' <:+ cs) : d.PartAt cs' ds := fun tail ht => h tail (ht.trans hs)

/-- A mark that stands across the seam is divided by it. -/
theorem Delimiters.partAt_of_divided {d : Delimiters} {cs ds : List Char}
    (h : ∀ left right, left ≠ [] → right ≠ [] → left ++ right ∈ d.marks → left <:+ cs →
      ¬ right <+: ds) : d.PartAt cs ds := by
  intro tail htail hne mark hmark hacross
  rcases prefix_append_cases hacross with hbefore | ⟨right, rfl, hright⟩
  · exact hbefore
  · by_cases hnil : right = []
    · simp [hnil]
    · exact absurd hright (h tail right hne hnil hmark htail)

/-- The first fragment does not change when the text goes on, unless it was left open. -/
theorem nextFragment_append {d : Delimiters} {cs ds : List Char} (hcs : cs ≠ [])
    (hseam : d.PartAt cs ds) (hclosed : ∀ text, (nextFragment d cs).1 ≠ .unterminated text) :
    nextFragment d (cs ++ ds) = nextFragment d cs := by
  -- the text begins with the same marks
  have hmark : ∀ mark ∈ d.marks, (mark <+: cs ++ ds) = (mark <+: cs) := by
    intro mark hm
    exact propext ⟨hseam cs List.suffix_rfl hcs mark hm, fun h => h.trans (List.prefix_append cs ds)⟩
  have htake : (cs ++ ds).take 1 = cs.take 1 :=
    List.take_append_of_le_length (List.length_pos_iff.mpr hcs)
  rw [nextFragment_eq] at hclosed ⊢
  rw [nextFragment_eq]
  simp only [hmark _ (by simp [Delimiters.marks] : d.escape.toList ∈ d.marks),
    hmark _ (by simp [Delimiters.marks] : d.start.toList ∈ d.marks),
    hmark _ (by simp [Delimiters.marks] : d.escape.toList ++ d.start.toList ∈ d.marks),
    hmark _ (by simp [Delimiters.marks] : d.escape.toList ++ d.stop.toList ∈ d.marks), htake]
  by_cases hescape : d.escape.toList <+: cs
  · simp only [hescape, if_true]
  · by_cases hstart : d.start.toList <+: cs
    · simp only [hescape, hstart, if_false, if_true] at hclosed ⊢
      rw [List.drop_append_of_le_length hstart.length_le]
      cases hbody : before? d.stop.toList (cs.drop d.start.toList.length) with
      | none => exact absurd rfl (hbody ▸ hclosed cs)
      | some body =>
        -- a token that is closed stays closed where it was
        have hlong := (before?_eq_some_iff.mp hbody).append ds
        rw [before?_eq_some_iff.mpr hlong]
    · simp only [hescape, hstart, if_false]

/-- **Texts side by side have the fragments of both**, if no mark stands across the seam and no token
is left open before it. -/
theorem scan_append {d : Delimiters} {cs ds : List Char} (hseam : d.PartAt cs ds)
    (hclosed : ∀ text, .unterminated text ∉ scan d cs) :
    scan d (cs ++ ds) = scan d cs ++ scan d ds := by
  fun_induction scan d cs with
  | case1 => rfl
  | case2 c rest fragment width hnext ih =>
    have hopen : ∀ text, (nextFragment d (c :: rest)).1 ≠ .unterminated text := by
      intro text h
      rw [hnext] at h
      exact hclosed text (List.mem_cons.mpr (.inl h.symm))
    have hfirst : nextFragment d (c :: (rest ++ ds)) = (fragment, width) :=
      (nextFragment_append (List.cons_ne_nil c rest) hseam hopen).trans hnext
    -- the fragment ends within the first text, so that the rest begins there
    have hwidth : width - 1 ≤ rest.length := by
      have hle := nextFragment_width_le d (List.cons_ne_nil c rest)
      rw [hnext, List.length_cons] at hle
      exact Nat.sub_le_of_le_add hle
    have hsuffix : rest.drop (width - 1) <:+ c :: rest :=
      (List.drop_suffix _ _).trans (List.suffix_cons c rest)
    rw [List.cons_append, scan, hfirst]
    dsimp only
    rw [List.drop_append_of_le_length hwidth,
      ih (hseam.of_suffix hsuffix) fun text h => hclosed text (List.mem_cons_of_mem _ h)]
    rfl

/-- A token that is left open takes the rest of the text. -/
theorem width_of_unterminated {d : Delimiters} {cs text : List Char} {width : Nat}
    (h : nextFragment d cs = (.unterminated text, width)) : width = cs.length := by
  rw [nextFragment_eq] at h
  split at h
  · split at h
    · exact absurd (congrArg Prod.fst h) (by simp)
    · split at h <;> exact absurd (congrArg Prod.fst h) (by simp)
  · split at h
    · split at h
      · exact (congrArg Prod.snd h).symm
      · exact absurd (congrArg Prod.fst h) (by simp)
    · exact absurd (congrArg Prod.fst h) (by simp)

/-- A token can be left open only at the end of a text. -/
theorem unterminated_not_mem_scan {d : Delimiters} {cs : List Char}
    (h : ∀ text, (scan d cs).getLast? ≠ some (.unterminated text)) :
    ∀ text, .unterminated text ∉ scan d cs := by
  fun_induction scan d cs with
  | case1 => simp
  | case2 c rest fragment width hnext ih =>
    intro text hmem
    rcases List.mem_cons.mp hmem with rfl | hrest
    · have hwidth := width_of_unterminated hnext
      -- nothing is left behind it, so that it is the last fragment
      have hend : rest.drop (width - 1) = [] := by
        rw [List.drop_eq_nil_iff, hwidth, List.length_cons]
        omega
      exact h text (by rw [hend, scan_nil]; rfl)
    · refine ih (fun text' hlast => h text' ?_) text hrest
      rw [List.getLast?_cons, hlast]
      rfl

end Stencil
