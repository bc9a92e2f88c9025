/-
# Paths and their texts

The parts of a path are whole: none is empty or a dot, and no separator stands in one.  Such parts, with
separators between them, are read back as they are.  So the text of a path that was read leads to the same
path, and it makes no difference whether a request carries a path or its text.

* `isPart_of_mem_partsOf`: what the parts are that are read;
* `partsOf_intercalate`: parts that are written out are read back;
* `ofString_text`: so is the path.
-/
import Stencil.Files.Path

namespace Stencil

namespace Path

/-! ## 1. Parts -/

/-- A part that a path can have. -/
def IsPart (part : String) : Prop := part ≠ "" ∧ part ≠ "." ∧ '/' ∉ part.toList

/-- No piece holds what the list was split at. -/
theorem of_mem_splitOnP {α : Type} {p : α → Bool} {xs piece : List α} (h : piece ∈ xs.splitOnP p) :
    ∀ x ∈ piece, p x = false := by
  induction xs generalizing piece with
  | nil =>
    obtain rfl : piece = [] := by simpa [List.splitOnP_nil] using h
    simp
  | cons y ys ih =>
    rw [List.splitOnP_cons_eq_if_modifyHead] at h
    split at h
    · rcases List.mem_cons.mp h with rfl | h
      · simp
      · exact ih h
    -- the element stays in the first piece of the rest
    · rename_i hy
      obtain ⟨first, rest, hsplit⟩ := List.exists_cons_of_ne_nil (List.splitOnP_ne_nil p ys)
      rw [hsplit, List.modifyHead_cons] at h
      rcases List.mem_cons.mp h with rfl | h
      · exact List.forall_mem_cons.mpr
          ⟨Bool.eq_false_iff.mpr hy, ih (hsplit ▸ List.mem_cons_self)⟩
      · exact ih (hsplit ▸ List.mem_cons_of_mem _ h)

/-- The parts that are read are whole. -/
theorem isPart_of_mem_partsOf {cs : List Char} {part : String} (h : part ∈ partsOf cs) :
    IsPart part := by
  obtain ⟨piece, hpiece, rfl⟩ := List.mem_map.mp h
  obtain ⟨hsplit, hwhole⟩ := List.mem_filter.mp hpiece
  have hno : '/' ∉ piece := fun hmem => by simpa using of_mem_splitOnP hsplit _ hmem
  have hwhole : piece ≠ [] ∧ piece ≠ ['.'] := by simpa using hwhole
  refine ⟨fun h => hwhole.1 ?_, fun h => hwhole.2 ?_, by simpa using hno⟩
  · simpa using congrArg String.toList h
  · simpa using congrArg String.toList h

/-! ## 2. Parts that are written out -/

/-- What stands before a separator and what stands after it are read apart. -/
theorem partsOf_append (cs ds : List Char) : partsOf (cs ++ '/' :: ds) = partsOf cs ++ partsOf ds := by
  simp only [partsOf]
  rw [List.splitOnP_append_cons cs ds (by simp), List.filter_append, List.map_append]

/-- A part by itself is read as one. -/
theorem partsOf_toList {part : String} (h : IsPart part) : partsOf part.toList = [part] := by
  obtain ⟨hne, hdot, hno⟩ := h
  have hwhole : part.toList ≠ [] ∧ part.toList ≠ ['.'] := by
    refine ⟨fun h => hne (String.toList_injective h), fun h => hdot (String.toList_injective h)⟩
  rw [partsOf, List.splitOnP_eq_singleton fun c hc => by
    simpa using fun he : c = '/' => hno (he ▸ hc)]
  simp [hwhole]

/-- **Parts that are written out are read back.** -/
theorem partsOf_intercalate {parts : List String} (h : ∀ part ∈ parts, IsPart part) :
    partsOf ("/".intercalate parts).toList = parts := by
  induction parts with
  | nil => decide
  | cons part parts ih =>
    obtain ⟨hpart, hparts⟩ := List.forall_mem_cons.mp h
    cases parts with
    | nil => simpa using partsOf_toList hpart
    | cons next parts =>
      -- the separator stands behind the first part, and the rest is written the same way
      have hwritten : ("/".intercalate (part :: next :: parts)).toList
          = part.toList ++ '/' :: ("/".intercalate (next :: parts)).toList := by
        simp [String.intercalate_cons_cons]
      rw [hwritten, partsOf_append, partsOf_toList hpart, ih hparts]
      rfl

/-- Parts that are written out begin with no separator. -/
theorem head?_intercalate {parts : List String} (h : ∀ part ∈ parts, IsPart part) :
    ("/".intercalate parts).toList.head? ≠ some '/' := by
  cases parts with
  | nil => decide
  | cons part parts =>
    obtain ⟨⟨hne, -, hno⟩, -⟩ := List.forall_mem_cons.mp h
    obtain ⟨c, cs, hcs⟩ : ∃ c cs, part.toList = c :: cs :=
      List.exists_cons_of_ne_nil fun h => hne (String.toList_injective h)
    have hc : c ≠ '/' := fun he => hno (hcs ▸ he ▸ List.mem_cons_self)
    cases parts with
    | nil => simpa [hcs] using hc
    | cons next parts => simpa [String.intercalate_cons_cons, hcs] using hc

/-- **The text of a path that was read leads to the same path.** -/
theorem ofString_text (s : String) : ofString (ofString s).text = ofString s := by
  have hparts : ∀ part ∈ partsOf s.toList, IsPart part := fun _ => isPart_of_mem_partsOf
  have hback := partsOf_intercalate hparts
  have hhead := head?_intercalate hparts
  unfold ofString text
  generalize partsOf s.toList = parts at hback hhead ⊢
  -- a root shows as a separator in front, and without parts the text is a root or a dot
  by_cases hroot : s.toList.head? = some '/'
  · have hrooted : ("/" ++ "/".intercalate parts).toList
        = [] ++ '/' :: ("/".intercalate parts).toList := by simp
    simp only [hroot, decide_true, if_true, hrooted, partsOf_append, hback]
    rfl
  · simp only [hroot, decide_false, Bool.false_eq_true, if_false]
    split
    · rename_i hnil
      subst hnil
      decide
    · simp only [hhead, decide_false, hback]

end Path

end Stencil
