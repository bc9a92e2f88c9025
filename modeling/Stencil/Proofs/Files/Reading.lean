/-
# Reading what was written

Lines are written with a line feed behind each of them and read back cut at every line end.  So a line
that holds a line end of its own comes back as several lines, or as a shorter one if it ends in a carriage
return, which the line feed behind it completes; a line without one comes back as it was.

The bytes make no difference, since decoding undoes encoding.

* `mem_lineEnds_iff`: the characters that end a line;
* `linesOf_endLines_iff`: the lines that come back as they were;
* `read_of_write`: what is read from a file that was written.
-/
import Stencil.Proofs.Except
import Stencil.Proofs.Files.Writing
import Stencil.Proofs.Text.Utf8

namespace Stencil

namespace TextFile

/-! ## 1. Line ends -/

/-- The characters that end a line. -/
def lineEnds : List Char :=
  ['\n', '\x0b', '\x0c', '\r', '\x1c', '\x1d', '\x1e', '\u0085', '\u2028', '\u2029']

/-- The lines hold no character that ends a line. -/
def Unbroken (lines : List String) : Prop := ∀ line ∈ lines, ∀ c ∈ line.toList, c ∉ lineEnds

instance (lines : List String) : Decidable (Unbroken lines) :=
  decidable_of_iff (lines.all fun line => line.toList.all fun c => !lineEnds.contains c)
    (by simp [Unbroken])

theorem mem_lineEnds_iff {c : Char} : c ∈ lineEnds ↔ Text.isBoundary c = true := by
  simp only [lineEnds, List.mem_cons, List.not_mem_nil, or_false, ← Char.toNat_inj, Text.isBoundary,
    Bool.or_eq_true, Bool.and_eq_true, decide_eq_true_eq, beq_iff_eq, Char.reduceToNat]
  omega

/-- The listed characters are those at which lines are cut. -/
theorem unbroken_iff {lines : List String} :
    Unbroken lines ↔ ∀ line ∈ lines, ∀ c ∈ line.toList, Text.isBoundary c = false := by
  simp only [Unbroken, mem_lineEnds_iff, Bool.not_eq_true]

/-! ## 2. Lines that come back -/

/-- **Lines that are read hold no line end.** -/
theorem unbroken_linesOf (cs : List Char) : Unbroken (linesOf cs) := by
  rw [unbroken_iff]
  intro line hline
  obtain ⟨piece, hpiece, rfl⟩ := List.mem_map.mp hline
  rw [String.toList_ofList]
  exact Text.isBoundary_of_mem_splitLines hpiece

/-- **Lines come back as they were exactly if none holds a line end.** -/
theorem linesOf_endLines_iff {lines : List String} :
    linesOf (Text.endLines (lines.map String.toList)) = lines ↔ Unbroken lines := by
  constructor
  · intro h
    exact h ▸ unbroken_linesOf _
  · intro h
    have hbare := unbroken_iff.mp h
    -- without a carriage return there is nothing to unify before the lines are cut
    have hreturn : '\r' ∉ Text.endLines (lines.map String.toList) := by
      intro hmem
      obtain ⟨cs, hcs, hmem⟩ := List.mem_flatMap.mp hmem
      obtain ⟨line, hline, rfl⟩ := List.mem_map.mp hcs
      rcases List.mem_append.mp hmem with hmem | hmem
      · exact h line hline '\r' hmem (by decide)
      · exact absurd hmem (by decide)
    have hsplit : Text.splitLines (Text.endLines (lines.map String.toList))
        = lines.map String.toList :=
      Text.splitLines_endLines (List.forall_mem_map.mpr hbare)
    rw [linesOf, Text.unifyNewlines_of_notMem hreturn, hsplit, List.map_map]
    simp

/-! ## 3. Files -/

/-- What is read from a file that was written. -/
theorem read_of_isWritten {t : FileTree} {path : String} (hpath : Text.isBlank path = false)
    {lines : List String} (h : (write t path lines).isWritten = .ok true) :
    read (write t path lines).tree (some path)
      = .ok (.ok (linesOf (Text.endLines (lines.map String.toList)))) := by
  have hdecoded : Text.decodeUtf8 (bytesOf lines) = .ok (Text.endLines (lines.map String.toList)) :=
    Text.decodeUtf8_encodeUtf8 _
  simp [read, hpath, find_of_write h, hdecoded]

/-- **A file that was written is read back as the lines that went into it, exactly if none of them holds a
line end**; and whatever went into it, no line that is read back holds one. -/
theorem read_of_write {t : FileTree} {path : String} (hpath : Text.isBlank path = false)
    {lines : List String} (h : (write t path lines).isWritten = .ok true) :
    ∃ back, read (write t path lines).tree (some path) = .ok (.ok back) ∧
      (back = lines ↔ Unbroken lines) ∧ Unbroken back :=
  ⟨_, read_of_isWritten hpath h, linesOf_endLines_iff, unbroken_linesOf _⟩

/-- Lines that hold line ends, of which one is completed by the line feed behind it, and lines that hold
none, among them an empty one at the end. -/
theorem read_of_write_broken :
    let t : FileTree := {}
    let broken := ["a\r", "", "b\u2028c\x0b"]
    let whole := ["\ufeffé\t", "a\x1f", ""]
    (write t "out/./a.txt" broken).isWritten = .ok true ∧ ¬ Unbroken broken ∧
      linesOf (Text.endLines (broken.map String.toList)) = ["a", "", "b", "c", ""] ∧
      (∃ back, read (write t "out/./a.txt" broken).tree (some "out/./a.txt") = .ok (.ok back) ∧
        back ≠ broken ∧ Unbroken back) ∧
      (write t "b" whole).isWritten = .ok true ∧
      read (write t "b" whole).tree (some "b") = .ok (.ok whole) := by
  intro t broken whole
  have hbroken : ¬ Unbroken broken := by decide +kernel
  have hwhole : Unbroken whole := by decide +kernel
  have hwritten : (write t "out/./a.txt" broken).isWritten = .ok true :=
    toOption_eq_some_iff.mp (by decide +kernel)
  have hwritten' : (write t "b" whole).isWritten = .ok true :=
    toOption_eq_some_iff.mp (by decide +kernel)
  obtain ⟨back, hread, hsame, hbare⟩ := read_of_write (by decide +kernel) hwritten
  obtain ⟨back', hread', hsame', -⟩ := read_of_write (by decide +kernel) hwritten'
  refine ⟨hwritten, hbroken, by decide +kernel, ?_, hwritten', hsame'.mpr hwhole ▸ hread'⟩
  exact ⟨back, hread, fun h => hbroken (hsame.mp h), hbare⟩

end TextFile

end Stencil
