/-
# What comes of writing a file

Writing makes directories where there is nothing yet, and at last puts the file in its place.  So it has
written either the whole file or no file at all: what fails on the way leaves directories at most, and
every file in the tree is as it was.

What comes of it is told once (`TextFile.Writes`), so that no proof after this file takes
`TextFile.write` apart.

* `file?_ensureDirectory`: directories that are made change no file;
* `file?_write`: a file that is put in its place changes no other;
* `TextFile.writes`: how writing ends.
-/
import Stencil.Files.TextFile

namespace Stencil

namespace FileTree

/-! ## 1. Files by place -/

def file? (t : FileTree) (place : List String) : Option (List UInt8) :=
  match t.node? place with
  | some (.file bytes) => some bytes
  | _ => none

/-- A directory that is made changes no file. -/
theorem file?_makeDirectory {t t' : FileTree} {p : Path} (h : t.makeDirectory p = .ok t') :
    t'.file? = t.file? := by
  unfold makeDirectory at h
  cases hplace : t.place p with
  | error f => simp [hplace] at h
  | ok place =>
    rw [hplace] at h
    dsimp only at h
    split at h
    · exact absurd h (by simp)
    · rename_i hfree
      obtain rfl := Except.ok.inj h
      funext other
      by_cases hother : place = other
      · -- there was nothing at the place, and now there is a directory
        subst hother
        have hground : isGround place = false := by
          cases hall : isGround place with
          | false => rfl
          | true => simp [node?, hall] at hfree
        have hmade : node? ⟨t.nodes.put place .directory⟩ place = some .directory := by
          simp [node?, hground, Table.get?_put_self]
        simp [file?, hmade, hfree]
      · simp [file?, node?_put_of_ne t .directory hother]

/-- Neither does one that was there, or could not be made. -/
theorem file?_makeOrKeepDirectory (t : FileTree) (p : Path) :
    (t.makeOrKeepDirectory p).1.file? = t.file? := by
  unfold makeOrKeepDirectory
  split
  · rename_i h
    exact file?_makeDirectory h
  · split <;> rfl

/-- **Directories that are made change no file**, by induction on the directories that are missing. -/
theorem file?_ensureDirectory (t : FileTree) (p : Path) : (t.ensureDirectory p).1.file? = t.file? := by
  fun_induction ensureDirectory t p with
  | case1 => rfl
  | case2 isRooted parts _ _ _ t' _ hstep ih => rwa [hstep] at ih
  -- the parent was missing: it is made first, and then the directory in it
  | case3 isRooted parts _ _ _ t' hstep ih =>
    rw [hstep] at ih
    exact (t'.file?_makeOrKeepDirectory _).trans ih
  | case4 isRooted parts => exact t.file?_makeOrKeepDirectory _

/-- **A file that is put in its place changes no other.** -/
theorem file?_write {t t' : FileTree} {p : Path} {bytes : List UInt8} (h : t.write p bytes = .ok t') :
    ∃ place, ∀ other, other ≠ place → t'.file? other = t.file? other := by
  unfold write at h
  cases hplace : t.place p with
  | error f => simp [hplace] at h
  | ok place =>
    rw [hplace] at h
    dsimp only at h
    split at h
    · exact absurd h (by simp)
    · obtain rfl := Except.ok.inj h
      refine ⟨place, fun other hother => ?_⟩
      simp [file?, node?_put_of_ne t (.file bytes) hother.symm]

end FileTree

namespace TextFile

/-! ## 2. How writing ends -/

/-- The notice with which writing to a path begins. -/
def started (path : String) : Notice := .info .writing (.writingFile (Path.ofString path).text)

/-- What comes of writing lines to a path: there are none, the path is no request at all, the file
system refuses, or the file holds the lines.  Only then has a file changed, and no other has. -/
inductive Writes (t : FileTree) (path : String) (lines : List String) : Outcome → Prop
  | nothing : lines = [] →
      Writes t path lines ⟨t, [.warning .writing (.nothingToWrite path)], .ok false⟩
  | broken {t' : FileTree} {fault : PathFault} : lines ≠ [] → t'.file? = t.file? →
      Writes t path lines ⟨t', [started path], .error fault⟩
  | failed {t' : FileTree} {fault : FileFault} : lines ≠ [] → t'.file? = t.file? →
      Writes t path lines
        ⟨t', [started path, .error .writing (.writeFailed fault)], .ok false⟩
  | written {t' : FileTree} {place : List String} : lines ≠ [] →
      find t' (Path.ofString path) = .ok (some (bytesOf lines)) →
      (∀ other, other ≠ place → t'.file? other = t.file? other) →
      Writes t path lines ⟨t', [started path], .ok true⟩

/-- **Writing ends in one of these ways.** -/
theorem writes (t : FileTree) (path : String) (lines : List String) :
    Writes t path lines (write t path lines) := by
  have hmade := t.file?_ensureDirectory (Path.ofString path).parent
  unfold write
  split
  -- the checks in their order; the directories are made before the last two of them
  · exact .nothing ‹_›
  rename_i hlines
  dsimp only
  split
  · exact .broken hlines rfl
  split
  · exact .broken hlines rfl
  split
  · rename_i hdirectory
    rw [hdirectory] at hmade
    exact .failed hlines hmade
  rename_i t₁ hdirectory
  rw [hdirectory] at hmade
  split
  · exact .broken hlines hmade
  rename_i hnull
  split
  · exact .failed hlines hmade
  · rename_i t₂ hwrite
    obtain ⟨place, hothers⟩ := FileTree.file?_write hwrite
    have hfile := find_of_read? (Bool.eq_false_iff.mpr hnull) (FileTree.read?_write hwrite)
    exact .written hlines hfile fun other hother =>
      (hothers other hother).trans (congrFun hmade other)

end TextFile

end Stencil
