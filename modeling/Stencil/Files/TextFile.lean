/-
# Text files

Templates are read from files and output is written to them, line by line in UTF-8.  A template that
cannot be read and output that cannot be written are noted; neither is a failure of the library.

* `find_of_read?`: a file that the tree holds is found, unless its path has a null character;
* `find_of_write`: a file that was written is found, with its lines;
* `read_blank`: a path that holds nothing but white space is not looked up.
-/
import Stencil.Files.Tree
import Stencil.Log.Basic
import Stencil.Text.Lines

namespace Stencil

namespace TextFile

/-- The lines of a text: newlines are unified, then every boundary ends a line. -/
def linesOf (cs : List Char) : List String :=
  (Text.splitLines (Text.unifyNewlines cs)).map String.ofList

/-- The bytes of a file of lines, each ended by a newline. -/
def bytesOf (lines : List String) : List UInt8 :=
  Text.encodeUtf8 (Text.endLines (lines.map String.toList))

/-- The bytes of the file at a path, if there is one.  A path with a null character has none. -/
def find (t : FileTree) (p : Path) : Except FileFault (Option (List UInt8)) :=
  if p.hasNull then .ok none
  else
    match t.lookup p with
    | .error f => .error f
    | .ok (some (.file bytes)) => .ok (some bytes)
    | .ok _ => .ok none

/-- The lines of a template file, or what there is to say about it.  A path that cannot be looked up
is not a matter for the log. -/
def read (t : FileTree) (path : Option String) : Except FileFault (Except Message (List String)) :=
  match path with
  | none => .ok (.error .blankPath)
  | some path =>
    if Text.isBlank path then .ok (.error .blankPath)
    else
      let p := Path.ofString path
      match find t p with
      | .error f => .error f
      | .ok none => .ok (.error (.fileNotFound p.text))
      | .ok (some bytes) =>
        match Text.decodeUtf8 bytes with
        | .error fault => .ok (.error (.undecodable fault))
        | .ok cs => .ok (.ok (linesOf cs))

/-- What comes of writing: the tree, what there is to say, and whether the file was written. -/
structure Outcome where
  tree : FileTree
  notices : List Notice
  isWritten : Except PathFault Bool

/-- How many directories are made one above the other for a file.  Each is made within the call for the
one below it, and calls are nested at most 1000 deep, of which some fifteen are open beforehand. -/
def maxMissing : Nat := 985

/-- Writes lines to a file, with the directories that it needs. -/
def write (t : FileTree) (path : String) (lines : List String) : Outcome :=
  if lines = [] then ⟨t, [.warning .writing (.nothingToWrite path)], .ok false⟩
  else
    let p := Path.ofString path
    let start : Notice := .info .writing (.writingFile p.text)
    let failed (t : FileTree) (f : FileFault) : Outcome :=
      ⟨t, [start, .error .writing (.writeFailed f)], .ok false⟩
    if p.parent.hasNull then ⟨t, [start], .error .nullCharacter⟩
    else if maxMissing < t.missing p.parent then ⟨t, [start], .error .tooManyDirectories⟩
    else
      match t.ensureDirectory p.parent with
      | (t, some f) => failed t f
      | (t, none) =>
        if p.hasNull then ⟨t, [start], .error .nullCharacter⟩
        else
          match t.write p (bytesOf lines) with
          | .error f => failed t f
          | .ok t => ⟨t, [start], .ok true⟩

theorem find_of_read? {t : FileTree} {p : Path} {bytes : List UInt8} (hnull : p.hasNull = false)
    (h : t.read? p = some bytes) : find t p = .ok (some bytes) := by
  unfold FileTree.read? at h
  split at h
  · rename_i found hfound
    obtain rfl := Option.some.inj h
    simp [find, hnull, hfound]
  · exact absurd h (by simp)

theorem read_blank (t : FileTree) {path : String} (h : Text.isBlank path = true) :
    read t (some path) = .ok (.error .blankPath) := by
  simp [read, h]

/-- A file that was written is found, with the lines that went into it. -/
theorem find_of_write {t : FileTree} {path : String} {lines : List String}
    (h : (write t path lines).isWritten = .ok true) :
    find (write t path lines).tree (Path.ofString path) = .ok (some (bytesOf lines)) := by
  revert h
  unfold write
  dsimp only
  -- of all the ways in which writing ends, only the last has written the file
  split
  · simp
  split
  · simp
  split
  · simp
  split
  · simp
  split
  · simp
  rename_i hnull
  split
  · simp
  · rename_i hwrite
    exact fun _ => find_of_read? (Bool.eq_false_iff.mpr hnull) (FileTree.read?_write hwrite)

end TextFile

end Stencil
