/-
# A tree of files

The part of the file system that the library reads and writes, as a value: what stands at which
place.  A place is given by its parts from the working directory or the root, after all steps back
up; these two and what is above the working directory are always directories.

There are no links, so that two paths with the same parts lead to the same place.

A request is refused the way a file system does it: a missing directory on the way, a file where a
directory is needed, and the other way round, and a path or a name that is too long.

* `locate_put`, `node?_put_of_ne`: what a node that is put somewhere changes;
* `read?_write`: what is written to a path is read back from it.
-/
import Stencil.Files.Fault
import Stencil.Files.Path
import Stencil.Table

namespace Stencil

/-- What stands at a place. -/
inductive Node where
  | file (bytes : List UInt8)
  | directory
  deriving DecidableEq, Repr

/-- The files and directories by place. -/
structure FileTree where
  nodes : Table (List String) Node := []
  deriving DecidableEq, Repr

namespace FileTree

/-! ## 1. Finding places -/

/-- Whether a place is a directory without being in the tree. -/
def isGround (place : List String) : Bool := place.all (· = "..") || place == ["/"]

/-- What stands at a place. -/
def node? (t : FileTree) (place : List String) : Option Node :=
  if isGround place then some .directory else t.nodes.get? place

/-- The place that a path leads to, from a place on.  Everything on the way has to be a directory;
the last part need not exist, but its name has to be one that a file can have.  A path that leads
nowhere is refused under the text that shows it. -/
def locate (t : FileTree) (shown : String) (place : List String) :
    List String → Except FileFault (List String)
  | [] => .ok place
  | part :: parts =>
    match t.node? place with
    | some .directory =>
      if Path.isLongName part then .error (.nameTooLong shown)
      else t.locate shown (Path.enter place part) parts
    | some (.file _) => .error (.notADirectory shown)
    | none => .error (.notFound shown)

/-- The place that a path leads to. -/
def place (t : FileTree) (p : Path) : Except FileFault (List String) :=
  if p.isLong then .error (.nameTooLong p.text) else t.locate p.text p.start p.parts

/-- What a path leads to, if anything.  Only a path that is too long cannot be looked up. -/
def lookup (t : FileTree) (p : Path) : Except FileFault (Option Node) :=
  match t.place p with
  | .ok place => .ok (t.node? place)
  | .error (.nameTooLong shown) => .error (.nameTooLong shown)
  | .error _ => .ok none

/-- The content of a file. -/
def read? (t : FileTree) (p : Path) : Option (List UInt8) :=
  match t.lookup p with
  | .ok (some (.file bytes)) => some bytes
  | _ => none

/-- The content of a file that is asked for by its path, or why there is none. -/
def readFile (t : FileTree) (p : Path) : Except FileFault (List UInt8) :=
  match t.place p with
  | .error f => .error f
  | .ok place =>
    match t.node? place with
    | none => .error (.notFound p.text)
    | some .directory => .error (.isADirectory p.text)
    | some (.file bytes) => .ok bytes

/-! ## 2. Directories -/

/-- Makes one directory, where there is nothing yet. -/
def makeDirectory (t : FileTree) (p : Path) : Except FileFault FileTree :=
  match t.place p with
  | .error f => .error f
  | .ok place =>
    match t.node? place with
    | some _ => .error (.alreadyExists p.text)
    | none => .ok { t with nodes := t.nodes.put place .directory }

/-- Makes one directory; one that is there already will do. -/
def makeOrKeepDirectory (t : FileTree) (p : Path) : FileTree × Option FileFault :=
  match t.makeDirectory p with
  | .ok t => (t, none)
  | .error f =>
    match t.lookup p with
    | .ok (some .directory) => (t, none)
    | _ => (t, some f)

/-- Makes a directory with those above it, as far as they are missing. -/
def ensureDirectory (t : FileTree) (p : Path) : FileTree × Option FileFault :=
  match p with
  | ⟨isRooted, parts⟩ =>
    match t.makeDirectory ⟨isRooted, parts⟩ with
    | .error (.notFound shown) =>
      if _h : parts = [] then (t, some (.notFound shown))
      else
        match t.ensureDirectory ⟨isRooted, parts.dropLast⟩ with
        | (t, some f) => (t, some f)
        | (t, none) => t.makeOrKeepDirectory ⟨isRooted, parts⟩
    | _ => t.makeOrKeepDirectory ⟨isRooted, parts⟩
termination_by p.parts.length
decreasing_by
  have := List.length_pos_iff.mpr _h
  simp only [List.length_dropLast]
  omega

/-- How many of the last steps of a path each need a directory above them that is missing. -/
def missing (t : FileTree) (p : Path) : Nat :=
  let isMissing (n : Nat) : Bool :=
    match t.place { p with parts := p.parts.take (n + 1) } with
    | .error (.notFound _) => true
    | _ => false
  ((List.range p.parts.length).reverse.takeWhile isMissing).length

/-! ## 3. Writing -/

/-- Puts a file in the place that a path leads to; the directory has to be there. -/
def write (t : FileTree) (p : Path) (bytes : List UInt8) : Except FileFault FileTree :=
  match t.place p with
  | .error f => .error f
  | .ok place =>
    if t.node? place = some .directory then .error (.isADirectory p.text)
    else .ok { t with nodes := t.nodes.put place (.file bytes) }

/-- Puts a file in the place that a path leads to, with the directories that it needs. -/
def addFile (t : FileTree) (p : Path) (bytes : List UInt8) : FileTree × Option FileFault :=
  match t.ensureDirectory p.parent with
  | (t, some f) => (t, some f)
  | (t, none) =>
    match t.write p bytes with
    | .error f => (t, some f)
    | .ok t => (t, none)

/-! ## 4. Reading what was written -/

theorem node?_put_of_ne (t : FileTree) {place other : List String} (n : Node) (h : place ≠ other) :
    node? ⟨t.nodes.put place n⟩ other = t.node? other := by
  simp [node?, Table.get?_put_of_ne t.nodes n h]

theorem locate_put {t : FileTree} {target : List String} (n : Node)
    (htarget : t.node? target ≠ some .directory) {shown : String} {parts place result : List String}
    (h : t.locate shown place parts = .ok result) :
    locate ⟨t.nodes.put target n⟩ shown place parts = .ok result := by
  induction parts generalizing place with
  | nil => exact h
  | cons part parts ih =>
    rw [locate] at h ⊢
    have hne : t.node? place = some .directory → target ≠ place := by
      rintro hd rfl
      exact htarget hd
    cases hp : t.node? place with
    | none => simp [hp] at h
    | some node =>
      cases node with
      | file bytes => simp [hp] at h
      | directory =>
        rw [node?_put_of_ne t n (hne hp), hp]
        rw [hp] at h
        dsimp only at h ⊢
        split at h
        · exact absurd h (by simp)
        · rename_i hlong
          rw [if_neg hlong]
          exact ih h

/-- **What is written to a path is read back from it.** -/
theorem read?_write {t t' : FileTree} {p : Path} {bytes : List UInt8}
    (h : t.write p bytes = .ok t') : t'.read? p = some bytes := by
  unfold write at h
  cases hp : t.place p with
  | error f => simp [hp] at h
  | ok place =>
    rw [hp] at h
    dsimp only at h
    split at h
    · exact absurd h (by simp)
    · rename_i hd
      obtain rfl := Except.ok.inj h
      have hup : isGround place = false := by
        cases hall : isGround place with
        | false => rfl
        | true => exact absurd (by rw [node?, if_pos hall]) hd
      have hplace : FileTree.place ⟨t.nodes.put place (.file bytes)⟩ p = .ok place := by
        rw [FileTree.place] at hp ⊢
        split at hp
        · exact absurd hp (by simp)
        · rename_i hlong
          rw [if_neg hlong]
          exact locate_put (.file bytes) hd hp
      simp [read?, lookup, hplace, node?, hup, Table.get?_put_self]

end FileTree

end Stencil
