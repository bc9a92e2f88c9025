/-
# The message log

Problems with a template are never failures of the library: they are notices, which the log keeps,
each at the position at which it arose, until the host asks for them.  Beside the entries for the
host the log records details of the work, which only a verbose run shows.

* `entries_report`: reporting appends the stamped notices and changes no earlier entry;
* `entries_record`: details of the work are no entries.
-/
import Stencil.Log.Message
import Stencil.Log.Wording

namespace Stencil

/-! ## 1. Levels and categories -/

/-- How serious an entry is.  Any number is a level; five of them, and zero, have names. -/
structure Level where
  rank : Int
  deriving DecidableEq, Repr

namespace Level

/-- Of interest to those who look for a fault in the library. -/
def debug : Level := ⟨10⟩

/-- The normal course of the work. -/
def info : Level := ⟨20⟩

/-- Something was ignored or replaced by a default. -/
def warning : Level := ⟨30⟩

/-- Something asked for was not done. -/
def error : Level := ⟨40⟩

/-- Nothing can go on. -/
def critical : Level := ⟨50⟩

def named : List (String × Level) :=
  [("NOTSET", ⟨0⟩), ("DEBUG", debug), ("INFO", info), ("WARNING", warning), ("ERROR", error),
    ("CRITICAL", critical)]

/-- The name of a level, or its number where it has none. -/
def name (l : Level) : String :=
  match named.find? fun p => p.2 = l with
  | some (n, _) => n
  | none => s!"Level {l.rank}"

/-- Whether an entry of this level is a problem. -/
def isProblem (l : Level) : Bool := warning.rank ≤ l.rank

end Level

/-- What an entry is about. -/
inductive Category where
  | setup
  | loading
  | parsing
  | generating
  | writing
  | reset
  | user
  deriving DecidableEq, Repr

namespace Category

def name : Category → String
  | setup => "Setup"
  | loading => "Loading"
  | parsing => "Parsing"
  | generating => "Generating"
  | writing => "Writing"
  | reset => "Reset"
  | user => "User"

def all : List Category := [setup, loading, parsing, generating, writing, reset, user]

/-- The category with the given name. -/
def ofName? (s : String) : Option Category := all.find? fun c => c.name = s

/-- Whether entries of the category carry a position. -/
def isLocated : Category → Bool
  | parsing | generating => true
  | _ => false

end Category

/-- The complaint about a name that no category has. -/
def unknownCategoryMessage (s : String) : String :=
  Text.quote s ++ " is not a valid LogCategory"

/-! ## 2. Notices and entries -/

/-- A message as it arises, before it is known where. -/
structure Notice where
  category : Category
  level : Level
  message : Message
  deriving DecidableEq, Repr

namespace Notice

/-- Something was ignored or replaced by a default. -/
def warning (c : Category) (m : Message) : Notice := ⟨c, .warning, m⟩

/-- The normal course of the work. -/
def info (c : Category) (m : Message) : Notice := ⟨c, .info, m⟩

/-- Something asked for was not done. -/
def error (c : Category) (m : Message) : Notice := ⟨c, .error, m⟩

end Notice

/-- A notice of the host, worded by itself. -/
def Notice.custom (c : Category) (level : Level) (wording : String) (first second : Option String) :
    Except WordingFault Notice :=
  (Wording.fill wording first second).map fun text => ⟨c, level, .custom text⟩

/-- A notice with its position. -/
structure Entry where
  category : Category
  level : Level
  position : Position := {}
  message : Message
  deriving DecidableEq, Repr

/-- The notice at a position, as far as its category has one. -/
def Notice.stamp (n : Notice) (p : Position) : Entry :=
  ⟨n.category, n.level, if n.category.isLocated then p else {}, n.message⟩

/-- The entry in one line. -/
def Entry.text (e : Entry) : String :=
  let head := "<" ++ e.category.name ++ "> "
  if e.position.hasSegment then head ++ e.position.text ++ " : " ++ e.message.text
  else head ++ e.message.text

/-! ## 3. The log -/

/-- A detail of the work. -/
inductive Detail where
  | linesRead (count : Nat) (path : String)
  | segmentsLoaded (count : Nat)
  | nothingSaved
  deriving DecidableEq, Repr

/-- What the log holds. -/
inductive Record where
  | entry (e : Entry)
  | detail (d : Detail)
  deriving DecidableEq, Repr

/-- The entry that a record is, if it is one. -/
def Record.entry? : Record → Option Entry
  | entry e => some e
  | detail _ => none

/-- Entries and details in the order in which they arose. -/
abbrev Log := List Record

namespace Log

def entries (l : Log) : List Entry := l.filterMap Record.entry?

/-- The log with notices that arose at a position. -/
def report (l : Log) (p : Position) (ns : List Notice) : Log :=
  l ++ ns.map fun n => .entry (n.stamp p)

/-- The log with a detail. -/
def record (l : Log) (d : Detail) : Log := l ++ [.detail d]

/-- The messages of the log in words, of one category or of all. -/
def messages (l : Log) (category : Option Category) : List String :=
  (l.entries.filter fun e => category.all (· = e.category)).map (·.message.text)

/-- Whether the log holds a problem. -/
def hasWarnings (l : Log) : Bool := l.entries.any (·.level.isProblem)

theorem entries_append (l m : Log) : entries (l ++ m) = l.entries ++ m.entries :=
  List.filterMap_append

theorem entries_report (l : Log) (p : Position) (ns : List Notice) :
    (l.report p ns).entries = l.entries ++ ns.map (·.stamp p) := by
  rw [report, entries_append, entries, entries, List.filterMap_map]
  congr 1
  induction ns with
  | nil => rfl
  | cons n ns ih => simp [Record.entry?, ih]

/-- Warnings of a render stand at the position at which they arose. -/
theorem entries_warnings (l : Log) (p : Position) (ms : List Message) :
    (l.report p (ms.map (Notice.warning .generating))).entries
      = l.entries ++ ms.map fun m => ⟨.generating, .warning, p, m⟩ := by
  rw [entries_report, List.map_map]
  rfl

theorem entries_record (l : Log) (d : Detail) : (l.record d).entries = l.entries := by
  simp [entries, record, Record.entry?]

end Log

end Stencil
