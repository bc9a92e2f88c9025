/-
# What a command does

A command is a function of its request, the environment and the files.  Its outcome is everything
that can be seen of it: the text on the two output streams, what it hands to the console for display,
the level at which the library logs afterwards, the files, and how it ends.
-/
import Stencil.Files.Tree
import Stencil.Json.Reader
import Stencil.Log.Trace
import Stencil.Session.Basic

namespace Stencil

namespace Command

/-! ## 1. How a command ends -/

/-- Why a command breaks off. -/
inductive Fault where
  | settings (fault : SettingsFault)
  | unknownLevel (text : String)
  | invalidLevel (shown : String)
  | malformedToken (item : String)
  | malformedTokenFile
  | unreadableTokenFile (fault : FileFault)
  | undecodableTokenFile (fault : Text.Utf8Fault)
  | invalidTokenFile (fault : JsonFault)
  | aborted (reason : Abort)

def Fault.message? : Fault → Option String
  | settings fault => fault.message
  | unknownLevel text => "Unknown level: " ++ Text.quote text
  | invalidLevel shown => "Level not an integer or a valid string: " ++ shown
  | malformedToken item => "--token: expected NAME=VALUE, got " ++ Text.quote item
  | malformedTokenFile => "--tokens: token file must map segment names to objects"
  | unreadableTokenFile fault => fault.message
  | undecodableTokenFile fault => fault.message
  | invalidTokenFile fault => fault.message?
  | aborted reason => reason.message

/-! ## 2. What is displayed -/

/-- The stream that a console writes to. -/
inductive Channel where
  | output
  | error
  deriving DecidableEq, Repr

def Channel.name : Channel → String
  | output => "stdout"
  | error => "stderr"

/-- A table for display; the flag of a column says whether it is set flush right. -/
structure Grid where
  title : String
  columns : List (String × Bool)
  rows : List (List String)

inductive Display where
  | text (s : String)
  | grid (g : Grid)

/-- An item handed to the console, with the style in which it is to appear. -/
structure Shown where
  style : Option String
  display : Display

/-- The style of a log entry by its level. -/
def styleOf (l : Level) : Option String :=
  if l = .debug ∨ l = .info then some "dim"
  else if l = .warning then some "yellow"
  else if l = .error then some "red"
  else none

/-- What is shown of a log: the problems, or everything if the run is verbose. -/
def shownLog (l : Log) (verbose : Bool) : List Shown :=
  (l.entries.filter fun e => e.level.isProblem || verbose).map fun e =>
    ⟨styleOf e.level, .text e.text⟩

/-- Everything that can be seen of a command. -/
structure Outcome where
  ending : Except Fault Nat
  stdout : String := ""
  stderr : String := ""
  channel : Channel := .error
  shown : List Shown := []
  level : Level := ⟨0⟩
  files : FileTree

/-! ## 3. Levels -/

/-- The levels that can be asked for by name, in letters of either case. -/
def levelNames : List (String × Level) :=
  Level.named ++ [("WARN", .warning), ("FATAL", .critical)]

/-- The wording of a log line. -/
def lineWording : String := "%(levelname)s:%(name)s:%(message)s"

/-- The ways of wording a log line, by the sign that marks a place in it. -/
def lineStyles : String :=
  "\x7b'%': (<class 'logging.PercentStyle'>, '" ++ lineWording ++ "'), " ++
  "'\x7b': (<class 'logging.StrFormatStyle'>, " ++
  "'\x7blevelname\x7d:\x7bname\x7d:\x7bmessage\x7d'), " ++
  "'$': (<class 'logging.StringTemplateStyle'>, " ++
  "'$\x7blevelname\x7d:$\x7bname\x7d:$\x7bmessage\x7d')\x7d"

/-- Names that can be asked for like a level but stand for something else. -/
def otherNames : List (String × Fault) :=
  [("BASIC_FORMAT", .unknownLevel lineWording), ("_STYLES", .invalidLevel lineStyles)]

/-- The level at which the library logs: all of it if the run is verbose, else the level that the
settings name, or warnings if they name none. -/
def logLevel (verbose : Bool) (name : String) : Except Fault Level :=
  if verbose then .ok .debug
  else
    let name := Text.upper name
    match otherNames.lookup name with
    | some fault => .error fault
    | none => .ok ((levelNames.lookup name).getD .warning)

end Command

end Stencil
