/-
# Arguments

What the words after the name of the program ask for: a command, its options, and everything else in
order.  Options may stand anywhere among the other words.
-/
import Stencil.Command.Check
import Stencil.Command.Render

namespace Stencil

namespace Command

/-- What the program is asked to do. -/
inductive Invocation where
  | render (r : RenderRequest)
  | check (r : CheckRequest)

/-- Why words are no invocation. -/
inductive UsageFault where
  | noCommand
  | unknownCommand (word : String)
  | unknownOption (word : String)
  | missingValue (option : String)
  | notAnInteger (option word : String)
  | missingTemplate
  | missingSegment
  | unexpectedWord (word : String)

def UsageFault.message : UsageFault → String
  | noCommand => "Missing command."
  | unknownCommand word => s!"No such command '{word}'."
  | unknownOption word => s!"No such option: {word}"
  | missingValue option => s!"Option '{option}' requires an argument."
  | notAnInteger option word =>
    s!"Invalid value for '{option}': '{word}' is not a valid integer."
  | missingTemplate => "Missing argument 'TEMPLATE'."
  | missingSegment => "Missing argument 'SEGMENTS...'."
  | unexpectedWord word => s!"Got unexpected extra argument ({word})"

/-- Whether a word is an option and not a value. -/
def isOption (word : String) : Bool :=
  word.toList.head? = some '-' && word ≠ "-"

/-- An option of the render command that takes a value. -/
def setValue (r : RenderRequest) (option word : String) : Except UsageFault RenderRequest :=
  match option with
  | "--token" | "-t" => .ok { r with token := r.token ++ [word] }
  | "--tokens" => .ok { r with tokens := word }
  | "--output" | "-o" => .ok { r with output := word }
  | "--token-start" => .ok { r with start := word }
  | "--token-end" => .ok { r with stop := word }
  | "--token-escape" => .ok { r with escape := word }
  | "--tab-size" =>
    match Text.readInteger word with
    | .ok n => .ok { r with tabSize := n }
    | .error _ => .error (.notAnInteger option word)
  | _ => .error (.unknownOption option)

/-- Reads the words of the render command into a request whose other words are its segments. -/
def readRender (r : RenderRequest) : List String → Except UsageFault RenderRequest
  | [] => .ok r
  | "--verbose" :: words => readRender { r with verbose := true } words
  | "--no-verbose" :: words => readRender { r with verbose := false } words
  | [word] =>
    if isOption word then .error (.missingValue word)
    else .ok { r with segments := r.segments ++ [word] }
  | word :: next :: words =>
    if isOption word then
      match setValue r word next with
      | .ok r => readRender r words
      | .error fault => .error fault
    else readRender { r with segments := r.segments ++ [word] } (next :: words)

/-- The request of the render command; the first of its other words is the template. -/
def parseRender (words : List String) : Except UsageFault RenderRequest :=
  match readRender { template := "", segments := [] } words with
  | .error fault => .error fault
  | .ok r =>
    match r.segments with
    | [] => .error .missingTemplate
    | [_] => .error .missingSegment
    | template :: segments => .ok { r with template, segments }

def parseCheck (words : List String) : Except UsageFault CheckRequest :=
  let verbose := words.contains "--verbose"
  let others := words.filter fun w => w ≠ "--verbose" && w ≠ "--no-verbose"
  match others.find? isOption, others with
  | some option, _ => .error (.unknownOption option)
  | none, [] => .error .missingTemplate
  | none, [template] => .ok { template, verbose }
  | none, _ :: word :: _ => .error (.unexpectedWord word)

/-- The invocation that the words of a command line are. -/
def parse : List String → Except UsageFault Invocation
  | [] => .error .noCommand
  | "render" :: words => (parseRender words).map .render
  | "check" :: words => (parseCheck words).map .check
  | word :: _ => .error (.unknownCommand word)

def Invocation.run (i : Invocation) (env : Settings.Environment) (files : FileTree) : Outcome :=
  match i with
  | render r => Command.render r env files
  | check r => Command.check r env files

/-- The paths that an invocation reads or writes. -/
def Invocation.paths : Invocation → List String
  | render r => r.template :: (r.tokens.toList ++ r.output.toList)
  | check r => [r.template]

/-- The path that an invocation writes, if it writes one. -/
def Invocation.output? : Invocation → Option String
  | render r => r.output
  | check _ => none

end Command

end Stencil
