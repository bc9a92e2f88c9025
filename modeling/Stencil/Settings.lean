/-
# Settings

What a session starts with.  Settings come from environment variables, with overrides on top of them,
and are checked as a whole: every bound that is broken is reported, and only if none is, whether the
three delimiters differ.

The integers of the environment are read before overrides are considered, so that a variable that is
no integer is refused even if an override would hide it.

* `validate_eq_ok_iff`: the settings that are accepted are those without a problem;
* `load_empty`: without variables and overrides the defaults are in force.
-/
import Stencil.Column
import Stencil.Name
import Stencil.Token.Delimiters

namespace Stencil

/-! ## 1. Settings and their problems -/

/-- What a session starts with. -/
structure Settings where
  tabSize : Int := 4
  delimiters : Delimiters := {}
  stem : String := "DefaultSegment"
  ceiling : Int := 999
  logLevel : String := "WARNING"
  deriving DecidableEq, Repr

inductive Setting where
  | tabSize
  | start
  | stop
  | escape
  | stem
  | ceiling
  | logLevel
  deriving DecidableEq, Repr

namespace Setting

def name : Setting → String
  | tabSize => "tab_size"
  | start => "token_start"
  | stop => "token_end"
  | escape => "token_escape"
  | stem => "default_segment_prefix"
  | ceiling => "max_default_names"
  | logLevel => "log_level"

/-- The environment variable of a setting. -/
def variableName : Setting → String
  | tabSize => "SEGTEXT_TAB_SIZE"
  | start => "SEGTEXT_TOKEN_START"
  | stop => "SEGTEXT_TOKEN_END"
  | escape => "SEGTEXT_TOKEN_ESCAPE"
  | stem => "SEGTEXT_DEFAULT_PREFIX"
  | ceiling => "SEGTEXT_MAX_DEFAULT_NAMES"
  | logLevel => "SEGTEXT_LOG_LEVEL"

end Setting

/-- A bound that a setting breaks. -/
inductive SettingProblem where
  | below (s : Setting) (least : Int)
  | above (s : Setting) (greatest : Int)
  | empty (s : Setting)
  deriving DecidableEq, Repr

def SettingProblem.message : SettingProblem → String
  | below s least => s!"{s.name}: Input should be greater than or equal to {least}"
  | above s greatest => s!"{s.name}: Input should be less than or equal to {greatest}"
  | empty s => s!"{s.name}: String should have at least 1 character"

/-- Why settings are refused. -/
inductive SettingsFault where
  | invalid (problems : List SettingProblem)
  | delimitersEqual
  | notAnInteger (fault : Text.IntegerFault)
  deriving DecidableEq, Repr

def SettingsFault.message : SettingsFault → String
  | invalid problems => "; ".intercalate (problems.map SettingProblem.message)
  | delimitersEqual =>
    ": Value error, token_start, token_end and token_escape must all differ"
  | notAnInteger fault => fault.message

namespace Settings

/-! ## 2. Checking -/

/-- The problem of an integer outside of its bounds. -/
def boundProblem (s : Setting) (n least : Int) (greatest : Option Int) : List SettingProblem :=
  if n < least then [.below s least]
  else match greatest with
    | some greatest => if greatest < n then [.above s greatest] else []
    | none => []

/-- The problem of a text that must not be empty. -/
def emptyProblem (s : Setting) (text : String) : List SettingProblem :=
  if text = "" then [.empty s] else []

/-- The bounds that settings break, in the order of the settings. -/
def problems (s : Settings) : List SettingProblem :=
  boundProblem .tabSize s.tabSize Column.leastTabSize (some Column.greatestTabSize) ++
    emptyProblem .start s.delimiters.start ++ emptyProblem .stop s.delimiters.stop ++
    emptyProblem .escape s.delimiters.escape ++ emptyProblem .stem s.stem ++
    boundProblem .ceiling s.ceiling 1 none

/-- Whether no two delimiters are equal. -/
def delimitersDiffer (d : Delimiters) : Bool :=
  d.start ≠ d.stop && d.start ≠ d.escape && d.stop ≠ d.escape

/-- Accepts settings as they are or says what is wrong with them. -/
def validate (s : Settings) : Except SettingsFault Settings :=
  if s.problems ≠ [] then .error (.invalid s.problems)
  else if delimitersDiffer s.delimiters then .ok s
  else .error .delimitersEqual

theorem validate_eq_ok_iff {s r : Settings} :
    s.validate = .ok r ↔ s.problems = [] ∧ delimitersDiffer s.delimiters = true ∧ r = s := by
  unfold validate
  by_cases hp : s.problems = []
  · cases hd : delimitersDiffer s.delimiters with
    | false => simp [hp]
    | true => simpa [hp] using eq_comm
  · simp [hp]

/-! ## 3. Loading -/

/-- The environment as it is looked up: for each variable the value in effect, be it one of the process
or one that stands for it in a `.env` or `settings.ini` file. -/
abbrev Environment := Table String String

/-- Settings that are given explicitly, each as a value of its own kind: unlike a variable, an override
of a number is a number already. -/
structure Overrides where
  tabSize : Option Int := none
  start : Option String := none
  stop : Option String := none
  escape : Option String := none
  stem : Option String := none
  ceiling : Option Int := none
  logLevel : Option String := none

/-- The integer of an environment variable, or a default if it is not set. -/
def integerVariable (env : Environment) (s : Setting) (default : Int) :
    Except SettingsFault Int :=
  match env.get? s.variableName with
  | none => .ok default
  | some text =>
    match Text.readInteger text with
    | .ok n => .ok n
    | .error fault => .error (.notAnInteger fault)

/-- The settings of an environment, with overrides on top.  The two numbers of the environment are read
first, in this order, so that one that is none ends the loading whatever is given for it. -/
def load (env : Environment) (o : Overrides) : Except SettingsFault Settings :=
  let text (given : Option String) (s : Setting) (default : String) : String :=
    given.getD ((env.get? s.variableName).getD default)
  let defaults : Settings := {}
  match integerVariable env .tabSize defaults.tabSize with
  | .error fault => .error fault
  | .ok tabSize =>
    match integerVariable env .ceiling defaults.ceiling with
    | .error fault => .error fault
    | .ok ceiling =>
      validate
        { tabSize := o.tabSize.getD tabSize
          delimiters :=
            { start := text o.start .start defaults.delimiters.start
              stop := text o.stop .stop defaults.delimiters.stop
              escape := text o.escape .escape defaults.delimiters.escape }
          stem := text o.stem .stem defaults.stem
          ceiling := o.ceiling.getD ceiling
          logLevel := text o.logLevel .logLevel defaults.logLevel }

theorem load_empty : load [] {} = .ok {} := rfl

end Settings

end Stencil
