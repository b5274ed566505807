import Lisplet.Mode
import Lisplet.Text.Blank
import Lisplet.Text.Quoted
import Lisplet.Text.Upper

/-! Settings that come from the environment: the mode of evaluation and the level of the log. -/

set_option autoImplicit false

namespace Lisplet

structure Environment where
  mode : Option String
  level : Option String
  deriving DecidableEq, Repr

inductive SettingError where
  | mode (given : String)
  | level (given : String)
  deriving DecidableEq, Repr

def SettingError.message : SettingError → String
  | .mode given =>
    "HASCHEMA_EVAL_MODE must be one of " ++ ", ".intercalate (Mode.all.map Mode.name) ++ ", got "
      ++ Text.quoted given
  | .level given => "Unknown HASCHEMA_LOG_LEVEL " ++ Text.quoted given

inductive LogLevel where
  | critical
  | error
  | warning
  | info
  | debug
  | everything
  deriving DecidableEq, Repr

namespace LogLevel

def severity : LogLevel → Nat
  | .critical => 50
  | .error => 40
  | .warning => 30
  | .info => 20
  | .debug => 10
  | .everything => 0

def named : List (String × LogLevel) := [
  ("CRITICAL", .critical), ("FATAL", .critical), ("ERROR", .error), ("WARNING", .warning),
  ("WARN", .warning), ("INFO", .info), ("DEBUG", .debug), ("NOTSET", .everything)]

def showsDebug (level : LogLevel) : Bool :=
  level.severity ≤ debug.severity

end LogLevel

namespace Environment

def given (setting : Option String) : Option String :=
  setting.filter (· ≠ "")

/-- The mode that the environment asks for, lenient if it asks for none. Case and blanks around it
do not matter. No letter outside ASCII has a lower case in either name, so ASCII case is enough. -/
def evaluationMode (environment : Environment) : Except SettingError Mode :=
  match environment.mode with
  | none => .ok .lenient
  | some text =>
    match Text.trim text.toList with
    | [] => .ok .lenient
    | name =>
      match Mode.all.find? (·.name.toList = name.map Char.toLower) with
      | some mode => .ok mode
      | none => .error (.mode text)

def logLevel (environment : Environment) : Except SettingError LogLevel :=
  let text := (given environment.level).getD "WARNING"
  let name := String.ofList (Text.upper (Text.trim text.toList))
  match LogLevel.named.lookup name with
  | some level => .ok level
  | none => .error (.level name)

end Environment

end Lisplet
