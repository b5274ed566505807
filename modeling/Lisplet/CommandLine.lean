import Lisplet.CommandLine.Arguments
import Lisplet.Interpreter

/-! The command line: evaluates the expression among its arguments and prints the result. -/

set_option autoImplicit false

namespace Lisplet

namespace CommandLine

def usage : String :=
  "usage: haschema [-h] [--strict | --lenient] [-v] expr\n"

def help : String :=
  usage ++ "
Parse and evaluate a single S-expression.

positional arguments:
  expr           the expression to evaluate

options:
  -h, --help     show this help message and exit
  --strict       raise errors instead of coercing bad input
  --lenient      coerce bad input silently (default)
  -v, --verbose  enable debug logging
"

inductive Outcome where
  | exit (code : Nat)
  | fault (reached : Limit)
  | setting (error : SettingError)
  deriving DecidableEq, Repr

structure Report where
  stdout : String
  stderr : String
  outcome : Outcome
  deriving DecidableEq, Repr

def unlines (lines : List String) : String :=
  String.join (lines.map (· ++ "\n"))

/-- The report of a run. An error is written to the log's channel; if its message cannot be made,
that is the fault. -/
def Report.of (run : Traced String String) : Report :=
  let log := unlines run.events
  match run.result with
  | .ok text => ⟨text ++ "\n", log, .exit 0⟩
  | .error (.limit reached) => ⟨"", log, .fault reached⟩
  | .error (.error cause) =>
    match cause.message with
    | .ok message => ⟨"", log ++ "error: " ++ message ++ "\n", .exit 1⟩
    | .error reached => ⟨"", log, .fault reached⟩

/-- Whether the debug log is written: if it is asked for, or by the level of the environment, which
is looked at only otherwise. -/
def debugging (environment : Environment) (verbose : Bool) : Except SettingError Bool :=
  if verbose then .ok true
  else environment.logLevel.map LogLevel.showsDebug

def execute (environment : Environment) (expression : String) (mode : Option Mode)
    (verbose : Bool) : Except SettingError Report := do
  let debug ← debugging environment verbose
  let interpreter ← Interpreter.make environment none (mode.map Mode.name)
  .ok (.of (interpreter.runLogged debug expression))

def run (environment : Environment) (arguments : List String) : Report :=
  match parseArguments arguments with
  | .error cause => ⟨"", usage ++ "haschema: error: " ++ cause.message ++ "\n", .exit 2⟩
  | .ok .help => ⟨help, "", .exit 0⟩
  | .ok (.run expression mode verbose) =>
    match execute environment expression mode verbose with
    | .ok report => report
    | .error cause => ⟨"", "", .setting cause⟩

end CommandLine

end Lisplet
