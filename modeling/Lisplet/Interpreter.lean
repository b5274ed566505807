import Lisplet.Evaluation
import Lisplet.Settings
import Lisplet.Source

/-! An interpreter reads, evaluates and prints one expression in the mode that it was made for. -/

set_option autoImplicit false

namespace Lisplet

/-- The mode is kept as the text that asked for it. -/
structure Interpreter where
  mode : String
  deriving DecidableEq, Repr

namespace Interpreter

/-- The mode asked for, or else the default mode, or else that of the environment, which is looked
at only then. An empty text asks for nothing. -/
def make (environment : Environment) (defaultMode mode : Option String) :
    Except SettingError Interpreter :=
  match Environment.given mode <|> Environment.given defaultMode with
  | some text => .ok ⟨text⟩
  | none => environment.evaluationMode.map fun mode => ⟨mode.name⟩

def evaluationMode (interpreter : Interpreter) : Mode :=
  Mode.ofText interpreter.mode

def sourceName : String := "lisp"

def readTraced (interpreter : Interpreter) (code : String) : Traced Event Value :=
  match interpreter.evaluationMode with
  | .strict => Source.parseWithin nestingRoom sourceName code
  | .lenient => Source.readWithin nestingRoom sourceName code

def evalLogged (interpreter : Interpreter) (debug : Bool) (code : String) :
    Traced String Value := do
  let expression ← (interpreter.readTraced code).logged debug
  let value ← Evaluation.settle
    ((Evaluation.valueWithin interpreter.evaluationMode nestingRoom expression).logged debug)
  (Traced.emit (.evaluated code value)).logged debug
  pure value

def shown (value : Value) : Except Fault String :=
  match value.text with
  | .ok text => .ok text
  | .error .depth => .error (.error .resultTooDeep)
  | .error reached => .error (.limit reached)

theorem shown_of_text {value : Value} {text : String} (written : value.text = .ok text) :
    shown value = .ok text := by
  rw [shown, written]

theorem shown_of_tooDeep {value : Value} (deep : value.text = .error .depth) :
    shown value = .error (.error .resultTooDeep) := by
  rw [shown, deep]

theorem shown_number {n : Int} (short : n.natAbs < Nat.pow 10 digitLimit) :
    shown (.number n) = .ok n.repr := by
  rw [shown, Value.text, Value.textWithin_number, Numeral.text_of_lt short]

theorem shown_number_of_le {n : Int} (long : Nat.pow 10 digitLimit ≤ n.natAbs) :
    shown (.number n) = .error (.limit .integer) := by
  rw [shown, Value.text, Value.textWithin_number, Numeral.text_of_le long]

def runLogged (interpreter : Interpreter) (debug : Bool) (code : String) :
    Traced String String := do
  let value ← interpreter.evalLogged debug code
  .ofResult (shown value)

def read (interpreter : Interpreter) (code : String) : Except Fault Value :=
  (interpreter.readTraced code).result

def eval (interpreter : Interpreter) (code : String) : Except Fault Value :=
  (interpreter.evalLogged false code).result

def run (interpreter : Interpreter) (code : String) : Except Fault String :=
  (interpreter.runLogged false code).result

end Interpreter

structure Session where
  environment : Environment
  defaultMode : Option String
  interpreter : Option Interpreter
  deriving DecidableEq, Repr

namespace Session

def start : Session := ⟨⟨none, none⟩, none, none⟩

def renew (session : Session) (mode : Option String) : Except SettingError Session :=
  (Interpreter.make session.environment session.defaultMode mode).map fun made =>
    { session with interpreter := some made }

end Session

end Lisplet
