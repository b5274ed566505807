import Lisplet.Value.Description
import Lisplet.Trace

/-! What happens while an expression is read and evaluated, and the records of it in the debug
log. -/

set_option autoImplicit false

namespace Lisplet

inductive Event where
  | trailing (offset : Nat) (text : String)
  | parsed (source : String) (value : Value)
  | unreadable (cause : SyntaxError)
  | applying (name : String) (count : Nat)
  | looseQuote (form : Value)
  | loneOperand (operand : Value)
  /-- An operand that names no integer counts as zero. It was met with this much room for
  nesting. -/
  | zeroed (operand : Value) (room : Nat)
  | unknownFunction (name : String)
  | evaluated (source : String) (value : Value)
  deriving DecidableEq, Repr

namespace Event

/-- The part of the program that reports the event and its message. The message may run into a
limit; an event without record is not reported. -/
def record : Event → Option (String × Except Limit String)
  | .trailing offset text =>
    some (reader, .ok ("Ignoring trailing input at offset " ++ toString offset ++ ": "
      ++ Text.quoted text))
  | .parsed source value =>
    some (reader, value.description.map fun shown =>
      "Parsed " ++ Text.quoted source ++ " -> " ++ shown)
  | .unreadable cause => some (reader, .ok ("Parse failed: " ++ cause.describe))
  | .applying name count =>
    some ("haschema.evaluation.evaluator",
      .ok ("Applying " ++ name ++ " to " ++ toString count ++ " argument(s)"))
  | .looseQuote _ | .loneOperand _ => none
  | .zeroed operand room =>
    some (primitives, (operand.textWithin room).map fun shown =>
      "Coercing non-numeric operand " ++ shown ++ " to 0")
  | .unknownFunction name =>
    some (primitives, .ok ("Unknown primitive " ++ Text.quoted name ++ ", returning #f"))
  | .evaluated source value =>
    some ("haschema.interpreter", value.text.map fun shown => source ++ " => " ++ shown)
where
  reader := "haschema.reader.parser"
  primitives := "haschema.builtin.primitives"

def fallback : Event → Option Error
  | .looseQuote form => some (.malformedQuote form)
  | .loneOperand operand => some (.arity 2 [operand])
  | .zeroed operand _ => some (.typeMismatch "number" operand)
  | .unknownFunction name => some (.unknownFunction name)
  | _ => none

/-- What the log has in place of a record with too long an integer. An account of the failure
follows it, which names files of the installation and is left out here. -/
def notice : String := "--- Logging error ---"

/-- Writes the line of the event. One that is nested too deeply to be written stops the
computation. -/
def write (event : Event) : Traced String Unit :=
  match event.record with
  | none => pure ()
  | some (reporter, .ok message) => .emit ("DEBUG " ++ reporter ++ ": " ++ message)
  | some (_, .error .depth) => .fail (.limit .depth)
  | some (_, .error _) => .emit notice

end Event

def Traced.logged {α : Type} (debug : Bool) (computation : Traced Event α) : Traced String α := do
  if debug then
    let _ ← Traced.each Event.write computation.events
  .ofResult computation.result

@[simp] theorem Traced.logged_false {α : Type} (computation : Traced Event α) :
    computation.logged false = .ofResult computation.result := by
  cases computation with
  | mk events result => cases result <;> rfl

end Lisplet
