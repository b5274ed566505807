import Lisplet.Event
import Lisplet.Mode
import Lisplet.Operator

/-! Evaluation. Literals stand for themselves, a quote form for what it quotes, and every other list
with an atom at its head is a call, whose arguments are evaluated from left to right. -/

set_option autoImplicit false

namespace Lisplet

namespace Evaluation

/-- What strict evaluation refuses with an error, and lenient evaluation notes and lets pass. -/
def fallBack (mode : Mode) (event : Event) (cause : Error) : Traced Event Unit :=
  match mode with
  | .strict => .error cause
  | .lenient => .emit event

def noInteger (mode : Mode) (room : Nat) (value : Value) : Traced Event Int := do
  fallBack mode (.zeroed value room) (.typeMismatch "number" value)
  pure 0

def operand (mode : Mode) : Nat → Value → Traced Event Int
  | _, .number n => pure n
  | room, .string contents =>
    match Numeral.readInteger contents.toList with
    | .ok (some n) => pure n
    | .ok none => noInteger mode room (.string contents)
    | .error reached => .fail (.limit reached)
  | room + 1, .list [inner] => operand mode room inner
  | 0, .list [_] => .fail (.limit .depth)
  | room, value => noInteger mode room value

/-- An operator over operands. There must be one, and in strict mode two; every operand is looked
at before the operator is applied. -/
def reduce (mode : Mode) (room : Nat) (operator : Operator) : List Value → Traced Event Value
  | [] => .error (.arity 1 [])
  | first :: rest => do
    if rest.isEmpty then fallBack mode (.loneOperand first) (.arity 2 [first])
    let number ← operand mode room first
    let others ← Traced.each (operand mode room) rest
    match operator.reduce number others with
    | .ok n => pure (.number n)
    | .error .zeroDivisor => .error .divisionByZero

def applyWithin (mode : Mode) (room : Nat) (name : String) (arguments : List Value) :
    Traced Event Value :=
  match Operator.ofName? name with
  | some operator => reduce mode room operator arguments
  | none => do
    fallBack mode (.unknownFunction name) (.unknownFunction name)
    pure (.bool false)

inductive Form where
  | constant (value : Value)
  | call (name : String) (arguments : List Value)
  | unrecognized

/-- A quote form with one argument is a constant, and with any other number of them a call. -/
def Form.of : Value → Form
  | .number n => .constant (.number n)
  | .string contents => .constant (.string contents)
  | .bool b => .constant (.bool b)
  | .list (.atom name :: arguments) =>
    if name = "quote" then
      match arguments with
      | [value] => .constant value
      | _ => .call name arguments
    else .call name arguments
  | _ => .unrecognized

/-- The value of an expression, found with this much room for nesting: an argument has two levels
less than its call. -/
def valueWithin (mode : Mode) : Nat → Value → Traced Event Value
  | room, expression =>
    match Form.of expression with
    | .constant value => pure value
    | .unrecognized => .error (.unrecognizedForm expression)
    | .call name arguments => do
      if name = "quote" then
        fallBack mode (.looseQuote expression) (.malformedQuote expression)
      match room with
      | room + 2 =>
        let values ← Traced.each (valueWithin mode room) arguments
        .emit (.applying name values.length)
        applyWithin mode room name values
      | _ => .fail (.limit .depth)

/-- Nesting that outgrows the room is an error of the expression. -/
def settle {ε : Type} (computation : Traced ε Value) : Traced ε Value :=
  match computation.result with
  | .error (.limit .depth) => { computation with result := .error (.error .expressionTooDeep) }
  | _ => computation

end Evaluation

def evaluate (mode : Mode) (expression : Value) : Except Fault Value :=
  (Evaluation.settle (Evaluation.valueWithin mode nestingRoom expression)).result

end Lisplet
