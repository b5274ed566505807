import Lisplet.Value.Text

/-! What can go wrong: errors of the language, each with its message, and faults, which are errors
or limits of the program. -/

set_option autoImplicit false

namespace Lisplet

/-- Text that cannot be read. The position is that of the first character that does not fit. -/
structure SyntaxError where
  pos : Int
  line : Int
  column : Int
  unexpected : String
  expected : List String
  sourceName : String
  /-- Said in place of the unexpected and the expected things, unless it is empty. -/
  reason : Option String
  deriving DecidableEq, Repr

namespace SyntaxError

def make (pos line column : Int) (unexpected : String) (expected : List String)
    (sourceName : String) (reason : Option String) : SyntaxError :=
  ⟨pos, line, column, unexpected, expected.eraseDups, sourceName, reason⟩

def alternatives (first : String) : List String → String
  | [] => first
  | [last] => first ++ " or " ++ last
  | second :: rest => first ++ ", " ++ alternatives second rest

def mismatch (error : SyntaxError) : String :=
  match error.expected with
  | [] => "unexpected " ++ error.unexpected
  | first :: rest =>
    "unexpected " ++ error.unexpected ++ "\nexpecting " ++ alternatives first rest

def describe (error : SyntaxError) : String :=
  let header := "\"" ++ error.sourceName ++ "\" (line " ++ error.line.repr ++ ", column "
    ++ error.column.repr ++ "):\n"
  match error.reason with
  | none | some "" => header ++ error.mismatch
  | some reason => header ++ reason

end SyntaxError

inductive Error where
  | unreadable (cause : SyntaxError)
  | arity (expected : Int) (found : List Value)
  | typeMismatch (expected : String) (found : Value)
  | badForm (text : String) (form : Value)
  | unbound (text : String) (name : String)
  | other (text : String)
  deriving DecidableEq, Repr

namespace Error

def divisionByZero : Error := .other "Division by zero"

def unrecognizedForm (form : Value) : Error := .badForm "Unrecognized special form" form

def malformedQuote (form : Value) : Error := .badForm "Malformed quote form" form

def unknownFunction (name : String) : Error :=
  .unbound "Unrecognized primitive function args" name

def expressionTooDeep : Error := .other "Expression nested too deeply"

def resultTooDeep : Error := .other "Result nested too deeply to print"

/-- The message of an error. There is none if a value in it cannot be printed. -/
def message : Error → Except Limit String
  | .unreadable cause => .ok cause.describe
  | .arity expected found =>
    (Value.textOfAll found).map fun words =>
      "Expected " ++ expected.repr ++ " args; found values " ++ words
  | .typeMismatch expected found =>
    found.text.map fun shown => "Invalid type: expected " ++ expected ++ ", found " ++ shown
  | .badForm text form => form.text.map fun shown => text ++ ": " ++ shown
  | .unbound text name => .ok (text ++ ": " ++ name)
  | .other text => .ok text

end Error

inductive Fault where
  | error (cause : Error)
  | limit (reached : Limit)
  deriving DecidableEq, Repr

end Lisplet
