/-! The two modes of evaluation. -/

set_option autoImplicit false

namespace Lisplet

inductive Mode where
  | lenient
  | strict
  deriving DecidableEq, Repr

namespace Mode

def name : Mode → String
  | .lenient => "lenient"
  | .strict => "strict"

def all : List Mode :=
  [.lenient, .strict]

/-- The mode that a text asks for; what asks for no mode is lenient. -/
def ofText (text : String) : Mode :=
  if text = strict.name then .strict else .lenient

@[simp] theorem ofText_name (mode : Mode) : ofText mode.name = mode := by
  cases mode <;> rfl

end Mode

end Lisplet
