import Lisplet.Error

/-! The integer operators. Division comes in two pairs: one rounds down, the other toward zero. -/

set_option autoImplicit false

namespace Lisplet

inductive ZeroDivisor where
  | zeroDivisor
  deriving DecidableEq, Repr

def ZeroDivisor.message (_ : ZeroDivisor) : String :=
  "integer division or modulo by zero"

def divided (divide : Int → Int → Int) (a b : Int) : Except ZeroDivisor Int :=
  if b = 0 then .error .zeroDivisor else .ok (divide a b)

inductive Operator where
  | multiply
  | add
  | subtract
  | divide
  /-- What is left by the quotient rounded down; it has the sign of the divisor. -/
  | modulo
  | quotient
  /-- What is left by the quotient rounded toward zero; it has the sign of the dividend. -/
  | remainder
  deriving DecidableEq, Repr

namespace Operator

def name : Operator → String
  | .multiply => "*"
  | .add => "+"
  | .subtract => "-"
  | .divide => "/"
  | .modulo => "mod"
  | .quotient => "quotient"
  | .remainder => "remainder"

def all : List Operator :=
  [.multiply, .add, .subtract, .divide, .modulo, .quotient, .remainder]

def ofName? (name : String) : Option Operator :=
  all.find? (·.name = name)

@[simp] theorem ofName?_name (operator : Operator) : ofName? operator.name = some operator := by
  cases operator <;> rfl

def quot (a b : Int) : Int :=
  let magnitude : Int := (a.natAbs / b.natAbs : Nat)
  if a < 0 ↔ b < 0 then magnitude else -magnitude

def rem (a b : Int) : Int :=
  a - b * quot a b

def apply : Operator → Int → Int → Except ZeroDivisor Int
  | .multiply, a, b => .ok (a * b)
  | .add, a, b => .ok (a + b)
  | .subtract, a, b => .ok (a - b)
  | .divide, a, b => divided Int.fdiv a b
  | .modulo, a, b => divided Int.fmod a b
  | .quotient, a, b => divided quot a b
  | .remainder, a, b => divided rem a b

def reduce (operator : Operator) (first : Int) (rest : List Int) : Except ZeroDivisor Int :=
  rest.foldlM operator.apply first

end Operator

end Lisplet
