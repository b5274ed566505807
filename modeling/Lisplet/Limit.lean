/-! The limits of the program: how deeply expressions may nest, and how long a decimal integer may
be when it is read or written. -/

set_option autoImplicit false

namespace Lisplet

inductive Limit where
  | depth
  /-- A decimal numeral of this many digits was to be read. -/
  | numeral (digits : Nat)
  | integer
  deriving DecidableEq, Repr

/-- The room for nesting that reading, evaluating and printing start with. The number is calibrated:
the stack has a thousand frames, and how many of them are left depends on the caller. -/
def nestingRoom : Nat := 988

def digitLimit : Nat := 4300

def Limit.message : Limit → String
  | .depth => "nested too deeply"
  | .numeral digits =>
    "Exceeds the limit (" ++ toString digitLimit ++ " digits) for integer string conversion: "
      ++ "value has " ++ toString digits ++ " digits; use sys.set_int_max_str_digits() to increase the limit"
  | .integer =>
    "Exceeds the limit (" ++ toString digitLimit ++ " digits) for integer string conversion; "
      ++ "use sys.set_int_max_str_digits() to increase the limit"

end Lisplet
