import Lisplet.Numeral
import Lisplet.Value

/-! The text of a value. Strings are written between double quotes without escapes, so that the
text of some values reads back as something else or not at all. -/

set_option autoImplicit false

namespace Lisplet

def unwords (words : List String) : String :=
  " ".intercalate words

namespace Value

/-- The text of a value, written with this much room for nesting: the elements of a list have
three levels less than the list, and a tail has one less. -/
def textWithin : Nat → Value → Except Limit String
  | _, .atom name => .ok name
  | _, .number n => Numeral.text n
  | _, .string contents => .ok ("\"" ++ contents ++ "\"")
  | _, .bool true => .ok "#t"
  | _, .bool false => .ok "#f"
  | room + 3, .list items => do
    let words ← items.mapM (textWithin room)
    .ok ("(" ++ unwords words ++ ")")
  | room + 3, .dotted items tail => do
    let words ← items.mapM (textWithin room)
    let last ← textWithin (room + 2) tail
    .ok ("(" ++ unwords words ++ " . " ++ last ++ ")")
  | _, .list _ | _, .dotted _ _ => .error .depth

theorem textWithin_atom (room : Nat) (name : String) : (atom name).textWithin room = .ok name := by
  cases room <;> rfl

theorem textWithin_number (room : Nat) (n : Int) :
    (number n).textWithin room = Numeral.text n := by
  cases room <;> rfl

theorem textWithin_string (room : Nat) (contents : String) :
    (string contents).textWithin room = .ok ("\"" ++ contents ++ "\"") := by
  cases room <;> rfl

theorem textWithin_bool (room : Nat) (b : Bool) :
    (bool b).textWithin room = .ok (if b then "#t" else "#f") := by
  cases room <;> cases b <;> rfl

theorem textWithin_list (room : Nat) (items : List Value) :
    (list items).textWithin (room + 3) = (do
      let words ← items.mapM (textWithin room)
      .ok ("(" ++ unwords words ++ ")")) := rfl

theorem textWithin_dotted (room : Nat) (items : List Value) (tail : Value) :
    (dotted items tail).textWithin (room + 3) = (do
      let words ← items.mapM (textWithin room)
      let last ← textWithin (room + 2) tail
      .ok ("(" ++ unwords words ++ " . " ++ last ++ ")")) := rfl

theorem textWithin_list_of_lt {room : Nat} (short : room < 3) (items : List Value) :
    (list items).textWithin room = .error .depth := by
  obtain rfl | rfl | rfl : room = 0 ∨ room = 1 ∨ room = 2 := by omega
  all_goals rfl

theorem textWithin_dotted_of_lt {room : Nat} (short : room < 3) (items : List Value)
    (tail : Value) : (dotted items tail).textWithin room = .error .depth := by
  obtain rfl | rfl | rfl : room = 0 ∨ room = 1 ∨ room = 2 := by omega
  all_goals rfl

def text (value : Value) : Except Limit String :=
  value.textWithin nestingRoom

def textOfAll (values : List Value) : Except Limit String := do
  let words ← values.mapM text
  .ok (unwords words)

end Value

end Lisplet
