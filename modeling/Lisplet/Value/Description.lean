import Lisplet.Numeral
import Lisplet.Value
import Lisplet.Text.Quoted

/-! Values described by their constructors, as the debug log shows them. -/

set_option autoImplicit false

namespace Lisplet.Value

/-- A row of parts in parentheses; a single part keeps a comma after it. -/
def row : List String → String
  | [] => "()"
  | [part] => "(" ++ part ++ ",)"
  | parts => "(" ++ ", ".intercalate parts ++ ")"

/-- The description of a value with this much room for nesting: the elements of a list have four
levels less than the list, and a tail has three less. -/
def descriptionWithin : Nat → Value → Except Limit String
  | _, .atom name => .ok ("Atom(name=" ++ Text.quoted name ++ ")")
  | _, .number n => (Numeral.text n).map fun digits => "Number(value=" ++ digits ++ ")"
  | _, .string contents => .ok ("String(value=" ++ Text.quoted contents ++ ")")
  | _, .bool true => .ok "Bool(value=True)"
  | _, .bool false => .ok "Bool(value=False)"
  | room + 4, .list items => do
    let parts ← items.mapM (descriptionWithin room)
    .ok ("List(items=" ++ row parts ++ ")")
  | room + 4, .dotted items tail => do
    let parts ← items.mapM (descriptionWithin room)
    let last ← descriptionWithin (room + 1) tail
    .ok ("DottedList(items=" ++ row parts ++ ", tail=" ++ last ++ ")")
  | _, .list _ | _, .dotted _ _ => .error .depth

theorem descriptionWithin_atom (room : Nat) (name : String) :
    (atom name).descriptionWithin room = .ok ("Atom(name=" ++ Text.quoted name ++ ")") := by
  cases room <;> rfl

theorem descriptionWithin_number (room : Nat) (n : Int) : (number n).descriptionWithin room =
    (Numeral.text n).map fun digits => "Number(value=" ++ digits ++ ")" := by
  cases room <;> rfl

theorem descriptionWithin_string (room : Nat) (contents : String) :
    (string contents).descriptionWithin room =
      .ok ("String(value=" ++ Text.quoted contents ++ ")") := by
  cases room <;> rfl

theorem descriptionWithin_bool (room : Nat) (b : Bool) : (bool b).descriptionWithin room =
    .ok (if b then "Bool(value=True)" else "Bool(value=False)") := by
  cases room <;> cases b <;> rfl

theorem descriptionWithin_list (room : Nat) (items : List Value) :
    (list items).descriptionWithin (room + 4) = (do
      let parts ← items.mapM (descriptionWithin room)
      .ok ("List(items=" ++ row parts ++ ")")) := rfl

theorem descriptionWithin_dotted (room : Nat) (items : List Value) (tail : Value) :
    (dotted items tail).descriptionWithin (room + 4) = (do
      let parts ← items.mapM (descriptionWithin room)
      let last ← descriptionWithin (room + 1) tail
      .ok ("DottedList(items=" ++ row parts ++ ", tail=" ++ last ++ ")")) := rfl

theorem descriptionWithin_list_of_lt {room : Nat} (short : room < 4) (items : List Value) :
    (list items).descriptionWithin room = .error .depth := by
  obtain rfl | rfl | rfl | rfl : room = 0 ∨ room = 1 ∨ room = 2 ∨ room = 3 := by omega
  all_goals rfl

theorem descriptionWithin_dotted_of_lt {room : Nat} (short : room < 4) (items : List Value)
    (tail : Value) : (dotted items tail).descriptionWithin room = .error .depth := by
  obtain rfl | rfl | rfl | rfl : room = 0 ∨ room = 1 ∨ room = 2 ∨ room = 3 := by omega
  all_goals rfl

def description (value : Value) : Except Limit String :=
  value.descriptionWithin nestingRoom

end Lisplet.Value
