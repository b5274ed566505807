import Lisplet.Text.Quoted
import Lisplet.Value.Text

/-! Printing of structures that may hold things other than values. -/

set_option autoImplicit false

namespace Lisplet

inductive Foreign where
  | integer (n : Int)
  | text (contents : String)
  | flag (b : Bool)
  | nothing
  deriving DecidableEq, Repr

def Foreign.description : Foreign → String
  | .integer n => n.repr
  | .text contents => Text.quoted contents
  | .flag true => "True"
  | .flag false => "False"
  | .nothing => "None"

/-- What the printer may be handed: a value, something foreign, or a structure of such. -/
inductive Printable where
  | value (inner : Value)
  | foreign (thing : Foreign)
  | list (items : List Printable)
  | dotted (items : List Printable) (tail : Printable)

inductive PrintFault where
  | limit (reached : Limit)
  | foreign (thing : Foreign)
  deriving DecidableEq, Repr

def PrintFault.message : PrintFault → String
  | .limit reached => reached.message
  | .foreign thing => "Cannot show non-value " ++ thing.description

namespace Printable

/-- The text, with the same room for nesting as the text of a value. The first thing from the left
that cannot be printed is the fault. -/
def textWithin : Nat → Printable → Except PrintFault String
  | room, .value inner =>
    match inner.textWithin room with
    | .ok text => .ok text
    | .error reached => .error (.limit reached)
  | _, .foreign thing => .error (.foreign thing)
  | room + 3, .list items => do
    let words ← items.mapM (textWithin room)
    .ok ("(" ++ unwords words ++ ")")
  | room + 3, .dotted items tail => do
    let words ← items.mapM (textWithin room)
    let last ← textWithin (room + 2) tail
    .ok ("(" ++ unwords words ++ " . " ++ last ++ ")")
  | _, .list _ | _, .dotted _ _ => .error (.limit .depth)

def text (item : Printable) : Except PrintFault String :=
  item.textWithin nestingRoom

def textOfAll (items : List Printable) : Except PrintFault String := do
  let words ← items.mapM text
  .ok (unwords words)

end Printable

end Lisplet
