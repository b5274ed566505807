/-! Lines and columns of a text. Both count from one; a tab moves to the next of the stops that
stand every eight columns. -/

set_option autoImplicit false

namespace Lisplet.Text

structure Position where
  line : Nat
  column : Nat
  deriving DecidableEq, Repr

namespace Position

def start : Position := ⟨1, 1⟩

def next (here : Position) (c : Char) : Position :=
  if c = '\n' then ⟨here.line + 1, 1⟩
  else if c = '\t' then ⟨here.line, here.column + (8 - (here.column - 1) % 8)⟩
  else ⟨here.line, here.column + 1⟩

def after (text : List Char) : Position :=
  text.foldl next start

@[simp] theorem after_nil : after [] = start := rfl

@[simp] theorem after_concat (text : List Char) (c : Char) :
    after (text ++ [c]) = (after text).next c := by
  simp [after]

end Position

/-- The text before an offset. A negative offset counts from the end, and one beyond either end
stops there. -/
def before (text : List Char) (offset : Int) : List Char :=
  text.take (if offset < 0 then text.length + offset else offset).toNat

@[simp] theorem before_natCast (text : List Char) (offset : Nat) :
    before text offset = text.take offset := by
  have nonnegative : ¬ (offset : Int) < 0 := by omega
  simp [before, nonnegative]

def positionAt (text : List Char) (offset : Int) : Position :=
  Position.after (before text offset)

end Lisplet.Text
