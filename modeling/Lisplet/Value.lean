/-! Values. Expressions that were read and results of evaluation are the same kind of thing. -/

set_option autoImplicit false

namespace Lisplet

inductive Value where
  | atom (name : String)
  | number (n : Int)
  | string (contents : String)
  | bool (b : Bool)
  | list (items : List Value)
  | dotted (items : List Value) (tail : Value)
  deriving Repr

namespace Value

/-- The form that evaluates to the value itself. -/
def quoted (value : Value) : Value :=
  .list [.atom "quote", value]

def ofAtomText (text : String) : Value :=
  if text = "\t" then .bool true
  else if text = "#f" then .bool false
  else .atom text

/-! ## Equality -/

mutual

def same : Value → Value → Bool
  | .atom a, .atom b => a == b
  | .number m, .number n => m == n
  | .string s, .string t => s == t
  | .bool a, .bool b => a == b
  | .list items, .list others => sameAll items others
  | .dotted items tail, .dotted others last => sameAll items others && same tail last
  | _, _ => false

def sameAll : List Value → List Value → Bool
  | [], [] => true
  | item :: items, other :: others => same item other && sameAll items others
  | _, _ => false

end

mutual

theorem same_refl : ∀ value : Value, same value value = true
  | .atom _ | .number _ | .string _ | .bool _ => by simp [same]
  | .list items => by simp [same, sameAll_refl items]
  | .dotted items tail => by simp [same, sameAll_refl items, same_refl tail]

theorem sameAll_refl : ∀ items : List Value, sameAll items items = true
  | [] => by simp [sameAll]
  | item :: items => by simp [sameAll, same_refl item, sameAll_refl items]

end

mutual

theorem eq_of_same : ∀ {value other : Value}, same value other = true → value = other
  | .atom _, other, alike | .number _, other, alike | .string _, other, alike
  | .bool _, other, alike => by cases other <;> simp_all [same]
  | .list items, other, alike => by
    cases other <;> simp only [same, Bool.false_eq_true] at alike
    rw [eq_of_sameAll alike]
  | .dotted items tail, other, alike => by
    cases other <;> simp only [same, Bool.false_eq_true, Bool.and_eq_true] at alike
    rw [eq_of_sameAll alike.1, eq_of_same alike.2]

theorem eq_of_sameAll : ∀ {items others : List Value}, sameAll items others = true → items = others
  | [], others, alike => by cases others <;> simp_all [sameAll]
  | item :: items, others, alike => by
    cases others <;> simp only [sameAll, Bool.false_eq_true, Bool.and_eq_true] at alike
    rw [eq_of_same alike.1, eq_of_sameAll alike.2]

end

theorem same_iff {value other : Value} : same value other = true ↔ value = other :=
  ⟨eq_of_same, fun equal => equal ▸ same_refl value⟩

instance : DecidableEq Value := fun value other =>
  decidable_of_iff (same value other = true) same_iff

end Value

end Lisplet
