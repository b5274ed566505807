import Lisplet.Limit
import Lisplet.Value

/-! Comparison of values with limited room for nesting. A comparison that ends says whether the
values are equal. -/

set_option autoImplicit false

namespace Lisplet.Value

def compareAll (compare : Value → Value → Except Limit Bool) :
    List Value → List Value → Except Limit Bool
  | [], [] => .ok true
  | item :: items, other :: others =>
    match compare item other with
    | .ok true => compareAll compare items others
    | .ok false => .ok false
    | .error reached => .error reached
  | _, _ => .ok false

/-- Compares two values with this much room for nesting: the elements of lists have four levels
less than the lists, and tails have three less. -/
def compareWithin : Nat → Value → Value → Except Limit Bool
  | _, .atom a, .atom b => .ok (a = b)
  | _, .number m, .number n => .ok (m = n)
  | _, .string s, .string t => .ok (s = t)
  | _, .bool a, .bool b => .ok (a = b)
  | room + 4, .list items, .list others => compareAll (compareWithin room) items others
  | room + 4, .dotted items tail, .dotted others last =>
    match compareAll (compareWithin room) items others with
    | .ok true => compareWithin (room + 1) tail last
    | .ok false => .ok false
    | .error reached => .error reached
  | _, .list _, .list _ | _, .dotted _ _, .dotted _ _ => .error .depth
  | _, _, _ => .ok false

def compare (value other : Value) : Except Limit Bool :=
  value.compareWithin nestingRoom other

theorem eq_of_compareAll {compare : Value → Value → Except Limit Bool}
    (sound : ∀ value other flag, compare value other = .ok flag → flag = decide (value = other)) :
    ∀ items others flag, compareAll compare items others = .ok flag →
      flag = decide (items = others) := by
  intro items
  induction items with
  | nil =>
    intro others flag ended
    cases others <;> simp_all [compareAll]
  | cons item items ih =>
    intro others flag ended
    cases others with
    | nil => simp_all [compareAll]
    | cons other others =>
      simp only [compareAll] at ended
      split at ended
      case h_1 alike =>
        have same := sound item other true alike
        rw [ih others flag ended]
        simp_all
      case h_2 differ =>
        have different := sound item other false differ
        simp_all
      case h_3 => cases ended

/-- A comparison that ends is right, however much room it had. -/
theorem eq_of_compareWithin (room : Nat) :
    ∀ value other flag, compareWithin room value other = .ok flag →
      flag = decide (value = other) := by
  induction room using Nat.strongRecOn with
  | _ room ih =>
    intro value other flag ended
    unfold compareWithin at ended
    split at ended
    case h_1 | h_2 | h_3 | h_4 =>
      cases ended
      simp
    case h_5 room items others =>
      simpa using eq_of_compareAll (ih room (by omega)) items others flag ended
    case h_6 room items tail others last =>
      have rows := eq_of_compareAll (ih room (by omega)) items others
      split at ended
      case h_1 alike =>
        have same := rows true alike
        rw [ih (room + 1) (by omega) tail last flag ended]
        simp_all
      case h_2 differ =>
        have different := rows false differ
        simp_all
      case h_3 => cases ended
    case h_7 | h_8 => cases ended
    case h_9 =>
      cases ended
      symm
      rw [decide_eq_false_iff_not]
      rintro rfl
      cases value <;> grind

end Lisplet.Value
