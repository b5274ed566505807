import Mathlib.Data.Rat.Floor
import Lisplet.Operator

/-! The operators as operations on integers. The two divisions are that of rational numbers, rounded
down and rounded toward zero, and each of the two remainders is what its quotient leaves. -/

set_option autoImplicit false

namespace Lisplet

def truncate (x : ℚ) : Int :=
  if 0 ≤ x then ⌊x⌋ else ⌈x⌉

theorem truncate_of_nonneg {x : ℚ} (nonneg : 0 ≤ x) : truncate x = ⌊x⌋ :=
  if_pos nonneg

theorem truncate_neg (x : ℚ) : truncate (-x) = -truncate x := by
  unfold truncate
  rcases lt_trichotomy x 0 with negative | rfl | positive
  · rw [if_pos (by linarith), if_neg (by linarith), Int.floor_neg]
  · simp
  · rw [if_neg (by linarith), if_pos (by linarith), Int.ceil_neg]

theorem floor_div (a b : Int) : ⌊(a / b : ℚ)⌋ = a.fdiv b := by
  have nonneg (a : Int) (n : Nat) : ⌊(a / (n : Int) : ℚ)⌋ = a.fdiv n := by
    rw [Int.fdiv_eq_ediv_of_nonneg a (Int.natCast_nonneg n)]
    exact Rat.floor_intCast_div_natCast a n
  obtain ⟨n, rfl | rfl⟩ := b.eq_nat_or_neg
  · exact nonneg a n
  · -- the signs of both numbers can be changed
    have both := nonneg (-a) n
    rw [← Int.neg_fdiv_neg, neg_neg, ← both]
    push_cast
    rw [div_neg, neg_div]

theorem truncate_div (a b : Int) : truncate (a / b) = a.tdiv b := by
  have nonneg (m n : Nat) : truncate ((m : Int) / (n : Int)) = (m : Int).tdiv n := by
    rw [truncate_of_nonneg (by positivity), floor_div,
      Int.fdiv_eq_ediv_of_nonneg _ (Int.natCast_nonneg n),
      Int.tdiv_eq_ediv_of_nonneg (Int.natCast_nonneg m)]
  obtain ⟨m, rfl | rfl⟩ := a.eq_nat_or_neg <;> obtain ⟨n, rfl | rfl⟩ := b.eq_nat_or_neg
  · exact nonneg m n
  · rw [Int.tdiv_neg, ← nonneg, ← truncate_neg, Int.cast_neg, div_neg]
  · rw [Int.neg_tdiv, ← nonneg, ← truncate_neg, Int.cast_neg, neg_div]
  · rw [Int.tdiv_neg, Int.neg_tdiv, neg_neg, ← nonneg, Int.cast_neg, Int.cast_neg, neg_div_neg_eq]

/-- The quotient by magnitudes and signs, zero counting as positive. -/
theorem tdiv_eq_natAbs_div (a b : Int) : a.tdiv b =
    if (a < 0 ↔ b < 0) then ((a.natAbs / b.natAbs : Nat) : Int)
    else -((a.natAbs / b.natAbs : Nat) : Int) := by
  have nonneg {a b : Int} (first : 0 ≤ a) (second : 0 ≤ b) :
      a.tdiv b = ((a.natAbs / b.natAbs : Nat) : Int) := by
    rw [Int.ofNat_tdiv, Int.natAbs_of_nonneg first, Int.natAbs_of_nonneg second]
  -- a negative number is negated, and with both of them the quotient stays
  rcases lt_or_ge a 0 with first | first <;> rcases lt_or_ge b 0 with second | second
  · rw [if_pos (by omega), ← Int.neg_tdiv_neg, nonneg (by omega) (by omega), Int.natAbs_neg,
      Int.natAbs_neg]
  · rw [if_neg (by omega), ← Int.natAbs_neg a, ← nonneg (by omega) second, Int.neg_tdiv, neg_neg]
  · rw [if_neg (by omega), ← Int.natAbs_neg b, ← nonneg first (by omega), Int.tdiv_neg, neg_neg]
  · rw [if_pos (by omega), nonneg first second]

namespace Operator

theorem quot_eq_tdiv : quot = Int.tdiv := by
  funext a b
  exact (tdiv_eq_natAbs_div a b).symm

theorem rem_eq_tmod : rem = Int.tmod := by
  funext a b
  rw [rem, quot_eq_tdiv, Int.tmod_def]

def meaning : Operator → Int → Int → Option Int
  | .multiply, a, b => some (a * b)
  | .add, a, b => some (a + b)
  | .subtract, a, b => some (a - b)
  | .divide, a, b => if b = 0 then none else some ⌊(a / b : ℚ)⌋
  | .modulo, a, b => if b = 0 then none else some (a - b * ⌊(a / b : ℚ)⌋)
  | .quotient, a, b => if b = 0 then none else some (truncate (a / b))
  | .remainder, a, b => if b = 0 then none else some (a - b * truncate (a / b))

theorem divided_eq (divide : Int → Int → Int) (a b : Int) :
    divided divide a b =
      (if b = 0 then none else some (divide a b)).elim (.error .zeroDivisor) .ok := by
  unfold divided
  split <;> rfl

theorem apply_eq (operator : Operator) (a b : Int) :
    operator.apply a b = (operator.meaning a b).elim (.error .zeroDivisor) .ok := by
  cases operator with
  | multiply | add | subtract => rfl
  | divide => rw [apply, divided_eq, meaning, floor_div]
  | modulo => rw [apply, divided_eq, meaning, floor_div, Int.fmod_def]
  | quotient => rw [apply, divided_eq, meaning, truncate_div, quot_eq_tdiv]
  | remainder => rw [apply, divided_eq, meaning, truncate_div, rem_eq_tmod, Int.tmod_def]

theorem reduce_eq (operator : Operator) (first : Int) (rest : List Int) :
    operator.reduce first rest =
      (rest.foldlM operator.meaning first).elim (.error .zeroDivisor) .ok := by
  induction rest generalizing first with
  | nil => rfl
  | cons next rest ih =>
    have step : operator.reduce first (next :: rest) =
        operator.apply first next >>= fun n => operator.reduce n rest := rfl
    rw [step, apply_eq, List.foldlM_cons]
    cases operator.meaning first next with
    | none => rfl
    | some n => exact ih n

end Operator

end Lisplet
