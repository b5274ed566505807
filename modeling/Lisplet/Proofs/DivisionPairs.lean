import Lisplet.Proofs.ClosedForms

/-! The two pairs of a quotient and what it leaves. Each pair is the only one that meets its
conditions, and the two differ by one divisor where the signs of dividend and divisor differ and
something is left. -/

set_option autoImplicit false

namespace Lisplet

structure Truncated (a b quotient rest : Int) : Prop where
  parts : a = b * quotient + rest
  small : rest.natAbs < b.natAbs
  side : rest = 0 ∨ rest.sign = a.sign

structure Floored (a b quotient rest : Int) : Prop where
  parts : a = b * quotient + rest
  side : 0 ≤ rest ∧ rest < b ∨ b < rest ∧ rest ≤ 0

variable {a b : Int}

theorem truncated_iff (nonzero : b ≠ 0) {quotient rest : Int} :
    Truncated a b quotient rest ↔ quotient = a.tdiv b ∧ rest = a.tmod b := by
  constructor
  · rintro ⟨parts, small, side⟩
    have whole : rest + b * quotient = a := by omega
    rcases Int.le_total 0 a with nonneg | nonpos
    · have least : 0 ≤ rest := by
        rcases side with rfl | same
        · exact Int.le_refl 0
        · exact Int.sign_nonneg_iff.mp (same ▸ Int.sign_nonneg_iff.mpr nonneg)
      obtain ⟨rfl, rfl⟩ := (Int.tdiv_tmod_unique nonneg nonzero).mpr ⟨whole, least, by omega⟩
      exact ⟨rfl, rfl⟩
    · have most : rest ≤ 0 := by
        rcases side with rfl | same
        · exact Int.le_refl 0
        · exact Int.sign_nonpos_iff.mp (same ▸ Int.sign_nonpos_iff.mpr nonpos)
      obtain ⟨rfl, rfl⟩ := (Int.tdiv_tmod_unique' nonpos nonzero).mpr ⟨whole, by omega, most⟩
      exact ⟨rfl, rfl⟩
  · rintro ⟨rfl, rfl⟩
    refine ⟨(Int.mul_tdiv_add_tmod a b).symm, ?_, tmod_sign a b⟩
    rw [Int.natAbs_tmod]
    exact Nat.mod_lt _ (Int.natAbs_pos.mpr nonzero)

theorem floored_iff (nonzero : b ≠ 0) {quotient rest : Int} :
    Floored a b quotient rest ↔ quotient = a.fdiv b ∧ rest = a.fmod b := by
  constructor
  · rintro ⟨parts, side⟩
    have whole : rest + b * quotient = a := by omega
    rcases side with ⟨least, less⟩ | ⟨less, most⟩
    · obtain ⟨rfl, rfl⟩ := (Int.fdiv_fmod_unique (by omega)).mpr ⟨whole, least, less⟩
      exact ⟨rfl, rfl⟩
    · obtain ⟨rfl, rfl⟩ := (Int.fdiv_fmod_unique' (by omega)).mpr ⟨whole, less, most⟩
      exact ⟨rfl, rfl⟩
  · rintro ⟨rfl, rfl⟩
    obtain ⟨positive, negative⟩ := fmod_bounds a b
    refine ⟨(Int.mul_fdiv_add_fmod a b).symm, ?_⟩
    rcases Int.lt_or_gt_of_ne nonzero with less | greater
    · exact .inr (negative less)
    · exact .inl (positive greater)

/-- Whether rounding down and rounding toward zero come to the same. -/
def RoundsAlike (a b : Int) : Prop :=
  b ∣ a ∨ a.sign = b.sign

/-- A truncated pair is floored where it rounds alike, and one divisor away from it elsewhere. -/
theorem Truncated.floored {quotient rest : Int} (pair : Truncated a b quotient rest) :
    (RoundsAlike a b → Floored a b quotient rest) ∧
      (¬ RoundsAlike a b → Floored a b (quotient - 1) (rest + b)) := by
  obtain ⟨parts, small, side⟩ := pair
  have divides : b ∣ a ↔ rest = 0 := by
    constructor
    · intro divides
      refine Int.eq_zero_of_dvd_of_natAbs_lt_natAbs ?_ small
      rwa [parts, Int.dvd_add_right (Int.dvd_mul_right b quotient)] at divides
    · rintro rfl
      exact ⟨quotient, by omega⟩
  constructor
  · intro alike
    refine ⟨parts, ?_⟩
    -- something that is left has the sign of the dividend, which is that of the divisor
    have same : rest = 0 ∨ rest.sign = b.sign := by
      rcases alike with found | signs
      · exact .inl (divides.mp found)
      · exact side.imp_right fun held => held.trans signs
    grind
  · intro apart
    obtain ⟨left, signs⟩ := not_or.mp apart
    have some : rest ≠ 0 := mt divides.mpr left
    have held := side.resolve_left some
    refine ⟨by rw [Int.mul_sub]; omega, ?_⟩
    grind

namespace Evaluation

def Computes (operator : Operator) (a b n : Int) : Prop :=
  operator.apply a b = .ok n ∧ Gives operator a [b] (.ok (.number n))

theorem computes_division {operator : Operator} {divide : Int → Int → Int}
    (found : operator.division? = some divide) (nonzero : b ≠ 0) :
    Computes operator a b (divide a b) := by
  refine ⟨?_, gives_division found (by simpa using nonzero.symm)⟩
  rw [Operator.apply_division found]
  exact if_neg nonzero

theorem gives_divisionByZero {operator : Operator} {divide : Int → Int → Int}
    (found : operator.division? = some divide) (a : Int) :
    Gives operator a [0] (.error (.error (.other "Division by zero"))) := by
  intro mode room values named
  exact (divisionByZero_iff found named).mpr (by simp)

/-- By a divisor that is not zero, the two quotients and what they leave are the only truncated pair
and the only floored pair. They agree if nothing is left or the signs are the same, and otherwise
the truncated quotient is one more. By zero nothing is divided. -/
theorem division_pairs (a b : Int) :
    (b ≠ 0 → ∃ quotient remainder floor modulus : Int,
      Computes .quotient a b quotient ∧ Computes .remainder a b remainder ∧
      Computes .divide a b floor ∧ Computes .modulo a b modulus ∧
      (∀ q r, Truncated a b q r ↔ q = quotient ∧ r = remainder) ∧
      (∀ q r, Floored a b q r ↔ q = floor ∧ r = modulus) ∧
      (RoundsAlike a b → quotient = floor ∧ remainder = modulus) ∧
      (¬ RoundsAlike a b → quotient = floor + 1 ∧ remainder = modulus - b) ∧
      quotient = if (a < 0 ↔ b < 0) then ((a.natAbs / b.natAbs : Nat) : Int)
        else -((a.natAbs / b.natAbs : Nat) : Int)) ∧
    ∀ operator ∈ [Operator.divide, .modulo, .quotient, .remainder],
      Gives operator a [0] (.error (.error (.other "Division by zero"))) := by
  constructor
  · intro nonzero
    have truncated := (truncated_iff (a := a) nonzero).mpr ⟨rfl, rfl⟩
    refine ⟨_, _, _, _, computes_division rfl nonzero, computes_division rfl nonzero,
      computes_division rfl nonzero, computes_division rfl nonzero,
      fun q r => truncated_iff nonzero, fun q r => floored_iff nonzero, ?_, ?_,
      tdiv_eq_natAbs_div a b⟩
    · intro alike
      exact (floored_iff nonzero).mp (truncated.floored.1 alike)
    · intro apart
      obtain ⟨quotients, rests⟩ := (floored_iff nonzero).mp (truncated.floored.2 apart)
      exact ⟨by omega, by omega⟩
  · intro operator member
    simp only [List.mem_cons, List.not_mem_nil, or_false] at member
    rcases member with rfl | rfl | rfl | rfl <;> exact gives_divisionByZero rfl a

theorem division_pairs_sample :
    Computes .quotient (-7) 2 (-3) ∧ Computes .remainder (-7) 2 (-1) ∧
    Computes .divide (-7) 2 (-4) ∧ Computes .modulo (-7) 2 1 ∧
    (applyWithin .strict 0 "mod" [.number 5, .number 0]).result =
      .error (.error (.other "Division by zero")) := by
  obtain ⟨quotient, remainder, floor, modulus, one, two, three, four, truncated, floored, -⟩ :=
    (division_pairs (-7) 2).1 (by decide)
  obtain ⟨rfl, rfl⟩ := (truncated (-3) (-1)).mp ⟨by decide, by decide, by decide⟩
  obtain ⟨rfl, rfl⟩ := (floored (-4) 1).mp ⟨by decide, by decide⟩
  have named : Names .strict 0 [.number 5, .number 0] 5 [0] := ⟨rfl, .inl (by decide)⟩
  exact ⟨one, two, three, four, (division_pairs 5 1).2 .modulo (by decide) .strict 0 _ named⟩

end Evaluation

end Lisplet
