import Mathlib.Data.List.Induction
import Mathlib.Data.List.Infix
import Mathlib.Data.List.TakeWhile
import Lisplet.Numeral

/-! Decimal numerals: a run of digits names a number below the power of ten that its length gives,
and the decimal text of a number names the number. Reading an integer from the front of a text
fails on a run of digits that is too long, and on nothing else. -/

set_option autoImplicit false

namespace Lisplet.Numeral

open Text (isBlank)

theorem digitValue_lt {c : Char} (digit : c.isDigit = true) : digitValue c < 10 := by
  simp only [Char.isDigit, Bool.and_eq_true, decide_eq_true_eq] at digit
  have most : c.toNat ≤ 57 := UInt32.le_iff_toNat_le.mp digit.2
  simp only [digitValue]
  split
  · change c.toNat - 48 < 10
    omega
  · simp_all [Char.isDigit]

theorem value_lt_pow {digits : List Char} (decimal : ∀ c ∈ digits, c.isDigit = true) :
    value 10 digits < Nat.pow 10 digits.length := by
  induction digits using List.reverseRecOn with
  | nil => simp
  | append_singleton digits digit ih =>
    have last := digitValue_lt (decimal digit (by simp))
    have others := ih fun c member => decimal c (by simp [member])
    rw [value_concat, List.length_append, List.length_singleton]
    change _ < Nat.pow 10 digits.length * 10
    omega

theorem value_lt_of_length_le {digits : List Char} {limit : Nat}
    (decimal : ∀ c ∈ digits, c.isDigit = true) (short : digits.length ≤ limit) :
    value 10 digits < Nat.pow 10 limit :=
  Nat.lt_of_lt_of_le (value_lt_pow decimal) (Nat.pow_le_pow_right (by decide) short)

theorem length_toDigits_le {n limit : Nat} (positive : 0 < limit) (bounded : n < Nat.pow 10 limit) :
    (Nat.toDigits 10 n).length ≤ limit :=
  (Nat.length_toDigits_le_iff (by decide) positive).mpr bounded

theorem value_toDigits (n : Nat) : value 10 (Nat.toDigits 10 n) = n := by
  induction n using Nat.strongRecOn with
  | ind n ih =>
    have single {d : Nat} (small : d < 10) : digitValue d.digitChar = d := by
      have checked : ∀ d : Fin 10, digitValue (Nat.digitChar d) = d := by decide
      exact checked ⟨d, small⟩
    by_cases small : n < 10
    · rw [Nat.toDigits_of_lt_base small]
      simp [value, single small]
    · have less : n / 10 < n := by omega
      rw [Nat.toDigits_of_base_le (by decide) (by omega), value_concat, ih (n / 10) less,
        single (Nat.mod_lt n (by decide)), Nat.div_add_mod]

/-! ## Integers at the front of a text -/

theorem openings_suffix (depth : Nat) (text : List Char) : (openings depth text).2 <:+ text := by
  induction text generalizing depth with
  | nil => exact List.suffix_refl []
  | cons c rest ih =>
    rw [openings]
    split
    · exact (ih depth).trans (List.suffix_cons c rest)
    · split
      · exact (ih (depth + 1)).trans (List.suffix_cons c rest)
      · exact List.suffix_refl (c :: rest)

theorem sign_suffix (text : List Char) : (sign text).2 <:+ text := by
  unfold sign
  split
  · exact (List.dropWhile_suffix isBlank).trans (List.suffix_cons '-' _)
  · exact List.suffix_refl text

theorem literal_error {text : List Char} {reached : Limit}
    (failed : literal text = .error reached) :
    ∃ run, run <+: text ∧ (∀ c ∈ run, c.isDigit = true) ∧ digitLimit < run.length ∧
      reached = .numeral run.length := by
  unfold literal at failed
  split at failed
  · contradiction
  · split at failed
    · contradiction
    · split at failed
      · contradiction
      · by_cases long : digitLimit < (text.takeWhile Char.isDigit).length
        · rw [ofDecimal, if_pos long] at failed
          refine ⟨_, List.takeWhile_prefix Char.isDigit, ?_, long, ?_⟩
          · exact fun c => List.mem_takeWhile_imp
          · cases failed
            rfl
        · rw [ofDecimal, if_neg long] at failed
          contradiction

/-- Only a run of digits that is too long keeps an integer from being read. -/
theorem readInteger_error {text : List Char} {reached : Limit}
    (failed : readInteger text = .error reached) :
    ∃ run, run <:+: text ∧ (∀ c ∈ run, c.isDigit = true) ∧ digitLimit < run.length ∧
      reached = .numeral run.length := by
  have inner := (sign_suffix (openings 0 text).2).trans (openings_suffix 0 text)
  unfold readInteger at failed
  dsimp only at failed
  split at failed
  case h_1 found =>
    cases failed
    obtain ⟨run, front, digits⟩ := literal_error found
    exact ⟨run, front.isInfix.trans inner.isInfix, digits⟩
  case h_2 => contradiction
  case h_3 => contradiction

end Lisplet.Numeral
