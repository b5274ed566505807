import Lisplet.Numeral
import Lisplet.Proofs.Tokenization

/-! Literals at the front of a text. A literal is a run of digits of some base, as long as it can
be, behind the mark of its base if that is not ten. Digits that go on as a fraction are none. -/

set_option autoImplicit false

namespace Lisplet.Numeral

/-- A nonempty run of the class that does not go on into the rest. -/
structure Run (belongs : Char → Bool) (digits rest : List Char) : Prop where
  nonempty : digits ≠ []
  inside : ∀ c ∈ digits, belongs c = true
  ended : ¬ StartsIn belongs rest

inductive Radix : Char → Nat → (Char → Bool) → Prop where
  | hexadecimal {mark : Char} : mark = 'x' ∨ mark = 'X' → Radix mark 16 isHexDigit
  | octal {mark : Char} : mark = 'o' ∨ mark = 'O' → Radix mark 8 isOctalDigit

inductive Marked : (literal rest : List Char) → Nat → Prop where
  | intro {mark : Char} {base : Nat} {belongs : Char → Bool} {digits rest : List Char} :
      Radix mark base belongs → Run belongs digits rest →
      Marked ('0' :: mark :: digits) rest (value base digits)

inductive Fraction : List Char → Prop where
  | point {digit : Char} {rest : List Char} : digit.isDigit = true →
      Fraction ('.' :: digit :: rest)
  | exponent {mark digit : Char} {sign rest : List Char} : mark = 'e' ∨ mark = 'E' →
      sign = [] ∨ sign = ['+'] ∨ sign = ['-'] → digit.isDigit = true →
      Fraction (mark :: (sign ++ digit :: rest))

/-- Decimal digits in front of the rest, where no marked literal stands and no fractional one. -/
structure Decimal (digits rest : List Char) : Prop where
  run : Run Char.isDigit digits rest
  unmarked : ∀ literal after n, Marked literal after n → digits ++ rest ≠ literal ++ after
  whole : ¬ Fraction rest

inductive Literal : (literal rest : List Char) → Nat → Prop where
  | marked {literal rest : List Char} {n : Nat} : Marked literal rest n → Literal literal rest n
  | decimal {digits rest : List Char} : Decimal digits rest → digits.length ≤ digitLimit →
      Literal digits rest (value 10 digits)

/-! ## Runs of digits -/

theorem Run.startsIn {belongs : Char → Bool} {digits rest : List Char}
    (run : Run belongs digits rest) (after : List Char) : StartsIn belongs (digits ++ after) := by
  cases digits with
  | nil => exact absurd rfl run.nonempty
  | cons digit digits => exact (startsIn_cons _ _ _).mpr (run.inside digit (.head _))

theorem digitRun_eq_some_iff {base n : Nat} {belongs : Char → Bool} {text rest : List Char} :
    digitRun base belongs text = some (n, rest) ↔
      ∃ digits, text = digits ++ rest ∧ Run belongs digits rest ∧ n = value base digits := by
  constructor
  · intro found
    unfold digitRun at found
    split at found
    case h_1 => contradiction
    case h_2 nonempty =>
      cases found
      obtain ⟨split, inside, ended⟩ := run_iff.mp ⟨rfl, rfl⟩
      exact ⟨_, split, ⟨nonempty, inside, ended⟩, rfl⟩
  · rintro ⟨digits, rfl, run, rfl⟩
    obtain ⟨front, back⟩ := run_iff.mpr ⟨rfl, run.inside, run.ended⟩
    rw [digitRun, ← front, ← back]
    cases digits with
    | nil => exact absurd rfl run.nonempty
    | cons digit digits => rfl

/-! ## Literals -/

theorem markedLiteral_eq_some_iff {text rest : List Char} {n : Nat} :
    markedLiteral text = some (n, rest) ↔
      ∃ literal, text = literal ++ rest ∧ Marked literal rest n := by
  constructor
  · intro found
    unfold markedLiteral at found
    split at found
    case h_1 mark after =>
      split at found
      case isTrue hexadecimal =>
        obtain ⟨digits, rfl, run, rfl⟩ := digitRun_eq_some_iff.mp found
        exact ⟨'0' :: mark :: digits, rfl, .intro (.hexadecimal hexadecimal) run⟩
      split at found
      case isTrue octal =>
        obtain ⟨digits, rfl, run, rfl⟩ := digitRun_eq_some_iff.mp found
        exact ⟨'0' :: mark :: digits, rfl, .intro (.octal octal) run⟩
      · contradiction
    case h_2 => contradiction
  · rintro ⟨_, rfl, marked⟩
    cases marked with
    | @intro mark base belongs digits _ radix run =>
      have found : digitRun base belongs (digits ++ rest) = some (value base digits, rest) :=
        digitRun_eq_some_iff.mpr ⟨digits, rfl, run, rfl⟩
      rw [List.cons_append, List.cons_append, markedLiteral]
      cases radix with
      | hexadecimal either => rw [if_pos either, found]
      | octal either =>
        have other : ¬ (mark = 'x' ∨ mark = 'X') := by
          rcases either with rfl | rfl <;> decide
        rw [if_neg other, if_pos either, found]

theorem startsWithDigit_iff {text : List Char} :
    startsWithDigit text = true ↔ ∃ digit rest, text = digit :: rest ∧ digit.isDigit = true := by
  cases text with
  | nil => simp [startsWithDigit]
  | cons c text => simp [startsWithDigit]

theorem isFractional_of_fraction {text : List Char} (fraction : Fraction text) :
    isFractional text = true := by
  cases fraction with
  | point digit => exact digit
  | @exponent mark digit sign rest marks signs holds =>
    rcases signs with rfl | rfl | rfl
    · -- a digit is not taken for a sign
      have plus : digit ≠ '+' := by
        rintro rfl
        contradiction
      have minus : digit ≠ '-' := by
        rintro rfl
        contradiction
      rcases marks with rfl | rfl <;> simp [isFractional, startsWithDigit, plus, minus, holds]
    · rcases marks with rfl | rfl <;> exact holds
    · rcases marks with rfl | rfl <;> exact holds

theorem isFractional_iff {text : List Char} : isFractional text = true ↔ Fraction text := by
  constructor
  · intro fractional
    unfold isFractional at fractional
    split at fractional
    case h_1 rest =>
      obtain ⟨digit, rest, rfl, holds⟩ := startsWithDigit_iff.mp fractional
      exact .point holds
    case h_2 mark rest _ =>
      simp only [Bool.and_eq_true, Bool.or_eq_true, decide_eq_true_eq] at fractional
      obtain ⟨marks, digits⟩ := fractional
      split at digits
      case h_1 =>
        obtain ⟨digit, rest, rfl, holds⟩ := startsWithDigit_iff.mp digits
        exact show Fraction (mark :: (['+'] ++ digit :: rest)) from .exponent marks (by simp) holds
      case h_2 =>
        obtain ⟨digit, rest, rfl, holds⟩ := startsWithDigit_iff.mp digits
        exact show Fraction (mark :: (['-'] ++ digit :: rest)) from .exponent marks (by simp) holds
      case h_3 =>
        obtain ⟨digit, rest, rfl, holds⟩ := startsWithDigit_iff.mp digits
        exact show Fraction (mark :: ([] ++ digit :: rest)) from .exponent marks (by simp) holds
    case h_3 => contradiction
  · exact isFractional_of_fraction

theorem markedLiteral_eq_none_iff {text : List Char} : markedLiteral text = none ↔
    ∀ literal rest n, Marked literal rest n → text ≠ literal ++ rest := by
  constructor
  · rintro nothing literal rest n marked rfl
    rw [markedLiteral_eq_some_iff.mpr ⟨literal, rfl, marked⟩] at nothing
    contradiction
  · intro unmarked
    cases found : markedLiteral text with
    | none => rfl
    | some result =>
      obtain ⟨literal, split, marked⟩ := markedLiteral_eq_some_iff.mp found
      exact absurd split (unmarked literal _ _ marked)

theorem Marked.literal_append {front rest : List Char} {n : Nat} (marked : Marked front rest n) :
    literal (front ++ rest) = .ok (some (n, rest)) := by
  rw [literal, markedLiteral_eq_some_iff.mpr ⟨front, rfl, marked⟩]

theorem Decimal.literal_append {digits rest : List Char} (decimal : Decimal digits rest) :
    literal (digits ++ rest) = (ofDecimal digits).map fun n => some (n, rest) := by
  obtain ⟨front, back⟩ := run_iff.mpr ⟨rfl, decimal.run.inside, decimal.run.ended⟩
  rw [literal, markedLiteral_eq_none_iff.mpr decimal.unmarked, ← front, ← back]
  cases digits with
  | nil => exact absurd rfl decimal.run.nonempty
  | cons digit digits => exact if_neg (mt isFractional_iff.mp decimal.whole)

/-- Where there is no literal, nothing is read. -/
theorem literal_cases (text : List Char) :
    (∃ front rest n, text = front ++ rest ∧ Marked front rest n) ∨
    (∃ digits rest, text = digits ++ rest ∧ Decimal digits rest) ∨ literal text = .ok none := by
  cases found : markedLiteral text with
  | some result =>
    obtain ⟨front, split, marked⟩ := markedLiteral_eq_some_iff.mp found
    exact .inl ⟨front, _, _, split, marked⟩
  | none =>
    right
    obtain ⟨split, inside, ended⟩ := run_iff.mp ⟨rfl, rfl⟩
    by_cases decimal : Decimal (text.takeWhile Char.isDigit) (text.dropWhile Char.isDigit)
    · exact .inl ⟨_, _, split, decimal⟩
    · right
      rw [literal, found]
      dsimp only
      split
      · rfl
      case h_2 nonempty =>
        -- digits that are no decimal literal go on as a fraction
        refine if_pos (by_contra fun whole => decimal ?_)
        refine ⟨⟨nonempty, inside, ended⟩, ?_, mt isFractional_iff.mpr whole⟩
        rw [← split]
        exact markedLiteral_eq_none_iff.mp found

theorem literal_eq_some_iff {text rest : List Char} {n : Nat} :
    literal text = .ok (some (n, rest)) ↔ ∃ front, text = front ++ rest ∧ Literal front rest n := by
  constructor
  · intro found
    rcases literal_cases text with ⟨front, after, m, rfl, marked⟩ | ⟨digits, after, rfl, decimal⟩ |
      nothing
    · rw [marked.literal_append] at found
      cases found
      exact ⟨front, rfl, .marked marked⟩
    · by_cases long : digitLimit < digits.length
      · rw [decimal.literal_append, ofDecimal, if_pos long] at found
        contradiction
      · rw [decimal.literal_append, ofDecimal, if_neg long] at found
        cases found
        exact ⟨digits, rfl, .decimal decimal (Nat.le_of_not_lt long)⟩
    · rw [nothing] at found
      cases found
  · rintro ⟨front, rfl, stands⟩
    cases stands with
    | marked marked => exact marked.literal_append
    | decimal decimal short =>
      rw [decimal.literal_append, ofDecimal, if_neg (Nat.not_lt_of_le short)]
      rfl

theorem literal_eq_error_iff {text : List Char} {reached : Limit} :
    literal text = .error reached ↔ ∃ digits rest, text = digits ++ rest ∧ Decimal digits rest ∧
      digitLimit < digits.length ∧ reached = .numeral digits.length := by
  constructor
  · intro failed
    rcases literal_cases text with ⟨front, after, m, rfl, marked⟩ | ⟨digits, after, rfl, decimal⟩ |
      nothing
    · rw [marked.literal_append] at failed
      contradiction
    · by_cases long : digitLimit < digits.length
      · rw [decimal.literal_append, ofDecimal, if_pos long] at failed
        cases failed
        exact ⟨digits, after, rfl, decimal, long, rfl⟩
      · rw [decimal.literal_append, ofDecimal, if_neg long] at failed
        contradiction
    · rw [nothing] at failed
      contradiction
  · rintro ⟨digits, rest, rfl, decimal, long, rfl⟩
    rw [decimal.literal_append, ofDecimal, if_pos long]
    rfl

theorem Literal.startsIn {front rest : List Char} {n : Nat} (stands : Literal front rest n)
    (after : List Char) : StartsIn Char.isDigit (front ++ after) := by
  cases stands with
  | marked marked =>
    cases marked
    exact (startsIn_cons _ _ _).mpr rfl
  | decimal decimal => exact decimal.run.startsIn after

end Lisplet.Numeral
