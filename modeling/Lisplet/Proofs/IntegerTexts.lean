import Lisplet.Proofs.Literals
import Lisplet.Proofs.Numerals

/-! The texts that start with an integer: a literal that has a sign or none, with parentheses around
it. Reading gives the integer of every such text, and nothing of any other. -/

set_option autoImplicit false

namespace Lisplet.Numeral

open Text (isBlank)

/-! ## The language -/

def Blank (text : List Char) : Prop :=
  ∀ c ∈ text, isBlank c = true

inductive Marks (mark : Char) : Nat → List Char → Prop where
  | nil : Marks mark 0 []
  | cons {count : Nat} {gap rest : List Char} : Blank gap → Marks mark count rest →
      Marks mark (count + 1) (gap ++ mark :: rest)

inductive Sign : List Char → Bool → Prop where
  | plus : Sign [] false
  | minus {gap : List Char} : Blank gap → Sign ('-' :: gap) true

/-- A text that starts with the integer, in as many parentheses as are closed behind it. -/
inductive Denotes : List Char → Int → Prop where
  | intro {depth n : Nat} {negative : Bool} {opened gap sign literal closed rest : List Char} :
      Marks '(' depth opened → Blank gap → Sign sign negative →
      Literal literal (closed ++ rest) n → Marks ')' depth closed →
      Denotes (opened ++ (gap ++ (sign ++ (literal ++ (closed ++ rest)))))
        (if negative then -(n : Int) else n)

/-- A text with more decimal digits in that place than an integer may have. -/
inductive Overlong : List Char → Nat → Prop where
  | intro {depth : Nat} {negative : Bool} {opened gap sign digits rest : List Char} :
      Marks '(' depth opened → Blank gap → Sign sign negative → Decimal digits rest →
      digitLimit < digits.length →
      Overlong (opened ++ (gap ++ (sign ++ (digits ++ rest)))) digits.length

/-! ## Parentheses and signs -/

theorem blank_nil : Blank [] :=
  List.forall_mem_nil _

theorem blank_cons {c : Char} {text : List Char} :
    Blank (c :: text) ↔ isBlank c = true ∧ Blank text :=
  List.forall_mem_cons

theorem Marks.blank {mark c : Char} {count : Nat} {text : List Char}
    (marks : Marks mark (count + 1) text) (blank : isBlank c = true) :
    Marks mark (count + 1) (c :: text) := by
  cases marks with
  | @cons _ gap rest gapped others => exact .cons (blank_cons.mpr ⟨blank, gapped⟩) others

theorem openings_blank {gap : List Char} (blank : Blank gap) (depth : Nat) (text : List Char) :
    openings depth (gap ++ text) = openings depth text := by
  induction gap with
  | nil => rfl
  | cons c gap ih =>
    obtain ⟨first, others⟩ := blank_cons.mp blank
    rw [List.cons_append, openings, if_pos first, ih others]

theorem closes_blank {gap : List Char} (blank : Blank gap) (depth : Nat) (text : List Char) :
    closes (depth + 1) (gap ++ text) = closes (depth + 1) text := by
  induction gap with
  | nil => rfl
  | cons c gap ih =>
    obtain ⟨first, others⟩ := blank_cons.mp blank
    rw [List.cons_append, closes, if_pos first, ih others]

theorem Marks.closes_append {depth : Nat} {closed : List Char} (marks : Marks ')' depth closed)
    (rest : List Char) : closes depth (closed ++ rest) = true := by
  induction marks with
  | nil => rw [List.nil_append, closes]
  | cons gapped _ ih =>
    rw [List.append_assoc, closes_blank gapped, List.cons_append, closes, if_neg (by decide), ih]
    rfl

theorem exists_marks_of_closes {depth : Nat} {text : List Char}
    (closed : closes depth text = true) :
    ∃ front rest, text = front ++ rest ∧ Marks ')' depth front := by
  fun_induction closes depth text with
  | case1 text => exact ⟨[], text, rfl, .nil⟩
  | case2 => contradiction
  | case3 depth c rest blank ih =>
    obtain ⟨front, rest, rfl, marks⟩ := ih closed
    exact ⟨c :: front, rest, rfl, marks.blank blank⟩
  | case4 depth c rest _ ih =>
    simp only [Bool.and_eq_true, decide_eq_true_eq] at closed
    obtain ⟨rfl, closed⟩ := closed
    obtain ⟨front, rest, rfl, marks⟩ := ih closed
    exact ⟨')' :: front, rest, rfl, .cons blank_nil marks⟩

theorem closes_iff {depth : Nat} {text : List Char} : closes depth text = true ↔
    ∃ closed rest, text = closed ++ rest ∧ Marks ')' depth closed := by
  constructor
  · exact exists_marks_of_closes
  · rintro ⟨closed, rest, rfl, marks⟩
    exact marks.closes_append rest

/-- The parentheses end where something else than a blank or a further one stands. -/
theorem Marks.openings_append {count : Nat} {opened gap inner : List Char}
    (marks : Marks '(' count opened) (blank : Blank gap)
    (outside : ¬ StartsIn (fun c => isBlank c || c == '(') inner) (depth : Nat) :
    openings depth (opened ++ (gap ++ inner)) = (depth + count, inner) := by
  induction marks generalizing depth with
  | nil =>
    rw [List.nil_append, openings_blank blank]
    cases inner with
    | nil => rfl
    | cons c inner =>
      simp only [startsIn_cons, Bool.or_eq_true, beq_iff_eq, not_or] at outside
      rw [openings, if_neg outside.1, if_neg outside.2]
      rfl
  | cons gapped _ ih =>
    rw [List.append_assoc, openings_blank gapped, List.cons_append, openings, if_neg (by decide),
      if_pos rfl, ih, Nat.add_assoc, Nat.add_comm 1]

theorem exists_marks_of_openings (depth : Nat) (text : List Char) : ∃ count opened gap,
    openings depth text = (depth + count, (openings depth text).2) ∧
      text = opened ++ (gap ++ (openings depth text).2) ∧ Marks '(' count opened ∧ Blank gap := by
  fun_induction openings depth text with
  | case1 depth => exact ⟨0, [], [], rfl, rfl, .nil, blank_nil⟩
  | case2 depth c rest blank ih =>
    obtain ⟨count, opened, gap, same, split, marks, gapped⟩ := ih
    -- a blank goes to the next parenthesis, or to the gap if there is none
    cases marks with
    | nil =>
      have wider : Blank (c :: gap) := blank_cons.mpr ⟨blank, gapped⟩
      exact ⟨0, [], c :: gap, same, congrArg (c :: ·) split, .nil, wider⟩
    | cons first others =>
      have marks := (Marks.cons first others).blank blank
      exact ⟨_, c :: _, gap, same, congrArg (c :: ·) split, marks, gapped⟩
  | case3 depth rest _ ih =>
    obtain ⟨count, opened, gap, same, split, marks, gapped⟩ := ih
    have more : Marks '(' (count + 1) ('(' :: opened) := .cons blank_nil marks
    refine ⟨count + 1, '(' :: opened, gap, ?_, congrArg ('(' :: ·) split, more, gapped⟩
    rw [same, Nat.add_assoc, Nat.add_comm 1]
  | case4 depth c rest => exact ⟨0, [], [], rfl, rfl, .nil, blank_nil⟩

theorem exists_sign (text : List Char) :
    ∃ mark, text = mark ++ (sign text).2 ∧ Sign mark (sign text).1 := by
  fun_cases sign text with
  | case1 rest =>
    refine ⟨'-' :: rest.takeWhile isBlank, ?_, .minus fun c => List.mem_takeWhile_imp⟩
    rw [List.cons_append, List.takeWhile_append_dropWhile]
  | case2 => exact ⟨[], rfl, .plus⟩

theorem Sign.sign_append {mark : List Char} {negative : Bool} (signed : Sign mark negative)
    {unsigned : List Char} (digit : StartsIn Char.isDigit unsigned) :
    sign (mark ++ unsigned) = (negative, unsigned) := by
  cases unsigned with
  | nil => simp at digit
  | cons c rest =>
    rw [startsIn_cons] at digit
    cases signed with
    | plus =>
      rw [List.nil_append, sign]
      rintro _ ⟨⟩
      simp at digit
    | @minus gap blank =>
      -- the blanks behind the sign end at the digit
      have outside : isBlank c = false := (only_number_of_isDigit digit).1
      rw [List.cons_append, sign, List.dropWhile_append_of_pos blank,
        List.dropWhile_cons_of_neg (by simp [outside])]

/-! ## Integers -/

def enclosed (depth : Nat) (negative : Bool) :
    Except Limit (Option (Nat × List Char)) → Except Limit (Option Int)
  | .error limit => .error limit
  | .ok none => .ok none
  | .ok (some (n, rest)) =>
    .ok (if closes depth rest then some (if negative then -(n : Int) else n) else none)

theorem readInteger_append {depth : Nat} {negative : Bool} {opened gap mark unsigned : List Char}
    (marks : Marks '(' depth opened) (blank : Blank gap) (signed : Sign mark negative)
    (digit : StartsIn Char.isDigit unsigned) :
    readInteger (opened ++ (gap ++ (mark ++ unsigned))) =
      enclosed depth negative (literal unsigned) := by
  -- neither a sign nor a digit is passed over with the parentheses
  have outside : ¬ StartsIn (fun c => isBlank c || c == '(') (mark ++ unsigned) := by
    cases signed with
    | plus =>
      obtain ⟨c, first, holds⟩ := digit
      rintro ⟨other, again, belongs⟩
      obtain rfl : other = c := Option.some.inj (again.symm.trans first)
      have free := (only_number_of_isDigit holds).1
      simp only [free, Bool.false_or, beq_iff_eq] at belongs
      subst belongs
      contradiction
    | minus => simp only [List.cons_append, startsIn_cons]; decide
  have opens := marks.openings_append blank outside 0
  rw [Nat.zero_add] at opens
  simp only [readInteger, opens, signed.sign_append digit]
  rfl

theorem exists_readInteger_eq (text : List Char) : ∃ depth negative opened gap mark unsigned,
    text = opened ++ (gap ++ (mark ++ unsigned)) ∧ Marks '(' depth opened ∧ Blank gap ∧
      Sign mark negative ∧ readInteger text = enclosed depth negative (literal unsigned) := by
  obtain ⟨depth, opened, gap, opens, split, marks, blank⟩ := exists_marks_of_openings 0 text
  obtain ⟨mark, front, signed⟩ := exists_sign (openings 0 text).2
  rw [Nat.zero_add] at opens
  refine ⟨depth, _, opened, gap, mark, (sign (openings 0 text).2).2, ?_, marks, blank, signed, ?_⟩
  · rw [← front, ← split]
  · rw [readInteger, opens]
    rfl

theorem enclosed_eq_some_iff {depth : Nat} {negative : Bool} {n : Int}
    {found : Except Limit (Option (Nat × List Char))} :
    enclosed depth negative found = .ok (some n) ↔ ∃ m rest, found = .ok (some (m, rest)) ∧
      closes depth rest = true ∧ n = if negative then -(m : Int) else m := by
  fun_cases enclosed depth negative found with
  | case1 limit => simp
  | case2 => simp
  | case3 m rest =>
    by_cases closed : closes depth rest = true
    · rw [if_pos closed]
      constructor
      · rintro ⟨⟩
        exact ⟨m, rest, rfl, closed, rfl⟩
      · rintro ⟨_, _, ⟨⟩, -, rfl⟩
        rfl
    · rw [if_neg closed]
      constructor
      · rintro ⟨⟩
      · rintro ⟨_, _, ⟨⟩, other, -⟩
        exact absurd other closed

theorem enclosed_eq_error_iff {depth : Nat} {negative : Bool} {reached : Limit}
    {found : Except Limit (Option (Nat × List Char))} :
    enclosed depth negative found = .error reached ↔ found = .error reached := by
  fun_cases enclosed depth negative found with
  | case1 limit => simp
  | case2 => simp
  | case3 m rest => simp

theorem readInteger_eq_some_iff {text : List Char} {n : Int} :
    readInteger text = .ok (some n) ↔ Denotes text n := by
  constructor
  · intro found
    obtain ⟨depth, negative, opened, gap, mark, unsigned, rfl, marks, blank, signed, same⟩ :=
      exists_readInteger_eq text
    rw [same, enclosed_eq_some_iff] at found
    obtain ⟨m, after, found, closed, rfl⟩ := found
    obtain ⟨front, rfl, stands⟩ := literal_eq_some_iff.mp found
    obtain ⟨closing, rest, rfl, behind⟩ := closes_iff.mp closed
    exact .intro marks blank signed stands behind
  · intro denotes
    cases denotes with
    | @intro depth m negative opened gap mark front closing rest marks blank signed stands behind =>
      rw [readInteger_append marks blank signed (stands.startsIn _), enclosed_eq_some_iff]
      exact ⟨m, _, literal_eq_some_iff.mpr ⟨front, rfl, stands⟩, behind.closes_append rest, rfl⟩

theorem readInteger_eq_error_iff {text : List Char} {reached : Limit} :
    readInteger text = .error reached ↔
      ∃ count, reached = .numeral count ∧ Overlong text count := by
  constructor
  · intro failed
    obtain ⟨depth, negative, opened, gap, mark, unsigned, rfl, marks, blank, signed, same⟩ :=
      exists_readInteger_eq text
    rw [same, enclosed_eq_error_iff] at failed
    obtain ⟨digits, rest, rfl, decimal, long, rfl⟩ := literal_eq_error_iff.mp failed
    exact ⟨digits.length, rfl, .intro marks blank signed decimal long⟩
  · rintro ⟨count, rfl, overlong⟩
    cases overlong with
    | @intro depth negative opened gap mark digits rest marks blank signed decimal long =>
      rw [readInteger_append marks blank signed (decimal.run.startsIn rest), enclosed_eq_error_iff]
      exact literal_eq_error_iff.mpr ⟨digits, rest, rfl, decimal, long, rfl⟩

theorem Radix.not_isDigit {mark : Char} {base : Nat} {belongs : Char → Bool}
    (radix : Radix mark base belongs) : mark.isDigit = false := by
  cases radix with
  | hexadecimal either => rcases either with rfl | rfl <;> rfl
  | octal either => rcases either with rfl | rfl <;> rfl

/-- What makes something else of the decimal digits before it. -/
def altersDecimal (c : Char) : Bool :=
  c.isDigit || ['.', 'e', 'E', 'x', 'X', 'o', 'O'].contains c

theorem Radix.altersDecimal {mark : Char} {base : Nat} {belongs : Char → Bool}
    (radix : Radix mark base belongs) : altersDecimal mark = true := by
  cases radix with
  | hexadecimal either => rcases either with rfl | rfl <;> rfl
  | octal either => rcases either with rfl | rfl <;> rfl

theorem Fraction.startsIn {rest : List Char} (fraction : Fraction rest) :
    StartsIn altersDecimal rest := by
  cases fraction with
  | point => exact (startsIn_cons _ _ _).mpr rfl
  | exponent marks => rcases marks with rfl | rfl <;> exact (startsIn_cons _ _ _).mpr rfl

theorem decimal_toDigits (n : Nat) {rest : List Char} (ended : ¬ StartsIn altersDecimal rest) :
    Decimal (Nat.toDigits 10 n) rest where
  run := by
    refine ⟨Nat.toDigits_ne_nil, fun c => Nat.isDigit_of_mem_toDigits (by decide) (by decide), ?_⟩
    rintro ⟨c, first, digit⟩
    exact ended ⟨c, first, by simp [altersDecimal, digit]⟩
  unmarked := by
    intro literal after m marked same
    cases marked with
    | @intro mark base belongs digits _ radix =>
      cases split : Nat.toDigits 10 n with
      | nil => exact Nat.toDigits_ne_nil split
      | cons first others =>
        rw [split, List.cons_append] at same
        obtain ⟨-, same⟩ := List.cons.inj same
        -- the mark would be the second of the digits, or stand right behind the only one
        cases others with
        | nil =>
          rw [List.nil_append] at same
          exact ended (same ▸ (startsIn_cons _ _ _).mpr radix.altersDecimal)
        | cons second others =>
          obtain ⟨rfl, -⟩ := List.cons.inj same
          have member : second ∈ Nat.toDigits 10 n := by simp [split]
          have digit := Nat.isDigit_of_mem_toDigits (by decide) (by decide) member
          rw [radix.not_isDigit] at digit
          contradiction
  whole := fun fraction => ended fraction.startsIn

theorem literal_toDigits {n : Nat} {rest : List Char} (short : n < Nat.pow 10 digitLimit)
    (ended : ¬ StartsIn altersDecimal rest) : Literal (Nat.toDigits 10 n) rest n := by
  have stands := Literal.decimal (decimal_toDigits n ended) (length_toDigits_le (by decide) short)
  rwa [value_toDigits] at stands

theorem denotes_repr_append {n : Int} {depth : Nat} {opened gap closed rest : List Char}
    (short : n.natAbs < Nat.pow 10 digitLimit) (opens : Marks '(' depth opened)
    (blank : Blank gap) (closes : Marks ')' depth closed)
    (ended : ¬ StartsIn altersDecimal (closed ++ rest)) :
    Denotes (opened ++ (gap ++ (n.repr.toList ++ (closed ++ rest)))) n := by
  cases n with
  | ofNat n =>
    have shown : (Int.ofNat n).repr.toList = Nat.toDigits 10 n := Nat.toList_repr
    rw [shown]
    exact .intro opens blank .plus (literal_toDigits short ended) closes
  | negSucc n =>
    have shown : (Int.negSucc n).repr.toList = ['-'] ++ Nat.toDigits 10 (n + 1) := by
      rw [← Nat.toList_repr]
      exact String.toList_append
    rw [shown, List.append_assoc]
    exact .intro opens blank (.minus blank_nil) (literal_toDigits (n := n + 1) short ended) closes

theorem denotes_repr {n : Int} (short : n.natAbs < Nat.pow 10 digitLimit) :
    Denotes n.repr.toList n := by
  have ended : ¬ StartsIn altersDecimal ([] ++ []) := not_startsIn_nil altersDecimal
  have denotes := denotes_repr_append short .nil blank_nil .nil ended
  simp only [List.append_nil, List.nil_append] at denotes
  exact denotes

/-- Exactly the texts of the language are read, each as the integer that it denotes. A text with too
many digits ends at the limit, and every other text is no integer. -/
theorem readInteger_language (text : List Char) :
    (∀ n, readInteger text = .ok (some n) ↔ Denotes text n) ∧
    (∀ reached, readInteger text = .error reached ↔
      ∃ count, reached = .numeral count ∧ Overlong text count) ∧
    (readInteger text = .ok none ↔ (∀ n, ¬ Denotes text n) ∧ ∀ count, ¬ Overlong text count) ∧
    ∀ n : Int, n.natAbs < Nat.pow 10 digitLimit → readInteger n.repr.toList = .ok (some n) := by
  refine ⟨fun n => readInteger_eq_some_iff, fun reached => readInteger_eq_error_iff, ?_, ?_⟩
  · -- there is no integer in what the first two clauses leave
    constructor
    · intro nothing
      constructor
      · intro n denotes
        rw [readInteger_eq_some_iff.mpr denotes] at nothing
        cases nothing
      · intro count overlong
        rw [readInteger_eq_error_iff.mpr ⟨count, rfl, overlong⟩] at nothing
        cases nothing
    · rintro ⟨noInteger, notLong⟩
      cases found : readInteger text with
      | error reached =>
        obtain ⟨count, -, overlong⟩ := readInteger_eq_error_iff.mp found
        exact absurd overlong (notLong count)
      | ok result =>
        cases result with
        | none => rfl
        | some n => exact absurd (readInteger_eq_some_iff.mp found) (noInteger n)
  · intro n short
    exact readInteger_eq_some_iff.mpr (denotes_repr short)

theorem readInteger_language_sample :
    Denotes " ((- 0x1F) ) 2".toList (-31) ∧ (∀ n, ¬ Denotes "(5.5)".toList n) ∧
      Denotes "0o8".toList 0 ∧ readInteger (Int.repr (-70)).toList = .ok (some (-70)) :=
  ⟨((readInteger_language _).1 _).mp (by decide +kernel),
    ((readInteger_language _).2.2.1.mp (by decide +kernel)).1,
    ((readInteger_language _).1 _).mp (by decide +kernel),
    (readInteger_language []).2.2.2 (-70) (by decide +kernel)⟩

end Lisplet.Numeral
