import Mathlib.Algebra.BigOperators.Group.List.Basic
import Mathlib.Algebra.Order.BigOperators.GroupWithZero.List
import Mathlib.Data.Int.DivMod
import Mathlib.Data.Int.ModEq
import Lisplet.Proofs.Division
import Lisplet.Proofs.Provenance

/-! Operators over several operands. Sums, differences, products and truncated quotients are known
from the first number and the sum or the product of the others; of the two remainders the last
divisor says where they lie. The order of the operands matters only where these forms show it. -/

set_option autoImplicit false

namespace Lisplet

/-! ## Integers -/

namespace Operator

theorem reduce_cons (operator : Operator) (first next : Int) (rest : List Int) :
    operator.reduce first (next :: rest) =
      operator.apply first next >>= fun n => operator.reduce n rest := rfl

theorem reduce_add (first : Int) (rest : List Int) :
    add.reduce first rest = .ok (first + rest.sum) := by
  induction rest generalizing first with
  | nil => simp [reduce, pure, Except.pure]
  | cons next rest ih =>
    rw [reduce_cons, List.sum_cons, ← add_assoc]
    exact ih (first + next)

theorem reduce_subtract (first : Int) (rest : List Int) :
    subtract.reduce first rest = .ok (first - rest.sum) := by
  induction rest generalizing first with
  | nil => simp [reduce, pure, Except.pure]
  | cons next rest ih =>
    rw [reduce_cons, List.sum_cons, ← sub_sub]
    exact ih (first - next)

theorem reduce_multiply (first : Int) (rest : List Int) :
    multiply.reduce first rest = .ok (first * rest.prod) := by
  induction rest generalizing first with
  | nil => simp [reduce, pure, Except.pure]
  | cons next rest ih =>
    rw [reduce_cons, List.prod_cons, ← mul_assoc]
    exact ih (first * next)

end Operator

theorem foldlM_divided (divide : Int → Int → Int) (first : Int) (rest : List Int) :
    rest.foldlM (divided divide) first =
      if 0 ∈ rest then .error .zeroDivisor else .ok (rest.foldl divide first) := by
  induction rest generalizing first with
  | nil => simp [pure, Except.pure]
  | cons next rest ih =>
    rw [List.foldlM_cons, divided]
    by_cases zero : next = 0
    · simp [zero, bind, Except.bind]
    · simp only [zero, ↓reduceIte, bind, Except.bind, ih, List.mem_cons, eq_comm (a := (0 : Int)),
        false_or, List.foldl_cons]

theorem tdiv_tdiv (a b c : Int) : (a.tdiv b).tdiv c = a.tdiv (b * c) := by
  have nonneg (l m n : Nat) : ((l : Int).tdiv m).tdiv n = (l : Int).tdiv (m * n) := by
    rw [← Int.ofNat_tdiv, ← Int.ofNat_tdiv, Nat.div_div_eq_div_mul, Int.ofNat_tdiv]
    push_cast
    rfl
  obtain ⟨l, rfl | rfl⟩ := a.eq_nat_or_neg <;> obtain ⟨m, rfl | rfl⟩ := b.eq_nat_or_neg <;>
    obtain ⟨n, rfl | rfl⟩ := c.eq_nat_or_neg <;>
    simp only [nonneg, Int.neg_tdiv, Int.tdiv_neg, neg_mul, mul_neg, neg_neg]

/-- Truncated quotients by several divisors are that by their product, whatever the signs. -/
theorem foldl_tdiv (first : Int) (rest : List Int) :
    rest.foldl Int.tdiv first = first.tdiv rest.prod := by
  induction rest generalizing first with
  | nil => simp
  | cons next rest ih => rw [List.foldl_cons, ih, tdiv_tdiv, List.prod_cons]

theorem fdiv_fdiv (a b : Int) {c : Int} (positive : 0 < c) :
    (a.fdiv b).fdiv c = a.fdiv (b * c) := by
  rcases Int.le_total 0 b with nonneg | nonpos
  · exact Int.fdiv_fdiv_eq_fdiv_mul a nonneg positive.le
  · -- the signs of dividend and divisor can be changed together
    rw [← Int.neg_fdiv_neg a b, Int.fdiv_fdiv_eq_fdiv_mul (-a) (by omega) positive.le,
      neg_mul, Int.neg_fdiv_neg]

/-- Quotients rounded down go together only if the later divisors are positive. -/
theorem foldl_fdiv (first : Int) {rest : List Int} (positive : ∀ b ∈ rest.tail, 0 < b) :
    rest.foldl Int.fdiv first = first.fdiv rest.prod := by
  cases rest with
  | nil => simp
  | cons next rest =>
    rw [List.tail_cons] at positive
    rw [List.foldl_cons, List.prod_cons]
    induction rest generalizing first next with
    | nil => simp
    | cons second rest ih =>
      obtain ⟨one, others⟩ := List.forall_mem_cons.mp positive
      rw [List.foldl_cons, ih (first.fdiv next) second others, List.prod_cons]
      have product : 0 < rest.prod := List.prod_pos others
      rw [fdiv_fdiv first next (Int.mul_pos one product)]

theorem fmod_bounds (a b : Int) :
    (0 < b → 0 ≤ a.fmod b ∧ a.fmod b < b) ∧ (b < 0 → b < a.fmod b ∧ a.fmod b ≤ 0) := by
  have positive {a b : Int} (positive : 0 < b) : 0 ≤ a.fmod b ∧ a.fmod b < b :=
    ⟨Int.fmod_nonneg_of_pos a positive, Int.fmod_lt_of_pos a positive⟩
  refine ⟨positive, fun negative => ?_⟩
  have mirrored := positive (a := -a) (show 0 < -b by omega)
  rw [Int.neg_fmod_neg] at mirrored
  omega

theorem tmod_sign (a b : Int) : a.tmod b = 0 ∨ (a.tmod b).sign = a.sign := by
  by_cases divides : b ∣ a
  · exact .inl (Int.tmod_eq_zero_of_dvd divides)
  · right
    rw [Int.sign_tmod, if_neg divides]

theorem foldl_tmod_sign (first : Int) (rest : List Int) :
    rest.foldl Int.tmod first = 0 ∨ (rest.foldl Int.tmod first).sign = first.sign := by
  induction rest generalizing first with
  | nil => exact .inr rfl
  | cons next rest ih =>
    rw [List.foldl_cons]
    rcases tmod_sign first next with zero | same
    · rw [zero]
      rcases ih 0 with last | last
      · exact .inl last
      · exact .inl (Int.sign_eq_zero_iff_zero.mp last)
    · rw [← same]
      exact ih (first.tmod next)

namespace Operator

def division? : Operator → Option (Int → Int → Int)
  | .divide => some Int.fdiv
  | .modulo => some Int.fmod
  | .quotient => some Int.tdiv
  | .remainder => some Int.tmod
  | .multiply | .add | .subtract => none

theorem apply_division {operator : Operator} {divide : Int → Int → Int}
    (found : operator.division? = some divide) : operator.apply = divided divide := by
  cases operator with
  | multiply | add | subtract => cases found
  | divide | modulo =>
    cases found
    rfl
  | quotient =>
    cases found
    rw [← quot_eq_tdiv]
    rfl
  | remainder =>
    cases found
    rw [← rem_eq_tmod]
    rfl

theorem reduce_division {operator : Operator} {divide : Int → Int → Int}
    (found : operator.division? = some divide) (first : Int) (rest : List Int) :
    operator.reduce first rest =
      if 0 ∈ rest then .error .zeroDivisor else .ok (rest.foldl divide first) := by
  rw [← foldlM_divided, reduce, apply_division found]

end Operator

/-! ## Operands -/

theorem mapM_eq_ok_iff {α β ε : Type} {step : α → Except ε β} {values : List α}
    {results : List β} : values.mapM step = .ok results ↔
      List.Forall₂ (fun value result => step value = .ok result) values results := by
  induction values generalizing results with
  | nil => simp [pure, Except.pure, eq_comm]
  | cons value values ih =>
    rw [List.mapM_cons]
    cases first : step value with
    | error fault => simp [bind, Except.bind, List.forall₂_cons_left_iff, first]
    | ok result =>
      cases others : values.mapM step with
      | error fault => simp [bind, Except.bind, List.forall₂_cons_left_iff, first, ← ih, others]
      | ok found =>
        simp [bind, Except.bind, pure, Except.pure, List.forall₂_cons_left_iff, first, ← ih, others,
          eq_comm]

namespace Evaluation

/-- The operands name the integers, and there are as many of them as the mode asks for. -/
structure Names (mode : Mode) (room : Nat) (values : List Value) (first : Int) (rest : List Int) :
    Prop where
  numbers : (Traced.each (operand mode room) values).result = .ok (first :: rest)
  enough : rest ≠ [] ∨ mode = .lenient

def outcome (operator : Operator) (first : Int) (rest : List Int) : Except Fault Value :=
  match operator.reduce first rest with
  | .ok n => .ok (.number n)
  | .error .zeroDivisor => .error (.error .divisionByZero)

variable {mode : Mode} {room : Nat} {values others : List Value} {first : Int} {rest : List Int}

theorem each_operand_iff {numbers : List Int} :
    (Traced.each (operand mode room) values).result = .ok numbers ↔
      List.Forall₂ (fun value n => (operand mode room value).result = .ok n) values numbers := by
  rw [Traced.result_each, mapM_eq_ok_iff]

theorem result_fold_bind (mode : Mode) (room : Nat) (operator : Operator) (first : Value)
    (rest : List Value) : (fold mode room operator first rest).result =
      (operand mode room first).result >>= fun number =>
        (rest.mapM fun value => (operand mode room value).result) >>= fun numbers =>
          outcome operator number numbers := by
  rw [fold, Traced.result_bind]
  congr
  funext number
  rw [Traced.result_bind, Traced.result_each]
  congr
  funext numbers
  rw [outcome]
  cases operator.reduce number numbers with
  | ok n => rfl
  | error fault => rfl

theorem result_fold {value : Value} (operator : Operator)
    (one : (operand mode room value).result = .ok first)
    (each : (Traced.each (operand mode room) others).result = .ok rest) :
    (fold mode room operator value others).result = outcome operator first rest := by
  rw [result_fold_bind, one, ← Traced.result_each, each]
  rfl

theorem applyWithin_of_names (operator : Operator) (named : Names mode room values first rest) :
    (applyWithin mode room operator.name values).result = outcome operator first rest := by
  obtain ⟨value, others, one, each, rfl⟩ :=
    List.forall₂_cons_right_iff.mp (each_operand_iff.mp named.numbers)
  have folded := result_fold operator one (each_operand_iff.mpr each)
  rw [applyWithin, Operator.ofName?_name]
  dsimp only
  rw [reduce_cons]
  split
  case isTrue lone =>
    -- a lone operand is let pass in lenient mode
    have leniently : mode = .lenient := by
      apply named.enough.resolve_left
      rw [not_not, ← List.length_eq_zero_iff, ← each.length_eq, List.isEmpty_iff.mp lone]
      rfl
    subst leniently
    rw [Traced.result_bind]
    exact folded
  case isFalse => exact folded

def Gives (operator : Operator) (first : Int) (rest : List Int) (result : Except Fault Value) :
    Prop :=
  ∀ (mode : Mode) (room : Nat) (values : List Value), Names mode room values first rest →
    (applyWithin mode room operator.name values).result = result

theorem gives_of_reduce {operator : Operator} {n : Int}
    (reduced : operator.reduce first rest = .ok n) :
    Gives operator first rest (.ok (.number n)) := by
  intro mode room values named
  rw [applyWithin_of_names operator named, outcome, reduced]

theorem gives_division {operator : Operator} {divide : Int → Int → Int}
    (found : operator.division? = some divide) (nonzero : 0 ∉ rest) :
    Gives operator first rest (.ok (.number (rest.foldl divide first))) := by
  apply gives_of_reduce
  rw [Operator.reduce_division found, if_neg nonzero]

theorem divisionByZero_iff {operator : Operator} {divide : Int → Int → Int}
    (found : operator.division? = some divide) (named : Names mode room values first rest) :
    (applyWithin mode room operator.name values).result = .error (.error .divisionByZero) ↔
      0 ∈ rest := by
  rw [applyWithin_of_names operator named, outcome, Operator.reduce_division found]
  by_cases zero : 0 ∈ rest <;> simp [zero]

/-! ## The order of operands -/

theorem each_operand_perm {numbers : List Int} (same : others.Perm values)
    (each : (Traced.each (operand mode room) values).result = .ok numbers) :
    ∃ permuted, (Traced.each (operand mode room) others).result = .ok permuted ∧
      permuted.Perm numbers := by
  obtain ⟨permuted, found, perm⟩ := List.perm_comp_forall₂ same (each_operand_iff.mp each)
  exact ⟨permuted, each_operand_iff.mpr found, perm⟩

theorem Names.perm (named : Names mode room values first rest) (same : others.Perm values) :
    ∃ head tail, Names mode room others head tail ∧ (head :: tail).Perm (first :: rest) := by
  obtain ⟨permuted, each, perm⟩ := each_operand_perm same named.numbers
  cases permuted with
  | nil => simpa using perm.length_eq
  | cons head tail =>
    refine ⟨head, tail, ⟨each, ?_⟩, perm⟩
    refine named.enough.imp_left fun several => ?_
    have lengths := perm.length_eq
    rw [← List.length_pos_iff] at several ⊢
    simp only [List.length_cons] at lengths
    omega

theorem Names.perm_tail {value : Value} (named : Names mode room (value :: values) first rest)
    (same : others.Perm values) :
    ∃ tail, Names mode room (value :: others) first tail ∧ tail.Perm rest := by
  obtain ⟨one, each⟩ := List.forall₂_cons.mp (each_operand_iff.mp named.numbers)
  obtain ⟨tail, found, perm⟩ := each_operand_perm same (each_operand_iff.mpr each)
  refine ⟨tail, ⟨each_operand_iff.mpr (.cons one (each_operand_iff.mp found)), ?_⟩, perm⟩
  refine named.enough.imp_left fun several nothing => several ?_
  rw [nothing] at perm
  exact perm.symm.eq_nil

/-! ## Closed forms -/

structure ClosedForms (first : Int) (rest : List Int) : Prop where
  sum : Gives .add first rest (.ok (.number (first + rest.sum)))
  difference : Gives .subtract first rest (.ok (.number (first - rest.sum)))
  product : Gives .multiply first rest (.ok (.number (first * rest.prod)))
  zero : ∀ operator ∈ [Operator.divide, .modulo, .quotient, .remainder], ∀ mode room values,
    Names mode room values first rest →
    ((applyWithin mode room operator.name values).result = .error (.error .divisionByZero) ↔
      0 ∈ rest)
  quotient : 0 ∉ rest →
    Gives .quotient first rest (.ok (.number (truncate (first / rest.prod))))
  divide : 0 ∉ rest → (∀ divisor ∈ rest.tail, 0 < divisor) →
    Gives .divide first rest (.ok (.number ⌊(first / rest.prod : ℚ)⌋))
  modulo : 0 ∉ rest → ∀ front last, rest = front ++ [last] → ∃ before after,
    Gives .modulo first front (.ok (.number before)) ∧
    Gives .modulo first rest (.ok (.number after)) ∧ after ≡ before [ZMOD last] ∧
    (0 < last → 0 ≤ after ∧ after < last) ∧ (last < 0 → last < after ∧ after ≤ 0)
  remainder : 0 ∉ rest → ∀ front last, rest = front ++ [last] → ∃ before after,
    Gives .remainder first front (.ok (.number before)) ∧
    Gives .remainder first rest (.ok (.number after)) ∧ after ≡ before [ZMOD last] ∧
    after.natAbs < last.natAbs ∧ (after = 0 ∨ after.sign = first.sign)
  /-- Sums and products do not depend on the order of the operands. -/
  order : ∀ operator ∈ [Operator.add, .multiply], ∀ mode room values others,
    Names mode room values first rest → others.Perm values →
    (applyWithin mode room operator.name others).result =
      (applyWithin mode room operator.name values).result
  /-- Nor do these operators on that of the operands behind the first. -/
  laterOrder : ∀ operator ∈ [Operator.subtract, .quotient, .divide],
    ∀ mode room value values others,
    Names mode room (value :: values) first rest → others.Perm values →
    (operator = .divide → ∀ divisor ∈ rest, 0 < divisor) →
    (applyWithin mode room operator.name (value :: others)).result =
      (applyWithin mode room operator.name (value :: values)).result

theorem outcome_perm {operator : Operator} (either : operator = .add ∨ operator = .multiply)
    {head : Int} {tail : List Int} (same : (head :: tail).Perm (first :: rest)) :
    outcome operator head tail = outcome operator first rest := by
  have sums := same.sum_eq
  have products := same.prod_eq
  rw [List.sum_cons, List.sum_cons] at sums
  rw [List.prod_cons, List.prod_cons] at products
  rcases either with rfl | rfl
  · rw [outcome, outcome, Operator.reduce_add, Operator.reduce_add, sums]
  · rw [outcome, outcome, Operator.reduce_multiply, Operator.reduce_multiply, products]

theorem outcome_perm_tail {operator : Operator} {tail : List Int} (same : tail.Perm rest)
    (either : operator = .subtract ∨ operator = .quotient ∨
      operator = .divide ∧ ∀ divisor ∈ rest, 0 < divisor) :
    outcome operator first tail = outcome operator first rest := by
  rcases either with rfl | rfl | ⟨rfl, positive⟩
  · rw [outcome, outcome, Operator.reduce_subtract, Operator.reduce_subtract, same.sum_eq]
  · rw [outcome, outcome, Operator.reduce_division rfl, Operator.reduce_division rfl, foldl_tdiv,
      foldl_tdiv, same.prod_eq, if_congr same.mem_iff rfl rfl]
  · have later (divisor : Int) (member : divisor ∈ rest.tail) : 0 < divisor :=
      positive divisor (List.mem_of_mem_tail member)
    have permuted (divisor : Int) (member : divisor ∈ tail.tail) : 0 < divisor :=
      positive divisor (same.mem_iff.mp (List.mem_of_mem_tail member))
    rw [outcome, outcome, Operator.reduce_division rfl, Operator.reduce_division rfl,
      foldl_fdiv first later, foldl_fdiv first permuted, same.prod_eq,
      if_congr same.mem_iff rfl rfl]

theorem fmod_modEq (a b : Int) : a.fmod b ≡ a [ZMOD b] := by
  rw [Int.modEq_iff_dvd, Int.fmod_def]
  exact ⟨a.fdiv b, by ring⟩

theorem tmod_modEq (a b : Int) : a.tmod b ≡ a [ZMOD b] := by
  rw [Int.modEq_iff_dvd, Int.tmod_def]
  exact ⟨a.tdiv b, by ring⟩

/-- The closed forms hold of all integers, for every mode and all operands that name them. -/
theorem closedForms (first : Int) (rest : List Int) : ClosedForms first rest where
  sum := gives_of_reduce (Operator.reduce_add first rest)
  difference := gives_of_reduce (Operator.reduce_subtract first rest)
  product := gives_of_reduce (Operator.reduce_multiply first rest)
  zero := by
    intro operator member mode room values named
    simp only [List.mem_cons, List.not_mem_nil, or_false] at member
    rcases member with rfl | rfl | rfl | rfl <;> exact divisionByZero_iff rfl named
  quotient := by
    intro nonzero
    rw [truncate_div, ← foldl_tdiv]
    exact gives_division rfl nonzero
  divide := by
    intro nonzero positive
    rw [floor_div, ← foldl_fdiv first positive]
    exact gives_division rfl nonzero
  modulo := by
    -- what the operands before the last one come to is divided by the last one
    rintro nonzero front last rfl
    have others : 0 ∉ front := fun member => nonzero (List.mem_append_left _ member)
    refine ⟨_, _, gives_division rfl others, gives_division rfl nonzero, ?_⟩
    rw [List.foldl_concat]
    exact ⟨fmod_modEq _ last, fmod_bounds _ last⟩
  remainder := by
    rintro nonzero front last rfl
    have others : 0 ∉ front := fun member => nonzero (List.mem_append_left _ member)
    have divisor : last ≠ 0 := by
      rintro rfl
      exact nonzero (by simp)
    refine ⟨_, _, gives_division rfl others, gives_division rfl nonzero, ?_⟩
    have sign := foldl_tmod_sign first (front ++ [last])
    rw [List.foldl_concat] at sign ⊢
    refine ⟨tmod_modEq _ last, ?_, sign⟩
    rw [Int.natAbs_tmod]
    exact Nat.mod_lt _ (Int.natAbs_pos.mpr divisor)
  order := by
    intro operator member mode room values others named same
    obtain ⟨head, tail, again, perm⟩ := named.perm same
    rw [applyWithin_of_names operator named, applyWithin_of_names operator again]
    exact outcome_perm (by simpa using member) perm
  laterOrder := by
    intro operator member mode room value values others named same positive
    obtain ⟨tail, again, perm⟩ := named.perm_tail same
    rw [applyWithin_of_names operator named, applyWithin_of_names operator again]
    simp only [List.mem_cons, List.not_mem_nil, or_false] at member
    exact outcome_perm_tail perm (member.imp_right fun later =>
      later.imp_right fun divides => ⟨divides, positive divides⟩)

theorem closedForms_sample :
    Names .strict 1 [.string "-17", .list [.number 2], .number (-3)] (-17) [2, -3] ∧
    (applyWithin .strict 1 "quotient" [.string "-17", .list [.number 2], .number (-3)]).result =
      .ok (.number 2) ∧
    (applyWithin .strict 1 "quotient" [.string "-17", .number (-3), .list [.number 2]]).result =
      .ok (.number 2) ∧
    (applyWithin .lenient 1 "mod" [.string "-17", .list [.number 2], .bool true]).result =
      .error (.error .divisionByZero) := by
  have named : Names .strict 1 [.string "-17", .list [.number 2], .number (-3)] (-17) [2, -3] :=
    ⟨by decide +kernel, .inl (by decide)⟩
  have zeroed : Names .lenient 1 [.string "-17", .list [.number 2], .bool true] (-17) [2, 0] :=
    ⟨by decide +kernel, .inr rfl⟩
  have divided := (closedForms (-17) [2, -3]).quotient (by decide) .strict 1 _ named
  have exchanged := (closedForms (-17) [2, -3]).laterOrder .quotient (by decide) .strict 1
    (.string "-17") [.list [.number 2], .number (-3)] [.number (-3), .list [.number 2]] named
    (.swap _ _ []) (by decide)
  rw [truncate_div] at divided
  exact ⟨named, divided, exchanged.trans divided,
    ((closedForms (-17) [2, 0]).zero .modulo (by decide) .lenient 1 _ zeroed).mpr (by decide)⟩

end Evaluation

end Lisplet
