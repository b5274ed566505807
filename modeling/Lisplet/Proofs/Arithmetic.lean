import Lisplet.Proofs.Division
import Lisplet.Proofs.Language
import Lisplet.Proofs.Strictness

/-! Arithmetic from text to text. An expression of numerals and operators, written with any blanks
between its parts, is run to the decimal text of its value, or to a division by zero if it has
none. -/

set_option autoImplicit false

namespace Lisplet

mutual

inductive Arithmetic where
  | literal (n : Nat)
  | node (operator : Operator) (first : Arithmetic) (others : Operands)

inductive Operands where
  | one (last : Arithmetic)
  | more (next : Arithmetic) (others : Operands)

end

mutual

/-- The value of an expression, if no divisor in it is zero. Operators go over their operands from
left to right. -/
def Arithmetic.value : Arithmetic → Option Int
  | .literal n => some n
  | .node operator first others => do
    let number ← first.value
    let numbers ← others.values
    numbers.foldlM operator.meaning number

def Operands.values : Operands → Option (List Int)
  | .one last => do
    let number ← last.value
    some [number]
  | .more next others => do
    let number ← next.value
    let numbers ← others.values
    some (number :: numbers)

end

mutual

def Arithmetic.depth : Arithmetic → Nat
  | .literal _ => 0
  | .node _ first others => max first.depth others.depth + 1

def Operands.depth : Operands → Nat
  | .one last => last.depth
  | .more next others => max next.depth others.depth

end

mutual

def Arithmetic.expression : Arithmetic → Value
  | .literal n => .number n
  | .node operator first others =>
    .list (.atom operator.name :: first.expression :: others.expressions)

def Operands.expressions : Operands → List Value
  | .one last => [last.expression]
  | .more next others => next.expression :: others.expressions

end

mutual

/-- The texts of an expression, with numerals of at most so many digits. The operator comes first,
and blanks stand between the parts. -/
inductive Written (digits : Nat) : Arithmetic → List Char → Prop where
  | literal {text : List Char} : Token.Kind.number.Admits text → text.length ≤ digits →
      Written digits (.literal (Numeral.value 10 text)) text
  | node {operator : Operator} {first : Arithmetic} {others : Operands}
      {gap text between rest : List Char} : Token.Kind.space.Admits gap →
      Written digits first text → Token.Kind.space.Admits between →
      WrittenEach digits others rest →
      Written digits (.node operator first others)
        ('(' :: (operator.name.toList ++ gap ++ (text ++ between ++ rest) ++ [')']))

inductive WrittenEach (digits : Nat) : Operands → List Char → Prop where
  | one {last : Arithmetic} {text : List Char} : Written digits last text →
      WrittenEach digits (.one last) text
  | more {next : Arithmetic} {others : Operands} {text gap rest : List Char} :
      Written digits next text → Token.Kind.space.Admits gap → WrittenEach digits others rest →
      WrittenEach digits (.more next others) (text ++ gap ++ rest)

end

/-! ## Reading -/

theorem Operator.name_admitted (operator : Operator) :
    Token.Kind.atom.Admits operator.name.toList ∧ operator.name.toList ≠ ['#', 'f'] := by
  have first : StartsIn isAtomStart operator.name.toList := by
    cases operator <;> exact ⟨_, rfl, rfl⟩
  have inside : operator.name.toList.all isAtomChar = true := by
    cases operator <;> rfl
  have other : operator.name.toList ≠ ['#', 'f'] := by
    cases operator <;> decide
  exact ⟨⟨first, List.all_eq_true.mp inside⟩, other⟩

theorem Operator.reads (operator : Operator) (digits room : Nat) :
    Reads digits room operator.name.toList (.atom operator.name) := by
  obtain ⟨admitted, other⟩ := operator.name_admitted
  have reads : Reads digits room _ _ := .atom admitted other
  rwa [String.ofList_toList] at reads

mutual

theorem Written.reads {digits room : Nat} {tree : Arithmetic} {text : List Char} :
    Written digits tree text → 2 * tree.depth ≤ room → Reads digits room text tree.expression
  | .literal admitted short, _ => .number admitted short
  | @Written.node _ operator first others _ _ _ _ gapped written separated each, enough => by
    rw [Arithmetic.depth] at enough
    obtain ⟨room, rfl⟩ := Nat.exists_eq_add_of_le' (show 2 ≤ room by omega)
    have inner : 2 * first.depth ≤ room ∧ 2 * others.depth ≤ room := by omega
    obtain ⟨front, last, values, value, before, final, rfl, same⟩ := each.reads inner.2
    have operands := ReadsEach.cons (written.reads inner.1) separated before
    have whole := Reads.list (.cons (operator.reads digits room) gapped operands) final
    simpa [Arithmetic.expression, same] using whole

theorem WrittenEach.reads {digits room : Nat} {operands : Operands} {text : List Char} :
    WrittenEach digits operands text → 2 * operands.depth ≤ room →
      ∃ front last values value, ReadsEach digits room front values ∧
        Reads digits room last value ∧ text = front ++ last ∧
        operands.expressions = values ++ [value]
  | .one written, enough => ⟨[], _, [], _, .nil, written.reads enough, rfl, rfl⟩
  | @WrittenEach.more _ next others text gap _ written gapped each, enough => by
    rw [Operands.depth] at enough
    have inner : 2 * next.depth ≤ room ∧ 2 * others.depth ≤ room := by omega
    obtain ⟨front, last, values, value, before, final, rfl, same⟩ := each.reads inner.2
    have operands := ReadsEach.cons (written.reads inner.1) gapped before
    refine ⟨text ++ gap ++ front, last, next.expression :: values, value, operands, final, ?_, ?_⟩
    · simp
    · simp [Operands.expressions, same]

end

theorem Interpreter.read_of_reads (interpreter : Interpreter) {text : String} {value : Value}
    (reads : Reads digitLimit nestingRoom text.toList value) :
    interpreter.read text = .ok value :=
  interpreter.read_of_parse (parse_of_whole reads)

/-! ## Evaluation -/

/-- What evaluation makes of something that may be undefined. -/
def answer {α : Type} (found : Option α) : Except Fault α :=
  found.elim (.error (.error .divisionByZero)) .ok

theorem Operands.values_ne_nil {operands : Operands} {numbers : List Int}
    (found : operands.values = some numbers) : numbers ≠ [] := by
  cases operands with
  | one last =>
    rw [values, Option.bind_eq_bind, Option.bind_eq_some_iff] at found
    obtain ⟨number, -, rest⟩ := found
    cases rest
    simp
  | more next others =>
    simp only [values, Option.bind_eq_bind, Option.bind_eq_some_iff] at found
    obtain ⟨number, -, numbers, -, rest⟩ := found
    cases rest
    simp

namespace Evaluation

theorem form_of_call (operator : Operator) (arguments : List Value) :
    Form.of (.list (.atom operator.name :: arguments)) = .call operator.name arguments := by
  cases operator <;> rfl

theorem each_operand_numbers (mode : Mode) (room : Nat) (numbers : List Int) :
    (Traced.each (operand mode room) (numbers.map .number)).result = .ok numbers := by
  induction numbers with
  | nil => rfl
  | cons number numbers ih =>
    simp only [List.map_cons, Traced.each, operand, Traced.result_bind, Traced.result_pure, ih]
    rfl

theorem applyWithin_numbers (mode : Mode) (room : Nat) (operator : Operator) (first : Int)
    {rest : List Int} (nonempty : rest ≠ []) :
    (applyWithin mode room operator.name (.number first :: rest.map .number)).result =
      answer ((rest.foldlM operator.meaning first).map .number) := by
  have several : (rest.map Value.number).isEmpty ≠ true := by simpa using nonempty
  simp only [applyWithin, Operator.ofName?_name, reduce_cons, if_neg several, fold, operand,
    Traced.result_bind, Traced.result_pure, each_operand_numbers, operator.reduce_eq]
  simp only [bind, Except.bind]
  cases rest.foldlM operator.meaning first with
  | none => rfl
  | some n => rfl

mutual

theorem valueWithin_expression (mode : Mode) {room : Nat} :
    ∀ tree : Arithmetic, 2 * tree.depth ≤ room →
      (valueWithin mode room tree.expression).result = answer (tree.value.map .number)
  | .literal n, _ => by
    rw [valueWithin_eq]
    rfl
  | .node operator first others, enough => by
    rw [Arithmetic.depth] at enough
    obtain ⟨room, rfl⟩ := Nat.exists_eq_add_of_le' (show 2 ≤ room by omega)
    have number := valueWithin_expression mode first (show 2 * first.depth ≤ room by omega)
    have numbers := each_expressions mode others (show 2 * others.depth ≤ room by omega)
    have call : operator.name ≠ "quote" := by cases operator <;> decide
    rw [valueWithin_eq, Arithmetic.expression, form_of_call]
    simp only [if_neg call, Evaluation.call, Traced.each, Traced.result_bind, Traced.result_emit,
      number, numbers, Arithmetic.value]
    cases first.value with
    | none => rfl
    | some a =>
      cases found : others.values with
      | none => rfl
      | some rest => exact applyWithin_numbers mode room operator a (Operands.values_ne_nil found)

theorem each_expressions (mode : Mode) {room : Nat} :
    ∀ operands : Operands, 2 * operands.depth ≤ room →
      (Traced.each (valueWithin mode room) operands.expressions).result =
        answer (operands.values.map (List.map .number))
  | .one last, enough => by
    have number := valueWithin_expression mode last enough
    simp only [Operands.expressions, Traced.each, Traced.result_bind, Traced.result_pure, number,
      Operands.values]
    cases last.value with
    | none => rfl
    | some n => rfl
  | .more next others, enough => by
    rw [Operands.depth] at enough
    have number := valueWithin_expression mode next (show 2 * next.depth ≤ room by omega)
    have numbers := each_expressions mode others (show 2 * others.depth ≤ room by omega)
    simp only [Operands.expressions, Traced.each, Traced.result_bind, Traced.result_pure, number,
      numbers, Operands.values]
    cases next.value with
    | none => rfl
    | some n =>
      cases others.values with
      | none => rfl
      | some rest => rfl

end

end Evaluation

theorem evaluate_expression (mode : Mode) {tree : Arithmetic}
    (enough : 2 * tree.depth ≤ nestingRoom) :
    evaluate mode tree.expression = answer (tree.value.map .number) := by
  have found := Evaluation.valueWithin_expression mode tree enough
  generalize tree.value = value at found ⊢
  unfold evaluate Evaluation.settle
  rw [found]
  cases value with
  | none => exact found
  | some n => exact found

/-- A text of an arithmetic expression that is not too deep, with numerals that are not too long, is
run to the decimal text of its value in either mode, or to a division by zero if it has none. -/
theorem run_written (interpreter : Interpreter) (tree : Arithmetic) (text : String)
    (written : Written digitLimit tree text.toList) (enough : 2 * tree.depth ≤ nestingRoom)
    (short : ∀ n ∈ tree.value, n.natAbs < Nat.pow 10 digitLimit) :
    interpreter.run text =
      match tree.value with
      | some n => .ok n.repr
      | none => .error (.error .divisionByZero) := by
  rw [Interpreter.run_eq, interpreter.read_of_reads (written.reads enough)]
  have evaluated := evaluate_expression interpreter.evaluationMode enough
  cases found : tree.value with
  | none =>
    rw [found] at evaluated
    simp only [bind, Except.bind, evaluated]
    rfl
  | some n =>
    rw [found] at evaluated
    simp only [bind, Except.bind, evaluated]
    exact Interpreter.shown_number (short n found)

theorem run_written_sample :
    Interpreter.run ⟨"strict"⟩ "(quotient (- 3 10)\t02)" = .ok "-3" ∧
    Interpreter.run ⟨"lenient"⟩ "(+ 1 (mod 7 (- 2 2)))" = .error (.error .divisionByZero) := by
  have blank : Token.Kind.space.Admits [' '] := ⟨by simp, by simp; rfl⟩
  have tab : Token.Kind.space.Admits ['\t'] := ⟨by simp, by simp; rfl⟩
  have numeral (text : List Char) (digits : text ≠ [] ∧ text.all Char.isDigit = true)
      (short : text.length ≤ digitLimit) :
      Written digitLimit (.literal (Numeral.value 10 text)) text :=
    .literal ⟨digits.1, List.all_eq_true.mp digits.2⟩ short
  constructor
  · have ran := run_written ⟨"strict"⟩
      (.node .quotient (.node .subtract (.literal 3) (.one (.literal 10))) (.one (.literal 2)))
      "(quotient (- 3 10)\t02)"
      (.node blank
        (.node blank (numeral ['3'] (by decide) (by decide)) blank
          (.one (numeral ['1', '0'] (by decide) (by decide))))
        tab (.one (numeral ['0', '2'] (by decide) (by decide))))
      (by decide) (by decide +kernel)
    exact ran.trans (by decide +kernel)
  · have two := numeral ['2'] (by decide) (by decide)
    have ran := run_written ⟨"lenient"⟩
      (.node .add (.literal 1) (.one (.node .modulo (.literal 7)
        (.one (.node .subtract (.literal 2) (.one (.literal 2)))))))
      "(+ 1 (mod 7 (- 2 2)))"
      (.node blank (numeral ['1'] (by decide) (by decide)) blank
        (.one (.node blank (numeral ['7'] (by decide) (by decide)) blank
          (.one (.node blank two blank (.one two))))))
      (by decide) (by decide +kernel)
    exact ran.trans (by decide +kernel)

end Lisplet
