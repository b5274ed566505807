import Lisplet.Proofs.Results
import Lisplet.Proofs.Strictness

/-! Where the results of an evaluation come from. A value is a part of the expression, a number or
false, and a fault is about such values; some faults are those of strict evaluation only. -/

set_option autoImplicit false

namespace Lisplet

/-! ## Parts of values -/

inductive Value.Part : Value → Value → Prop where
  | whole {value : Value} : Part value value
  | element {part item : Value} {items : List Value} : item ∈ items → Part part item →
      Part part (.list items)
  | front {part item tail : Value} {items : List Value} : item ∈ items → Part part item →
      Part part (.dotted items tail)
  | tail {part tail : Value} {items : List Value} : Part part tail → Part part (.dotted items tail)

namespace Value.Part

theorem trans {part middle whole : Value} (inner : part.Part middle) (outer : middle.Part whole) :
    part.Part whole := by
  induction outer with
  | whole => exact inner
  | element member _ ih => exact .element member ih
  | front member _ ih => exact .front member ih
  | tail _ ih => exact .tail ih

theorem of_mem {item : Value} {items : List Value} (member : item ∈ items) :
    item.Part (.list items) :=
  .element member .whole

end Value.Part

/-! ## Evaluation -/

theorem Traced.result_each {α β ε : Type} (step : α → Traced ε β) (values : List α) :
    (each step values).result = values.mapM fun value => (step value).result := by
  induction values with
  | nil => rfl
  | cons value values ih =>
    rw [each, List.mapM_cons, result_bind]
    congr
    funext first
    rw [result_bind, ih]
    rfl

inductive Yields (expression : Value) : Value → Prop where
  | part {value : Value} : value.Part expression → Yields expression value
  | number (n : Int) : Yields expression (.number n)
  | falsity : Yields expression (.bool false)

theorem Yields.of_part {expression value part : Value} (yielded : Yields expression value)
    (inside : part.Part value) : Yields expression part := by
  cases yielded with
  | part found => exact .part (inside.trans found)
  | number n =>
    cases inside
    exact .number n
  | falsity =>
    cases inside
    exact .falsity

/-- How the evaluation of an expression can fail. -/
inductive Raises (expression : Value) : Mode → Fault → Prop where
  | unrecognizedForm {mode : Mode} {form : Value} : form.Part expression →
      Raises expression mode (.error (.unrecognizedForm form))
  | noOperand {mode : Mode} : Raises expression mode (.error (.arity 1 []))
  | divisionByZero {mode : Mode} : Raises expression mode (.error .divisionByZero)
  | tooDeep {mode : Mode} : Raises expression mode (.limit .depth)
  /-- A string that is an operand holds a numeral that cannot be read. -/
  | tooLong {mode : Mode} {contents : String} {reached : Limit} :
      (Value.string contents).Part expression →
      Numeral.readInteger contents.toList = .error reached →
      Raises expression mode (.limit reached)
  | malformedQuote {form : Value} : form.Part expression →
      Raises expression .strict (.error (.malformedQuote form))
  | loneOperand {operand : Value} : Yields expression operand →
      Raises expression .strict (.error (.arity 2 [operand]))
  | noInteger {operand : Value} : Yields expression operand → (∀ n, operand ≠ .number n) →
      Raises expression .strict (.error (.typeMismatch "number" operand))
  | unknownFunction (name : String) :
      Raises expression .strict (.error (.unknownFunction name))

theorem Raises.ne_expressionTooDeep {expression : Value} {mode : Mode} {fault : Fault}
    (raised : Raises expression mode fault) : fault ≠ .error .expressionTooDeep := by
  rintro rfl
  generalize same : Fault.error .expressionTooDeep = fault at raised
  cases raised <;> simp [Error.expressionTooDeep, Error.divisionByZero, Error.unrecognizedForm,
    Error.malformedQuote, Error.unknownFunction] at same

namespace Evaluation

variable {expression : Value} {mode : Mode} {room : Nat}

theorem fallBack_ends {event : Event} {cause : Error}
    (raised : mode = .strict → Raises expression mode (.error cause)) :
    Ends (fun _ => True) (Raises expression mode) (fallBack mode event cause).result := by
  cases mode with
  | strict => exact .error (raised rfl)
  | lenient => exact .ok trivial

theorem noInteger_ends {value : Value} (yielded : Yields expression value)
    (other : ∀ n, value ≠ .number n) :
    Ends (fun _ => True) (Raises expression mode) (noInteger mode room value).result := by
  rw [noInteger, Traced.result_bind]
  refine (fallBack_ends ?_).bind fun _ _ => .ok trivial
  rintro rfl
  exact .noInteger yielded other

theorem operand_ends {value : Value} (yielded : Yields expression value) :
    Ends (fun _ => True) (Raises expression mode) (operand mode room value).result := by
  fun_induction operand mode room value with
  | case1 | case2 => exact .ok trivial
  | case3 room contents => exact noInteger_ends yielded (by simp)
  | case4 room contents reached found =>
    cases yielded with
    | part inside => exact .error (.tooLong inside found)
  | case5 room inner ih => exact ih (yielded.of_part (.of_mem (by simp)))
  | case6 inner => exact .error .tooDeep
  | case7 room value notNumber => exact noInteger_ends yielded notNumber

theorem reduce_ends (operator : Operator) {values : List Value}
    (yielded : ∀ value ∈ values, Yields expression value) :
    Ends (Yields expression) (Raises expression mode)
      (reduce mode room operator values).result := by
  cases values with
  | nil => exact .error .noOperand
  | cons first rest =>
    obtain ⟨one, others⟩ := List.forall_mem_cons.mp yielded
    have folded : Ends (Yields expression) (Raises expression mode)
        (fold mode room operator first rest).result := by
      rw [fold, Traced.result_bind]
      refine (operand_ends one).bind fun number _ => ?_
      rw [Traced.result_bind, Traced.result_each]
      refine (Ends.mapM fun value member => operand_ends (others value member)).bind
        fun numbers _ => ?_
      cases operator.reduce number numbers with
      | ok n => exact .ok (.number n)
      | error fault => exact .error .divisionByZero
    rw [reduce_cons]
    split
    · rw [Traced.result_bind]
      refine (fallBack_ends ?_).bind fun _ _ => folded
      rintro rfl
      exact .loneOperand one
    · exact folded

theorem applyWithin_ends (name : String) {values : List Value}
    (yielded : ∀ value ∈ values, Yields expression value) :
    Ends (Yields expression) (Raises expression mode)
      (applyWithin mode room name values).result := by
  unfold applyWithin
  cases Operator.ofName? name with
  | some operator => exact reduce_ends operator yielded
  | none =>
    dsimp only
    rw [Traced.result_bind]
    refine (fallBack_ends ?_).bind fun _ _ => .ok .falsity
    rintro rfl
    exact .unknownFunction name

theorem Form.of_inv (expression : Value) :
    match Form.of expression with
    | .constant value => value.Part expression
    | .call name arguments => expression = .list (.atom name :: arguments)
    | .unrecognized => True := by
  fun_cases Form.of expression with
  | case1 n => exact .whole
  | case2 contents => exact .whole
  | case3 b => exact .whole
  | case4 value => exact .of_mem (by simp)
  | case5 => rfl
  | case6 => rfl
  | case7 => trivial

/-- Evaluating a part of an expression gives values of the expression, or fails in one of its
ways. -/
theorem valueWithin_ends {inner : Value} (inside : inner.Part expression) :
    Ends (Yields expression) (Raises expression mode) (valueWithin mode room inner).result := by
  induction room using Nat.strongRecOn generalizing inner with
  | ind room ih =>
    have shape := Form.of_inv inner
    rw [valueWithin_eq]
    cases form : Form.of inner with
    | constant value =>
      rw [form] at shape
      exact .ok (.part (shape.trans inside))
    | unrecognized => exact .error (.unrecognizedForm inside)
    | call name arguments =>
      rw [form] at shape
      subst shape
      have parts : ∀ argument ∈ arguments, argument.Part expression := by
        intro argument member
        exact Value.Part.trans (.of_mem (List.mem_cons_of_mem _ member)) inside
      -- a call takes two levels of the room and leaves the others to its arguments
      have called : Ends (Yields expression) (Raises expression mode)
          (call mode name arguments room).result := by
        match room with
        | 0 | 1 => exact .error .tooDeep
        | room + 2 =>
          rw [call, Traced.result_bind, Traced.result_each]
          refine (Ends.mapM fun argument member =>
            ih room (by omega) (parts argument member)).bind fun values yielded => ?_
          exact applyWithin_ends name yielded
      dsimp only
      split
      · rw [Traced.result_bind]
        refine (fallBack_ends ?_).bind fun _ _ => called
        rintro rfl
        exact .malformedQuote inside
      · exact called

end Evaluation

theorem evaluate_ends (mode : Mode) (expression : Value) :
    Ends (Yields expression)
      (fun fault => fault = .error .expressionTooDeep ∨
        fault ≠ .limit .depth ∧ Raises expression mode fault)
      (evaluate mode expression) := by
  have ended : Ends (Yields expression) (Raises expression mode)
      (Evaluation.valueWithin mode nestingRoom expression).result :=
    Evaluation.valueWithin_ends .whole
  unfold evaluate Evaluation.settle
  split
  case h_1 => exact .error (.inl rfl)
  case h_2 other =>
    cases ran : (Evaluation.valueWithin mode nestingRoom expression).result with
    | ok value => exact .ok (ended.of_ok ran)
    | error fault =>
      refine .error (.inr ⟨?_, ended.of_error ran⟩)
      rintro rfl
      exact other ran

end Lisplet
