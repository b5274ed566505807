import Lisplet.Proofs.Room

/-! Expressions in the places of a call where arguments are evaluated. Only what such an argument
comes to counts for the whole expression, and an error in it is the error of the whole if nothing to
the left of it has failed. -/

set_option autoImplicit false

namespace Lisplet

/-! ## Contexts -/

/-- A call with one argument left out. Of the quote forms, lenient evaluation takes those for calls
that have more than one argument, and strict evaluation none. -/
structure Frame (mode : Mode) where
  name : String
  left : List Value
  right : List Value
  isCall : name = "quote" → mode = .lenient ∧ left ++ right ≠ []

/-- Calls inside each other, the outermost first, with the place of one argument left out. -/
abbrev Context (mode : Mode) := List (Frame mode)

def Frame.fill {mode : Mode} (frame : Frame mode) (argument : Value) : Value :=
  .list (.atom frame.name :: (frame.left ++ argument :: frame.right))

def Context.fill {mode : Mode} (context : Context mode) (argument : Value) : Value :=
  context.foldr Frame.fill argument

/-- The expression comes to this value or fault, given enough room for nesting. -/
def Evaluates (mode : Mode) (expression : Value) (ending : Except Fault Value) : Prop :=
  ending ≠ .error (.limit .depth) ∧
    ∃ room, (Evaluation.valueWithin mode room expression).result = ending

variable {mode : Mode}

namespace Evaluates

variable {expression : Value} {ending : Except Fault Value}

theorem eventually (evaluates : Evaluates mode expression ending) : ∃ room, ∀ more, room ≤ more →
    (Evaluation.valueWithin mode more expression).result = ending := by
  obtain ⟨shallow, room, rfl⟩ := evaluates
  have settles := Evaluation.valueWithin_settles mode expression
  exact ⟨room, fun more larger => settles.stable larger shallow⟩

theorem unique {other : Except Fault Value} (first : Evaluates mode expression ending)
    (second : Evaluates mode expression other) : ending = other := by
  obtain ⟨room, one⟩ := first.eventually
  obtain ⟨more, two⟩ := second.eventually
  rw [← one (max room more) (Nat.le_max_left room more),
    ← two (max room more) (Nat.le_max_right room more)]

end Evaluates

theorem exists_evaluates (mode : Mode) (expression : Value) :
    ∃ ending, Evaluates mode expression ending := by
  obtain ⟨room, shallow⟩ := (Evaluation.valueWithin_settles mode expression).enough
  exact ⟨_, shallow, room, rfl⟩

theorem evaluates_evaluate {expression : Value}
    (shallow : evaluate mode expression ≠ .error (.error .expressionTooDeep)) :
    Evaluates mode expression (evaluate mode expression) := by
  have fits : (Evaluation.valueWithin mode nestingRoom expression).result ≠
      .error (.limit .depth) := mt Evaluation.settle_eq_tooDeep_iff.mpr shallow
  have same : evaluate mode expression =
      (Evaluation.valueWithin mode nestingRoom expression).result := by
    rw [evaluate, Evaluation.settle]
    split
    · contradiction
    · rfl
  rw [same]
  exact ⟨fits, nestingRoom, rfl⟩

theorem evaluates_quoted (mode : Mode) (value : Value) :
    Evaluates mode value.quoted (.ok value) := by
  refine ⟨by simp, 0, ?_⟩
  rw [Evaluation.valueWithin_eq]
  rfl

theorem exists_room_of_evaluates {expressions : List Value}
    (fine : ∀ expression ∈ expressions, ∃ value, Evaluates mode expression (.ok value)) :
    ∃ room, ∀ more, room ≤ more → ∀ expression ∈ expressions,
      ∃ value, (Evaluation.valueWithin mode more expression).result = .ok value := by
  induction expressions with
  | nil => exact ⟨0, fun _ _ => List.forall_mem_nil _⟩
  | cons first rest ih =>
    obtain ⟨⟨value, evaluates⟩, others⟩ := List.forall_mem_cons.mp fine
    obtain ⟨room, here⟩ := evaluates.eventually
    obtain ⟨more, there⟩ := ih others
    refine ⟨max room more, fun most larger => List.forall_mem_cons.mpr ⟨⟨value, ?_⟩, ?_⟩⟩
    · exact here most (by omega)
    · exact there most (by omega)

/-! ## One call -/

theorem Evaluation.Form.of_call {name : String} {arguments : List Value}
    (several : name = "quote" → arguments.length ≠ 1) :
    Form.of (.list (.atom name :: arguments)) = .call name arguments := by
  cases arguments with
  | nil => simp [Form.of]
  | cons first rest =>
    cases rest with
    | nil =>
      have other : name ≠ "quote" := fun quote => several quote rfl
      simp [Form.of, other]
    | cons second rest => simp [Form.of]

namespace Frame

variable (frame : Frame mode)

theorem form_fill (argument : Value) : Evaluation.Form.of (frame.fill argument) =
    .call frame.name (frame.left ++ argument :: frame.right) := by
  apply Evaluation.Form.of_call
  intro quote single
  -- a second argument makes a call of the quote form
  apply (frame.isCall quote).2
  rw [List.length_append, List.length_cons] at single
  rw [← List.length_eq_zero_iff, List.length_append]
  omega

/-- The arguments are evaluated first, with two levels less, and then the function is called. -/
theorem result_fill (room : Nat) (argument : Value) :
    (Evaluation.valueWithin mode (room + 2) (frame.fill argument)).result =
      ((frame.left ++ argument :: frame.right).mapM fun expression =>
        (Evaluation.valueWithin mode room expression).result) >>= fun values =>
          (Evaluation.applyWithin mode room frame.name values).result := by
  have called : (Evaluation.call mode frame.name (frame.left ++ argument :: frame.right)
      (room + 2)).result = ((frame.left ++ argument :: frame.right).mapM fun expression =>
        (Evaluation.valueWithin mode room expression).result) >>= fun values =>
          (Evaluation.applyWithin mode room frame.name values).result := by
    rw [Evaluation.call, Traced.result_bind, Traced.result_each]
    rfl
  rw [Evaluation.valueWithin_eq, form_fill]
  dsimp only
  split
  case isFalse => exact called
  case isTrue quote =>
    obtain ⟨rfl, -⟩ := frame.isCall quote
    rw [Traced.result_bind]
    exact called

theorem result_fill_congr {room : Nat} {argument other : Value}
    (same : (Evaluation.valueWithin mode room argument).result =
      (Evaluation.valueWithin mode room other).result) :
    (Evaluation.valueWithin mode (room + 2) (frame.fill argument)).result =
      (Evaluation.valueWithin mode (room + 2) (frame.fill other)).result := by
  rw [result_fill, result_fill, List.mapM_append, List.mapM_append, List.mapM_cons, List.mapM_cons,
    same]

theorem evaluates_fill_congr {argument other : Value} {inner ending : Except Fault Value}
    (one : Evaluates mode argument inner) (two : Evaluates mode other inner)
    (whole : Evaluates mode (frame.fill argument) ending) :
    Evaluates mode (frame.fill other) ending := by
  obtain ⟨first, one⟩ := one.eventually
  obtain ⟨second, two⟩ := two.eventually
  obtain ⟨third, ended⟩ := whole.eventually
  let room := max first (max second third)
  refine ⟨whole.1, room + 2, ?_⟩
  have same := (one room (by omega)).trans (two room (by omega)).symm
  rw [← frame.result_fill_congr same]
  exact ended (room + 2) (by omega)

theorem evaluates_fill_error {argument : Value} {fault : Fault}
    (failed : Evaluates mode argument (.error fault))
    (fine : ∀ expression ∈ frame.left, ∃ value, Evaluates mode expression (.ok value)) :
    Evaluates mode (frame.fill argument) (.error fault) := by
  obtain ⟨first, here⟩ := failed.eventually
  obtain ⟨second, before⟩ := exists_room_of_evaluates fine
  let room := max first second
  refine ⟨failed.1, room + 2, ?_⟩
  have arguments : ((frame.left ++ argument :: frame.right).mapM fun expression =>
      (Evaluation.valueWithin mode room expression).result) = .error fault :=
    mapM_eq_error_iff.mpr ⟨frame.left, argument, frame.right, rfl, before room (by omega),
      here room (by omega)⟩
  rw [result_fill, arguments]
  rfl

end Frame

/-! ## Calls inside each other -/

namespace Context

variable (context : Context mode)

theorem evaluates_fill_congr {argument other : Value} {inner : Except Fault Value}
    (one : Evaluates mode argument inner) (two : Evaluates mode other inner) :
    ∃ ending, Evaluates mode (context.fill argument) ending ∧
      Evaluates mode (context.fill other) ending := by
  induction context with
  | nil => exact ⟨inner, one, two⟩
  | cons frame context ih =>
    obtain ⟨middle, first, second⟩ := ih
    obtain ⟨ending, whole⟩ := exists_evaluates mode (fill (frame :: context) argument)
    exact ⟨ending, whole, frame.evaluates_fill_congr first second whole⟩

theorem evaluates_fill_error {argument : Value} {fault : Fault}
    (failed : Evaluates mode argument (.error fault))
    (fine : ∀ frame ∈ context, ∀ expression ∈ frame.left,
      ∃ value, Evaluates mode expression (.ok value)) :
    Evaluates mode (context.fill argument) (.error fault) := by
  induction context with
  | nil => exact failed
  | cons frame context ih =>
    obtain ⟨here, inside⟩ := List.forall_mem_cons.mp fine
    exact frame.evaluates_fill_error (ih inside) here

end Context

/-- Every expression comes to one value or fault, which is what evaluation finds unless it has too
little room. In a context, expressions that come to the same can stand for each other, and so can an
expression and its quoted value; a fault is that of the whole if nothing to its left fails. -/
theorem evaluates_in_context (mode : Mode) :
    (∀ expression, ∃! ending, Evaluates mode expression ending) ∧
    (∀ expression, evaluate mode expression ≠ .error (.error .expressionTooDeep) →
      Evaluates mode expression (evaluate mode expression)) ∧
    ∀ context : Context mode,
      (∀ expression other ending, Evaluates mode expression ending → Evaluates mode other ending →
        ∃ whole, Evaluates mode (context.fill expression) whole ∧
          Evaluates mode (context.fill other) whole) ∧
      (∀ expression value, Evaluates mode expression (.ok value) →
        ∃ whole, Evaluates mode (context.fill expression) whole ∧
          Evaluates mode (context.fill value.quoted) whole) ∧
      ∀ expression fault, Evaluates mode expression (.error fault) →
        (∀ frame ∈ context, ∀ before ∈ frame.left, ∃ value, Evaluates mode before (.ok value)) →
        Evaluates mode (context.fill expression) (.error fault) := by
  refine ⟨?_, fun expression => evaluates_evaluate, fun context => ⟨?_, ?_, ?_⟩⟩
  · intro expression
    obtain ⟨ending, evaluates⟩ := exists_evaluates mode expression
    exact ⟨ending, evaluates, fun other again => again.unique evaluates⟩
  · intro expression other ending one two
    exact context.evaluates_fill_congr one two
  · intro expression value evaluates
    -- a value and its quoted form come to the same
    exact context.evaluates_fill_congr evaluates (evaluates_quoted mode value)
  · intro expression fault failed fine
    exact context.evaluates_fill_error failed fine

def looseContext : Context .lenient :=
  [⟨"+", [.number 1], [.atom "x"], by simp⟩, ⟨"quote", [.string "a"], [], by simp⟩]

theorem evaluates_in_context_sample :
    (∃ whole, Evaluates .lenient (looseContext.fill (.list [.atom "-", .number 1])) whole ∧
      Evaluates .lenient (looseContext.fill (.list [.atom "quote", .number 1])) whole) ∧
    Evaluates .lenient (looseContext.fill (.list [.atom "/", .number 1, .number 0]))
      (.error (.error .divisionByZero)) := by
  obtain ⟨-, found, inside⟩ := evaluates_in_context .lenient
  obtain ⟨-, quoted, faults⟩ := inside looseContext
  constructor
  · apply quoted
    have one : evaluate .lenient (.list [.atom "-", .number 1]) = .ok (.number 1) := by
      decide +kernel
    rw [← one]
    exact found _ (by rw [one]; simp)
  · apply faults
    · have failed : evaluate .lenient (.list [.atom "/", .number 1, .number 0]) =
          .error (.error .divisionByZero) := by
        decide +kernel
      rw [← failed]
      refine found _ ?_
      rw [failed]
      decide +kernel
    · have literal : ∀ value, Evaluation.Form.of value = .constant value →
          Evaluates .lenient value (.ok value) := by
        intro value constant
        refine ⟨by simp, 0, ?_⟩
        rw [Evaluation.valueWithin_eq, constant]
        rfl
      simp only [looseContext, List.forall_mem_cons, List.not_mem_nil, false_imp_iff, implies_true,
        and_true]
      exact ⟨⟨_, literal (.number 1) rfl⟩, ⟨_, literal (.string "a") rfl⟩⟩

end Lisplet
