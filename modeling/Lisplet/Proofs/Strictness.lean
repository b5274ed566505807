import Mathlib.Data.List.TakeWhile
import Lisplet.Interpreter

/-! Strict evaluation as lenient evaluation. The trace of a lenient evaluation holds what it let
pass; strict evaluation is the same computation up to the first of these, which is an error then. -/

set_option autoImplicit false

namespace Lisplet

namespace Traced

variable {α β : Type}

/-- The error for the first thing that the computation let pass. -/
def firstFallback (computation : Traced Event α) : Option Error :=
  computation.events.findSome? Event.fallback

/-- The computation up to the first thing that it let pass. -/
def strictened (computation : Traced Event α) : Traced Event α :=
  match computation.firstFallback with
  | none => computation
  | some cause => ⟨computation.events.takeWhile (·.fallback.isNone), .error (.error cause)⟩

theorem strictened_of_none {computation : Traced Event α}
    (found : computation.firstFallback = none) : computation.strictened = computation := by
  rw [strictened, found]

theorem strictened_of_some {computation : Traced Event α} {cause : Error}
    (found : computation.firstFallback = some cause) : computation.strictened =
      ⟨computation.events.takeWhile (·.fallback.isNone), .error (.error cause)⟩ := by
  rw [strictened, found]

theorem ok_bind {ε : Type} (events : List ε) (value : α) (next : α → Traced ε β) :
    (⟨events, .ok value⟩ : Traced ε α) >>= next =
      ⟨events ++ (next value).events, (next value).result⟩ := rfl

theorem strictened_bind (first : Traced Event α) (next : α → Traced Event β) :
    (first >>= next).strictened = first.strictened >>= fun value => (next value).strictened := by
  obtain ⟨events, result⟩ := first
  cases found : events.findSome? Event.fallback with
  | none =>
    -- all of the first part is kept, and the rest decides
    have here : firstFallback ⟨events, result⟩ = none := found
    rw [strictened_of_none here]
    cases result with
    | error fault => exact strictened_of_none found
    | ok value =>
      have passed : ∀ event ∈ events, event.fallback.isNone = true := by
        simpa using List.findSome?_eq_none_iff.mp found
      have whole : firstFallback ⟨events ++ (next value).events, (next value).result⟩ =
          (next value).firstFallback := by
        rw [firstFallback, List.findSome?_append, found, Option.none_or]
        rfl
      cases later : (next value).firstFallback with
      | none =>
        rw [ok_bind, ok_bind, strictened_of_none (whole.trans later), strictened_of_none later]
      | some cause =>
        rw [ok_bind, ok_bind, strictened_of_some (whole.trans later), strictened_of_some later,
          List.takeWhile_append_of_pos passed]
  | some cause =>
    -- the rest is cut off, whatever it would have done
    have here : firstFallback ⟨events, result⟩ = some cause := found
    rw [strictened_of_some here]
    cases result with
    | error fault => exact strictened_of_some found
    | ok value =>
      have whole : firstFallback ⟨events ++ (next value).events, (next value).result⟩ =
          some cause := by
        rw [firstFallback, List.findSome?_append, found, Option.some_or]
      rw [ok_bind, strictened_of_some whole, List.takeWhile_append, if_neg]
      · rfl
      intro passed
      have same := (List.takeWhile_prefix _).eq_of_length passed
      rw [List.takeWhile_eq_self_iff] at same
      have nothing := List.findSome?_eq_none_iff.mpr fun event member =>
        Option.isNone_iff_eq_none.mp (same event member)
      rw [nothing] at found
      contradiction

theorem strictened_each (step : α → Traced Event β) (values : List α) :
    (each step values).strictened = each (fun value => (step value).strictened) values := by
  induction values with
  | nil => rfl
  | cons value values ih =>
    rw [each, each, strictened_bind]
    congr
    funext first
    rw [strictened_bind, ih]
    rfl

end Traced

namespace Evaluation

open Traced

theorem fallBack_strict {event : Event} {cause : Error} (agree : event.fallback = some cause) :
    fallBack .strict event cause = (fallBack .lenient event cause).strictened := by
  have found : (Traced.emit event).firstFallback = some cause := by
    simp [firstFallback, agree]
  rw [fallBack, fallBack, strictened_of_some found]
  simp [Traced.error, fail, agree]

theorem noInteger_strict (room : Nat) (value : Value) :
    noInteger .strict room value = (noInteger .lenient room value).strictened := by
  rw [noInteger, noInteger, strictened_bind, fallBack_strict rfl]
  rfl

theorem operand_strict (room : Nat) (value : Value) :
    operand .strict room value = (operand .lenient room value).strictened := by
  fun_induction operand .strict room value with
  | case1 room n =>
    rw [operand]
    rfl
  | case2 room contents n found =>
    rw [operand, found]
    rfl
  | case3 room contents found => rw [operand, found, noInteger_strict]
  | case4 room contents reached found =>
    rw [operand, found]
    rfl
  | case5 room inner ih => rw [operand, ih]
  | case6 inner =>
    rw [operand]
    rfl
  | case7 room value notNumber notString notNested notSingle =>
    rw [noInteger_strict, operand] <;> assumption

def fold (mode : Mode) (room : Nat) (operator : Operator) (first : Value) (rest : List Value) :
    Traced Event Value := do
  let number ← operand mode room first
  let others ← Traced.each (operand mode room) rest
  match operator.reduce number others with
  | .ok n => pure (.number n)
  | .error .zeroDivisor => .error .divisionByZero

theorem reduce_cons (mode : Mode) (room : Nat) (operator : Operator) (first : Value)
    (rest : List Value) : reduce mode room operator (first :: rest) =
      if rest.isEmpty then
        fallBack mode (.loneOperand first) (.arity 2 [first]) >>= fun _ =>
          fold mode room operator first rest
      else fold mode room operator first rest := rfl

theorem fold_strict (room : Nat) (operator : Operator) (first : Value) (rest : List Value) :
    fold .strict room operator first rest =
      (fold .lenient room operator first rest).strictened := by
  unfold fold
  rw [strictened_bind, operand_strict, funext (operand_strict room)]
  congr
  funext number
  rw [strictened_bind, strictened_each]
  congr
  funext others
  cases operator.reduce number others with
  | ok n => rfl
  | error fault => rfl

theorem reduce_strict (room : Nat) (operator : Operator) (values : List Value) :
    reduce .strict room operator values =
      (reduce .lenient room operator values).strictened := by
  cases values with
  | nil => rfl
  | cons first rest =>
    rw [reduce_cons, reduce_cons, fold_strict]
    by_cases lone : rest.isEmpty = true
    · rw [if_pos lone, if_pos lone, strictened_bind, fallBack_strict rfl]
    · rw [if_neg lone, if_neg lone]

theorem applyWithin_strict (room : Nat) (name : String) (values : List Value) :
    applyWithin .strict room name values =
      (applyWithin .lenient room name values).strictened := by
  unfold applyWithin
  cases Operator.ofName? name with
  | some operator => exact reduce_strict room operator values
  | none =>
    simp only [strictened_bind]
    rw [fallBack_strict rfl]
    rfl

def call (mode : Mode) (name : String) (arguments : List Value) : Nat → Traced Event Value
  | room + 2 => do
    let values ← Traced.each (valueWithin mode room) arguments
    .emit (.applying name values.length)
    applyWithin mode room name values
  | _ => .fail (.limit .depth)

theorem valueWithin_eq (mode : Mode) (room : Nat) (expression : Value) :
    valueWithin mode room expression =
      match Form.of expression with
      | .constant value => pure value
      | .unrecognized => .error (.unrecognizedForm expression)
      | .call name arguments =>
        if name = "quote" then
          fallBack mode (.looseQuote expression) (.malformedQuote expression) >>= fun _ =>
            call mode name arguments room
        else call mode name arguments room := by
  rw [valueWithin]
  cases Form.of expression with
  | constant | unrecognized => rfl
  | call name arguments =>
    match room with
    | 0 | 1 | room + 2 => rfl

/-- Strict evaluation is lenient evaluation up to the first thing that is let pass. -/
theorem valueWithin_strict (room : Nat) (expression : Value) :
    valueWithin .strict room expression = (valueWithin .lenient room expression).strictened := by
  induction room using Nat.strongRecOn generalizing expression with
  | ind room ih =>
    -- arguments are evaluated with less room, all of them before the function is looked up
    have called (name : String) (arguments : List Value) :
        call .strict name arguments room = (call .lenient name arguments room).strictened := by
      match room with
      | 0 | 1 => rfl
      | room + 2 =>
        rw [call, call, strictened_bind, strictened_each, funext (ih room (by omega))]
        congr
        funext values
        rw [strictened_bind, applyWithin_strict]
        rfl
    rw [valueWithin_eq, valueWithin_eq]
    cases Form.of expression with
    | constant | unrecognized => rfl
    | call name arguments =>
      by_cases quote : name = "quote"
      · simp only [quote, ↓reduceIte]
        rw [strictened_bind, fallBack_strict rfl, called]
      · simp only [quote, ↓reduceIte]
        exact called name arguments

theorem settle_strict (room : Nat) (expression : Value) :
    (settle (valueWithin .strict room expression)).result =
      match (valueWithin .lenient room expression).firstFallback with
      | some cause => .error (.error cause)
      | none => (settle (valueWithin .lenient room expression)).result := by
  rw [valueWithin_strict]
  cases found : (valueWithin .lenient room expression).firstFallback with
  | none => rw [strictened_of_none found]
  | some cause =>
    rw [strictened_of_some found]
    rfl

theorem settle_congr {ε δ : Type} {first : Traced ε Value} {second : Traced δ Value}
    (same : first.result = second.result) : (settle first).result = (settle second).result := by
  unfold settle
  rw [same]
  split
  · rfl
  · exact same

theorem settle_ofResult (computation : Traced Event Value) :
    (settle (.ofResult computation.result : Traced String Value)).result =
      (settle computation).result :=
  settle_congr rfl

end Evaluation

theorem evaluate_lenient_of_strict {expression value : Value}
    (strict : evaluate .strict expression = .ok value) :
    evaluate .lenient expression = .ok value := by
  rw [evaluate, Evaluation.settle_strict] at strict
  split at strict
  · contradiction
  · exact strict

namespace Interpreter

theorem eval_eq (interpreter : Interpreter) (code : String) :
    interpreter.eval code = interpreter.read code >>= evaluate interpreter.evaluationMode := by
  simp only [eval, evalLogged, Traced.logged_false, Traced.result_bind, Traced.result_ofResult,
    Evaluation.settle_ofResult, Traced.result_emit, Traced.result_pure, read]
  cases (interpreter.readTraced code).result with
  | error fault => rfl
  | ok expression =>
    simp only [bind, Except.bind, evaluate]
    split
    · next fault ran => rw [ran]
    · next value ran => rw [ran]

theorem run_eq_eval (interpreter : Interpreter) (code : String) :
    interpreter.run code = interpreter.eval code >>= shown := by
  simp only [run, runLogged, Traced.result_bind, Traced.result_ofResult, eval]

theorem run_eq (interpreter : Interpreter) (code : String) :
    interpreter.run code = (do
      let expression ← interpreter.read code
      let value ← evaluate interpreter.evaluationMode expression
      shown value) := by
  rw [run_eq_eval, eval_eq, bind_assoc]

theorem read_strict {interpreter : Interpreter} (strictly : interpreter.evaluationMode = .strict)
    (code : String) : interpreter.read code = parse sourceName code := by
  rw [read, readTraced, strictly]
  rfl

theorem read_lenient {interpreter : Interpreter}
    (leniently : interpreter.evaluationMode = .lenient) (code : String) :
    interpreter.read code = Lisplet.read sourceName code := by
  rw [read, readTraced, leniently]
  rfl

theorem read_of_parse (interpreter : Interpreter) {code : String} {value : Value}
    (parsed : parse sourceName code = .ok value) : interpreter.read code = .ok value := by
  cases mode : interpreter.evaluationMode with
  | strict => rw [read_strict mode, parsed]
  | lenient => rw [read_lenient mode, Lisplet.read_of_parse parsed]

theorem read_cases (interpreter : Interpreter) (code : String) :
    (∃ value, parse sourceName code = .ok value ∧ interpreter.read code = .ok value) ∨
    (∃ cause, parse sourceName code = .error (.error (.unreadable cause)) ∧
      interpreter.evaluationMode = .strict ∧
      interpreter.read code = .error (.error (.unreadable cause))) ∨
    (∃ cause, parse sourceName code = .error (.error (.unreadable cause)) ∧
      interpreter.evaluationMode = .lenient ∧
      interpreter.read code = .ok (.string ("No match: " ++ cause.describe))) ∨
    ∃ reached, parse sourceName code = .error (.limit reached) ∧
      interpreter.read code = .error (.limit reached) := by
  cases parsed : parse sourceName code with
  | ok value => exact .inl ⟨value, rfl, interpreter.read_of_parse parsed⟩
  | error fault =>
    cases mode : interpreter.evaluationMode with
    | strict =>
      have found := (read_strict mode code).trans parsed
      rcases parse_error_cases parsed with ⟨cause, rfl⟩ | ⟨reached, rfl⟩
      · exact .inr (.inl ⟨cause, rfl, rfl, found⟩)
      · exact .inr (.inr (.inr ⟨reached, rfl, found⟩))
    | lenient =>
      have found := read_lenient mode code
      rcases parse_error_cases parsed with ⟨cause, rfl⟩ | ⟨reached, rfl⟩
      · exact .inr (.inr (.inl ⟨cause, rfl, rfl, found.trans (read_of_unreadable parsed)⟩))
      · exact .inr (.inr (.inr ⟨reached, rfl, found.trans (read_of_limit parsed)⟩))

theorem run_of_evaluate {interpreter : Interpreter} {code : String} {expression : Value}
    {fault : Fault} (parsed : parse sourceName code = .ok expression)
    (failed : evaluate interpreter.evaluationMode expression = .error fault) :
    interpreter.run code = .error fault := by
  rw [run_eq, interpreter.read_of_parse parsed]
  simp only [bind, Except.bind, failed]

theorem read_lenient_of_strict {strict lenient : Interpreter} {code : String} {value : Value}
    (strictly : strict.evaluationMode = .strict) (found : strict.read code = .ok value) :
    lenient.read code = .ok value := by
  rw [read_strict strictly] at found
  exact lenient.read_of_parse found

theorem run_lenient_of_strict {strict lenient : Interpreter} {code text : String}
    (strictly : strict.evaluationMode = .strict) (leniently : lenient.evaluationMode = .lenient)
    (ran : strict.run code = .ok text) : lenient.run code = .ok text := by
  rw [run_eq, strictly] at ran
  cases found : strict.read code with
  | error fault => simp [found, bind, Except.bind] at ran
  | ok expression =>
    cases evaluated : evaluate .strict expression with
    | error fault => simp [found, evaluated, bind, Except.bind] at ran
    | ok value =>
      simp only [found, evaluated, bind, Except.bind] at ran
      rw [run_eq, leniently, read_lenient_of_strict strictly found]
      simp only [bind, Except.bind, evaluate_lenient_of_strict evaluated, ran]

end Interpreter

/-- Strict evaluation fails with the error for the first thing that lenient evaluation lets pass,
and where that lets nothing pass the two end alike. So what strict evaluation gives, and what a
strict interpreter prints, the lenient one does too. -/
theorem evaluate_strict_eq :
    (∀ expression : Value, evaluate .strict expression =
      match (Evaluation.valueWithin .lenient nestingRoom expression).firstFallback with
      | some cause => .error (.error cause)
      | none => evaluate .lenient expression) ∧
    (∀ expression value : Value, evaluate .strict expression = .ok value →
      evaluate .lenient expression = .ok value) ∧
    ∀ (strict lenient : Interpreter) (code text : String), strict.evaluationMode = .strict →
      lenient.evaluationMode = .lenient → strict.run code = .ok text →
      lenient.run code = .ok text := by
  refine ⟨?_, ?_, ?_⟩
  · intro expression
    exact Evaluation.settle_strict nestingRoom expression
  · intro expression value strict
    exact evaluate_lenient_of_strict strict
  · intro strict lenient code text strictly leniently ran
    exact Interpreter.run_lenient_of_strict strictly leniently ran

/-- The arguments come before the function: the unknown one inside fails before the lone operand
outside, which lenient evaluation lets pass later. -/
theorem evaluate_strict_sample :
    evaluate .strict (.list [.atom "-", .list [.atom "f", .number 1]]) =
      .error (.error (.unknownFunction "f")) ∧
    Interpreter.evaluationMode ⟨"strict"⟩ = .strict ∧
    Interpreter.evaluationMode ⟨"lenient"⟩ = .lenient ∧
    Interpreter.run ⟨"strict"⟩ "(+ 1 (* 2 \"3\"))" = .ok "7" ∧
    Interpreter.run ⟨"lenient"⟩ "(+ 1 (* 2 \"3\"))" = .ok "7" := by
  have found : (Evaluation.valueWithin .lenient nestingRoom
      (.list [.atom "-", .list [.atom "f", .number 1]])).firstFallback =
      some (.unknownFunction "f") := by
    decide +kernel
  have ran : Interpreter.run ⟨"strict"⟩ "(+ 1 (* 2 \"3\"))" = .ok "7" := by decide +kernel
  refine ⟨?_, rfl, rfl, ran, evaluate_strict_eq.2.2 ⟨"strict"⟩ ⟨"lenient"⟩ _ _ rfl rfl ran⟩
  rw [evaluate_strict_eq.1, found]

end Lisplet
