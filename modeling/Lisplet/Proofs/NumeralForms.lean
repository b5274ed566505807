import Lisplet.Proofs.ClosedForms
import Lisplet.Proofs.IntegerTexts

/-! The forms of an operand that stand for one integer: the number, its text in a string, and either
of them inside lists of one element. A call does not tell them apart, and of an operand that names
no integer it shows what is inside these lists. -/

set_option autoImplicit false

namespace Lisplet

open Numeral (Blank Marks altersDecimal)

/-! ## Forms -/

/-- A text that shows the integer, in as many parentheses as are closed behind it. Where there are
none, what follows must not make another numeral of it. -/
inductive Numeral.Shows (n : Int) : List Char → Prop where
  | intro {depth : Nat} {opened gap closed rest : List Char} {text : String} :
      Marks '(' depth opened → Blank gap → (Value.number n).text = .ok text →
      Marks ')' depth closed → (depth = 0 → ¬ StartsIn altersDecimal rest) →
      Shows n (opened ++ (gap ++ (text.toList ++ (closed ++ rest))))

/-- The value stands for the integer, as an operand for which there is this much room. -/
inductive NumeralForm (n : Int) : Nat → Value → Prop where
  | number {room : Nat} : NumeralForm n room (.number n)
  | string {room : Nat} {contents : String} : Numeral.Shows n contents.toList →
      NumeralForm n room (.string contents)
  | nested {room : Nat} {inner : Value} : NumeralForm n room inner →
      NumeralForm n (room + 1) (.list [inner])

inductive Replaces (room : Nat) : Value → Value → Prop where
  | kept {value : Value} : Replaces room value value
  | form {n : Int} {value : Value} : NumeralForm n room value → Replaces room (.number n) value

/-- Two calls end alike: only an error about the number of operands shows what these are. -/
inductive Alike (operands others : List Value) :
    Except Fault Value → Except Fault Value → Prop where
  | same {result : Except Fault Value} : Alike operands others result result
  | arity {expected : Nat} : Alike operands others (.error (.error (.arity expected operands)))
      (.error (.error (.arity expected others)))

def Value.innermost : Value → Value
  | .list [inner] => inner.innermost
  | value => value
termination_by structural value => value

def Value.wraps : Value → Nat
  | .list [inner] => inner.wraps + 1
  | _ => 0
termination_by structural value => value

/-- The value is no number, nor a string that starts with an integer or with too many digits. -/
def Value.Nameless : Value → Prop
  | .number _ => False
  | .string contents => Numeral.readInteger contents.toList = .ok none
  | _ => True

/-! ## Texts -/

namespace Numeral

theorem not_altersDecimal_of_blank {c : Char} (blank : Text.isBlank c = true) :
    altersDecimal c = false :=
  forall_covered (P := fun c => altersDecimal c = false) (by decide +kernel) blank

theorem Marks.not_startsIn {depth : Nat} {closed : List Char}
    (closes : Marks ')' (depth + 1) closed) (rest : List Char) :
    ¬ StartsIn altersDecimal (closed ++ rest) := by
  cases closes with
  | @cons _ gap others blank =>
    cases gap with
    | nil =>
      rw [List.nil_append, List.cons_append, startsIn_cons]
      decide
    | cons c gap =>
      rw [List.cons_append, List.cons_append, startsIn_cons,
        not_altersDecimal_of_blank (blank_cons.mp blank).1]
      decide

theorem Shows.readInteger_eq {n : Int} {text : List Char} (shows : Shows n text) :
    readInteger text = .ok (some n) := by
  cases shows with
  | @intro depth opened gap closed rest word opens blank written closes apart =>
    rw [Value.text, Value.textWithin_number] at written
    have short : n.natAbs < Nat.pow 10 digitLimit := by
      refine Nat.lt_of_not_le fun long => ?_
      rw [text_of_le long] at written
      cases written
    rw [text_of_lt short] at written
    cases written
    apply readInteger_eq_some_iff.mpr
    refine denotes_repr_append short opens blank closes ?_
    cases depth with
    | zero =>
      cases closes
      exact apart rfl
    | succ depth => exact closes.not_startsIn rest

end Numeral

/-! ## Operands -/

namespace Evaluation

variable {mode : Mode} {room : Nat} {name : String} {operands others : List Value}

theorem operand_of_form {n : Int} {value : Value} (form : NumeralForm n room value) (mode : Mode) :
    (operand mode room value).result = .ok n := by
  induction form with
  | number => rw [operand]; rfl
  | string shows =>
    rw [operand, shows.readInteger_eq]
    rfl
  | nested _ ih => exact ih

theorem operand_of_replaces {value other : Value} (replaces : Replaces room value other)
    (mode : Mode) : (operand mode room other).result = (operand mode room value).result := by
  cases replaces with
  | kept => rfl
  | form form => rw [operand_of_form form, operand_of_form .number]

theorem noInteger_typeMismatch_iff {value found : Value} {expected : String} :
    (noInteger .strict room value).result = .error (.error (.typeMismatch expected found)) ↔
      expected = "number" ∧ found = value := by
  change Except.error _ = _ ↔ _
  simp [eq_comm]

theorem operand_typeMismatch_iff {value found : Value} {expected : String} :
    (operand .strict room value).result = .error (.error (.typeMismatch expected found)) ↔
      expected = "number" ∧ value.wraps ≤ room ∧ value.innermost.Nameless ∧
        found = value.innermost := by
  fun_induction operand .strict room value with
  | case1 room n => simp [Value.innermost, Value.Nameless]
  | case2 room contents n read => simp [Value.innermost, Value.Nameless, read]
  | case3 room contents read =>
    simp [noInteger_typeMismatch_iff, Value.innermost, Value.Nameless, Value.wraps, read]
  | case4 room contents reached read => simp [Value.innermost, Value.Nameless, read]
  | case5 room inner ih => simpa [Value.innermost, Value.wraps] using ih
  | case6 inner => simp [Value.wraps]
  | case7 room value notNumber notString notNested notSingle =>
    -- lists of one element are the two cases before, with room for the element and without
    have bare : ∀ inner, value ≠ .list [inner] := by
      rintro inner rfl
      cases room with
      | zero => exact notSingle inner rfl rfl
      | succ room => exact notNested room inner rfl rfl
    have nameless : value.Nameless := by
      rw [Value.Nameless]
      · exact trivial
      · exact notNumber
      · exact notString
    have same : value.innermost = value := by
      rw [Value.innermost]
      exact bare
    have flat : value.wraps = 0 := by
      rw [Value.wraps]
      exact bare
    simp [noInteger_typeMismatch_iff, same, flat, nameless]

theorem outcome_ne_typeMismatch (operator : Operator) (first : Int) (rest : List Int)
    (expected : String) (found : Value) :
    outcome operator first rest ≠ .error (.error (.typeMismatch expected found)) := by
  rw [outcome]
  cases operator.reduce first rest with
  | ok n => simp
  | error fault => simp [Error.divisionByZero]

theorem fold_typeMismatch_iff {operator : Operator} {first : Value} {rest : List Value}
    {expected : String} {found : Value} :
    (fold mode room operator first rest).result = .error (.error (.typeMismatch expected found)) ↔
      ((first :: rest).mapM fun value => (operand mode room value).result) =
        .error (.error (.typeMismatch expected found)) := by
  rw [result_fold_bind, List.mapM_cons]
  cases (operand mode room first).result with
  | error fault => simp [bind, Except.bind]
  | ok number =>
    cases rest.mapM fun value => (operand mode room value).result with
    | error fault => simp [bind, Except.bind]
    | ok numbers =>
      constructor
      · intro failed
        exact absurd failed (outcome_ne_typeMismatch operator number numbers expected found)
      · rintro ⟨⟩

/-! ## Calls -/

theorem mapM_operand_of_replaces (replaced : List.Forall₂ (Replaces room) operands others)
    (mode : Mode) : (others.mapM fun value => (operand mode room value).result) =
      operands.mapM fun value => (operand mode room value).result := by
  induction replaced with
  | nil => rfl
  | cons first _ ih => rw [List.mapM_cons, List.mapM_cons, operand_of_replaces first, ih]

theorem fold_of_replaces {first other : Value} {rest : List Value} (mode : Mode)
    (operator : Operator) (one : Replaces room first other)
    (replaced : List.Forall₂ (Replaces room) rest others) :
    (fold mode room operator other others).result =
      (fold mode room operator first rest).result := by
  rw [result_fold_bind, result_fold_bind, operand_of_replaces one,
    mapM_operand_of_replaces replaced]

theorem reduce_alike (operator : Operator)
    (replaced : List.Forall₂ (Replaces room) operands others) :
    Alike operands others (reduce mode room operator operands).result
      (reduce mode room operator others).result := by
  cases replaced with
  | nil => exact .same
  | @cons first other rest others one replaced =>
    have folded := fold_of_replaces mode operator one replaced
    rw [reduce_cons, reduce_cons]
    cases replaced with
    | cons => exact folded ▸ .same
    | nil =>
      -- a lone operand is what the error shows, or it is let pass
      cases mode with
      | strict => exact .arity
      | lenient => exact folded ▸ .same

theorem applyWithin_alike (name : String)
    (replaced : List.Forall₂ (Replaces room) operands others) :
    Alike operands others (applyWithin mode room name operands).result
      (applyWithin mode room name others).result := by
  unfold applyWithin
  cases Operator.ofName? name with
  | none => exact .same
  | some operator => exact reduce_alike operator replaced

structure FirstNameless (room : Nat) (operands : List Value) (value : Value) : Prop where
  first : ∃ front back, operands = front ++ value :: back ∧
    ∀ other ∈ front, ∃ n, (operand .strict room other).result = .ok n
  reached : value.wraps ≤ room
  nameless : value.innermost.Nameless

theorem reduce_typeMismatch_iff {operator : Operator} {expected : String} {found : Value} :
    (reduce .strict room operator operands).result =
        .error (.error (.typeMismatch expected found)) ↔
      2 ≤ operands.length ∧ expected = "number" ∧
        ∃ value, FirstNameless room operands value ∧ found = value.innermost := by
  cases operands with
  | nil => simp [reduce, Traced.error]
  | cons first rest =>
    rw [reduce_cons]
    cases rest with
    | nil =>
      -- one operand is too few, whatever it is
      change Except.error (Fault.error (.arity 2 [first])) = _ ↔ _
      simp
    | cons second rest =>
      have several : 2 ≤ (first :: second :: rest).length := Nat.le_add_left 2 rest.length
      change (fold .strict room operator first (second :: rest)).result = _ ↔ _
      rw [fold_typeMismatch_iff, mapM_eq_error_iff]
      constructor
      · rintro ⟨front, value, back, split, fine, failed⟩
        obtain ⟨said, reached, nameless, rfl⟩ := operand_typeMismatch_iff.mp failed
        exact ⟨several, said, value, ⟨⟨front, back, split, fine⟩, reached, nameless⟩, rfl⟩
      · rintro ⟨-, said, value, ⟨⟨front, back, split, fine⟩, reached, nameless⟩, shown⟩
        have failed := operand_typeMismatch_iff.mpr ⟨said, reached, nameless, shown⟩
        exact ⟨front, value, back, split, fine, failed⟩

/-- Each form of an integer names it, and a call whose numbers are replaced by forms of them ends
alike. What is said strictly of an operand that names no integer, and is the first one, is about the
value inside its lists of one element. -/
theorem applyWithin_transparent (room : Nat) :
    (∀ n value, NumeralForm n room value → ∀ mode, (operand mode room value).result = .ok n) ∧
    (∀ mode name operands others, List.Forall₂ (Replaces room) operands others →
      Alike operands others (applyWithin mode room name operands).result
        (applyWithin mode room name others).result) ∧
    ∀ name operands expected found,
      (applyWithin .strict room name operands).result =
          .error (.error (.typeMismatch expected found)) ↔
        (Operator.ofName? name).isSome ∧ 2 ≤ operands.length ∧ expected = "number" ∧
          ∃ value, FirstNameless room operands value ∧ found = value.innermost := by
  refine ⟨fun n value form mode => operand_of_form form mode,
    fun mode name operands others replaced => applyWithin_alike name replaced, ?_⟩
  intro name operands expected found
  rw [applyWithin]
  cases Operator.ofName? name with
  | some operator => simpa using reduce_typeMismatch_iff
  | none =>
    change Except.error (Fault.error (.unknownFunction name)) = _ ↔ _
    simp [Error.unknownFunction]

theorem applyWithin_transparent_sample :
    NumeralForm (-70) 2 (.list [.list [.string "( -70)e5"]]) ∧
    (applyWithin .strict 2 "+" [.list [.list [.string "( -70)e5"]], .number 5]).result =
      .ok (.number (-65)) ∧
    (applyWithin .strict 2 "+" [.number 5, .list [.list [.atom "a"]]]).result =
      .error (.error (.typeMismatch "number" (.atom "a"))) := by
  have shown : (Value.number (-70)).text = .ok "-70" := by decide +kernel
  have shows : Numeral.Shows (-70) (['('] ++ ([' '] ++ ("-70".toList ++ ([')'] ++ ['e', '5'])))) :=
    .intro (.cons Numeral.blank_nil .nil) (List.all_eq_true.mp rfl) shown
      (.cons Numeral.blank_nil .nil) (by simp)
  have form : NumeralForm (-70) 2 (.list [.list [.string "( -70)e5"]]) :=
    .nested (.nested (.string shows))
  refine ⟨form, ?_, ?_⟩
  · have kept : Replaces 2 (.number 5) (.number 5) := .kept
    have alike := (applyWithin_transparent 2).2.1 .strict "+" _ _
      (.cons (.form form) (.cons kept .nil))
    have first : (applyWithin .strict 2 "+" [.number (-70), .number 5]).result =
        .ok (.number (-65)) := by decide +kernel
    rw [first] at alike
    generalize (applyWithin .strict 2 "+" [.list [.list [.string "( -70)e5"]], .number 5]).result =
      second at alike ⊢
    cases alike
    rfl
  · apply ((applyWithin_transparent 2).2.2 _ _ _ _).mpr
    have named : ∀ other ∈ [Value.number 5], ∃ n, (operand .strict 2 other).result = .ok n :=
      List.forall_mem_singleton.mpr ⟨5, rfl⟩
    exact ⟨rfl, by decide, rfl, _, ⟨⟨[.number 5], [], rfl, named⟩, by decide, trivial⟩, rfl⟩

end Evaluation

end Lisplet
