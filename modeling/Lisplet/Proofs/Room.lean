import Lisplet.Proofs.FirstMismatch
import Lisplet.Proofs.Numerals
import Lisplet.Proofs.Provenance

/-! The room for nesting. It decides nothing but whether there is enough of it: with more room,
reading, evaluating and printing come to the same end, unless they had too little, and for every
input some room is enough. -/

set_option autoImplicit false

namespace Lisplet

open Reading

/-- With more room the outcome stays, unless it was that of too little room, and some room is
enough. -/
structure Settles {γ : Type} (tooDeep : γ → Prop) (outcome : Nat → γ) : Prop where
  stable : ∀ {room more : Nat}, room ≤ more → ¬ tooDeep (outcome room) →
    outcome more = outcome room
  enough : ∃ room, ¬ tooDeep (outcome room)

namespace Settles

section

variable {γ δ : Type} {tooDeep : γ → Prop} {outcome : Nat → γ}

theorem exists_eventually (settles : Settles tooDeep outcome) :
    ∃ final, ¬ tooDeep final ∧ ∃ room, ∀ more, room ≤ more → outcome more = final := by
  obtain ⟨room, shallow⟩ := settles.enough
  exact ⟨outcome room, shallow, room, fun _ larger => settles.stable larger shallow⟩

theorem const {result : γ} (shallow : ¬ tooDeep result) (same : ∀ room, outcome room = result) :
    Settles tooDeep outcome := by
  constructor
  · intro room more _ _
    rw [same, same]
  · refine ⟨0, ?_⟩
    rwa [same]

theorem add (settles : Settles tooDeep outcome) (extra : Nat) :
    Settles tooDeep fun room => outcome (room + extra) := by
  constructor
  · intro room more larger shallow
    exact settles.stable (Nat.add_le_add_right larger extra) shallow
  · obtain ⟨room, shallow⟩ := settles.enough
    refine ⟨room, ?_⟩
    rwa [settles.stable (Nat.le_add_right room extra) shallow]

/-- An operation that takes some room for itself. -/
theorem taking {whole : Nat → γ} (cost : Nat) (settles : Settles tooDeep outcome)
    (less : ∀ room, room < cost → tooDeep (whole room))
    (rest : ∀ room, whole (room + cost) = outcome room) : Settles tooDeep whole := by
  constructor
  · intro room more larger shallow
    have left : cost ≤ room := Nat.le_of_not_lt fun short => shallow (less room short)
    obtain ⟨room, rfl⟩ := Nat.exists_eq_add_of_le' left
    obtain ⟨more, rfl⟩ := Nat.exists_eq_add_of_le' (left.trans larger)
    rw [rest] at shallow
    rw [rest, rest]
    exact settles.stable (Nat.le_of_add_le_add_right larger) shallow
  · obtain ⟨room, shallow⟩ := settles.enough
    refine ⟨room + cost, ?_⟩
    rwa [rest]

theorem transfer {renamed : δ → Prop} {whole : Nat → δ} (settles : Settles tooDeep outcome)
    (same : ∀ room, renamed (whole room) ↔ tooDeep (outcome room))
    (determined : ∀ room more, outcome more = outcome room → whole more = whole room) :
    Settles renamed whole := by
  constructor
  · intro room more larger shallow
    rw [same] at shallow
    exact determined room more (settles.stable larger shallow)
  · obtain ⟨room, shallow⟩ := settles.enough
    refine ⟨room, ?_⟩
    rwa [same]

end

section

variable {α β ε : Type} {fault : ε}

theorem ok (value : α) : Settles (· = .error fault) fun _ => (.ok value : Except ε α) :=
  const (by simp) fun _ => rfl

theorem error {other : ε} (different : other ≠ fault) :
    Settles (· = .error fault) fun _ => (.error other : Except ε α) :=
  const (by simpa using different) fun _ => rfl

theorem bind {first : Nat → Except ε α} {next : Nat → α → Except ε β}
    (settles : Settles (· = .error fault) first)
    (later : ∀ value, Settles (· = .error fault) (next · value)) :
    Settles (· = .error fault) fun room => first room >>= next room := by
  constructor
  · intro room more larger shallow
    cases ran : first room with
    | error other =>
      have kept : first room ≠ .error fault := by
        intro deep
        rw [deep] at shallow
        exact shallow rfl
      rw [settles.stable larger kept, ran]
      rfl
    | ok value =>
      have kept : first room ≠ .error fault := by simp [ran]
      rw [ran] at shallow
      rw [settles.stable larger kept, ran]
      exact (later value).stable larger shallow
  · obtain ⟨room, shallow⟩ := settles.enough
    cases ran : first room with
    | error other =>
      refine ⟨room, ?_⟩
      rw [ran] at shallow ⊢
      change ¬ Except.error other = .error fault
      simpa using shallow
    | ok value =>
      -- the larger of the two rooms is enough for both parts
      obtain ⟨inner, fits⟩ := (later value).enough
      refine ⟨max room inner, ?_⟩
      rw [settles.stable (Nat.le_max_left room inner) shallow, ran]
      change ¬ next (max room inner) value = .error fault
      rwa [(later value).stable (Nat.le_max_right room inner) fits]

theorem mapM {step : Nat → α → Except ε β} {values : List α}
    (each : ∀ value ∈ values, Settles (· = .error fault) (step · value)) :
    Settles (· = .error fault) fun room => values.mapM (step room) := by
  induction values with
  | nil => exact ok []
  | cons value values ih =>
    obtain ⟨first, others⟩ := List.forall_mem_cons.mp each
    simp only [List.mapM_cons]
    apply first.bind
    intro result
    apply (ih others).bind
    intro results
    exact ok (result :: results)

end

end Settles

/-! ## Printing -/

theorem Value.textWithin_settles (value : Value) :
    Settles (· = .error .depth) fun room => value.textWithin room := by
  cases value with
  | atom name => exact .const (by simp) (textWithin_atom · name)
  | number n =>
    refine .const ?_ (textWithin_number · n)
    rw [Numeral.text]
    split <;> simp
  | string contents => exact .const (by simp) (textWithin_string · contents)
  | bool b => exact .const (by simp) (textWithin_bool · b)
  | list items =>
    refine .taking 3 ?_ (fun _ short => textWithin_list_of_lt short items) (textWithin_list · items)
    have words := Settles.mapM fun item (_ : item ∈ items) => textWithin_settles item
    exact words.bind fun words => .ok _
  | dotted items tail =>
    refine .taking 3 ?_ (fun _ short => textWithin_dotted_of_lt short items tail)
      (textWithin_dotted · items tail)
    have words := Settles.mapM fun item (_ : item ∈ items) => textWithin_settles item
    have last := (textWithin_settles tail).add 2
    exact words.bind fun words => last.bind fun last => .ok _
termination_by sizeOf value

theorem Value.textWithin_mono {value : Value} {room more : Nat} {text : String}
    (larger : room ≤ more) (written : value.textWithin room = .ok text) :
    value.textWithin more = .ok text := by
  rw [value.textWithin_settles.stable larger (by simp [written]), written]

/-! ## Evaluation -/

namespace Evaluation

theorem fallBack_settles (mode : Mode) (event : Event) (cause : Error) :
    Settles (· = .error (.limit .depth)) fun _ => (fallBack mode event cause).result := by
  cases mode with
  | strict => exact .error (by simp)
  | lenient => exact .ok ()

theorem noInteger_settles (mode : Mode) (value : Value) :
    Settles (· = .error (.limit .depth)) fun room => (noInteger mode room value).result := by
  cases mode with
  | strict => exact .error (by simp)
  | lenient => exact .ok 0

theorem operand_settles_of_eq {mode : Mode} {value : Value}
    (same : ∀ room, operand mode room value = noInteger mode room value) :
    Settles (· = .error (.limit .depth)) fun room => (operand mode room value).result := by
  simp only [same]
  exact noInteger_settles mode value

theorem operand_settles (mode : Mode) : ∀ value : Value,
    Settles (· = .error (.limit .depth)) fun room => (operand mode room value).result
  | .number n => by
    simp only [operand]
    exact .ok n
  | .string contents => by
    simp only [operand]
    cases found : Numeral.readInteger contents.toList with
    | ok integer =>
      cases integer with
      | some n => exact .ok n
      | none => exact noInteger_settles mode (.string contents)
    | error reached =>
      obtain ⟨run, -, -, -, rfl⟩ := Numeral.readInteger_error found
      exact .error (by simp)
  | .list [inner] => by
    refine (operand_settles mode inner).taking 1 ?_ fun _ => rfl
    intro room short
    obtain rfl : room = 0 := by omega
    rfl
  | .list [] | .list (_ :: _ :: _) | .atom _ | .bool _ | .dotted _ _ =>
    operand_settles_of_eq fun room => by cases room <;> rfl

theorem fold_settles (mode : Mode) (operator : Operator) (first : Value) (rest : List Value) :
    Settles (· = .error (.limit .depth))
      fun room => (fold mode room operator first rest).result := by
  simp only [fold, Traced.result_bind, Traced.result_each]
  apply (operand_settles mode first).bind
  intro number
  apply (Settles.mapM fun value _ => operand_settles mode value).bind
  intro numbers
  cases operator.reduce number numbers with
  | ok n => exact .ok (Value.number n)
  | error fault => exact .error (by simp)

theorem reduce_settles (mode : Mode) (operator : Operator) (values : List Value) :
    Settles (· = .error (.limit .depth))
      fun room => (reduce mode room operator values).result := by
  cases values with
  | nil => exact .error (by simp)
  | cons first rest =>
    simp only [reduce_cons]
    by_cases lone : rest.isEmpty = true
    · simp only [if_pos lone, Traced.result_bind]
      exact (fallBack_settles mode _ _).bind fun _ => fold_settles mode operator first rest
    · simp only [if_neg lone]
      exact fold_settles mode operator first rest

theorem applyWithin_settles (mode : Mode) (name : String) (values : List Value) :
    Settles (· = .error (.limit .depth))
      fun room => (applyWithin mode room name values).result := by
  unfold applyWithin
  cases Operator.ofName? name with
  | some operator => exact reduce_settles mode operator values
  | none =>
    simp only [Traced.result_bind]
    exact (fallBack_settles mode _ _).bind fun _ => .ok (Value.bool false)

theorem call_settles {mode : Mode} (name : String) {arguments : List Value}
    (each : ∀ argument ∈ arguments, Settles (· = .error (.limit .depth))
      fun room => (valueWithin mode room argument).result) :
    Settles (· = .error (.limit .depth)) fun room => (call mode name arguments room).result := by
  have inner : Settles (· = .error (.limit .depth)) fun room =>
      (call mode name arguments (room + 2)).result := by
    simp only [call, Traced.result_bind, Traced.result_each, Traced.result_emit]
    apply (Settles.mapM each).bind
    intro values
    exact applyWithin_settles mode name values
  refine inner.taking 2 ?_ fun _ => rfl
  intro room short
  obtain rfl | rfl : room = 0 ∨ room = 1 := by omega
  all_goals rfl

theorem valueWithin_settles (mode : Mode) (expression : Value) :
    Settles (· = .error (.limit .depth))
      fun room => (valueWithin mode room expression).result := by
  have shape := Form.of_inv expression
  simp only [valueWithin_eq]
  cases form : Form.of expression with
  | constant value => exact .ok value
  | unrecognized => exact .error (by simp)
  | call name arguments =>
    rw [form] at shape
    have called := call_settles name fun argument (member : argument ∈ arguments) =>
      have smaller : sizeOf argument < sizeOf expression := by
        have less := List.sizeOf_lt_of_mem member
        rw [shape, Value.list.sizeOf_spec, List.cons.sizeOf_spec]
        omega
      valueWithin_settles mode argument
    by_cases quote : name = "quote"
    · simp only [if_pos quote, Traced.result_bind]
      exact (fallBack_settles mode _ _).bind fun _ => called
    · simp only [if_neg quote]
      exact called
termination_by sizeOf expression

theorem settle_eq_tooDeep_iff {mode : Mode} {room : Nat} {expression : Value} :
    (settle (valueWithin mode room expression)).result = .error (.error .expressionTooDeep) ↔
      (valueWithin mode room expression).result = .error (.limit .depth) := by
  have ended : Ends (Yields expression) (Raises expression mode)
      (valueWithin mode room expression).result := valueWithin_ends .whole
  unfold settle
  split
  · next deep => simp [deep]
  · next shallow =>
    constructor
    · intro failed
      exact absurd rfl (ended.of_error failed).ne_expressionTooDeep
    · intro deep
      exact absurd deep shallow

theorem settle_settles (mode : Mode) (expression : Value) :
    Settles (· = .error (.error .expressionTooDeep))
      fun room => (settle (valueWithin mode room expression)).result := by
  refine (valueWithin_settles mode expression).transfer (fun _ => settle_eq_tooDeep_iff) ?_
  exact fun room more same => settle_congr same

end Evaluation

/-! ## Reading -/

def TooDeepToRead (result : Except Fault Value) : Prop :=
  ∃ cause, result = .error (.error (.unreadable cause)) ∧
    cause.reason = some "expression nested too deeply"

namespace Source

theorem tooDeepToRead_iff {room : Nat} {sourceName source : String} :
    TooDeepToRead (parseWithin room sourceName source).result ↔
      ∃ after, expression room (.start sourceName source.toList) =
        .error (.limit .depth) after := by
  constructor
  · rintro ⟨cause, failed, reason⟩
    rw [parseWithin] at failed
    split at failed
    case h_1 => contradiction
    case h_2 found after _ =>
      obtain rfl : after.report found = cause := by
        simpa [Traced.error, Traced.fail] using failed
      contradiction
    case h_3 after ran => exact ⟨after, ran⟩
    case h_4 => cases failed
  · rintro ⟨after, ran⟩
    exact ⟨_, parseWithin_of_tooDeep ran, rfl⟩

theorem parseWithin_stable {room extra : Nat} {sourceName source : String}
    (shallow : ¬ TooDeepToRead (parseWithin room sourceName source).result) :
    (parseWithin (room + extra) sourceName source).result =
      (parseWithin room sourceName source).result := by
  have valid := TokenStream.valid_start sourceName source.toList
  cases ran : expression room (.start sourceName source.toList) with
  | ok value after =>
    obtain ⟨text, rest, split, reads, ends⟩ := exists_expression_ok_iff.mp ⟨after, ran⟩
    have more := reads.mono (Nat.le_add_right room extra)
    rw [parseWithin_eq_ok_iff.mpr ⟨after, ran⟩, parseWithin_eq_ok_iff]
    exact exists_expression_ok_iff.mpr ⟨text, rest, split, more, ends⟩
  | error fault after =>
    have outcome := expression_correct room _ valid
    rw [ran] at outcome
    cases outcome with
    | stuck =>
      -- the place and what was expected there do not depend on the room
      obtain ⟨before, others, level, under, stopped, same⟩ := exists_stopsAt_of_expression ran
      obtain ⟨found, final, again, report⟩ := (stopped.raise extra).expression_eq sourceName
      rw [parseWithin_of_mismatch ran, parseWithin_of_mismatch again, report, same]
      rfl
    | tooDeep => exact absurd (tooDeepToRead_iff.mpr ⟨after, ran⟩) shallow
    | tooLong row reached follows kind long =>
      obtain ⟨final, again⟩ :=
        expression_of_tooLong (reached.raise extra) follows kind long valid row
      rw [parseWithin_of_tooLong ran, parseWithin_of_tooLong again]

theorem parseWithin_settles (sourceName source : String) :
    Settles TooDeepToRead fun room => (parseWithin room sourceName source).result := by
  constructor
  · intro room more larger shallow
    obtain ⟨extra, rfl⟩ := Nat.exists_eq_add_of_le larger
    exact parseWithin_stable shallow
  · refine ⟨2 * (Token.all source.toList).length, ?_⟩
    rw [tooDeepToRead_iff]
    rintro ⟨after, deep⟩
    have short := lt_of_tooDeep (TokenStream.valid_start sourceName source.toList) deep
    exact Nat.lt_irrefl _ short

end Source

/-- More room changes nothing but an end for want of room, and some room is enough: so every source
has an outcome that does not depend on it. -/
theorem room_only_limits :
    (∀ sourceName source : String,
      Settles TooDeepToRead fun room => (Source.parseWithin room sourceName source).result) ∧
    (∀ (mode : Mode) (expression : Value),
      Settles (· = .error (.error .expressionTooDeep)) fun room =>
        (Evaluation.settle (Evaluation.valueWithin mode room expression)).result) ∧
    (∀ value : Value, Settles (· = .error .depth) fun room => value.textWithin room) ∧
    ∀ sourceName source : String, ∃ final, ¬ TooDeepToRead final ∧
      ∃ room, ∀ more, room ≤ more →
        (Source.parseWithin more sourceName source).result = final := by
  refine ⟨Source.parseWithin_settles, Evaluation.settle_settles, Value.textWithin_settles, ?_⟩
  intro sourceName source
  exact (Source.parseWithin_settles sourceName source).exists_eventually

/-- A list takes two levels, a tail one more, and a quote mark one: five are too few for a quoted
atom in a list that is a tail, and six are as good as any number. -/
theorem room_only_limits_sample :
    TooDeepToRead (Source.parseWithin 5 "lisp" "(a . ('b))").result ∧
    ¬ TooDeepToRead (Source.parseWithin 6 "lisp" "(a . ('b))").result ∧
    parse "lisp" "(a . ('b))" = (Source.parseWithin 6 "lisp" "(a . ('b))").result := by
  have deep : (Source.parseWithin 5 "lisp" "(a . ('b))").result = .error (.error (.unreadable
      ⟨6, 1, 7, "", [], "lisp", some "expression nested too deeply"⟩)) := by
    decide +kernel
  have read : (Source.parseWithin 6 "lisp" "(a . ('b))").result =
      .ok (.dotted [.atom "a"] (.list [Value.quoted (.atom "b")])) := by
    decide +kernel
  have shallow : ¬ TooDeepToRead (Source.parseWithin 6 "lisp" "(a . ('b))").result := by
    rw [read]
    rintro ⟨cause, ⟨⟩, -⟩
  refine ⟨⟨_, deep, rfl⟩, shallow, ?_⟩
  have settled := room_only_limits.1 "lisp" "(a . ('b))"
  have more : 6 ≤ nestingRoom := by decide
  rw [parse]
  exact settled.stable more shallow

end Lisplet
