import Mathlib.Data.List.Infix
import Lisplet.Proofs.Image
import Lisplet.Proofs.Provenance

/-! The faults that a run can end with. If no run of digits in the source is too long, then the only
limit that a run ends at is that on the integer which it would print, and the errors are few. -/

set_option autoImplicit false

namespace Lisplet

open Reading

def ShortRuns (text : List Char) : Prop :=
  ∀ run, run <:+: text → (∀ c ∈ run, c.isDigit = true) → run.length ≤ digitLimit

namespace ShortRuns

variable {text part : List Char}

theorem of_infix (short : ShortRuns text) (inside : part <:+: text) : ShortRuns part :=
  fun run within digits => short run (within.trans inside) digits

theorem of_length (short : text.length ≤ digitLimit) : ShortRuns text :=
  fun _ within _ => within.length_le.trans short

theorem exists_readInteger (short : ShortRuns text) :
    ∃ found, Numeral.readInteger text = .ok found := by
  cases read : Numeral.readInteger text with
  | ok found => exact ⟨found, rfl⟩
  | error reached =>
    obtain ⟨run, within, digits, long, -⟩ := Numeral.readInteger_error read
    exact absurd (short run within digits) (Nat.not_le_of_lt long)

end ShortRuns

/-! ## Reading -/

mutual

theorem Reads.string_infix {digits room : Nat} {text : List Char} {value : Value}
    {contents : String} : Reads digits room text value → (Value.string contents).Part value →
      contents.toList <:+: text
  | .falsity => fun inside => by cases inside
  | .atom _ _ => fun inside => by cases inside
  | .number _ _ => fun inside => by cases inside
  | .string _ => fun inside => by
    cases inside with
    | whole => exact ⟨['"'], ['"'], by simp⟩
  | .quoted inner => fun inside => by
    cases inside with
    | element member within =>
      -- the name of the quote form is an atom
      rcases List.mem_pair.mp member with rfl | rfl
      · cases within
      · exact List.infix_cons (inner.string_infix within)
  | .empty => fun inside => by
    cases inside with
    | element member => cases member
  | @Reads.list _ _ front last _ _ each one => fun inside => by
    cases inside with
    | element member within =>
      rcases List.mem_append.mp member with member | member
      · exact (each.string_infix _ member within).trans ⟨['('], last ++ [')'], by simp⟩
      · rw [List.mem_singleton.mp member] at within
        exact (one.string_infix within).trans ⟨'(' :: front, [')'], by simp⟩
  | @Reads.dotted _ _ front gap last _ _ each _ one => fun inside => by
    cases inside with
    | front member within =>
      exact (each.string_infix _ member within).trans
        ⟨['('], '.' :: (gap ++ last) ++ [')'], by simp⟩
    | tail within =>
      exact (one.string_infix within).trans ⟨'(' :: front ++ '.' :: gap, [')'], by simp⟩

theorem ReadsEach.string_infix {digits room : Nat} {text : List Char} {values : List Value}
    {contents : String} : ReadsEach digits room text values →
      ∀ item ∈ values, (Value.string contents).Part item → contents.toList <:+: text
  | .nil => by simp
  | @ReadsEach.cons _ _ text gap rest _ _ first _ others => by
    rw [List.forall_mem_cons]
    constructor
    · intro within
      exact (first.string_infix within).trans ⟨[], gap ++ rest, by simp⟩
    · intro item member within
      exact (others.string_infix item member within).trans ⟨text ++ gap, [], by simp⟩

end

/-- The value could have been read, and the strings in it hold no numeral that is too long. -/
structure Value.Sound (value : Value) : Prop where
  form : value.ReaderForm
  strings : ∀ contents, (Value.string contents).Part value → ShortRuns contents.toList

theorem parse_ends (sourceName : String) {source : String} (short : ShortRuns source.toList) :
    Ends Value.Sound (fun fault => ∃ cause, fault = .error (.unreadable cause))
      (parse sourceName source) := by
  cases ran : expression nestingRoom (.start sourceName source.toList) with
  | ok value after =>
    obtain ⟨text, rest, split, reads, -⟩ := exists_expression_ok_iff.mp ⟨after, ran⟩
    have parsed : parse sourceName source = .ok value :=
      Source.parseWithin_eq_ok_iff.mpr ⟨after, ran⟩
    rw [parsed]
    refine .ok ⟨reads.readerForm, ?_⟩
    intro contents inside
    exact short.of_infix ((reads.string_infix inside).trans ⟨[], rest, by simp [split]⟩)
  | error fault after =>
    have outcome :=
      expression_correct nestingRoom _ (TokenStream.valid_start sourceName source.toList)
    rw [ran] at outcome
    cases outcome with
    | stuck =>
      rw [parse_of_mismatch ran]
      exact .error ⟨_, rfl⟩
    | tooDeep =>
      rw [parse_of_tooDeep ran]
      exact .error ⟨_, rfl⟩
    | @tooLong tokens rest token _ _ _ row _ _ kind long =>
      -- the numeral is a run of digits of the source
      change Token.all source.toList = tokens ++ token :: rest at row
      have member : token ∈ Token.all source.toList := by simp [row]
      have admitted := Token.admits_of_mem member
      rw [kind] at admitted
      have within : token.text <:+: source.toList := by
        have whole := congrArg Token.textOf row
        rw [Token.all, Token.textOf_allFrom] at whole
        exact ⟨Token.textOf tokens, Token.textOf rest, by simp [whole]⟩
      exact absurd (short _ within admitted.2) (Nat.not_le_of_lt long)

/-! ## Evaluation and printing -/

/-- The errors that a run is said to end with. -/
inductive Documented : Mode → Error → Prop where
  | unrecognizedForm {mode : Mode} (form : Value) : Documented mode (.unrecognizedForm form)
  | noOperand {mode : Mode} : Documented mode (.arity 1 [])
  | divisionByZero {mode : Mode} : Documented mode .divisionByZero
  | expressionTooDeep {mode : Mode} : Documented mode .expressionTooDeep
  | resultTooDeep {mode : Mode} : Documented mode .resultTooDeep
  | unreadable (cause : SyntaxError) : Documented .strict (.unreadable cause)
  | malformedQuote (form : Value) : Documented .strict (.malformedQuote form)
  | loneOperand (operand : Value) : Documented .strict (.arity 2 [operand])
  | noInteger (operand : Value) : Documented .strict (.typeMismatch "number" operand)
  | unknownFunction (name : String) : Documented .strict (.unknownFunction name)

theorem Raises.documented {expression : Value} {mode : Mode} {fault : Fault}
    (raised : Raises expression mode fault) (sound : expression.Sound)
    (shallow : fault ≠ .limit .depth) : ∃ cause, fault = .error cause ∧ Documented mode cause := by
  cases raised with
  | unrecognizedForm => exact ⟨_, rfl, .unrecognizedForm _⟩
  | noOperand => exact ⟨_, rfl, .noOperand⟩
  | divisionByZero => exact ⟨_, rfl, .divisionByZero⟩
  | tooDeep => contradiction
  | tooLong inside failed =>
    obtain ⟨found, read⟩ := (sound.strings _ inside).exists_readInteger
    rw [read] at failed
    contradiction
  | malformedQuote => exact ⟨_, rfl, .malformedQuote _⟩
  | loneOperand => exact ⟨_, rfl, .loneOperand _⟩
  | noInteger => exact ⟨_, rfl, .noInteger _⟩
  | unknownFunction => exact ⟨_, rfl, .unknownFunction _⟩

theorem Value.ReaderForm.of_part {part value : Value} (inside : part.Part value)
    (form : value.ReaderForm) : part.ReaderForm := by
  induction inside with
  | whole => exact form
  | element member _ ih =>
    cases form with
    | list each => exact ih (each _ member)
  | front member _ ih =>
    cases form with
    | dotted each => exact ih (each _ member)
  | tail _ ih =>
    cases form with
    | dotted _ last => exact ih last

/-- The value is a number that is too long, or only its depth can keep it from being printed. -/
def Value.Shows (value : Value) : Prop :=
  (∃ n, value = .number n ∧ Nat.pow 10 digitLimit ≤ n.natAbs) ∨
    (∃ text, value.text = .ok text) ∨ value.text = .error .depth

theorem Yields.shows {expression value : Value} (yielded : Yields expression value)
    (form : expression.ReaderForm) : value.Shows := by
  cases yielded with
  | part inside => exact .inr ((form.of_part inside).textWithin_ok_or nestingRoom)
  | number n =>
    by_cases large : Nat.pow 10 digitLimit ≤ n.natAbs
    · exact .inl ⟨n, rfl, large⟩
    · refine .inr (.inl ⟨n.repr, ?_⟩)
      rw [Value.text, Value.textWithin_number, Numeral.text_of_lt (Nat.lt_of_not_le large)]
  | falsity => exact .inr (.inl ⟨_, Value.textWithin_bool nestingRoom false⟩)

namespace Interpreter

theorem read_ends (interpreter : Interpreter) {source : String}
    (short : ShortRuns source.toList) :
    Ends (fun expression => expression.Sound ∨ ∃ contents, expression = .string contents)
      (fun fault => ∃ cause, fault = .error cause ∧ Documented interpreter.evaluationMode cause)
      (interpreter.read source) := by
  have ended := parse_ends sourceName short
  rcases interpreter.read_cases source with ⟨value, parsed, found⟩ | ⟨cause, -, strict, found⟩ |
    ⟨cause, -, -, found⟩ | ⟨reached, parsed, -⟩
  · rw [found]
    exact .ok (.inl (ended.of_ok parsed))
  · rw [found, strict]
    exact .error ⟨_, rfl, .unreadable cause⟩
  · rw [found]
    exact .ok (.inr ⟨_, rfl⟩)
  · obtain ⟨cause, other⟩ := ended.of_error parsed
    cases other

theorem eval_ends (interpreter : Interpreter) {source : String}
    (short : ShortRuns source.toList) :
    Ends Value.Shows
      (fun fault => ∃ cause, fault = .error cause ∧ Documented interpreter.evaluationMode cause)
      (interpreter.eval source) := by
  rw [eval_eq]
  refine (interpreter.read_ends short).bind ?_
  rintro expression (sound | ⟨contents, rfl⟩)
  · refine (evaluate_ends interpreter.evaluationMode expression).mono ?_ ?_
    · intro value yielded
      exact yielded.shows sound.form
    · rintro fault (rfl | ⟨shallow, raised⟩)
      · exact ⟨_, rfl, .expressionTooDeep⟩
      · exact raised.documented sound shallow
  · rw [evaluate_string]
    exact .ok (.inr (.inl ⟨_, Value.textWithin_string nestingRoom contents⟩))

theorem shown_ends {value : Value} (shows : value.Shows) :
    Ends (fun _ => True)
      (fun fault => fault = .error .resultTooDeep ∨
        fault = .limit .integer ∧ ∃ n, value = .number n ∧ Nat.pow 10 digitLimit ≤ n.natAbs)
      (shown value) := by
  rcases shows with ⟨n, rfl, large⟩ | ⟨text, written⟩ | deep
  · rw [shown_number_of_le large]
    exact .error (.inr ⟨rfl, n, rfl, large⟩)
  · rw [shown_of_text written]
    exact .ok trivial
  · rw [shown_of_tooDeep deep]
    exact .error (.inl rfl)

theorem run_ends (interpreter : Interpreter) {source : String}
    (short : ShortRuns source.toList) :
    Ends (fun _ => True)
      (fun fault => (∃ cause, fault = .error cause ∧ Documented interpreter.evaluationMode cause) ∨
        fault = .limit .integer ∧
          ∃ n, interpreter.eval source = .ok (.number n) ∧ Nat.pow 10 digitLimit ≤ n.natAbs)
      (interpreter.run source) := by
  have ended := interpreter.eval_ends short
  rw [run_eq_eval]
  cases ran : interpreter.eval source with
  | error fault => exact .error (.inl (ended.of_error ran))
  | ok value =>
    refine (shown_ends (ended.of_ok ran)).mono (fun _ _ => trivial) ?_
    rintro fault (rfl | ⟨rfl, n, rfl, large⟩)
    · exact .inl ⟨_, rfl, .resultTooDeep⟩
    · exact .inr ⟨rfl, n, rfl, large⟩

end Interpreter

/-- If no run of digits in the source is too long, then a run ends with a text, with one of few
errors, of which lenient evaluation knows five, or at the limit for the number that it would
print. -/
theorem run_faults (interpreter : Interpreter) (source : String)
    (short : ShortRuns source.toList) :
    (∀ cause, interpreter.run source = .error (.error cause) →
      Documented interpreter.evaluationMode cause) ∧
    (∀ reached, interpreter.run source = .error (.limit reached) → reached = .integer) ∧
    (interpreter.run source = .error (.limit .integer) ↔
      ∃ n, interpreter.eval source = .ok (.number n) ∧ Nat.pow 10 digitLimit ≤ n.natAbs) := by
  have ended := interpreter.run_ends short
  refine ⟨?_, ?_, ?_, ?_⟩
  · intro cause failed
    rcases ended.of_error failed with ⟨_, ⟨⟩, documented⟩ | ⟨other, -⟩
    · exact documented
    · cases other
  · intro reached failed
    rcases ended.of_error failed with ⟨_, other, -⟩ | ⟨same, -⟩
    · cases other
    · exact Fault.limit.inj same
  · intro failed
    rcases ended.of_error failed with ⟨_, other, -⟩ | ⟨-, printed⟩
    · cases other
    · exact printed
  · rintro ⟨n, evaluated, large⟩
    rw [interpreter.run_eq_eval, evaluated]
    simp only [bind, Except.bind, Interpreter.shown_number_of_le large]

theorem run_faults_sample :
    Interpreter.run ⟨"strict"⟩ "(+ 1 (* 2 \"x\"))" =
        .error (.error (.typeMismatch "number" (.string "x"))) ∧
      Documented .strict (.typeMismatch "number" (.string "x")) ∧
      ¬ Documented .lenient (.typeMismatch "number" (.string "x")) ∧
      Interpreter.run ⟨"lenient"⟩ "(+ 1 (* 2 \"x\"))" ≠ .error (.limit .depth) := by
  have short : ShortRuns "(+ 1 (* 2 \"x\"))".toList := .of_length (by decide)
  have failed : Interpreter.run ⟨"strict"⟩ "(+ 1 (* 2 \"x\"))" =
      .error (.error (.typeMismatch "number" (.string "x"))) := by
    decide +kernel
  refine ⟨failed, (run_faults ⟨"strict"⟩ _ short).1 _ failed, ?_, ?_⟩
  · intro documented
    cases documented
  · intro deep
    cases (run_faults ⟨"lenient"⟩ _ short).2.1 _ deep

end Lisplet
