import Lisplet.CommandLine
import Lisplet.Proofs.Faults
import Lisplet.Proofs.Room

/-! What the command line makes of an error. It exits with the message, unless the message cannot be
made: because the expression is nested too deeply to be printed, or because a lone operand is an
integer that is too long. -/

set_option autoImplicit false

namespace Lisplet

/-! ## The debug log -/

theorem Event.write_ends (event : Event) :
    Ends (fun _ => True) (· = .limit .depth) event.write.result := by
  unfold write
  split
  · exact .ok trivial
  · exact .ok trivial
  · exact .error rfl
  · exact .ok trivial

theorem Traced.result_logged {α : Type} (debug : Bool) (computation : Traced Event α) :
    (computation.logged debug).result = computation.result ∨
      (computation.logged debug).result = .error (.limit .depth) := by
  cases debug with
  | false =>
    rw [logged_false, result_ofResult]
    exact .inl rfl
  | true =>
    have written := Ends.mapM fun event (_ : event ∈ computation.events) => event.write_ends
    rw [← result_each] at written
    simp only [logged, ↓reduceIte, result_bind, result_ofResult]
    cases ran : (each Event.write computation.events).result with
    | ok lines => exact .inl rfl
    | error fault =>
      rw [written.of_error ran]
      exact .inr rfl

namespace Interpreter

variable {interpreter : Interpreter} {code : String} {cause : Error}

theorem read_of_logged {debug : Bool} {result : Except Fault Value}
    (ran : ((interpreter.readTraced code).logged debug).result = result)
    (shallow : result ≠ .error (.limit .depth)) : interpreter.read code = result := by
  rcases Traced.result_logged debug (interpreter.readTraced code) with same | deep
  · exact same.symm.trans ran
  · exact absurd (ran.symm.trans deep) shallow

theorem evaluate_of_logged {debug : Bool} {mode : Mode} {expression : Value}
    {result : Except Fault Value}
    (ran : (Evaluation.settle
      ((Evaluation.valueWithin mode nestingRoom expression).logged debug)).result = result)
    (shallow : result ≠ .error (.error .expressionTooDeep)) :
    evaluate mode expression = result := by
  rcases Traced.result_logged debug (Evaluation.valueWithin mode nestingRoom expression) with
    same | deep
  · exact (Evaluation.settle_congr same).symm.trans ran
  · rw [Evaluation.settle, deep] at ran
    exact absurd ran.symm shallow

/-- With the log, an error is one of the run without it, or it is nesting that the log found to be
too deep. -/
theorem run_of_runLogged {debug : Bool}
    (failed : (interpreter.runLogged debug code).result = .error (.error cause)) :
    cause = .expressionTooDeep ∨ interpreter.run code = .error (.error cause) := by
  by_cases deep : cause = .expressionTooDeep
  · exact .inl deep
  refine .inr ?_
  simp only [runLogged, evalLogged, Traced.result_bind, Traced.result_ofResult,
    Traced.result_pure, bind_assoc] at failed
  rw [run_eq]
  rcases eq_error_of_bind failed with ran | ⟨expression, ran, failed⟩
  · rw [read_of_logged ran (by simp)]
    rfl
  rw [read_of_logged ran (by simp)]
  rcases eq_error_of_bind failed with ran | ⟨value, ran, failed⟩
  · have evaluated := evaluate_of_logged ran (by simpa using deep)
    simp only [bind, Except.bind, evaluated]
  have evaluated := evaluate_of_logged ran (by simp)
  rcases eq_error_of_bind failed with ran | ⟨_, _, printed⟩
  · -- a line that cannot be written is a limit and no error
    rcases Traced.result_logged debug (.emit (.evaluated code value)) with same | same
    · rw [same] at ran
      cases ran
    · rw [same] at ran
      cases ran
  · simp only [bind, Except.bind, evaluated]
    exact printed

theorem resultTooDeep_of_shown {value : Value} (failed : shown value = .error (.error cause)) :
    cause = .resultTooDeep := by
  unfold shown at failed
  split at failed
  · cases failed
  · cases failed
    rfl
  · cases failed

theorem run_error_cases (failed : interpreter.run code = .error (.error cause)) :
    (∃ found, cause = .unreadable found) ∨ cause = .expressionTooDeep ∨ cause = .resultTooDeep ∨
      ∃ expression, parse sourceName code = .ok expression ∧
        Raises expression interpreter.evaluationMode (.error cause) := by
  rcases interpreter.read_cases code with ⟨expression, parsed, found⟩ | ⟨cause, -, -, found⟩ |
    ⟨cause, parsed, leniently, -⟩ | ⟨reached, -, found⟩
  · rw [run_eq, found] at failed
    rcases eq_error_of_bind (show evaluate _ expression >>= shown = _ from failed) with
      raised | ⟨value, -, printed⟩
    · rcases (evaluate_ends interpreter.evaluationMode expression).of_error raised with
        same | ⟨-, raised⟩
      · exact .inr (.inl (Fault.error.inj same))
      · exact .inr (.inr (.inr ⟨expression, parsed, raised⟩))
    · exact .inr (.inr (.inl (resultTooDeep_of_shown printed)))
  · rw [run_eq, found] at failed
    cases failed
    exact .inl ⟨cause, rfl⟩
  · rw [run_of_unreadable leniently parsed] at failed
    cases failed
  · rw [run_eq, found] at failed
    cases failed

end Interpreter

/-! ## Messages -/

theorem Value.Part.exists_text {part whole : Value} (inside : part.Part whole) {room : Nat}
    {text : String} (written : whole.textWithin room = .ok text) :
    ∃ word, part.textWithin room = .ok word := by
  induction inside generalizing text with
  | whole => exact ⟨text, written⟩
  | element member _ ih =>
    obtain ⟨inner, rfl, each, -⟩ := toList_of_textWithin_list written
    obtain ⟨word, found⟩ := each _ member
    exact ih (textWithin_mono (by omega) found)
  | front member _ ih =>
    obtain ⟨inner, last, rfl, each, -⟩ := toList_of_textWithin_dotted written
    obtain ⟨word, found⟩ := each _ member
    exact ih (textWithin_mono (by omega) found)
  | tail _ ih =>
    obtain ⟨inner, last, rfl, -, found, -⟩ := toList_of_textWithin_dotted written
    exact ih (textWithin_mono (by omega) found)

/-- Why the message of an error about an expression cannot be made. -/
inductive Unprinted (expression : Value) : Mode → Error → Limit → Prop where
  | tooDeep {mode : Mode} {cause : Error} : expression.text = .error .depth →
      Unprinted expression mode cause .depth
  | tooLong {n : Int} : Nat.pow 10 digitLimit ≤ n.natAbs →
      Unprinted expression .strict (.arity 2 [.number n]) .integer

section

variable {expression value : Value} {mode : Mode} {cause : Error}

/-- If a part of what was read cannot be printed, then the whole of it cannot be. -/
theorem text_ends_of_part (form : expression.ReaderForm) (inside : value.Part expression) :
    Ends (fun _ => True) (Unprinted expression mode cause) value.text := by
  rcases (form.of_part inside).textWithin_ok_or nestingRoom with ⟨text, written⟩ | deep
  · rw [Value.text, written]
    exact .ok trivial
  · rw [Value.text, deep]
    refine .error (.tooDeep ((form.textWithin_ok_or nestingRoom).resolve_left ?_))
    rintro ⟨text, written⟩
    obtain ⟨word, found⟩ := inside.exists_text written
    rw [found] at deep
    contradiction

theorem text_ends_of_yields (form : expression.ReaderForm) (yielded : Yields expression value)
    (other : ∀ n, value ≠ .number n) :
    Ends (fun _ => True) (Unprinted expression mode cause) value.text := by
  cases yielded with
  | part inside => exact text_ends_of_part form inside
  | number n => cases other n rfl
  | falsity =>
    rw [Value.text, Value.textWithin_bool]
    exact .ok trivial

theorem text_ends_of_number (n : Int) :
    Ends (fun _ => True) (Unprinted expression .strict (.arity 2 [.number n]))
      (Value.number n).text := by
  rw [Value.text, Value.textWithin_number]
  by_cases large : Nat.pow 10 digitLimit ≤ n.natAbs
  · rw [Numeral.text_of_le large]
    exact .error (.tooLong large)
  · rw [Numeral.text_of_lt (Nat.lt_of_not_le large)]
    exact .ok trivial

theorem message_arity_ends {expected : Int} {bad : Limit → Prop}
    (ended : Ends (fun _ => True) bad value.text) :
    Ends (fun _ => True) bad (Error.arity expected [value]).message := by
  have words : Ends (fun _ => True) bad (Value.textOfAll [value]) := by
    have each : ∀ item ∈ [value], Ends (fun _ => True) bad item.text := by simpa using ended
    exact (Ends.mapM each).bind fun _ _ => .ok trivial
  exact words.map _

theorem Raises.message_ends (raised : Raises expression mode (.error cause))
    (form : expression.ReaderForm) :
    Ends (fun _ => True) (Unprinted expression mode cause) cause.message := by
  generalize same : Fault.error cause = fault at raised
  cases raised with
  | unrecognizedForm inside =>
    cases same
    exact (text_ends_of_part form inside).map _
  | noOperand =>
    cases same
    exact .ok trivial
  | divisionByZero =>
    cases same
    exact .ok trivial
  | tooDeep => cases same
  | tooLong => cases same
  | malformedQuote inside =>
    cases same
    exact (text_ends_of_part form inside).map _
  | @loneOperand operand yielded =>
    cases same
    apply message_arity_ends
    -- an integer may have been computed, so that it is no part of the expression
    by_cases number : ∃ n, operand = .number n
    · obtain ⟨n, rfl⟩ := number
      exact text_ends_of_number n
    · exact text_ends_of_yields form yielded (not_exists.mp number)
  | noInteger yielded other =>
    cases same
    exact (text_ends_of_yields form yielded other).map _
  | unknownFunction =>
    cases same
    exact .ok trivial

end

theorem Interpreter.message_ends {interpreter : Interpreter} {debug : Bool} {code : String}
    {cause : Error}
    (failed : (interpreter.runLogged debug code).result = .error (.error cause)) :
    Ends (fun _ => True)
      (fun reached => ∃ value, parse sourceName code = .ok value ∧
        Unprinted value interpreter.evaluationMode cause reached)
      cause.message := by
  rcases run_of_runLogged failed with rfl | failed
  · exact .ok trivial
  rcases run_error_cases failed with ⟨found, rfl⟩ | rfl | rfl | ⟨value, parsed, raised⟩
  · exact .ok trivial
  · exact .ok trivial
  · exact .ok trivial
  · have form := (exists_parse_ok_iff.mp ⟨code, parsed⟩).1
    exact (raised.message_ends form).mono (fun _ _ => trivial) fun _ lost => ⟨value, parsed, lost⟩

/-! ## Reports -/

namespace CommandLine

/-- The arguments ask for the expression to be run in the mode, with the log or without it. -/
inductive Asks (environment : Environment) (arguments : List String) (expression : String)
    (mode : Option Mode) (debug : Bool) : Prop where
  | intro {verbose : Bool} : parseArguments arguments = .ok (.run expression mode verbose) →
      debugging environment verbose = .ok debug →
      Asks environment arguments expression mode debug

section

variable {environment : Environment} {arguments : List String} {expression : String}
  {mode : Option Mode} {debug : Bool} {interpreter : Interpreter}

theorem Asks.run_eq (asks : Asks environment arguments expression mode debug) :
    run environment arguments =
      match Interpreter.make environment none (mode.map Mode.name) with
      | .ok interpreter => .of (interpreter.runLogged debug expression)
      | .error cause => ⟨"", "", .setting cause⟩ := by
  cases asks with
  | intro asked level =>
    simp only [run, asked, execute, level, bind, Except.bind]
    cases Interpreter.make environment none (mode.map Mode.name) with
    | ok interpreter => rfl
    | error cause => rfl

def Runs (environment : Environment) (arguments : List String) (interpreter : Interpreter)
    (debug : Bool) (expression : String) : Prop :=
  ∃ mode, Asks environment arguments expression mode debug ∧
    Interpreter.make environment none (mode.map Mode.name) = .ok interpreter

theorem Runs.run_eq (runs : Runs environment arguments interpreter debug expression) :
    run environment arguments = .of (interpreter.runLogged debug expression) := by
  obtain ⟨mode, asks, made⟩ := runs
  rw [asks.run_eq, made]

end

/-- An error is reported by its message and the exit code 1, unless the message cannot be made. Then
the limit that it ran into leaves the program, with nothing but the log written: the expression is
nested too deeply to be printed, or a lone operand is too long an integer. -/
theorem report_of_error (environment : Environment) (arguments : List String)
    (interpreter : Interpreter) (debug : Bool) (expression : String) (cause : Error)
    (runs : Runs environment arguments interpreter debug expression)
    (failed : (interpreter.runLogged debug expression).result = .error (.error cause)) :
    (∃ message, cause.message = .ok message ∧
      run environment arguments =
        ⟨"", unlines (interpreter.runLogged debug expression).events ++
          "error: " ++ message ++ "\n", .exit 1⟩) ∨
    ∃ reached value, cause.message = .error reached ∧
      run environment arguments =
        ⟨"", unlines (interpreter.runLogged debug expression).events, .fault reached⟩ ∧
      parse Interpreter.sourceName expression = .ok value ∧
      Unprinted value interpreter.evaluationMode cause reached := by
  rw [runs.run_eq]
  simp only [Report.of, failed]
  cases found : cause.message with
  | ok message => exact .inl ⟨message, rfl, rfl⟩
  | error reached =>
    obtain ⟨value, parsed, lost⟩ := (Interpreter.message_ends failed).of_error found
    exact .inr ⟨reached, value, rfl, rfl, parsed, lost⟩

theorem report_of_error_sample :
    Runs ⟨none, none⟩ ["(+ (* 6 7))", "--strict"] ⟨"strict"⟩ false "(+ (* 6 7))" ∧
    (Interpreter.runLogged ⟨"strict"⟩ false "(+ (* 6 7))").result =
      .error (.error (.arity 2 [.number 42])) ∧
    run ⟨none, none⟩ ["(+ (* 6 7))", "--strict"] =
      ⟨"", "error: Expected 2 args; found values 42\n", .exit 1⟩ := by
  have asked : parseArguments ["(+ (* 6 7))", "--strict"] =
      .ok (.run "(+ (* 6 7))" (some .strict) false) := by
    decide +kernel
  have runs : Runs ⟨none, none⟩ ["(+ (* 6 7))", "--strict"] ⟨"strict"⟩ false "(+ (* 6 7))" :=
    ⟨_, .intro asked (by decide +kernel), rfl⟩
  have failed : (Interpreter.runLogged ⟨"strict"⟩ false "(+ (* 6 7))").result =
      .error (.error (.arity 2 [.number 42])) := by
    decide +kernel
  have said : (Error.arity 2 [.number 42]).message = .ok "Expected 2 args; found values 42" := by
    decide +kernel
  refine ⟨runs, failed, ?_⟩
  rcases report_of_error _ _ _ _ _ _ runs failed with ⟨message, shown, report⟩ | ⟨_, _, lost, -⟩
  · obtain rfl := Except.ok.inj (said.symm.trans shown)
    rw [report]
    decide +kernel
  · rw [said] at lost
    cases lost

/-! ## Messages that are lost -/

theorem classify_of_opening {text : String} {rest : List Char}
    (opens : text.toList = '(' :: rest) : classify text = .ok (.operand text) := by
  unfold classify
  rw [opens]
  rfl

def flags (mode : Option Mode) (verbose : Bool) : List String :=
  (mode.map fun mode => "--" ++ mode.name).toList ++ if verbose then ["-v"] else []

theorem Asks.of_opening {text : String} {rest : List Char} (opens : text.toList = '(' :: rest)
    (mode : Option Mode) (verbose : Bool) :
    Asks ⟨none, none⟩ (flags mode verbose ++ [text]) text mode verbose := by
  have operand := classify_of_opening opens
  have asked : parseArguments (flags mode verbose ++ [text]) = .ok (.run text mode verbose) := by
    unfold parseArguments
    rcases mode with _ | _ | _ <;> cases verbose <;> simp [flags, classifyAll, operand] <;> rfl
  exact .intro asked (by cases verbose <;> decide +kernel)

theorem Runs.of_opening {text : String} {rest : List Char} (opens : text.toList = '(' :: rest)
    (mode : Mode) :
    Runs ⟨none, none⟩ (flags (some mode) false ++ [text]) ⟨mode.name⟩ false text :=
  ⟨some mode, .of_opening opens _ _, by cases mode <;> rfl⟩

theorem exists_lost {mode : Mode} {rest : List Char} {value : Value} {cause : Error}
    {reached : Limit} (reads : Reads digitLimit nestingRoom ('(' :: rest) value)
    (raised : evaluate mode value = .error (.error cause))
    (lost : cause.message = .error reached) :
    ∃ arguments source, Runs ⟨none, none⟩ arguments ⟨mode.name⟩ false source ∧
      (Interpreter.runLogged ⟨mode.name⟩ false source).result = .error (.error cause) ∧
      parse Interpreter.sourceName source = .ok value ∧
      (run ⟨none, none⟩ arguments).outcome = .fault reached := by
  have chars : (String.ofList ('(' :: rest)).toList = '(' :: rest := String.toList_ofList
  have parsed : parse Interpreter.sourceName (String.ofList ('(' :: rest)) = .ok value := by
    apply parse_of_whole
    rwa [chars]
  have failed : Interpreter.run ⟨mode.name⟩ (String.ofList ('(' :: rest)) =
      .error (.error cause) := by
    apply Interpreter.run_of_evaluate parsed
    rwa [Interpreter.evaluationMode, Mode.ofText_name]
  rw [Interpreter.run] at failed
  have runs := Runs.of_opening chars mode
  refine ⟨_, _, runs, failed, parsed, ?_⟩
  rw [runs.run_eq]
  simp only [Report.of, failed, lost]

def nestedLists : Nat → Value
  | 0 => .list []
  | depth + 1 => .list [nestedLists depth]

def nestedListsText : Nat → List Char
  | 0 => ['(', ')']
  | depth + 1 => '(' :: ([] ++ nestedListsText depth ++ [')'])

theorem reads_nestedLists (digits depth : Nat) :
    Reads digits (2 * depth + 2) (nestedListsText depth) (nestedLists depth) := by
  induction depth with
  | zero => exact .empty
  | succ depth ih => exact .list .nil ih

theorem textWithin_nestedLists {room depth : Nat} (short : room < 3 * depth + 3) :
    (nestedLists depth).textWithin room = .error .depth := by
  induction depth generalizing room with
  | zero => exact Value.textWithin_list_of_lt short []
  | succ depth ih =>
    rcases Nat.lt_or_ge room 3 with less | enough
    · exact Value.textWithin_list_of_lt less _
    · obtain ⟨inner, rfl⟩ := Nat.exists_eq_add_of_le' enough
      rw [nestedLists, Value.textWithin_list, List.mapM_cons, ih (by omega)]
      rfl

theorem evaluate_nestedLists (mode : Mode) (depth : Nat) :
    evaluate mode (nestedLists depth) =
      .error (.error (.unrecognizedForm (nestedLists depth))) := by
  have form : Evaluation.Form.of (nestedLists depth) = .unrecognized := by
    cases depth with
    | zero => rfl
    | succ depth => cases depth <;> rfl
  rw [evaluate, Evaluation.valueWithin_eq, form]
  rfl

theorem message_nestedLists {depth : Nat} (deep : nestingRoom < 3 * depth + 3) :
    (Error.unrecognizedForm (nestedLists depth)).message = .error .depth := by
  rw [Error.unrecognizedForm, Error.message, Value.text, textWithin_nestedLists deep]
  rfl

def loneSquare (n : Int) : Value :=
  .list [.atom "+", .list [.atom "*", .number n, .number n]]

def loneSquareText (numeral : List Char) : List Char :=
  ['(', '+', ' ', '(', '*', ' '] ++ numeral ++ ' ' :: numeral ++ [')', ')']

theorem reads_loneSquare {room : Nat} {numeral : List Char}
    (admitted : Token.Kind.number.Admits numeral) (short : numeral.length ≤ digitLimit) :
    Reads digitLimit (room + 4) (loneSquareText numeral)
      (loneSquare (Numeral.value 10 numeral)) := by
  have blank := Token.Kind.admits_blank
  have symbol {room : Nat} {c : Char} (starts : isAtomStart c = true) :
      Reads digitLimit room [c] (.atom (String.ofList [c])) :=
    .atom ⟨by simpa using starts, by simp [isAtomChar, starts]⟩ (by simp)
  have number {room : Nat} : Reads digitLimit room numeral (.number (Numeral.value 10 numeral)) :=
    .number admitted short
  have product : Reads digitLimit (room + 2) _ _ :=
    .list (.cons (symbol (c := '*') rfl) blank (.cons number blank .nil)) number
  have sum := Reads.list (.cons (symbol (c := '+') rfl) blank .nil) product
  simpa [loneSquareText, loneSquare] using sum

theorem evaluate_loneSquare (n : Int) :
    evaluate .strict (loneSquare n) = .error (.error (.arity 2 [.number (n * n)])) := by
  rfl

theorem text_loneSquare {n : Int} (short : n.natAbs < Nat.pow 10 digitLimit) :
    (loneSquare n).text = .ok ("(" ++ unwords
      ["+", "(" ++ unwords ["*", n.repr, n.repr] ++ ")"] ++ ")") := by
  have number (room : Nat) : (Value.number n).textWithin room = .ok n.repr := by
    rw [Value.textWithin_number, Numeral.text_of_lt short]
  have product (room : Nat) : (Value.list [.atom "*", .number n, .number n]).textWithin (room + 3) =
      .ok ("(" ++ unwords ["*", n.repr, n.repr] ++ ")") := by
    rw [Value.textWithin_list]
    simp only [List.mapM_cons, List.mapM_nil, Value.textWithin_atom, number]
    rfl
  have sum (room : Nat) : (loneSquare n).textWithin (room + 6) = .ok ("(" ++ unwords
      ["+", "(" ++ unwords ["*", n.repr, n.repr] ++ ")"] ++ ")") := by
    rw [loneSquare, Value.textWithin_list]
    simp only [List.mapM_cons, List.mapM_nil, Value.textWithin_atom, product]
    rfl
  exact sum (nestingRoom - 6)

theorem message_loneSquare {n : Int} (large : Nat.pow 10 digitLimit ≤ (n * n).natAbs) :
    (Error.arity 2 [.number (n * n)]).message = .error .integer := by
  rw [Error.message, Value.textOfAll, List.mapM_cons, Value.text, Value.textWithin_number,
    Numeral.text_of_le large]
  rfl

theorem pow_le_square {limit zeros : Nat} (enough : limit ≤ zeros + zeros) :
    Nat.pow 10 limit ≤ ((Nat.pow 10 zeros : Int) * (Nat.pow 10 zeros : Int)).natAbs := by
  have square : Nat.pow 10 (zeros + zeros) = Nat.pow 10 zeros * Nat.pow 10 zeros :=
    Nat.pow_add 10 zeros zeros
  rw [Int.natAbs_mul, Int.natAbs_natCast, ← square]
  exact Nat.pow_le_pow_right (by decide) enough

theorem reads_roundSquare {zeros : Nat} (short : zeros < digitLimit) :
    Reads digitLimit nestingRoom (loneSquareText (roundNumeral zeros))
      (loneSquare (Nat.pow 10 zeros)) ∧
    ((Nat.pow 10 zeros : Nat) : Int).natAbs < Nat.pow 10 digitLimit := by
  have admitted := admits_roundNumeral zeros
  have length : (roundNumeral zeros).length ≤ digitLimit := by
    simpa [roundNumeral] using Nat.succ_le_of_lt short
  have reads : Reads digitLimit nestingRoom _ _ := reads_loneSquare admitted length
  rw [value_roundNumeral] at reads
  refine ⟨reads, ?_⟩
  rw [Int.natAbs_natCast, ← value_roundNumeral]
  exact Numeral.value_lt_of_length_le admitted.2 length

theorem exists_lost_loneSquare {zeros : Nat} (short : zeros < digitLimit)
    (enough : digitLimit ≤ zeros + zeros) :
    ∃ arguments source cause text, Runs ⟨none, none⟩ arguments ⟨Mode.strict.name⟩ false source ∧
      (Interpreter.runLogged ⟨Mode.strict.name⟩ false source).result = .error (.error cause) ∧
      parse Interpreter.sourceName source = .ok (loneSquare (Nat.pow 10 zeros)) ∧
      (loneSquare (Nat.pow 10 zeros)).text = .ok text ∧
      (run ⟨none, none⟩ arguments).outcome = .fault .integer := by
  obtain ⟨reads, small⟩ := reads_roundSquare short
  obtain ⟨arguments, source, runs, failed, parsed, outcome⟩ :=
    exists_lost reads (evaluate_loneSquare _) (message_loneSquare (pow_le_square enough))
  exact ⟨arguments, source, _, _, runs, failed, parsed, text_loneSquare small, outcome⟩

/-- Lists that are read and not printed, and a lone operand that is too long, although the
expression is printed: neither error is reported. -/
theorem not_every_error_reported :
    (¬ ∀ (environment : Environment) (arguments : List String) (interpreter : Interpreter)
      (debug : Bool) (expression : String) (cause : Error),
      Runs environment arguments interpreter debug expression →
      (interpreter.runLogged debug expression).result = .error (.error cause) →
      (run environment arguments).outcome = .exit 1) ∧
    ¬ ∀ (environment : Environment) (arguments : List String) (interpreter : Interpreter)
      (debug : Bool) (expression : String) (cause : Error) (value : Value) (text : String),
      Runs environment arguments interpreter debug expression →
      (interpreter.runLogged debug expression).result = .error (.error cause) →
      parse Interpreter.sourceName expression = .ok value → value.text = .ok text →
      (run environment arguments).outcome = .exit 1 := by
  constructor
  · intro reported
    obtain ⟨arguments, source, runs, failed, -, outcome⟩ :=
      exists_lost ((reads_nestedLists digitLimit (nestingRoom / 3 + 1)).mono (by decide))
        (evaluate_nestedLists .lenient _) (message_nestedLists (by decide))
    rw [reported _ _ _ _ _ _ runs failed] at outcome
    cases outcome
  · intro reported
    obtain ⟨arguments, source, cause, text, runs, failed, parsed, printed, outcome⟩ :=
      @exists_lost_loneSquare 2200 (by decide) (by decide)
    rw [reported _ _ _ _ _ _ _ _ runs failed parsed printed] at outcome
    cases outcome

end CommandLine

end Lisplet
