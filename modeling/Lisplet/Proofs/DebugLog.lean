import Lisplet.Proofs.Arithmetic
import Lisplet.Proofs.Records

/-! Runs with the debug log and without it. The log adds lines and nothing else if the expression
can be described. An expression that is nested too deeply for that ends the run that is logged,
whatever the other run comes to. -/

set_option autoImplicit false

namespace Lisplet

/-! ## Runs -/

namespace Interpreter

variable {interpreter : Interpreter} {code : String}

def evalTraced (interpreter : Interpreter) (code : String) : Traced Event Value := do
  let expression ← interpreter.readTraced code
  let value ← Evaluation.settle
    (Evaluation.valueWithin interpreter.evaluationMode nestingRoom expression)
  Traced.emit (.evaluated code value)
  pure value

def runTraced (interpreter : Interpreter) (code : String) : Traced Event String := do
  let value ← interpreter.evalTraced code
  .ofResult (shown value)

end Interpreter

theorem Traced.forall_events_bind {ε α β : Type} {good : ε → Prop} {first : Traced ε α}
    {next : α → Traced ε β} :
    (∀ event ∈ (first >>= next).events, good event) ↔
      (∀ event ∈ first.events, good event) ∧
        ∀ value, first.result = .ok value → ∀ event ∈ (next value).events, good event := by
  obtain ⟨events, result⟩ := first
  cases result with
  | error fault => simp [bind, andThen]
  | ok value => simp only [bind, andThen, List.forall_mem_append, Except.ok.injEq, forall_eq']

theorem Traced.exists_events_bind {ε α β : Type} (first : Traced ε α) (next : α → Traced ε β) :
    ∃ rest, (first >>= next).events = first.events ++ rest := by
  obtain ⟨events, result⟩ := first
  cases result with
  | error fault => exact ⟨[], (List.append_nil events).symm⟩
  | ok value => exact ⟨_, rfl⟩

theorem Evaluation.events_settle {ε : Type} (computation : Traced ε Value) :
    (settle computation).events = computation.events := by
  unfold settle
  split <;> rfl

theorem Evaluation.settle_written (computation : Traced Event Value) :
    settle computation.written = (settle computation).written := by
  obtain ⟨events, result⟩ := computation
  rcases result with (_ | _ | _ | _) | _ <;> rfl

namespace Interpreter

variable {interpreter : Interpreter} {code : String}

theorem runLogged_eq (described : Source.Described sourceName code) :
    interpreter.runLogged true code = (interpreter.runTraced code).written := by
  have reading : (interpreter.readTraced code).Writes (Value.Fits nestingRoom) :=
    readTraced_writes described
  simp only [runLogged, evalLogged, runTraced, evalTraced, Traced.written_bind,
    Traced.logged_eq fun event member => (reading.events event member).result]
  congr 1
  refine Traced.bind_congr fun expression found => ?_
  -- the room that the expression is described with is enough for what is noted of its value
  have evaluation : (Evaluation.valueWithin interpreter.evaluationMode nestingRoom
      expression).Writes (Value.Recorded nestingRoom) :=
    Evaluation.valueWithin_writes (reading.value expression found)
  rw [Traced.logged_eq fun event member => (evaluation.events event member).result,
    Evaluation.settle_written]
  refine Traced.bind_congr fun value evaluated => ?_
  have recorded := evaluation.value value (Evaluation.result_of_settle evaluated)
  have noted : ∀ event ∈ (Traced.emit (Event.evaluated code value)).events,
      event.write.result = .ok () := by simpa using write_evaluated code recorded
  rw [Traced.logged_eq noted]
  rfl

theorem result_runTraced (interpreter : Interpreter) (code : String) :
    (interpreter.runTraced code).result = interpreter.run code := by
  simp only [run_eq, runTraced, evalTraced, Traced.result_bind, Traced.result_ofResult,
    Traced.result_emit, Traced.result_pure, bind_assoc, read, evaluate]
  rfl

theorem recorded_of_eval (described : Source.Described sourceName code) {value : Value}
    (evaluated : interpreter.eval code = .ok value) : value.Recorded nestingRoom := by
  rw [eval_eq] at evaluated
  obtain ⟨expression, found, evaluated⟩ := eq_ok_of_bind evaluated
  have fits := (readTraced_writes described).value expression found
  exact (Evaluation.valueWithin_writes fits).value value (Evaluation.result_of_settle evaluated)

/-- Only the record of the value of an expression that can be described is in doubt. -/
theorem forall_events_iff (described : Source.Described sourceName code) {good : Event → Prop}
    (written : ∀ event, event.Written → good event) :
    (∀ event ∈ (interpreter.runTraced code).events, good event) ↔
      ∀ value, interpreter.eval code = .ok value → good (.evaluated code value) := by
  have reading : (interpreter.readTraced code).Writes (Value.Fits nestingRoom) :=
    readTraced_writes described
  simp only [runTraced, evalTraced, Traced.forall_events_bind, Traced.events_emit,
    Traced.events_ofResult, Traced.events_pure, List.forall_mem_singleton,
    Evaluation.events_settle, eval_eq]
  constructor
  · rintro ⟨⟨-, every⟩, -⟩ value evaluated
    obtain ⟨expression, found, evaluated⟩ := eq_ok_of_bind evaluated
    exact ((every expression found).2 value evaluated).1
  · intro last
    refine ⟨⟨fun event member => written event (reading.events event member), ?_⟩, by simp⟩
    intro expression found
    have evaluation : (Evaluation.valueWithin interpreter.evaluationMode nestingRoom
        expression).Writes (Value.Recorded nestingRoom) :=
      Evaluation.valueWithin_writes (reading.value expression found)
    refine ⟨fun event member => written event (evaluation.events event member), ?_⟩
    intro value evaluated
    refine ⟨last value ?_, by simp⟩
    rw [read, found]
    exact evaluated

theorem write_of_mem_events (described : Source.Described sourceName code) {event : Event}
    (member : event ∈ (interpreter.runTraced code).events) : event.write.result = .ok () := by
  refine (forall_events_iff described fun _ written => written.result).mpr ?_ event member
  intro value evaluated
  exact write_evaluated code (recorded_of_eval described evaluated)

theorem forall_written_iff (described : Source.Described sourceName code) :
    (∀ event ∈ (interpreter.runTraced code).events, event.Written) ↔
      ¬ ∃ n, interpreter.eval code = .ok (.number n) ∧ Nat.pow 10 digitLimit ≤ n.natAbs := by
  rw [forall_events_iff described fun _ written => written]
  constructor
  · rintro every ⟨n, evaluated, large⟩
    have printed := (written_evaluated_iff code _).mp (every _ evaluated)
    exact (exists_text_iff (recorded_of_eval described evaluated)).mp printed ⟨n, rfl, large⟩
  · intro short value evaluated
    rw [written_evaluated_iff, exists_text_iff (recorded_of_eval described evaluated)]
    rintro ⟨n, rfl, large⟩
    exact short ⟨n, evaluated, large⟩

theorem runLogged_of_undescribed (interpreter : Interpreter) {value : Value}
    (parsed : parse sourceName code = .ok value) (deep : value.description = .error .depth) :
    ∃ front rest, (interpreter.runTraced code).events = front ++ .parsed code value :: rest ∧
      (∀ event ∈ front, event.Written) ∧
      interpreter.runLogged true code = ⟨front.flatMap Event.lines, .error (.limit .depth)⟩ := by
  obtain ⟨front, events, written⟩ := interpreter.exists_readTraced_events parsed
  have lost : (Event.parsed code value).write = .fail (.limit .depth) := by
    rw [Event.write, Event.record, deep]
    rfl
  have logged := Traced.logged_of_unwritten events
    (fun event member => (written event member).result) lost
  obtain ⟨rest, later⟩ := (interpreter.readTraced code).exists_events_bind _
  obtain ⟨others, last⟩ := (interpreter.evalTraced code).exists_events_bind _
  refine ⟨front, rest ++ others, ?_, written, ?_⟩
  · rw [runTraced, last, evalTraced, later, events]
    simp
  · rw [runLogged, evalLogged, logged]
    rfl

theorem events_runLogged_false (interpreter : Interpreter) (code : String) :
    (interpreter.runLogged false code).events = [] := by
  apply List.eq_nil_iff_forall_not_mem.mpr
  simp [runLogged, evalLogged, Traced.forall_events_bind, Evaluation.events_settle]

end Interpreter

theorem Interpreter.make_congr {environment other : Environment}
    (same : other.mode = environment.mode) (mode : Option String) :
    make other none mode = make environment none mode := by
  simp only [make, Environment.evaluationMode, same]

theorem Interpreter.make_unset :
    make ⟨none, none⟩ none (Option.map Mode.name none) = .ok ⟨Mode.lenient.name⟩ :=
  rfl

namespace CommandLine

def eventsOf (environment : Environment) (mode : Option Mode) (expression : String) : List Event :=
  match Interpreter.make environment none (mode.map Mode.name) with
  | .ok interpreter => (interpreter.runTraced expression).events
  | .error _ => []

/-- The one report is the other with the lines of the events in front of what goes to the channel of
the log. -/
def AddsLog (events : List Event) (quiet loud : Report) : Prop :=
  loud = { quiet with stderr := unlines (events.flatMap Event.lines) ++ quiet.stderr }

theorem Report.addsLog {quiet : Traced String String} {loud : Traced Event String}
    (silent : quiet.events = []) (same : loud.result = quiet.result) :
    AddsLog loud.events (.of quiet) (.of loud.written) := by
  have nothing : unlines [] = "" := rfl
  simp only [AddsLog, Report.of, Traced.written, same, silent, nothing]
  cases quiet.result with
  | ok text => simp
  | error fault =>
    cases fault with
    | limit reached => simp
    | error cause =>
      cases said : cause.message with
      | ok message => simp [said, String.append_assoc]
      | error reached => simp [said]

/-- The settings let the expression be run, and it is read as a value that is nested too deeply to
be described. -/
def Undescribed (environment : Environment) (mode : Option Mode) (expression : String) : Prop :=
  ∃ interpreter value, Interpreter.make environment none (mode.map Mode.name) = .ok interpreter ∧
    parse Interpreter.sourceName expression = .ok value ∧ value.description = .error .depth

/-- The settings let the expression be run, and it comes to an integer that is too long to be
written. -/
def Overlong (environment : Environment) (mode : Option Mode) (expression : String) : Prop :=
  ∃ interpreter n, Interpreter.make environment none (mode.map Mode.name) = .ok interpreter ∧
    interpreter.eval expression = .ok (.number n) ∧ Nat.pow 10 digitLimit ≤ n.natAbs

section

variable {environment : Environment} {mode : Option Mode} {expression : String}
  {interpreter : Interpreter}

theorem eventsOf_eq
    (made : Interpreter.make environment none (mode.map Mode.name) = .ok interpreter) :
    eventsOf environment mode expression = (interpreter.runTraced expression).events := by
  simp only [eventsOf, made]

theorem described_iff
    (made : Interpreter.make environment none (mode.map Mode.name) = .ok interpreter) :
    Source.Described Interpreter.sourceName expression ↔
      ¬ Undescribed environment mode expression := by
  constructor
  · rintro described ⟨_, value, -, parsed, deep⟩
    obtain ⟨words, shown⟩ := described value parsed
    rw [shown] at deep
    cases deep
  · intro clear value parsed
    have form := (exists_parse_ok_iff.mp ⟨expression, parsed⟩).1
    exact form.description_ok_or.resolve_right fun deep =>
      clear ⟨interpreter, value, made, parsed, deep⟩

theorem forall_isRecord_iff_not_overlong
    (made : Interpreter.make environment none (mode.map Mode.name) = .ok interpreter)
    (described : Source.Described Interpreter.sourceName expression) :
    (∀ line ∈ (eventsOf environment mode expression).flatMap Event.lines,
      Event.IsRecord (eventsOf environment mode expression) line) ↔
        ¬ Overlong environment mode expression := by
  have overlong : Overlong environment mode expression ↔
      ∃ n, interpreter.eval expression = .ok (.number n) ∧ Nat.pow 10 digitLimit ≤ n.natAbs := by
    simp only [Overlong, made, Except.ok.injEq, exists_and_left, exists_eq_left']
  rw [eventsOf_eq made, overlong,
    Event.forall_isRecord_iff fun event => Interpreter.write_of_mem_events described]
  exact Interpreter.forall_written_iff described

end

/-- With the log a run writes the same to the standard output and ends in the same way, and the
lines of its events come before what it writes otherwise. They are all records, unless the record of
the result would have too long an integer in it. Only an expression that is nested too deeply to be
described is not run to its end. -/
theorem run_logged (environment other : Environment) (arguments others : List String)
    (expression : String) (mode : Option Mode)
    (quiet : Asks environment arguments expression mode false)
    (loud : Asks other others expression mode true) (same : other.mode = environment.mode) :
    (¬ Undescribed environment mode expression →
      AddsLog (eventsOf environment mode expression) (run environment arguments)
        (run other others) ∧
      ((∀ line ∈ (eventsOf environment mode expression).flatMap Event.lines,
          Event.IsRecord (eventsOf environment mode expression) line) ↔
        ¬ Overlong environment mode expression)) ∧
    (Undescribed environment mode expression →
      ∃ front value rest,
        eventsOf environment mode expression = front ++ .parsed expression value :: rest ∧
        (∀ line ∈ front.flatMap Event.lines, Event.IsRecord front line) ∧
        run other others = ⟨"", unlines (front.flatMap Event.lines), .fault .depth⟩) := by
  rw [quiet.run_eq, loud.run_eq, Interpreter.make_congr same]
  cases made : Interpreter.make environment none (mode.map Mode.name) with
  | error cause =>
    -- without an interpreter nothing happens, and both runs report the setting
    simp only [eventsOf, made]
    constructor
    · intro _
      refine ⟨rfl, fun _ => ?_, fun _ => List.forall_mem_nil _⟩
      rintro ⟨interpreter, n, other, -⟩
      rw [made] at other
      cases other
    · rintro ⟨interpreter, value, other, -⟩
      rw [made] at other
      cases other
  | ok interpreter =>
    constructor
    · intro clear
      have described := (described_iff made).mpr clear
      refine ⟨?_, forall_isRecord_iff_not_overlong made described⟩
      dsimp only
      rw [eventsOf_eq made, interpreter.runLogged_eq described]
      exact Report.addsLog (interpreter.events_runLogged_false expression)
        (interpreter.result_runTraced expression)
    · rintro ⟨_, value, -, parsed, deep⟩
      obtain ⟨front, rest, events, written, ran⟩ :=
        interpreter.runLogged_of_undescribed parsed deep
      refine ⟨front, value, rest, by rw [eventsOf_eq made, events], ?_,
        by simp only [Report.of, ran]⟩
      exact (Event.forall_isRecord_iff fun event member => (written event member).result).mpr
        written

theorem run_logged_sample :
    Asks ⟨none, some "info"⟩ ["(+ 1 'a) b"] "(+ 1 'a) b" none false ∧
    Asks ⟨none, some " notset"⟩ ["(+ 1 'a) b"] "(+ 1 'a) b" none true ∧
    run ⟨none, some "info"⟩ ["(+ 1 'a) b"] = ⟨"1\n", "", .exit 0⟩ ∧
    ∃ events, events.length = 5 ∧
      (∀ line ∈ events.flatMap Event.lines, Event.IsRecord events line) ∧
      run ⟨none, some " notset"⟩ ["(+ 1 'a) b"] =
        ⟨"1\n", unlines (events.flatMap Event.lines), .exit 0⟩ := by
  have asked : parseArguments ["(+ 1 'a) b"] = .ok (.run "(+ 1 'a) b" none false) := by
    decide +kernel
  have quiet : Asks ⟨none, some "info"⟩ ["(+ 1 'a) b"] "(+ 1 'a) b" none false :=
    .intro asked (by decide +kernel)
  have loud : Asks ⟨none, some " notset"⟩ ["(+ 1 'a) b"] "(+ 1 'a) b" none true :=
    .intro asked (by decide +kernel)
  have report : run ⟨none, some "info"⟩ ["(+ 1 'a) b"] = ⟨"1\n", "", .exit 0⟩ := by
    decide +kernel
  have found : parse Interpreter.sourceName "(+ 1 'a) b" =
      .ok (.list [.atom "+", .number 1, .quoted (.atom "a")]) := by
    decide +kernel
  have described : ¬ Undescribed ⟨none, some "info"⟩ none "(+ 1 'a) b" := by
    rintro ⟨interpreter, value, -, parsed, deep⟩
    obtain rfl := Except.ok.inj (found.symm.trans parsed)
    revert deep
    decide +kernel
  have short : ¬ Overlong ⟨none, some "info"⟩ none "(+ 1 'a) b" := by
    rintro ⟨interpreter, n, made, evaluated, large⟩
    obtain rfl : Interpreter.mk "lenient" = interpreter := Except.ok.inj made
    have one : Interpreter.eval ⟨"lenient"⟩ "(+ 1 'a) b" = .ok (.number 1) := by decide +kernel
    rw [one] at evaluated
    cases evaluated
    revert large
    decide +kernel
  obtain ⟨same, records⟩ := (run_logged _ _ _ _ _ _ quiet loud rfl).1 described
  refine ⟨quiet, loud, report, _, by decide +kernel, records.mpr short, ?_⟩
  rw [same, report]
  simp

/-! ## A log that changes the outcome -/

def nestedSums : Nat → Arithmetic
  | 0 => .literal 1
  | depth + 1 => .node .add (.literal 1) (.one (nestedSums depth))

def nestedSumsText : Nat → List Char
  | 0 => ['1']
  | depth + 1 =>
    '(' :: (Operator.add.name.toList ++ [' '] ++ (['1'] ++ [' '] ++ nestedSumsText depth) ++ [')'])

theorem written_nestedSums (depth : Nat) :
    Written digitLimit (nestedSums depth) (nestedSumsText depth) := by
  have numeral : Token.Kind.number.Admits ['1'] :=
    ⟨List.cons_ne_nil _ _, List.all_eq_true.mp rfl⟩
  have one : Written digitLimit (.literal 1) ['1'] := Written.literal numeral (by decide)
  have blank := Token.Kind.admits_blank
  induction depth with
  | zero => exact one
  | succ depth ih => exact .node blank one blank (.one ih)

theorem depth_nestedSums (depth : Nat) : (nestedSums depth).depth = depth := by
  induction depth with
  | zero => rfl
  | succ depth ih => simp [nestedSums, Arithmetic.depth, Operands.depth, ih]

theorem value_nestedSums (depth : Nat) : (nestedSums depth).value = some ((depth : Int) + 1) := by
  induction depth with
  | zero => rfl
  | succ depth ih =>
    simp only [nestedSums, Arithmetic.value, Operands.values, ih, Option.bind_eq_bind,
      Option.bind_some, List.foldlM_cons, List.foldlM_nil, Operator.meaning]
    rw [Nat.cast_succ, Int.add_comm]
    rfl

theorem le_of_fits_nestedSums {room depth : Nat}
    (fits : (nestedSums depth).expression.Fits room) : 4 * depth ≤ room := by
  induction depth generalizing room with
  | zero => exact Nat.zero_le room
  | succ depth ih =>
    rw [nestedSums, Arithmetic.expression] at fits
    obtain ⟨inner, rfl, each⟩ := fits.of_list
    have least := ih (each (nestedSums depth).expression (by simp [Operands.expressions]))
    omega

theorem parse_nestedSums {depth : Nat} (enough : 2 * depth ≤ nestingRoom) :
    parse Interpreter.sourceName (String.ofList (nestedSumsText depth)) =
      .ok (nestedSums depth).expression := by
  apply parse_of_whole
  rw [String.toList_ofList]
  apply (written_nestedSums depth).reads
  rwa [depth_nestedSums]

theorem description_nestedSums {depth : Nat} (enough : 2 * depth ≤ nestingRoom)
    (deep : nestingRoom < 4 * depth) :
    (nestedSums depth).expression.description = .error .depth := by
  have form := (exists_parse_ok_iff.mp ⟨_, parse_nestedSums enough⟩).1
  -- each sum takes four levels
  refine form.description_ok_or.resolve_left ?_
  rintro ⟨words, described⟩
  have least := le_of_fits_nestedSums ⟨nestingRoom, words, Nat.le_refl _, described⟩
  omega

theorem run_nestedSums {depth : Nat} (enough : 2 * depth ≤ nestingRoom)
    (interpreter : Interpreter) :
    interpreter.run (String.ofList (nestedSumsText depth)) = .ok ((depth : Int) + 1).repr := by
  have shallow : 2 * (nestedSums depth).depth ≤ nestingRoom := by rwa [depth_nestedSums]
  have evaluated := evaluate_expression interpreter.evaluationMode shallow
  rw [value_nestedSums] at evaluated
  have small : depth + 1 < Nat.pow 10 digitLimit := by
    have bound : nestingRoom + 1 < Nat.pow 10 digitLimit := by decide +kernel
    omega
  rw [Interpreter.run_eq, interpreter.read_of_parse (parse_nestedSums enough)]
  simp only [bind, Except.bind, evaluated]
  exact Interpreter.shown_number small

/-- Sums that can be read and not described are run to their end only without the log. -/
theorem exists_outcomes {depth : Nat} (enough : 2 * (depth + 1) ≤ nestingRoom)
    (deep : nestingRoom < 4 * (depth + 1)) :
    ∃ arguments others expression, Asks ⟨none, none⟩ arguments expression none false ∧
      Asks ⟨none, none⟩ others expression none true ∧
      (run ⟨none, none⟩ arguments).outcome = .exit 0 ∧
      (run ⟨none, none⟩ others).outcome = .fault .depth := by
  have opens : (String.ofList (nestedSumsText (depth + 1))).toList = '(' :: _ :=
    String.toList_ofList
  have quiet := Asks.of_opening opens none false
  have loud := Asks.of_opening opens none true
  refine ⟨_, _, _, quiet, loud, ?_, ?_⟩
  · have ran := run_nestedSums enough ⟨Mode.lenient.name⟩
    rw [Interpreter.run] at ran
    simp only [quiet.run_eq, Interpreter.make_unset, Report.of, ran]
  · obtain ⟨front, rest, -, -, lost⟩ := Interpreter.runLogged_of_undescribed
      ⟨Mode.lenient.name⟩ (parse_nestedSums enough) (description_nestedSums enough deep)
    simp only [loud.run_eq, Interpreter.make_unset, Report.of, lost]

theorem description_loneSquare {n : Int} (short : n.natAbs < Nat.pow 10 digitLimit) :
    ∃ words, (loneSquare n).description = .ok words := by
  have listed {room : Nat} {items : List Value}
      (each : ∀ item ∈ items, ∃ words, item.descriptionWithin room = .ok words) :
      ∃ words, (Value.list items).descriptionWithin (room + 4) = .ok words := by
    obtain ⟨parts, found⟩ := exists_mapM_ok_iff.mpr each
    rw [Value.descriptionWithin_list, found]
    exact ⟨_, rfl⟩
  have name (room : Nat) (text : String) := Value.layered_descriptionWithin.atom room text
  have number (room : Nat) :=
    Value.layered_descriptionWithin.number room (Numeral.text_of_lt short)
  have product (room : Nat) := @listed room [.atom "*", .number n, .number n]
    (by simpa using ⟨name room "*", number room⟩)
  have sum (room : Nat) := @listed (room + 4) [.atom "+", _]
    (by simpa using ⟨name (room + 4) "+", product room⟩)
  exact sum (nestingRoom - 8)

theorem exists_overlong {zeros : Nat} (short : zeros < digitLimit)
    (enough : digitLimit ≤ zeros + zeros) :
    ∃ arguments others expression, Asks ⟨none, none⟩ arguments expression none false ∧
      Asks ⟨none, none⟩ others expression none true ∧
      Source.Described Interpreter.sourceName expression ∧
      Overlong ⟨none, none⟩ none expression := by
  obtain ⟨reads, small⟩ := reads_roundSquare short
  have opens : (String.ofList (loneSquareText (roundNumeral zeros))).toList = '(' :: _ :=
    String.toList_ofList
  have parsed : parse Interpreter.sourceName
      (String.ofList (loneSquareText (roundNumeral zeros))) =
        .ok (loneSquare (Nat.pow 10 zeros)) := by
    apply parse_of_whole
    rwa [String.toList_ofList]
  refine ⟨_, _, _, .of_opening opens none false, .of_opening opens none true, ?_,
    _, _, Interpreter.make_unset, ?_, pow_le_square enough⟩
  · intro value found
    obtain rfl := Except.ok.inj (parsed.symm.trans found)
    exact description_loneSquare small
  · rw [Interpreter.eval_eq, Interpreter.read_of_parse _ parsed]
    rfl

/-- 300 sums in one another give 301, and with the log they give nothing. A product that is too long
for a record leaves a line in the log that is none. -/
theorem log_changes_outcome :
    (¬ ∀ (environment other : Environment) (arguments others : List String) (expression : String)
      (mode : Option Mode), Asks environment arguments expression mode false →
      Asks other others expression mode true → other.mode = environment.mode →
      (run other others).outcome = (run environment arguments).outcome) ∧
    ¬ ∀ (environment other : Environment) (arguments others : List String) (expression : String)
      (mode : Option Mode), Asks environment arguments expression mode false →
      Asks other others expression mode true → other.mode = environment.mode →
      ¬ Undescribed environment mode expression →
      ∀ line ∈ (eventsOf environment mode expression).flatMap Event.lines,
        Event.IsRecord (eventsOf environment mode expression) line := by
  constructor
  · intro neutral
    obtain ⟨arguments, others, expression, quiet, loud, ends, faults⟩ :=
      @exists_outcomes 299 (by decide) (by decide)
    have same := neutral _ _ _ _ _ _ quiet loud rfl
    rw [ends, faults] at same
    cases same
  · intro records
    obtain ⟨arguments, others, expression, quiet, loud, described, overlong⟩ :=
      @exists_overlong 2200 (by decide) (by decide)
    have every := records _ _ _ _ _ _ quiet loud rfl
      ((described_iff Interpreter.make_unset).mp described)
    exact (forall_isRecord_iff_not_overlong Interpreter.make_unset described).mp every overlong

end CommandLine

end Lisplet
