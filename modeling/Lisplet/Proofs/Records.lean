import Lisplet.Proofs.Descriptions
import Lisplet.Proofs.Reports
import Lisplet.Proofs.StreamRuns

/-! Records of the debug log. If an expression can be described, then every event of its reading and
its evaluation can be written, and writing them does not change what comes of it. -/

set_option autoImplicit false

namespace Lisplet

namespace Event

variable {event : Event}

def Written (event : Event) : Prop :=
  ∀ made ∈ event.record, ∃ message, made.2 = .ok message

theorem written_of_ok {reporter message : String}
    (found : event.record = some (reporter, .ok message)) : event.Written := by
  intro made member
  rw [found, Option.mem_some_iff] at member
  exact ⟨message, by rw [← member]⟩

theorem written_of_none (found : event.record = none) : event.Written := by
  intro made member
  rw [found] at member
  cases member

def lines (event : Event) : List String :=
  event.write.events

/-- The line is the record of one of the events. -/
def IsRecord (events : List Event) (line : String) : Prop :=
  ∃ event ∈ events, ∃ reporter message, event.record = some (reporter, .ok message) ∧
    line = "DEBUG " ++ reporter ++ ": " ++ message

theorem Written.write_cases (written : event.Written) :
    event.write = pure () ∨ ∃ reporter message, event.record = some (reporter, .ok message) ∧
      event.write = .emit ("DEBUG " ++ reporter ++ ": " ++ message) := by
  cases found : event.record with
  | none => exact .inl (by rw [write, found])
  | some made =>
    obtain ⟨message, same⟩ := written made found
    obtain ⟨reporter, words⟩ := made
    dsimp only at same
    subst same
    exact .inr ⟨reporter, message, rfl, by rw [write, found]⟩

theorem Written.result (written : event.Written) : event.write.result = .ok () := by
  obtain nothing | ⟨reporter, message, -, line⟩ := written.write_cases
  · rw [nothing]
    rfl
  · rw [line]
    rfl

theorem Written.isRecord {events : List Event} (written : event.Written) (member : event ∈ events)
    {line : String} (among : line ∈ event.lines) : IsRecord events line := by
  rw [lines] at among
  obtain nothing | ⟨reporter, message, found, one⟩ := written.write_cases
  · rw [nothing] at among
    cases among
  · rw [one] at among
    exact ⟨event, member, reporter, message, found, List.mem_singleton.mp among⟩

theorem not_isRecord_notice (events : List Event) : ¬ IsRecord events notice := by
  rintro ⟨_, -, reporter, message, -, same⟩
  have chars := congrArg String.toList same
  simp [notice] at chars

/-- Where the log goes on without the record of an event, it has the notice. -/
theorem written_or_notice (event : Event) (ran : event.write.result = .ok ()) :
    event.Written ∨ notice ∈ event.lines := by
  unfold lines
  cases found : event.record with
  | none => exact .inl (written_of_none found)
  | some made =>
    obtain ⟨reporter, words⟩ := made
    cases words with
    | ok message => exact .inl (written_of_ok found)
    | error reached =>
      rw [write, found] at ran ⊢
      cases reached with
      | depth => cases ran
      | numeral digits => exact .inr (.head _)
      | integer => exact .inr (.head _)

theorem forall_isRecord_iff {events : List Event}
    (ran : ∀ event ∈ events, event.write.result = .ok ()) :
    (∀ line ∈ events.flatMap lines, IsRecord events line) ↔ ∀ event ∈ events, event.Written := by
  constructor
  · intro records event member
    refine (event.written_or_notice (ran event member)).resolve_right fun among => ?_
    exact not_isRecord_notice events
      (records notice (List.mem_flatMap.mpr ⟨event, member, among⟩))
  · intro written line among
    obtain ⟨event, member, among⟩ := List.mem_flatMap.mp among
    exact (written event member).isRecord member among

end Event

structure Traced.Writes {α : Type} (good : α → Prop) (computation : Traced Event α) : Prop where
  events : ∀ event ∈ computation.events, event.Written
  value : ∀ value, computation.result = .ok value → good value

namespace Traced

variable {α β : Type} {good : α → Prop} {fine : β → Prop}

theorem Writes.mono {computation : Traced Event α} {better : α → Prop}
    (writes : Writes good computation) (values : ∀ value, good value → better value) :
    Writes better computation :=
  ⟨writes.events, fun value ran => values value (writes.value value ran)⟩

theorem Writes.pure {value : α} (holds : good value) : Writes good (pure value) where
  events := List.forall_mem_nil _
  value := by
    rintro _ ⟨⟩
    exact holds

theorem Writes.fail (fault : Fault) : Writes good (.fail fault) where
  events := List.forall_mem_nil _
  value := by
    rintro _ ⟨⟩

theorem Writes.emit {event : Event} (written : event.Written) :
    Writes (fun _ => True) (.emit event) where
  events := List.forall_mem_singleton.mpr written
  value := fun _ _ => trivial

theorem Writes.bind {first : Traced Event α} {next : α → Traced Event β}
    (writes : Writes good first) (rest : ∀ value, good value → Writes fine (next value)) :
    Writes fine (first >>= next) := by
  obtain ⟨events, result⟩ := first
  cases result with
  | error fault =>
    refine ⟨writes.events, ?_⟩
    rintro _ ⟨⟩
  | ok value =>
    have after := rest value (writes.value value rfl)
    exact ⟨List.forall_mem_append.mpr ⟨writes.events, after.events⟩, after.value⟩

theorem Writes.each {step : α → Traced Event β} {values : List α}
    (every : ∀ value ∈ values, Writes fine (step value)) :
    Writes (fun results => ∀ result ∈ results, fine result) (each step values) := by
  induction values with
  | nil => exact .pure (List.forall_mem_nil fine)
  | cons value values ih =>
    obtain ⟨first, others⟩ := List.forall_mem_cons.mp every
    refine first.bind fun result holds => (ih others).bind fun results rest => .pure ?_
    exact List.forall_mem_cons.mpr ⟨holds, rest⟩

def written (computation : Traced Event α) : Traced String α :=
  ⟨computation.events.flatMap Event.lines, computation.result⟩

theorem written_bind (first : Traced Event α) (next : α → Traced Event β) :
    (first >>= next).written = first.written >>= fun value => (next value).written := by
  obtain ⟨events, result⟩ := first
  cases result with
  | error fault => rfl
  | ok value =>
    simp only [written, bind, andThen, List.flatMap_append]

theorem bind_congr {ε : Type} {first : Traced ε α} {next other : α → Traced ε β}
    (same : ∀ value, first.result = .ok value → next value = other value) :
    first >>= next = first >>= other := by
  obtain ⟨events, result⟩ := first
  cases result with
  | error fault => rfl
  | ok value => simp only [bind, andThen, same value rfl]

theorem events_bind_pure {ε : Type} (computation : Traced ε α) (change : α → β) :
    (computation >>= fun value => pure (change value)).events = computation.events := by
  obtain ⟨events, result⟩ := computation
  cases result with
  | error fault => rfl
  | ok value => exact List.append_nil events

theorem events_logged (computation : Traced Event α) :
    (computation.logged true).events = (each Event.write computation.events).events := by
  unfold logged
  rw [if_pos rfl]
  cases each Event.write computation.events with
  | mk lines result =>
    cases result with
    | error fault => rfl
    | ok done => exact List.append_nil lines

theorem events_each_write {events : List Event}
    (ran : ∀ event ∈ events, event.write.result = .ok ()) (rest : List Event) :
    (each Event.write (events ++ rest)).events =
      events.flatMap Event.lines ++ (each Event.write rest).events := by
  induction events with
  | nil => rfl
  | cons event events ih =>
    obtain ⟨first, others⟩ := List.forall_mem_cons.mp ran
    have line : event.write = ⟨event.lines, .ok ()⟩ := by rw [← first, Event.lines]
    rw [List.cons_append, each, line, List.flatMap_cons, List.append_assoc, ← ih others]
    exact congrArg (event.lines ++ ·) (events_bind_pure _ _)

theorem logged_eq {computation : Traced Event α}
    (ran : ∀ event ∈ computation.events, event.write.result = .ok ()) :
    computation.logged true = computation.written := by
  have lines : (computation.logged true).events = computation.events.flatMap Event.lines := by
    have each := events_each_write ran []
    rwa [List.append_nil, ← events_logged, Traced.each, events_pure, List.append_nil] at each
  have result : (computation.logged true).result = computation.result := by
    obtain ⟨done, each⟩ := exists_mapM_ok_iff.mpr fun event member => ⟨(), ran event member⟩
    rw [← result_each] at each
    simp only [logged, ↓reduceIte, result_bind, result_ofResult, each]
    rfl
  rw [written, ← lines, ← result]

/-- A record that is nested too deeply is the end of a computation, and of the log. -/
theorem logged_of_unwritten {computation : Traced Event α} {front rest : List Event}
    {event : Event} (split : computation.events = front ++ event :: rest)
    (ran : ∀ event ∈ front, event.write.result = .ok ())
    (lost : event.write = .fail (.limit .depth)) :
    computation.logged true = ⟨front.flatMap Event.lines, .error (.limit .depth)⟩ := by
  have stops : each Event.write (event :: rest) = .fail (.limit .depth) := by
    rw [each, lost]
    rfl
  have lines : (computation.logged true).events = front.flatMap Event.lines := by
    rw [events_logged, split, events_each_write ran, stops, events_fail, List.append_nil]
  have result : (computation.logged true).result = .error (.limit .depth) := by
    obtain ⟨done, each⟩ := exists_mapM_ok_iff.mpr fun event member => ⟨(), ran event member⟩
    have failed : (Traced.each Event.write (event :: rest)).result = .error (.limit .depth) := by
      rw [stops]
      rfl
    rw [result_each] at failed
    simp only [logged, ↓reduceIte, result_bind, result_ofResult, result_each, split,
      List.mapM_append, each, failed]
    rfl
  rw [← lines, ← result]

end Traced

/-! ## Evaluation -/

namespace Evaluation

variable {mode : Mode} {room : Nat} {value : Value}

theorem fallBack_writes {event : Event} {cause : Error} (written : event.Written) :
    (fallBack mode event cause).Writes fun _ => True := by
  cases mode with
  | strict => exact .fail _
  | lenient => exact .emit written

theorem noInteger_writes (fits : value.Fits room) :
    (noInteger mode room value).Writes fun _ => True := by
  obtain ⟨text, printed⟩ := fits.exists_text
  have found : (Event.zeroed value room).record =
      some (Event.record.primitives, .ok ("Coercing non-numeric operand " ++ text ++ " to 0")) := by
    rw [Event.record, printed]
    rfl
  exact (fallBack_writes (Event.written_of_ok found)).bind fun _ _ => .pure trivial

theorem operand_writes (recorded : value.Recorded room) :
    (operand mode room value).Writes fun _ => True := by
  fun_induction operand mode room value with
  | case1 | case2 => exact .pure trivial
  | case3 room contents => exact noInteger_writes (Value.fits_string room contents)
  | case4 => exact .fail _
  | case5 room inner ih =>
    obtain ⟨n, same⟩ | fits := recorded
    · cases same
    · obtain ⟨less, same, each⟩ := fits.of_list
      exact ih (.inr ((each inner (.head _)).mono (by omega)))
  | case6 => exact .fail _
  | case7 room value notNumber =>
    obtain ⟨n, same⟩ | fits := recorded
    · exact absurd same (notNumber n)
    · exact noInteger_writes fits

theorem reduce_writes (operator : Operator) {values : List Value}
    (recorded : ∀ value ∈ values, value.Recorded room) :
    (reduce mode room operator values).Writes (Value.Recorded room) := by
  cases values with
  | nil => exact .fail _
  | cons first rest =>
    obtain ⟨one, others⟩ := List.forall_mem_cons.mp recorded
    have folded : (fold mode room operator first rest).Writes (Value.Recorded room) := by
      refine (operand_writes one).bind fun number _ => ?_
      refine (Traced.Writes.each fun value member => operand_writes (others value member)).bind
        fun numbers _ => ?_
      cases operator.reduce number numbers with
      | ok n => exact .pure (.inl ⟨n, rfl⟩)
      | error fault => exact .fail _
    rw [reduce_cons]
    split
    · exact (fallBack_writes (Event.written_of_none rfl)).bind fun _ _ => folded
    · exact folded

theorem applyWithin_writes (name : String) {values : List Value}
    (recorded : ∀ value ∈ values, value.Recorded room) :
    (applyWithin mode room name values).Writes (Value.Recorded room) := by
  unfold applyWithin
  cases Operator.ofName? name with
  | some operator => exact reduce_writes operator recorded
  | none =>
    exact (fallBack_writes (Event.written_of_ok rfl)).bind fun _ _ =>
      .pure (.inr (Value.fits_bool room false))

/-- What can be described is evaluated with records that can be written. An argument has two levels
less to be evaluated with than its call, and four levels less to be described with. -/
theorem valueWithin_writes {expression : Value} (fits : expression.Fits room) :
    (valueWithin mode room expression).Writes (Value.Recorded room) := by
  induction room using Nat.strongRecOn generalizing expression with
  | ind room ih =>
    have shape := Form.of_inv expression
    rw [valueWithin_eq]
    cases form : Form.of expression with
    | constant value =>
      rw [form] at shape
      exact .pure (.inr (fits.of_part shape))
    | unrecognized => exact .fail _
    | call name arguments =>
      rw [form] at shape
      subst shape
      obtain ⟨inner, rfl, each⟩ := fits.of_list
      have called : (call mode name arguments (inner + 4)).Writes
          (Value.Recorded (inner + 4)) := by
        have values := Traced.Writes.each fun argument (member : argument ∈ arguments) =>
          ih (inner + 2) (by omega) ((each argument (.tail _ member)).mono (Nat.le_add_right _ 2))
        refine values.bind fun results recorded => ?_
        refine (Traced.Writes.emit (Event.written_of_ok rfl)).bind fun _ _ => ?_
        -- the results were recorded with the room of the arguments, and the call has more
        exact (applyWithin_writes name recorded).mono fun result => .mono (Nat.le_add_right _ 2)
      dsimp only
      split
      · exact (fallBack_writes (Event.written_of_none rfl)).bind fun _ _ => called
      · exact called

theorem result_of_settle {computation : Traced Event Value}
    (ran : (settle computation).result = .ok value) : computation.result = .ok value := by
  unfold settle at ran
  split at ran
  · cases ran
  · exact ran

end Evaluation

/-! ## Reading -/

namespace Source

variable {sourceName source : String} {value : Value}

/-- What was read is reported last, and nothing stands in the way of what is reported before. -/
theorem exists_reports (source : String) (value : Value) {stream : TokenStream}
    (valid : stream.Valid) :
    ∃ front, reports source value stream = front ++ [.parsed source value] ∧
      ∀ event ∈ front, event.Written := by
  simp only [reports, valid.peek_eq]
  split
  · exact ⟨[], rfl, List.forall_mem_nil _⟩
  · exact ⟨[_], rfl, List.forall_mem_singleton.mpr (Event.written_of_ok rfl)⟩

theorem exists_events {room : Nat}
    (parsed : (parseWithin room sourceName source).result = .ok value) :
    ∃ front, (parseWithin room sourceName source).events = front ++ [.parsed source value] ∧
      ∀ event ∈ front, event.Written := by
  obtain ⟨after, ran⟩ := parseWithin_eq_ok_iff.mp parsed
  have left := Reading.Keeps.expression room _ (TokenStream.sound_start sourceName source.toList)
  rw [ran] at left
  rw [parseWithin, ran]
  exact exists_reports source value left.sound.toValid

theorem events_of_error {room : Nat} {fault : Fault}
    (failed : (parseWithin room sourceName source).result = .error fault) :
    (parseWithin room sourceName source).events = [] := by
  unfold parseWithin at failed ⊢
  split at failed
  · cases failed
  all_goals rfl

def Described (sourceName source : String) : Prop :=
  ∀ value, parse sourceName source = .ok value → ∃ words, value.description = .ok words

theorem parseWithin_writes (described : Described sourceName source) :
    (parseWithin nestingRoom sourceName source).Writes (Value.Fits nestingRoom) := by
  cases ran : (parseWithin nestingRoom sourceName source).result with
  | ok value =>
    obtain ⟨words, shown⟩ := described value ran
    obtain ⟨front, events, written⟩ := exists_events ran
    constructor
    · rw [events]
      refine List.forall_mem_append.mpr ⟨written, List.forall_mem_singleton.mpr ?_⟩
      apply Event.written_of_ok
      rw [Event.record, shown]
      rfl
    · rw [ran]
      rintro _ ⟨⟩
      exact ⟨nestingRoom, words, Nat.le_refl _, shown⟩
  | error fault =>
    constructor
    · rw [events_of_error ran]
      exact List.forall_mem_nil _
    · rw [ran]
      rintro _ ⟨⟩

theorem readWithin_writes (described : Described sourceName source) :
    (readWithin nestingRoom sourceName source).Writes (Value.Fits nestingRoom) := by
  have writes := parseWithin_writes described
  unfold readWithin
  dsimp only
  split
  case h_1 cause _ =>
    constructor
    · refine List.forall_mem_append.mpr ⟨writes.events, List.forall_mem_singleton.mpr ?_⟩
      exact Event.written_of_ok rfl
    · rintro _ ⟨⟩
      exact Value.fits_string _ _
  case h_2 => exact writes

end Source

namespace Interpreter

variable {interpreter : Interpreter} {code : String}

theorem readTraced_writes (described : Source.Described sourceName code) :
    (interpreter.readTraced code).Writes (Value.Fits nestingRoom) := by
  unfold readTraced
  cases interpreter.evaluationMode with
  | strict => exact Source.parseWithin_writes described
  | lenient => exact Source.readWithin_writes described

theorem exists_readTraced_events (interpreter : Interpreter) {value : Value}
    (parsed : parse sourceName code = .ok value) :
    ∃ front, (interpreter.readTraced code).events = front ++ [.parsed code value] ∧
      ∀ event ∈ front, event.Written := by
  have events := Source.exists_events parsed
  unfold readTraced
  cases interpreter.evaluationMode with
  | strict => exact events
  | lenient =>
    rw [parse] at parsed
    simpa only [Source.readWithin, parsed] using events

theorem written_evaluated_iff (code : String) (value : Value) :
    (Event.evaluated code value).Written ↔ ∃ text, value.text = .ok text := by
  simp only [Event.Written, Event.record, Option.mem_some_iff, forall_eq']
  cases value.text with
  | ok text => simp [Except.map]
  | error reached => simp [Except.map]

/-- Of what an expression can come to, only integers can be too long to be written. -/
theorem exists_text_iff {value : Value} (recorded : value.Recorded nestingRoom) :
    (∃ text, value.text = .ok text) ↔
      ¬ ∃ n, value = .number n ∧ Nat.pow 10 digitLimit ≤ n.natAbs := by
  constructor
  · rintro ⟨text, printed⟩ ⟨n, rfl, large⟩
    rw [Value.text, Value.textWithin_number, Numeral.text_of_le large] at printed
    cases printed
  · intro short
    obtain ⟨n, rfl⟩ | fits := recorded
    · have small := Nat.lt_of_not_le fun large => short ⟨n, rfl, large⟩
      exact ⟨_, by rw [Value.text, Value.textWithin_number, Numeral.text_of_lt small]⟩
    · exact fits.exists_text

theorem write_evaluated (code : String) {value : Value} (recorded : value.Recorded nestingRoom) :
    (Event.evaluated code value).write.result = .ok () := by
  by_cases printed : ∃ text, value.text = .ok text
  · exact ((written_evaluated_iff code value).mpr printed).result
  · -- too long an integer is noted as a failure of the log
    rw [exists_text_iff recorded, not_not] at printed
    obtain ⟨n, rfl, large⟩ := printed
    rw [Event.write, Event.record, Value.text, Value.textWithin_number, Numeral.text_of_le large]
    rfl

end Interpreter

end Lisplet
