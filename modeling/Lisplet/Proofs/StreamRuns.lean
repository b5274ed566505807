import Lisplet.Proofs.Branches

/-! Streams in use. Whatever is done with a stream and in whatever order, failures included, at most
one token more than those consumed has been taken from the source, and what is remembered is a
mismatch at the current token. The consumed tokens are the text before the current one, until the
room for nesting is used up: from then on the stream is at its end. -/

set_option autoImplicit false

namespace Lisplet

open TokenStream

theorem nodup_eraseDups (labels : List String) : labels.eraseDups.Nodup := by
  match labels with
  | [] => exact List.nodup_nil
  | label :: labels =>
    rw [List.eraseDups_cons, List.nodup_cons]
    refine ⟨?_, nodup_eraseDups (labels.filter _)⟩
    intro member
    simpa using (List.mem_filter.mp (List.mem_eraseDups.mp member)).2
termination_by labels.length
decreasing_by exact Nat.lt_succ_of_le (List.length_filter_le _ _)

/-- The mismatch is one at the current token of the stream, and names what could have stood there,
each thing once. -/
structure Mismatch.IsAt (found : Mismatch) (stream : TokenStream) : Prop where
  pos : found.pos = stream.current.pos
  named : found.expected ≠ []
  once : found.expected.Nodup

theorem Mismatch.IsAt.of_current {found : Mismatch} {stream after : TokenStream}
    (here : found.IsAt stream) (same : after.current = stream.current) : found.IsAt after :=
  ⟨here.pos.trans (by rw [same]), here.named, here.once⟩

namespace TokenStream

structure Sound (stream : TokenStream) : Prop extends Valid stream where
  pending : ∀ found ∈ stream.pending, found.IsAt stream

/-- What every step does to a stream, whether it fails or not. -/
structure Leads (stream after : TokenStream) : Prop where
  sound : after.Sound
  source : after.source = stream.source
  sourceName : after.sourceName = stream.sourceName
  index : stream.index ≤ after.index
  row : after.row <+: stream.row

/-- The stream can still give every token that is not consumed. -/
structure Onward (stream after : TokenStream) : Prop extends Leads stream after where
  whole : after.row = stream.row

/-- The stream has come to its end. -/
structure Stops (stream after : TokenStream) : Prop extends Leads stream after where
  ended : after.remaining = []

variable {stream middle after : TokenStream}

theorem sound_start (sourceName : String) (source : List Char) :
    (start sourceName source).Sound :=
  ⟨valid_start sourceName source, by simp [start]⟩

theorem Fresh.sound (fresh : stream.Fresh) : stream.Sound :=
  ⟨fresh.toValid, by simp [fresh.pending]⟩

theorem Sound.onward (sound : stream.Sound) : stream.Onward stream :=
  ⟨⟨sound, rfl, rfl, Nat.le_refl _, List.prefix_rfl⟩, rfl⟩

theorem Leads.trans (first : stream.Leads middle) (second : middle.Leads after) :
    stream.Leads after where
  sound := second.sound
  source := second.source.trans first.source
  sourceName := second.sourceName.trans first.sourceName
  index := Nat.le_trans first.index second.index
  row := second.row.trans first.row

theorem Onward.trans (first : stream.Onward middle) (second : middle.Onward after) :
    stream.Onward after :=
  ⟨first.toLeads.trans second.toLeads, second.whole.trans first.whole⟩

theorem Leads.length_remaining_le (reached : stream.Leads after) :
    after.remaining.length ≤ stream.remaining.length := by
  have fewer := reached.row.length_le
  have later := reached.index
  rw [remaining, remaining, List.length_drop, List.length_drop]
  omega

theorem Stops.before (first : stream.Stops middle) (second : middle.Leads after) :
    stream.Stops after := by
  have fewer := second.length_remaining_le
  rw [first.ended] at fewer
  exact ⟨first.toLeads.trans second, List.eq_nil_of_length_eq_zero (Nat.le_zero.mp fewer)⟩

theorem Fresh.stops_finished (fresh : stream.Fresh) : stream.Stops stream.finished where
  sound := fresh.finished.sound
  source := rfl
  sourceName := rfl
  index := Nat.le_refl _
  row := stream.finished_prefix
  ended := fresh.finished_remaining

theorem isAt_mismatchHere (stream : TokenStream) {expected : List String} (named : expected ≠ []) :
    (stream.mismatchHere expected).IsAt stream where
  pos := rfl
  named := by
    obtain ⟨label, member⟩ := List.exists_mem_of_ne_nil _ named
    have listed : label ∈ (stream.earlier ++ expected).eraseDups :=
      List.mem_eraseDups.mpr (List.mem_append_right _ member)
    exact List.ne_nil_of_mem listed
  once := nodup_eraseDups _

theorem Sound.onward_looked (sound : stream.Sound) : stream.Onward stream.looked where
  sound := by
    refine ⟨sound.looked, fun found member => ?_⟩
    rw [looked_pending] at member
    exact (sound.pending found member).of_current (looked_current stream)
  source := looked_source stream
  sourceName := looked_sourceName stream
  index := by rw [looked_index]
  row := stream.looked_row.symm ▸ List.prefix_rfl
  whole := looked_row stream

theorem Sound.onward_skipped (sound : stream.Sound) {token : Token} {more : List Token}
    (next : stream.remaining = token :: more) : stream.Onward stream.skipped where
  sound := ⟨sound.skipped next, by simp⟩
  source := skipped_source stream
  sourceName := looked_sourceName stream
  index := Nat.le_succ stream.index
  row := stream.skipped_row.symm ▸ List.prefix_rfl
  whole := skipped_row stream

theorem Sound.onward_noting (sound : stream.Sound) {found : Mismatch} (here : found.IsAt stream) :
    stream.Onward (stream.noting found) where
  sound := by
    refine ⟨sound.noting found, fun other member => ?_⟩
    obtain rfl := Option.some.inj member
    exact here.of_current (noting_current stream found)
  source := noting_source stream found
  sourceName := looked_sourceName stream
  index := (looked_index stream).ge
  row := stream.looked_row.symm ▸ List.prefix_rfl
  whole := looked_row stream

theorem Valid.advance_end (valid : stream.Valid) (ended : stream.current.kind = .eof) :
    advance stream = .ok stream.current stream.looked := by
  simp [advance, valid.peek_eq, ended]

end TokenStream

/-! ## Steps -/

namespace Reading

variable {α β : Type}

/-- A step ended so that the stream can be used on: if it failed at a token then at the one that is
the current one now, and if the room was used up then the stream is at its end. -/
def Leaves (stream : TokenStream) : EStateM.Result ReadFault TokenStream α → Prop
  | .ok _ after => stream.Onward after
  | .error (.mismatch found) after => stream.Onward after ∧ found.IsAt after
  | .error (.limit .depth) after => stream.Stops after
  | .error (.limit (.numeral _)) after | .error (.limit .integer) after => stream.Onward after

def Keeps (step : Reading α) : Prop :=
  ∀ stream : TokenStream, stream.Sound → Leaves stream (step stream)

def KeepsFresh (step : Reading α) : Prop :=
  ∀ stream : TokenStream, stream.Fresh → Leaves stream (step stream)

theorem Keeps.fresh {step : Reading α} (keeps : Keeps step) : KeepsFresh step :=
  fun stream fresh => keeps stream fresh.sound

section Leaves

variable {stream middle : TokenStream} {result : EStateM.Result ReadFault TokenStream α}

theorem Leaves.behind (first : stream.Onward middle) (second : Leaves middle result) :
    Leaves stream result := by
  cases result with
  | ok value after => exact first.trans second
  | error fault after =>
    cases fault with
    | mismatch found => exact ⟨first.trans second.1, second.2⟩
    | limit reached =>
      cases reached with
      | depth => exact ⟨first.toLeads.trans second.toLeads, second.ended⟩
      | numeral digits => exact first.trans second
      | integer => exact first.trans second

theorem Leaves.failed {fault : ReadFault} {after : TokenStream}
    (left : Leaves stream (.error fault after : EStateM.Result ReadFault TokenStream α)) :
    Leaves stream (.error fault after : EStateM.Result ReadFault TokenStream β) := by
  cases fault with
  | mismatch found => exact left
  | limit reached => cases reached <;> exact left

theorem Leaves.leads {fault : ReadFault} {after : TokenStream}
    (left : Leaves stream (.error fault after : EStateM.Result ReadFault TokenStream α)) :
    stream.Leads after := by
  cases fault with
  | mismatch found => exact left.1.toLeads
  | limit reached => cases reached <;> exact left.toLeads

theorem Leaves.bind {step : Reading α} {next : α → Reading β} (first : Leaves stream (step stream))
    (rest : ∀ value after, step stream = .ok value after → stream.Onward after →
      Leaves after (next value after)) : Leaves stream ((step >>= next) stream) := by
  rw [bind_apply]
  cases ran : step stream with
  | ok value after =>
    rw [ran] at first
    exact .behind first (rest value after ran first)
  | error fault after =>
    rw [ran] at first
    exact first.failed

end Leaves

namespace Keeps

theorem pure (value : α) : Keeps (pure value : Reading α) :=
  fun _ sound => sound.onward

theorem bind {step : Reading α} {next : α → Reading β} (first : Keeps step)
    (rest : ∀ value, Keeps (next value)) : Keeps (step >>= next) := by
  intro stream sound
  refine (first stream sound).bind ?_
  intro value after _ onward
  exact rest value after onward.sound

theorem map (change : α → β) {step : Reading α} (keeps : Keeps step) : Keeps (change <$> step) := by
  rw [map_eq_pure_bind]
  exact keeps.bind fun value => pure (change value)

theorem ite {condition : Prop} [Decidable condition] {step other : Reading α} (first : Keeps step)
    (second : Keeps other) : Keeps (if condition then step else other) := by
  split
  · exact first
  · exact second

theorem peek : Keeps peek := by
  intro stream sound
  rw [sound.peek_eq]
  exact sound.onward_looked

theorem advance : Keeps advance := by
  intro stream sound
  by_cases ended : stream.current.kind = .eof
  · rw [sound.advance_end ended]
    exact sound.onward_looked
  · obtain ⟨more, row⟩ := stream.remaining_eq_cons ended
    rw [sound.advance_eq row]
    exact sound.onward_skipped row

theorem reject {expected : List String} (named : expected ≠ []) :
    Keeps (reject expected : Reading α) := by
  intro stream sound
  rw [sound.reject_eq]
  exact ⟨sound.onward_looked,
    (isAt_mismatchHere stream named).of_current (looked_current stream)⟩

theorem expect (kind : Token.Kind) (label : String) : Keeps (expect kind label) :=
  peek.bind fun _ => .ite advance (reject (List.cons_ne_nil label []))

/-- What is remembered of a failed attempt is a mismatch at the token that it failed at. -/
theorem attempt {step : Reading α} (keeps : Keeps step) : Keeps (attempt step) := by
  intro stream sound
  have left := keeps stream sound
  unfold TokenStream.attempt
  cases ran : step stream with
  | ok value after =>
    rw [ran] at left
    exact left
  | error fault after =>
    rw [ran] at left
    cases fault with
    | limit reached => exact left.failed
    | mismatch found =>
      obtain ⟨onward, here⟩ := left
      dsimp only
      split
      · refine ⟨⟨⟨onward.sound.remembering _, ?_⟩, onward.source, onward.sourceName,
          onward.index, onward.row⟩, onward.whole⟩
        intro other member
        obtain rfl := Option.some.inj member
        exact here.of_current rfl
      · exact ⟨onward, here⟩

theorem atExpression : Keeps atExpression := by
  intro stream sound
  cases starts : stream.current.kind.startsExpression with
  | true =>
    rw [sound.atExpression_true starts]
    exact sound.onward_looked
  | false =>
    rw [sound.atExpression_false starts]
    exact sound.onward_noting (isAt_mismatchHere stream (by decide +kernel))

/-! ## Phrases -/

theorem separator : Keeps separator :=
  expect .space "space"

theorem fresh_of_expect {kind : Token.Kind} {label : String} {stream after : TokenStream}
    {token : Token} (real : kind ≠ .eof) (valid : stream.Valid)
    (ran : TokenStream.expect kind label stream = .ok token after) : after.Fresh := by
  by_cases same : stream.current.kind = kind
  · obtain ⟨more, row⟩ := stream.remaining_eq_cons (same ▸ real)
    rw [← same, valid.expect_eq label row] at ran
    cases ran
    exact (valid.takes_skipped row).fresh
  · rw [valid.expect_error label same] at ran
    cases ran

theorem behindDot {tail : Reading Value} (last : KeepsFresh tail) (items : List Value) :
    Keeps (behindDot tail items) := by
  intro stream sound
  refine (separator stream sound).bind ?_
  intro gap after ran _
  refine (last after (fresh_of_expect (by decide) sound.toValid ran)).bind ?_
  intro value behind _ onward
  exact ((expect .closing _).bind fun _ => pure _) behind onward.sound

theorem dottedTail {tail : Reading Value} (last : KeepsFresh tail) (items : List Value) :
    Keeps (dottedTail tail items) :=
  (expect .dot _).bind fun _ => behindDot last items

theorem closeList (items : List Value) : Keeps (closeList items) := by
  refine peek.bind fun _ => .ite (advance.bind fun _ => pure _) (reject ?_)
  exact List.append_ne_nil_of_right_ne_nil _ (List.cons_ne_nil _ _)

theorem moreElements {element tail : Reading Value} (each : Keeps element) (last : KeepsFresh tail)
    {count : Nat} (items : List Value) {stream : TokenStream} (sound : stream.Sound)
    (enough : stream.remaining.length ≤ count) :
    Leaves stream (moreElements element tail count items stream) := by
  induction count generalizing items stream with
  | zero =>
    -- nothing is left, and so the stream is finished already
    have ended := List.eq_nil_of_length_eq_zero (Nat.le_zero.mp enough)
    rw [Reading.moreElements, tooDeep_apply, sound.finished_eq ended]
    exact ⟨sound.onward.toLeads, ended⟩
  | succ count ih =>
    by_cases space : stream.current.kind = .space
    · obtain ⟨more, row⟩ := stream.remaining_eq_cons (by simp [space])
      have skipped := sound.onward_skipped row
      rw [moreElements_space sound.toValid row space]
      refine .behind skipped ((atExpression _ skipped.sound).bind ?_)
      intro starts middle _ onward
      cases starts with
      | false => exact dottedTail last items.reverse middle onward.sound
      | true =>
        refine (each middle onward.sound).bind ?_
        intro item after _ behind
        refine ih (item :: items) behind.sound ?_
        have fewer := (onward.trans behind).length_remaining_le
        rw [skipped_remaining row] at fewer
        rw [row, List.length_cons] at enough
        omega
    · have noted := sound.onward_noting
        (isAt_mismatchHere stream (List.cons_ne_nil _ _ : Token.Kind.space.labels ≠ []))
      rw [moreElements_other sound.toValid space]
      exact .behind noted (closeList items.reverse _ noted.sound)

theorem elements {element tail : Reading Value} (each : Keeps element) (last : KeepsFresh tail)
    (items : List Value) : Keeps (MonadState.get >>= fun stream : TokenStream =>
      Reading.moreElements element tail (stream.rest.length + 1) items) :=
  fun _ sound => moreElements each last items sound sound.length_remaining_le

theorem parenthesizedWith {element tail : Reading Value} (each : Keeps element)
    (last : KeepsFresh tail) : Keeps (parenthesizedWith element tail) :=
  atExpression.bind fun _ => .ite
    (each.bind fun first => elements each last [first])
    (peek.bind fun _ => .ite (dottedTail last []) (closeList []))

theorem expressionWith {quoted parenthesized : Reading Value} (inner : KeepsFresh quoted)
    (list : KeepsFresh parenthesized) : Keeps (expressionWith quoted parenthesized) := by
  intro stream sound
  have valid := sound.toValid
  by_cases starts : stream.current.kind.startsExpression = false
  · rw [expressionWith_other valid starts]
    exact ⟨sound.onward_looked,
      (isAt_mismatchHere stream (by decide +kernel)).of_current (looked_current stream)⟩
  have real : stream.current.kind ≠ .eof := by
    intro ended
    simp [ended, Token.Kind.startsExpression] at starts
  obtain ⟨more, row⟩ := stream.remaining_eq_cons real
  have onward := sound.onward_skipped row
  have fresh := (valid.takes_skipped row).fresh
  cases kind : stream.current.kind with
  | atom =>
    rw [expressionWith_single valid row (.atom kind)]
    exact onward
  | string =>
    rw [expressionWith_single valid row (.string kind)]
    exact onward
  | number =>
    by_cases short : stream.current.text.length ≤ digitLimit
    · rw [expressionWith_single valid row (.number kind short)]
      exact onward
    · rw [expressionWith_tooLong valid row kind (Nat.lt_of_not_le short)]
      exact onward
  | quote =>
    rw [expressionWith_quote valid row kind]
    refine .behind onward ((inner stream.skipped fresh).bind ?_)
    intro value after _ behind
    exact behind.sound.onward
  | opening =>
    rw [expressionWith_opening valid row kind]
    exact .behind onward (list stream.skipped fresh)
  | unterminated =>
    -- the string is consumed first, so that the end of the text is the current token
    rw [expressionWith_unterminated valid row kind]
    have ended : stream.skipped.current = stream.skipped.eof := by
      rw [current, skipped_remaining row, valid.eq_nil_of_unterminated row kind]
      rfl
    have once : Token.Kind.string.labels.Nodup := by decide
    exact ⟨onward, by rw [ended, eof, skipped_source], List.cons_ne_nil _ _, once⟩
  | space | closing | dot | unknown | eof => simp [kind, Token.Kind.startsExpression] at starts

end Keeps

namespace KeepsFresh

theorem tooDeep : KeepsFresh tooDeep :=
  fun _ fresh => fresh.stops_finished

variable {room : Nat} (smaller : ∀ inner < room, Keeps (expression inner))

include smaller

theorem quotedWithin : KeepsFresh (quotedWithin room) := by
  cases room with
  | zero => exact tooDeep
  | succ room => exact (smaller room (Nat.lt_succ_self room)).fresh

theorem tailWithin : KeepsFresh (tailWithin room) := by
  cases room with
  | zero => exact tooDeep
  | succ room => exact (smaller room (Nat.lt_succ_self room)).fresh

theorem parenthesizedWithin : KeepsFresh (parenthesizedWithin room) := by
  match room with
  | 0 | 1 => exact tooDeep
  | room + 2 =>
    rw [Reading.parenthesizedWithin, parenthesized_eq]
    exact (Keeps.parenthesizedWith (smaller room (by omega))
      (tailWithin fun inner less => smaller inner (by omega))).fresh

end KeepsFresh

theorem Keeps.expression (room : Nat) : Keeps (expression room) := by
  induction room using Nat.strong_induction_on with
  | h room smaller =>
    intro stream sound
    rw [expression_eq]
    exact Keeps.expressionWith (.quotedWithin smaller) (.parenthesizedWithin smaller) stream sound

theorem Keeps.parenthesized (room : Nat) : Keeps (parenthesized room) := by
  rw [parenthesized_eq]
  exact .parenthesizedWith (.expression room) (.tailWithin fun inner _ => .expression inner)

def leaving (step : Reading α) (stream : TokenStream) : TokenStream :=
  match step stream with
  | .ok _ after | .error _ after => after

def exhausts (step : Reading α) (stream : TokenStream) : Bool :=
  match step stream with
  | .error (.limit .depth) _ => true
  | _ => false

theorem Keeps.leaving_cases {step : Reading α} (keeps : Keeps step) {stream : TokenStream}
    (sound : stream.Sound) :
    step.exhausts stream = true ∧ stream.Stops (step.leaving stream) ∨
      step.exhausts stream = false ∧ stream.Onward (step.leaving stream) := by
  have left := keeps stream sound
  unfold exhausts leaving
  cases ran : step stream with
  | ok value after =>
    rw [ran] at left
    exact .inr ⟨rfl, left⟩
  | error fault after =>
    rw [ran] at left
    cases fault with
    | mismatch found => exact .inr ⟨rfl, left.1⟩
    | limit reached =>
      cases reached with
      | depth => exact .inl ⟨rfl, left⟩
      | numeral digits => exact .inr ⟨rfl, left⟩
      | integer => exact .inr ⟨rfl, left⟩

end Reading

/-! ## Runs -/

inductive Phrase where
  | expression (room : Nat)
  | parenthesized (room : Nat)
  | separator
  | dottedTail (room : Nat) (items : List Value)

def Phrase.reading : Phrase → Reading (Value ⊕ Token)
  | .expression room => Sum.inl <$> Reading.expression room
  | .parenthesized room => Sum.inl <$> Reading.parenthesized room
  | .separator => Sum.inr <$> Reading.separator
  | .dottedTail room items => Sum.inl <$> Reading.dottedTail (Reading.expression room) items

theorem Phrase.keeps (phrase : Phrase) : phrase.reading.Keeps := by
  cases phrase with
  | expression room => exact .map _ (.expression room)
  | parenthesized room => exact .map _ (.parenthesized room)
  | separator => exact .map _ .separator
  | dottedTail room items => exact .map _ (.dottedTail (Reading.Keeps.expression room).fresh items)

inductive Operation where
  | peek
  | advance
  | expect (kind : Token.Kind) (label : String)
  /-- Expects a token of a kind that there is not. -/
  | refuse (label : String)
  | read (phrase : Phrase)
  | attempt (phrase : Phrase)
  | atExpression

namespace Operation

def reading : Operation → Reading Unit
  | .peek => (fun _ => ()) <$> TokenStream.peek
  | .advance => (fun _ => ()) <$> TokenStream.advance
  | .expect kind label => (fun _ => ()) <$> TokenStream.expect kind label
  | .refuse label => TokenStream.reject [label]
  | .read phrase => (fun _ => ()) <$> phrase.reading
  | .attempt phrase => (fun _ => ()) <$> TokenStream.attempt phrase.reading
  | .atExpression => (fun _ => ()) <$> TokenStream.atExpression

theorem keeps (operation : Operation) : operation.reading.Keeps := by
  cases operation with
  | peek => exact .map _ .peek
  | advance => exact .map _ .advance
  | expect kind label => exact .map _ (.expect kind label)
  | refuse label => exact .reject (List.cons_ne_nil label [])
  | read phrase => exact .map _ phrase.keeps
  | attempt phrase => exact .map _ phrase.keeps.attempt
  | atExpression => exact .map _ .atExpression

def after (stream : TokenStream) (operation : Operation) : TokenStream :=
  operation.reading.leaving stream

def run (operations : List Operation) (stream : TokenStream) : TokenStream :=
  operations.foldl after stream

theorem run_leads (operations : List Operation) {stream : TokenStream} (sound : stream.Sound) :
    stream.Leads (run operations stream) := by
  induction operations generalizing stream with
  | nil => exact sound.onward.toLeads
  | cons operation operations ih =>
    have first : stream.Leads (after stream operation) := by
      obtain ⟨-, stops⟩ | ⟨-, onward⟩ := operation.keeps.leaving_cases sound
      · exact stops.toLeads
      · exact onward.toLeads
    exact first.trans (ih first.sound)

end Operation

namespace TokenStream

variable {stream after : TokenStream} {source : List Char}

end TokenStream

/-! ## Room that is used up -/

end Lisplet
