import Lisplet.Proofs.Alternatives
import Lisplet.Proofs.Language
import Lisplet.Proofs.Verdicts

/-! Reading from the middle of a source. What is read there, and where it stops, is what is read
from the text behind that place alone; of what came before only the expectations at that place
count. -/

set_option autoImplicit false

namespace Lisplet

open TokenStream Reading

/-! ## Rows of tokens at another offset -/

namespace Token

def moved (offset : Nat) (token : Token) : Token :=
  { token with pos := offset + token.pos }

theorem allFrom_moved (offset pos : Nat) (text : List Char) :
    allFrom (offset + pos) text = (allFrom pos text).map (moved offset) := by
  induction pos, text using allFrom_induction with
  | nil => simp
  | cons pos text kind lexeme rest found ih =>
    rw [allFrom_of_lexeme? _ found, allFrom_of_lexeme? pos found, List.map_cons, ← ih,
      Nat.add_assoc]
    rfl

@[simp] theorem textOf_moved (offset : Nat) (tokens : List Token) :
    textOf (tokens.map (moved offset)) = textOf tokens := by
  rw [textOf, List.flatMap_map]
  rfl

theorem length_textOf_eq_zero_iff {pos : Nat} {text : List Char} {tokens others : List Token}
    (split : allFrom pos text = tokens ++ others) : (textOf tokens).length = 0 ↔ tokens = [] := by
  constructor
  · intro nothing
    have row := allFrom_textOf split
    rwa [List.length_eq_zero_iff.mp nothing, allFrom_nil, eq_comm] at row
  · rintro rfl
    rfl

def first (row : List Token) : Token :=
  row.headD ⟨.eof, [], 0⟩

theorem first_moved (offset : Nat) (row : List Token) :
    (first (row.map (moved offset))).kind = (first row).kind ∧
      (first (row.map (moved offset))).shown = (first row).shown := by
  cases row with
  | nil => exact ⟨rfl, rfl⟩
  | cons token row => exact ⟨rfl, rfl⟩

end Token

open Token (moved)

mutual

theorem Spells.moved {room : Nat} {tokens : List Token} {value : Value} (offset : Nat) :
    Spells room tokens value → Spells room (tokens.map (moved offset)) value
  | .atom kind => .atom kind
  | .number kind short => .number kind short
  | .string kind => .string kind
  | .quoted kind inner => .quoted kind (inner.moved offset)
  | .empty kind closed => .empty kind closed
  | .list kind front last closed => by
    simp only [List.map_cons, List.map_append, List.map_nil]
    exact .list kind (front.moved offset) (last.moved offset) closed
  | .dotted kind front dot gap last closed => by
    simp only [List.map_cons, List.map_append, List.map_nil]
    exact .dotted kind (front.moved offset) dot gap (last.moved offset) closed

theorem SpellsEach.moved {room : Nat} {tokens : List Token} {values : List Value} (offset : Nat) :
    SpellsEach room tokens values → SpellsEach room (tokens.map (moved offset)) values
  | .nil => .nil
  | .cons first gap rest => by
    simp only [List.map_append, List.map_cons]
    exact .cons (first.moved offset) gap (rest.moved offset)

end

theorem Descends.moved {levels result : List Level} {tokens : List Token} (offset : Nat)
    (descends : Descends levels tokens result) :
    Descends levels (tokens.map (moved offset)) result := by
  constructor
  · intro token member
    obtain ⟨original, found, rfl⟩ := List.mem_map.mp member
    exact descends.short original found
  · rw [Level.run, List.foldlM_map]
    exact descends.ran

/-! ## Verdicts -/

namespace Reading

/-- What comes of reading an expression, told from the place where reading starts. -/
inductive Verdict where
  | value (value : Value) (length : Nat)
  | mismatch (length : Nat) (unexpected : String) (point : Point)
  | limit (reached : Limit)

/-- The verdict for a reader that has consumed the tokens and stands at the levels before the
rest. -/
inductive Ruling (room : Nat) (tokens : List Token) :
    List Level → List Token → Verdict → Prop where
  | value {rest : List Token} {value : Value} : Spells room tokens value →
      Ruling room tokens [] rest (.value value (Token.textOf tokens).length)
  | mismatch {level : Level} {under : List Level} {rest : List Token} :
      level.point.follow (Token.first rest).kind = none →
      Ruling room tokens (level :: under) rest
        (.mismatch (Token.textOf tokens).length (Token.first rest).shown level.point)
  | tooDeep {level : Level} {under : List Level} {token : Token} {rest : List Token} :
      (level.point.follow token.kind).isSome = true →
      level.room < Level.cost level.point token.kind →
      Ruling room tokens (level :: under) (token :: rest) (.limit .depth)
  | tooLong {level : Level} {under : List Level} {token : Token} {rest : List Token} :
      (level.point.follow .number).isSome = true → token.kind = .number →
      digitLimit < token.text.length →
      Ruling room tokens (level :: under) (token :: rest) (.limit (.numeral token.text.length))

def verdictAt (tokens : List Token) (level : Level) (next : Token) : Verdict :=
  if level.point.follow next.kind = none then
    .mismatch (Token.textOf tokens).length next.shown level.point
  else if level.room < Level.cost level.point next.kind then .limit .depth
  else .limit (.numeral next.text.length)

def Judged (room : Nat) (row : List Token) (verdict : Verdict) : Prop :=
  ∃ tokens levels rest, row = tokens ++ rest ∧
    Descends [⟨.expression, room⟩] tokens levels ∧ Ruling room tokens levels rest verdict

variable {room : Nat} {row tokens rest : List Token} {levels : List Level}
  {verdict other : Verdict} {stream : TokenStream}

namespace Ruling

theorem halts (ruling : Ruling room tokens levels rest verdict) : Halts levels rest := by
  cases ruling with
  | value => exact halts_nil rest
  | mismatch stops =>
    apply halts_of_follow
    intro next member
    obtain ⟨later, rfl⟩ := List.head?_eq_some_iff.mp member
    exact Level.follow_eq_none stops
  | tooDeep _ deep => exact halts_of_deep deep
  | tooLong _ kind long => exact halts_of_long kind long

theorem eq_verdictAt {level : Level} {under : List Level}
    (ruling : Ruling room tokens (level :: under) rest verdict) :
    verdict = verdictAt tokens level (Token.first rest) := by
  cases ruling with
  | mismatch stops => rw [verdictAt, if_pos stops]
  | tooDeep follows deep =>
    rw [Token.first, List.headD_cons, verdictAt, if_neg (Option.isSome_iff_ne_none.mp follows),
      if_pos deep]
  | tooLong follows kind long =>
    rw [Token.first, List.headD_cons, verdictAt, kind, Level.cost_number,
      if_neg (Option.isSome_iff_ne_none.mp follows), if_neg (Nat.not_lt_zero _)]

theorem unique (one : Ruling room tokens levels rest verdict)
    (two : Ruling room tokens levels rest other) (valid : stream.Valid)
    (row : stream.remaining = tokens ++ rest) : verdict = other := by
  cases levels with
  | cons level under => rw [one.eq_verdictAt, two.eq_verdictAt]
  | nil =>
    cases one with
    | value spelled =>
      cases two with
      | value again => rw [spelled.unique again valid row]

theorem moved (ruling : Ruling room tokens levels rest verdict) (offset : Nat) :
    Ruling room (tokens.map (Token.moved offset)) levels (rest.map (Token.moved offset))
      verdict := by
  cases ruling with
  | value spelled =>
    rw [← Token.textOf_moved offset]
    exact .value (spelled.moved offset)
  | mismatch stops =>
    obtain ⟨kind, shown⟩ := Token.first_moved offset rest
    rw [← Token.textOf_moved offset, ← shown]
    exact .mismatch (kind ▸ stops)
  | tooDeep follows deep => exact .tooDeep follows deep
  | tooLong follows kind long => exact .tooLong follows kind long

end Ruling

theorem Judged.unique (one : Judged room stream.remaining verdict)
    (two : Judged room stream.remaining other) (valid : stream.Valid) : verdict = other := by
  obtain ⟨tokens, levels, rest, row, reached, ruling⟩ := one
  obtain ⟨others, result, more, again, descends, second⟩ := two
  obtain ⟨rfl, rfl⟩ := reached.unique descends (row.symm.trans again) ruling.halts second.halts
  obtain rfl : rest = more := List.append_cancel_left (row.symm.trans again)
  exact ruling.unique second valid row

theorem Judged.moved (judged : Judged room row verdict) (offset : Nat) :
    Judged room (row.map (Token.moved offset)) verdict := by
  obtain ⟨tokens, levels, rest, rfl, reached, ruling⟩ := judged
  exact ⟨_, levels, _, List.map_append, reached.moved offset, ruling.moved offset⟩

end Reading

/-! ## Places in a source -/

namespace TokenStream

def StandsAt (stream : TokenStream) (offset : Nat) : Prop :=
  ∃ token looked, peek stream = .ok token looked ∧ token.pos = offset

variable {stream after : TokenStream} {tokens : List Token} {offset : Nat}

theorem Valid.standsAt_iff (valid : stream.Valid) :
    stream.StandsAt offset ↔ stream.current.pos = offset := by
  constructor
  · rintro ⟨token, looked, found, place⟩
    rw [valid.peek_eq] at found
    cases found
    exact place
  · intro place
    exact ⟨_, _, valid.peek_eq, place⟩

theorem Valid.remaining_eq_allFrom (valid : stream.Valid) : stream.remaining =
    Token.allFrom stream.current.pos (stream.source.drop stream.current.pos) := by
  obtain ⟨pos, left⟩ := valid.left
  cases row : stream.remaining with
  | nil => simp [current, row, eof]
  | cons token more =>
    have first := left.symm.trans row
    obtain ⟨-, place, -⟩ := Token.allFrom_eq_cons first
    rw [current_eq row, place, first]

theorem Valid.remaining_eq_moved (valid : stream.Valid) : stream.remaining =
    (Token.all (stream.source.drop stream.current.pos)).map (moved stream.current.pos) := by
  rw [Token.all, ← Token.allFrom_moved, Nat.add_zero]
  exact valid.remaining_eq_allFrom

theorem current_pos_start (sourceName : String) (source : List Char) :
    (start sourceName source).current.pos = 0 := by
  cases row : Token.all source with
  | nil =>
    have nothing : source = [] := by rw [← Token.textOf_allFrom 0 source, ← Token.all, row]; rfl
    rw [current, remaining_start, row, List.headD_nil, nothing]
    rfl
  | cons token more =>
    rw [current_eq ((remaining_start sourceName source).trans row)]
    exact (Token.allFrom_eq_cons row).2.1

theorem Valid.current_pos_add (valid : stream.Valid) :
    stream.current.pos + (Token.textOf stream.remaining).length = stream.source.length := by
  cases row : stream.remaining with
  | nil => simp [current, row, eof]
  | cons token more =>
    have whole := valid.remaining_eq_allFrom
    rw [← row, whole, Token.textOf_allFrom, List.length_drop]
    have bound : stream.current.pos < stream.source.length := by
      by_contra beyond
      rw [List.drop_of_length_le (Nat.le_of_not_lt beyond), Token.allFrom_nil, row] at whole
      cases whole
    omega

theorem current_eq_first (stream : TokenStream) :
    stream.current.kind = (Token.first stream.remaining).kind ∧
      stream.current.shown = (Token.first stream.remaining).shown := by
  unfold current
  cases stream.remaining with
  | nil => exact ⟨rfl, rfl⟩
  | cons token more => exact ⟨rfl, rfl⟩

theorem Valid.current_pos_behind (valid : stream.Valid) (behind : after.Valid)
    (source : after.source = stream.source) (row : stream.remaining = tokens ++ after.remaining) :
    after.current.pos = stream.current.pos + (Token.textOf tokens).length := by
  have here := valid.current_pos_add
  have there := behind.current_pos_add
  rw [row, Token.textOf_append, List.length_append] at here
  rw [source] at there
  omega

end TokenStream

namespace Reading

/-- How a verdict shows in the result of reading from a stream. -/
inductive Tells (stream : TokenStream) :
    Verdict → EStateM.Result ReadFault TokenStream Value → Prop where
  | value {value : Value} {length : Nat} {after : TokenStream} : after.Valid →
      after.current.pos = stream.current.pos + length →
      Tells stream (.value value length) (.ok value after)
  | mismatch {length : Nat} {unexpected : String} {point : Point} {after : TokenStream} :
      Tells stream (.mismatch length unexpected point)
        (.error (.mismatch ⟨(stream.current.pos + length : Nat), unexpected,
          ((if length = 0 then stream.earlier else []) ++ point.labels).eraseDups⟩) after)
  | limit {reached : Limit} {after : TokenStream} :
      Tells stream (.limit reached) (.error (.limit reached) after)

variable {room : Nat} {verdict : Verdict} {stream : TokenStream}

theorem exists_verdict (room : Nat) (valid : stream.Valid) :
    ∃ verdict, Judged room stream.remaining verdict ∧
      Tells stream verdict (expression room stream) := by
  have outcome := expression_correct room stream valid
  generalize expression room stream = result at outcome
  cases outcome with
  | @done tokens value after taken spelled =>
    rw [List.nil_append] at spelled
    refine ⟨_, ⟨tokens, [], _, taken.remaining, spelled.descends, .value spelled⟩, ?_⟩
    exact .value taken.fresh.toValid
      (valid.current_pos_behind taken.fresh.toValid taken.source taken.remaining)
  | @stuck tokens level under after behind source row reached stops =>
    rw [List.nil_append] at reached
    obtain ⟨kind, shown⟩ := after.current_eq_first
    rw [kind] at stops
    refine ⟨_, ⟨tokens, _, after.remaining, row, reached, .mismatch stops⟩, ?_⟩
    have nothing := Token.length_textOf_eq_zero_iff (valid.remaining_eq_allFrom.symm.trans row)
    simp only [valid.current_pos_behind behind source row, shown, ← nothing]
    exact .mismatch
  | tooDeep row reached follows deep =>
    exact ⟨_, ⟨_, _, _, row, reached, .tooDeep follows deep⟩, .limit⟩
  | tooLong row reached follows kind long =>
    exact ⟨_, ⟨_, _, _, row, reached, .tooLong follows kind long⟩, .limit⟩

/-- The verdict at a place is that on the text from there on. -/
theorem exists_shared_verdict (room : Nat) (valid : stream.Valid) {text : List Char}
    (same : stream.source.drop stream.current.pos = text) (name : String) :
    ∃ verdict, Judged room (Token.all text) verdict ∧
      Tells stream verdict (expression room stream) ∧
      Tells (.start name text) verdict (expression room (.start name text)) := by
  obtain ⟨verdict, judged, here⟩ := exists_verdict room valid
  obtain ⟨other, alone, there⟩ := exists_verdict room (valid_start name text)
  rw [remaining_start] at alone
  have moved := alone.moved stream.current.pos
  rw [← same, ← valid.remaining_eq_moved] at moved
  obtain rfl := judged.unique moved valid
  exact ⟨verdict, alone, here, there⟩

/-- The characters of an expression are read as the same value when nothing follows them. -/
theorem Judged.parse_take {text : List Char} {value : Value} {length : Nat}
    (judged : Judged room (Token.all text) (.value value length)) :
    0 < length ∧ ∀ name more, room ≤ more →
      (Source.parseWithin more name (String.ofList (text.take length))).result = .ok value := by
  obtain ⟨tokens, levels, rest, row, -, ruling⟩ := judged
  cases ruling with
  | value spelled =>
    obtain ⟨split, reads, -⟩ := spelled.reads_textOf row
    have slice : text.take (Token.textOf tokens).length = Token.textOf tokens := by
      rw [split, List.take_left]
    constructor
    · apply Nat.pos_of_ne_zero
      rw [Ne, Token.length_textOf_eq_zero_iff row]
      rintro rfl
      obtain ⟨first, others, nothing, -⟩ := spelled.exists_first
      cases nothing
    · intro name more larger
      rw [slice, Source.parseWithin_eq_ok_iff, exists_expression_ok_iff]
      refine ⟨_, [], ?_, reads.mono larger, not_extends_nil _⟩
      rw [String.toList_ofList, List.append_nil]

namespace Tells

variable {result : EStateM.Result ReadFault TokenStream Value}

theorem ok_iff (told : Tells stream verdict result) (value : Value) (length : Nat) :
    (∃ after, result = .ok value after ∧ after.StandsAt (stream.current.pos + length)) ↔
      verdict = .value value length := by
  cases told with
  | @value found count after valid place =>
    constructor
    · rintro ⟨_, ⟨⟩, stands⟩
      rw [valid.standsAt_iff, place] at stands
      rw [Nat.add_left_cancel stands]
    · rintro ⟨⟩
      exact ⟨after, rfl, valid.standsAt_iff.mpr place⟩
  | mismatch => simp
  | limit => simp

theorem mismatch_iff (told : Tells stream verdict result) (distance : Int) (unexpected : String)
    (expected : List String) :
    (∃ after, result =
      .error (.mismatch ⟨stream.current.pos + distance, unexpected, expected⟩) after) ↔
      ∃ (length : Nat) (point : Point), verdict = .mismatch length unexpected point ∧
        distance = length ∧
        expected = ((if length = 0 then stream.earlier else []) ++ point.labels).eraseDups := by
  cases told with
  | value => simp
  | @mismatch count found point after =>
    constructor
    · rintro ⟨_, same⟩
      simp only [EStateM.Result.error.injEq, ReadFault.mismatch.injEq, Mismatch.mk.injEq] at same
      obtain ⟨⟨place, rfl, rfl⟩, -⟩ := same
      exact ⟨count, point, rfl, by omega, rfl⟩
    · rintro ⟨_, _, ⟨⟩, rfl, rfl⟩
      exact ⟨after, by rw [Int.natCast_add]⟩
  | limit => simp

theorem limit_iff (told : Tells stream verdict result) {reached : Limit} :
    (∃ after, result = .error (.limit reached) after) ↔ verdict = .limit reached := by
  cases told with
  | value => simp
  | mismatch => simp
  | limit => simp [eq_comm]

end Tells

end Reading

theorem TokenStream.Sound.eraseDups_earlier {stream : TokenStream} (sound : stream.Sound)
    (length : Nat) (point : Point) :
    ((if length = 0 then stream.earlier else []) ++ point.labels).eraseDups =
      if (length : Int) = 0 then (stream.remembered ++ point.labels).eraseDups
      else point.labels := by
  rw [sound.earlier_eq]
  by_cases here : length = 0
  · simp [here]
  · simp [here, point.labels_eraseDups]

/-- At every place that a stream can come to, an expression is read, or not, as it is from the text
behind that place alone, and then its characters alone are read as the same value. A failure is the
same one, at the same distance; only one right at that place names what was expected there
before. -/
theorem expression_at_offset {sourceName : String} {source : List Char}
    {operations : List Operation} {stream : TokenStream} {offset : Nat}
    (reached : Operation.run operations (.start sourceName source) = stream)
    (stands : stream.StandsAt offset) (room : Nat) (name : String) :
    (∀ value length,
      (∃ after, expression room stream = .ok value after ∧ after.StandsAt (offset + length)) ↔
        ∃ after, expression room (.start name (source.drop offset)) = .ok value after ∧
          after.StandsAt length) ∧
    (∀ value length,
      (∃ after, expression room stream = .ok value after ∧ after.StandsAt (offset + length)) →
        0 < length ∧ ∀ more, room ≤ more → (Source.parseWithin more name
          (String.ofList ((source.drop offset).take length))).result = .ok value) ∧
    (∀ (distance : Int) unexpected expected,
      (∃ after, expression room stream =
        .error (.mismatch ⟨offset + distance, unexpected, expected⟩) after) ↔
        ∃ alone after, expression room (.start name (source.drop offset)) =
            .error (.mismatch ⟨distance, unexpected, alone⟩) after ∧
          expected = if distance = 0 then (stream.remembered ++ alone).eraseDups else alone) ∧
    ∀ limit, (∃ after, expression room stream = .error (.limit limit) after) ↔
      ∃ after, expression room (.start name (source.drop offset)) =
        .error (.limit limit) after := by
  have onward := Operation.run_leads operations (sound_start sourceName source)
  rw [reached] at onward
  have valid := onward.sound.toValid
  obtain rfl := valid.standsAt_iff.mp stands
  have text : stream.source.drop stream.current.pos = source.drop stream.current.pos := by
    rw [onward.source]
    rfl
  -- both readers get one verdict, and every clause is read off it on the two sides
  obtain ⟨verdict, judged, here, there⟩ := exists_shared_verdict room valid text name
  have front : (start name (source.drop stream.current.pos)).current.pos = 0 :=
    current_pos_start _ _
  have read := there.ok_iff
  simp only [front, Nat.zero_add] at read
  refine ⟨?_, ?_, ?_, ?_⟩
  · intro value length
    rw [here.ok_iff, read]
  · intro value length found
    obtain rfl := (here.ok_iff value length).mp found
    obtain ⟨positive, parsed⟩ := judged.parse_take
    exact ⟨positive, parsed name⟩
  · intro distance unexpected expected
    have apart := there.mismatch_iff distance unexpected
    simp only [front, Int.natCast_zero, Int.zero_add, (fresh_start name _).earlier, ite_self,
      List.nil_append, Point.labels_eraseDups] at apart
    rw [here.mismatch_iff]
    constructor
    · rintro ⟨length, point, rfl, rfl, rfl⟩
      obtain ⟨after, ran⟩ := (apart point.labels).mpr ⟨length, point, rfl, rfl, rfl⟩
      exact ⟨point.labels, after, ran, onward.sound.eraseDups_earlier length point⟩
    · rintro ⟨alone, after, ran, rfl⟩
      obtain ⟨length, point, rfl, rfl, rfl⟩ := (apart alone).mp ⟨after, ran⟩
      exact ⟨length, point, rfl, rfl, (onward.sound.eraseDups_earlier length point).symm⟩
  · intro limit
    rw [here.limit_iff, there.limit_iff]

theorem expression_at_offset_sample :
    (∃ after, expression 1 (Operation.run [.advance, .advance, .advance]
        (.start "lisp" ['(', 'a', ' ', '\'', 'b', ')'])) = .ok (Value.quoted (.atom "b")) after ∧
      after.StandsAt (3 + 2)) ∧
    (Source.parseWithin 1 "alone" (String.ofList ['\'', 'b'])).result =
      .ok (Value.quoted (.atom "b")) ∧
    ∃ after, expression 1 (Operation.run [.advance, .advance, .attempt .separator]
        (.start "lisp" ['(', 'a', ')'])) =
      .error (.mismatch ⟨(2 : Nat) + 0, Text.shownChar ')', "space" :: Token.expressionLabels⟩)
        after := by
  have inner : (Operation.run [.advance, .advance, .advance]
      (.start "lisp" ['(', 'a', ' ', '\'', 'b', ')'])).StandsAt 3 := ⟨_, _, rfl, rfl⟩
  have last : (Operation.run [.advance, .advance, .attempt .separator]
      (.start "lisp" ['(', 'a', ')'])).StandsAt 2 := ⟨_, _, rfl, rfl⟩
  obtain ⟨reads, alone, -, -⟩ := expression_at_offset rfl inner 1 "alone"
  obtain ⟨-, -, fails, -⟩ := expression_at_offset rfl last 1 "alone"
  have read := (reads (Value.quoted (.atom "b")) 2).mpr ⟨_, rfl, _, _, rfl, rfl⟩
  refine ⟨read, (alone _ 2 read).2 1 (Nat.le_refl 1), ?_⟩
  exact (fails 0 _ _).mpr ⟨Token.expressionLabels, _, rfl, rfl⟩

end Lisplet
