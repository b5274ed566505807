import Lisplet.Proofs.Language
import Lisplet.Proofs.Prefixes
import Lisplet.Proofs.StreamRuns
import Lisplet.Proofs.Verdicts

/-! Where a source first does not fit. The text up to there, with one character more, decides what
the error says: no text behind it changes the tokens before it or lets the reader past it. -/

set_option autoImplicit false

namespace Lisplet

open Reading Text

def mismatchError (sourceName : String) (source : List Char) (pos : Nat) (expected : List String) :
    SyntaxError where
  pos := pos
  line := (positionAt source pos).line
  column := (positionAt source pos).column
  unexpected := (source[pos]?).elim "end of input" shownChar
  expected := expected
  sourceName := sourceName
  reason := none

/-- With this much room, the reader gets through the text and not into the tokens behind it. -/
structure StopsAt (room : Nat) (source before : List Char) (more : List Token) (level : Level)
    (under : List Level) : Prop where
  reached : Descends [⟨.expression, room⟩] (Token.all before) (level :: under)
  row : Token.all source = Token.all before ++ more
  stops : ∀ next ∈ more.head?, level.point.follow next.kind = none

theorem shownChar_ne (c : Char) : shownChar c ≠ "end of input" := by
  intro same
  have texts := congrArg (List.head? ∘ String.toList) same
  simp [shownChar, quotedWith] at texts

theorem Token.shown_behind {source before : List Char} {more : List Token}
    (row : Token.all source = Token.all before ++ more) :
    (more.headD ⟨.eof, [], source.length⟩).pos = before.length ∧
      (more.headD ⟨.eof, [], source.length⟩).shown =
        (source[before.length]?).elim "end of input" shownChar := by
  have whole := Token.eq_append_of_all row
  cases more with
  | nil => simp [whole, Token.shown]
  | cons token more =>
    obtain ⟨found, place⟩ := Token.lexeme?_of_split row
    obtain ⟨c, text, nonempty⟩ := List.exists_cons_of_ne_nil (Token.lexeme?_ne_nil found)
    refine ⟨by simpa [Token.all] using place, ?_⟩
    simp [whole, Token.shown, nonempty]

theorem TokenStream.report_current {sourceName : String} {source before : List Char}
    {tokens : List Token} {stream : TokenStream} (name : stream.sourceName = sourceName)
    (same : stream.source = source)
    (row : Token.all source = Token.all before ++ stream.remaining) (point : Point) :
    stream.report ⟨stream.current.pos, stream.current.shown,
        ((if tokens = [] then (start sourceName source).earlier else []) ++
          point.labels).eraseDups⟩ =
      mismatchError sourceName source before.length point.labels := by
  obtain ⟨place, shown⟩ := Token.shown_behind row
  rw [(fresh_start sourceName source).earlier, ite_self, List.nil_append, Point.labels_eraseDups,
    report, mismatchError, ← shown, current, eof, same, place, name]

/-! ## The error and the place -/

theorem expression_of_parse_error {sourceName source : String} {cause : SyntaxError}
    (failed : parse sourceName source = .error (.error (.unreadable cause)))
    (mismatch : cause.reason = none) :
    ∃ found after, expression nestingRoom (.start sourceName source.toList) =
      .error (.mismatch found) after ∧ cause = after.report found := by
  rw [parse, Source.parseWithin] at failed
  split at failed
  case h_1 => simp at failed
  case h_2 found after ran =>
    refine ⟨found, after, ran, ?_⟩
    simpa [Traced.error, Traced.fail] using failed.symm
  case h_3 after ran =>
    obtain rfl : Source.tooDeepError after = cause := by
      simpa [Traced.error, Traced.fail] using failed
    simp [Source.tooDeepError] at mismatch
  case h_4 => simp [Traced.fail] at failed

theorem sourceName_of_expression {room : Nat} {sourceName : String} {source : List Char}
    {fault : ReadFault} {after : TokenStream}
    (ran : expression room (.start sourceName source) = .error fault after) :
    after.sourceName = sourceName := by
  have left := Keeps.expression room _ (TokenStream.sound_start sourceName source)
  rw [ran] at left
  exact left.leads.sourceName

theorem exists_stopsAt_of_expression {room : Nat} {sourceName : String} {source : List Char}
    {found : Mismatch} {after : TokenStream}
    (ran : expression room (.start sourceName source) = .error (.mismatch found) after) :
    ∃ before more level under, StopsAt room source before more level under ∧
      after.report found = mismatchError sourceName source before.length level.point.labels := by
  have name := sourceName_of_expression ran
  have outcome := expression_correct room _ (TokenStream.valid_start sourceName source)
  rw [ran] at outcome
  cases outcome with
  | @stuck tokens level under _ valid same left reached stops =>
    change Token.all source = tokens ++ after.remaining at left
    have cut : Token.all (Token.textOf tokens) = tokens := Token.allFrom_textOf left
    rw [← cut] at left
    rw [List.nil_append, ← cut] at reached
    refine ⟨Token.textOf tokens, after.remaining, level, under, ⟨reached, left, ?_⟩, ?_⟩
    · intro next member
      obtain ⟨more, row⟩ := List.head?_eq_some_iff.mp member
      rwa [TokenStream.current_eq row] at stops
    · exact TokenStream.report_current name same left level.point

theorem exists_stopsAt {sourceName source : String} {cause : SyntaxError}
    (failed : parse sourceName source = .error (.error (.unreadable cause)))
    (mismatch : cause.reason = none) :
    ∃ before more level under, StopsAt nestingRoom source.toList before more level under ∧
      cause = mismatchError sourceName source.toList before.length level.point.labels := by
  obtain ⟨found, after, ran, rfl⟩ := expression_of_parse_error failed mismatch
  exact exists_stopsAt_of_expression ran

namespace StopsAt

variable {room : Nat} {source before : List Char} {more : List Token} {level : Level}
  {under : List Level}

theorem source_eq (stopped : StopsAt room source before more level under) :
    source = before ++ Token.textOf more :=
  Token.eq_append_of_all stopped.row

theorem halts (stopped : StopsAt room source before more level under) :
    Halts (level :: under) more :=
  halts_of_follow fun next first => Level.follow_eq_none (stopped.stops next first)

/-- A reader that stops there says so: it comes to no other end before. -/
theorem expression_eq (stopped : StopsAt room source before more level under)
    (sourceName : String) :
    ∃ found after, expression room (.start sourceName source) = .error (.mismatch found) after ∧
      after.report found = mismatchError sourceName source before.length level.point.labels := by
  have outcome := expression_correct room _ (TokenStream.valid_start sourceName source)
  have row {tokens rest : List Token}
      (left : (TokenStream.start sourceName source).remaining = tokens ++ rest) :
      Token.all before ++ more = tokens ++ rest :=
    stopped.row.symm.trans left
  have name {fault : ReadFault} {after : TokenStream} :=
    @sourceName_of_expression room sourceName source fault after
  generalize expression room (.start sourceName source) = result at outcome name
  -- tokens are consumed up to one place only, which rules out the other ends
  cases outcome with
  | @done tokens value after taken spelled =>
    obtain ⟨-, ended⟩ := stopped.reached.unique spelled.descends (row taken.remaining)
      stopped.halts (halts_nil _)
    contradiction
  | @stuck tokens other rest after valid same left reached stops =>
    obtain ⟨rfl, levels⟩ := stopped.reached.unique reached (row left) stopped.halts
      (halts_of_stops stops)
    obtain ⟨rfl, -⟩ := List.cons.inj levels
    exact ⟨_, after, rfl, TokenStream.report_current (name rfl) same left level.point⟩
  | @tooDeep tokens later token other rest after left reached follows deep =>
    obtain ⟨rfl, levels⟩ := stopped.reached.unique reached (row left) stopped.halts
      (halts_of_deep deep)
    obtain ⟨rfl, -⟩ := List.cons.inj levels
    obtain rfl := List.append_cancel_left (row left)
    simp [stopped.stops token rfl] at follows
  | @tooLong tokens later token other rest after left reached follows number long =>
    obtain ⟨rfl, levels⟩ := stopped.reached.unique reached (row left) stopped.halts
      (halts_of_long number long)
    obtain ⟨rfl, -⟩ := List.cons.inj levels
    obtain rfl := List.append_cancel_left (row left)
    simp [← number, stopped.stops token rfl] at follows

theorem raise (stopped : StopsAt room source before more level under) (extra : Nat) :
    StopsAt (room + extra) source before more (level.raise extra)
      (under.map (Level.raise extra)) :=
  ⟨stopped.reached.raise extra, stopped.row, stopped.stops⟩

/-- One character of the text behind the place decides that the reader stops there. -/
theorem again {c : Char} {rest : List Char}
    (stopped : StopsAt room (before ++ c :: rest) before more level under) (text : List Char) :
    ∃ others, StopsAt room (before ++ c :: text) before others level under := by
  cases more with
  | nil => simpa using stopped.source_eq
  | cons next more =>
    obtain ⟨token, later, joined, still⟩ :=
      Point.exists_stuck_again stopped.row (stopped.stops next rfl) text
    refine ⟨token :: later, stopped.reached, joined, ?_⟩
    rintro next ⟨⟩
    exact still

end StopsAt

theorem parse_of_stopsAt {source : String} {before : List Char} {more : List Token} {level : Level}
    {under : List Level} (stopped : StopsAt nestingRoom source.toList before more level under)
    (sourceName : String) :
    parse sourceName source = .error (.error (.unreadable
      (mismatchError sourceName source.toList before.length level.point.labels))) := by
  obtain ⟨found, after, ran, same⟩ := stopped.expression_eq sourceName
  rw [parse_of_mismatch ran, same]

theorem mismatchError_append_cons (sourceName name : String) (before rest text : List Char)
    (c : Char) (expected : List String) :
    mismatchError name (before ++ c :: text) before.length expected =
      { mismatchError sourceName (before ++ c :: rest) before.length expected with
        sourceName := name } := by
  simp [mismatchError, positionAt]

theorem Point.labels_ne_nil (point : Point) : point.labels ≠ [] := by
  cases point <;> decide +kernel

theorem Point.nodup_labels (point : Point) : point.labels.Nodup := by
  rw [← point.labels_eraseDups]
  exact nodup_eraseDups point.labels

/-- The parts of the error of a source that does not fit agree with each other, and every source
that is the same up to the character that does not fit has the same error. -/
theorem parse_error_determined (sourceName source : String) (cause : SyntaxError)
    (failed : parse sourceName source = .error (.error (.unreadable cause)))
    (mismatch : cause.reason = none) :
    ∃ pos : Nat, cause.pos = pos ∧ pos ≤ source.length ∧
      cause.line = (positionAt source.toList cause.pos).line ∧
      cause.column = (positionAt source.toList cause.pos).column ∧
      (cause.unexpected = "end of input" ↔ pos = source.length) ∧
      (∀ c, source.toList[pos]? = some c → cause.unexpected = shownChar c) ∧
      cause.expected ≠ [] ∧ cause.expected.Nodup ∧
      (pos < source.length → ∀ name other : String,
        other.toList.take (pos + 1) = source.toList.take (pos + 1) →
        parse name other = .error (.error (.unreadable { cause with sourceName := name }))) := by
  obtain ⟨before, more, level, under, stopped, rfl⟩ := exists_stopsAt failed mismatch
  have length : source.length = before.length + (Token.textOf more).length := by
    rw [← String.length_toList, stopped.source_eq, List.length_append]
  refine ⟨before.length, rfl, by omega, rfl, rfl, ?_, ?_, level.point.labels_ne_nil,
    level.point.nodup_labels, ?_⟩
  · cases shown : source.toList[before.length]? with
    | none =>
      have ended := List.getElem?_eq_none_iff.mp shown
      rw [String.length_toList] at ended
      simp only [mismatchError, shown, Option.elim_none, true_iff]
      omega
    | some c =>
      obtain ⟨inside, -⟩ := List.getElem?_eq_some_iff.mp shown
      rw [String.length_toList] at inside
      simp only [mismatchError, shown, Option.elim_some, shownChar_ne, false_iff]
      omega
  · intro c shown
    simp [mismatchError, shown]
  · intro inside name other agrees
    -- the other source has the same text before the mismatch and one character behind it
    obtain ⟨c, rest, tail⟩ := List.exists_cons_of_length_pos (l := Token.textOf more) (by omega)
    have longer : source.toList = before ++ c :: rest := tail ▸ stopped.source_eq
    have one : source.toList.take (before.length + 1) = before ++ [c] := by
      rw [longer, List.append_cons, List.take_left' (by simp)]
    obtain ⟨text, split⟩ : ∃ text, other.toList = before ++ c :: text := by
      refine ⟨other.toList.drop (before.length + 1), ?_⟩
      rw [List.append_cons, ← one, ← agrees, List.take_append_drop]
    rw [longer] at stopped ⊢
    obtain ⟨others, again⟩ := stopped.again text
    rw [← split] at again
    rw [parse_of_stopsAt again name, split,
      mismatchError_append_cons sourceName name before rest text c level.point.labels]

theorem parse_error_determined_sample :
    parse "lisp" "('a\"b\")" = .error (.error (.unreadable
        ⟨3, 1, 4, "\"\\\"\"", ["space", "\")\""], "lisp", none⟩)) ∧
      "('a\"(\n".toList.take 4 = "('a\"b\")".toList.take 4 ∧
      parse "other" "('a\"(\n" = .error (.error (.unreadable
        ⟨3, 1, 4, "\"\\\"\"", ["space", "\")\""], "other", none⟩)) := by
  have failed : parse "lisp" "('a\"b\")" = .error (.error (.unreadable
      ⟨3, 1, 4, "\"\\\"\"", ["space", "\")\""], "lisp", none⟩)) := by
    decide +kernel
  obtain ⟨pos, place, -, -, -, -, -, -, -, same⟩ := parse_error_determined _ _ _ failed rfl
  obtain rfl : 3 = pos := Int.ofNat.inj place
  exact ⟨failed, by decide, same (by decide) "other" "('a\"(\n" (by decide)⟩

end Lisplet
