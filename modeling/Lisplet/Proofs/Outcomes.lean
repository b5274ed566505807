import Lisplet.Proofs.Branches
import Lisplet.Proofs.Levels

/-! How reading an expression ends: with the value that the consumed tokens spell, at the first
token that cannot follow those before it, or at the first one that runs into a limit. -/

set_option autoImplicit false

namespace Lisplet.Reading

open TokenStream

/-- How reading the rest of an expression ends, given the tokens of the expression before it. -/
inductive Outcome (room : Nat) (before : List Token) (stream : TokenStream) :
    EStateM.Result ReadFault TokenStream Value → Prop where
  | done {tokens : List Token} {value : Value} {after : TokenStream} :
      stream.Takes tokens after → Spells room (before ++ tokens) value →
      Outcome room before stream (.ok value after)
  | stuck {tokens : List Token} {level : Level} {under : List Level} {after : TokenStream} :
      after.Valid → after.source = stream.source →
      stream.remaining = tokens ++ after.remaining →
      Descends [⟨.expression, room⟩] (before ++ tokens) (level :: under) →
      level.point.follow after.current.kind = none →
      -- what failed at the first token before counts only if nothing has been consumed since
      Outcome room before stream (.error (.mismatch ⟨after.current.pos, after.current.shown,
        ((if tokens = [] then stream.earlier else []) ++ level.point.labels).eraseDups⟩) after)
  | tooDeep {tokens rest : List Token} {token : Token} {level : Level} {under : List Level}
      {after : TokenStream} : stream.remaining = tokens ++ token :: rest →
      Descends [⟨.expression, room⟩] (before ++ tokens) (level :: under) →
      (level.point.follow token.kind).isSome = true →
      level.room < Level.cost level.point token.kind →
      Outcome room before stream (.error (.limit .depth) after)
  | tooLong {tokens rest : List Token} {token : Token} {level : Level} {under : List Level}
      {after : TokenStream} : stream.remaining = tokens ++ token :: rest →
      Descends [⟨.expression, room⟩] (before ++ tokens) (level :: under) →
      (level.point.follow .number).isSome = true → token.kind = .number →
      digitLimit < token.text.length →
      Outcome room before stream (.error (.limit (.numeral token.text.length)) after)

namespace Outcome

variable {room : Nat} {before front : List Token} {stream middle after : TokenStream}
  {result : EStateM.Result ReadFault TokenStream Value} {level : Level} {under : List Level}

theorem of_looked (outcome : Outcome room before stream.looked result) :
    Outcome room before stream result := by
  have earlier : stream.looked.earlier = stream.earlier := by simp [TokenStream.earlier]
  cases outcome with
  | done taken spelled =>
    exact done (taken.of_eq (looked_source stream) (looked_remaining stream)) spelled
  | stuck valid source row reached stops =>
    rw [looked_source] at source
    rw [looked_remaining] at row
    rw [earlier]
    exact stuck valid source row reached stops
  | tooDeep row reached follows deep =>
    rw [looked_remaining] at row
    exact tooDeep row reached follows deep
  | tooLong row reached follows kind long =>
    rw [looked_remaining] at row
    exact tooLong row reached follows kind long

theorem behind (taken : stream.Takes front middle) (nonempty : front ≠ [])
    (outcome : Outcome room (before ++ front) middle result) :
    Outcome room before stream result := by
  cases outcome with
  | done later spelled =>
    rw [List.append_assoc] at spelled
    exact done (taken.trans later) spelled
  | @stuck tokens level under after valid source row reached stops =>
    rw [List.append_assoc] at reached
    have whole : stream.remaining = front ++ tokens ++ after.remaining := by
      rw [taken.remaining, row, List.append_assoc]
    have outcome : Outcome room _ _ _ := stuck valid (source.trans taken.source) whole reached stops
    simpa [nonempty, taken.fresh.earlier] using outcome
  | @tooDeep tokens rest token _ _ _ row reached follows deep =>
    rw [List.append_assoc] at reached
    have whole : stream.remaining = front ++ tokens ++ token :: rest := by
      rw [taken.remaining, row, List.append_assoc]
    exact tooDeep whole reached follows deep
  | @tooLong tokens rest token _ _ _ row reached follows kind long =>
    rw [List.append_assoc] at reached
    have whole : stream.remaining = front ++ tokens ++ token :: rest := by
      rw [taken.remaining, row, List.append_assoc]
    exact tooLong whole reached follows kind long

theorem here (reached : Descends [⟨.expression, room⟩] before (level :: under))
    (stops : level.point.follow stream.current.kind = none) (valid : after.Valid)
    (source : after.source = stream.source) (remaining : after.remaining = stream.remaining) :
    Outcome room before stream
      (.error (.mismatch (stream.mismatchHere level.point.labels)) after) := by
  have current : after.current = stream.current := by
    simp [TokenStream.current, eof, source, remaining]
  have reached : Descends [⟨.expression, room⟩] (before ++ []) (level :: under) := by
    simpa using reached
  have outcome : Outcome room _ _ _ :=
    stuck valid source remaining.symm reached (by rwa [current])
  simpa [mismatchHere, current] using outcome

theorem tooDeepHere {token : Token} {more : List Token} (row : stream.remaining = token :: more)
    (reached : Descends [⟨.expression, room⟩] before (level :: under))
    (follows : (level.point.follow token.kind).isSome = true)
    (deep : level.room < Level.cost level.point token.kind) :
    Outcome room before stream (.error (.limit .depth) after) := by
  rw [← List.append_nil before] at reached
  exact tooDeep row reached follows deep

/-- What an expression inside the expression ends with is what the whole ends with, unless it is
read. It has the room of the level that it starts at. -/
theorem inside {point : Point} {inner : Nat} {fault : ReadFault}
    (reached : Descends [⟨.expression, room⟩] before (⟨point, inner⟩ :: under))
    (entry : point = .expression ∨
      (point = .first ∨ point = .next) ∧ stream.current.kind.startsExpression = true)
    (outcome : Outcome inner [] stream (.error fault after)) :
    Outcome room before stream (.error fault after) := by
  -- what the inner expression reaches lies on top of what the outer one has left to come
  have later {tokens : List Token} {levels : List Level} (nonempty : tokens ≠ [])
      (descends : Descends [⟨.expression, inner⟩] tokens levels) :
      ∃ more, Descends [⟨.expression, room⟩] (before ++ tokens) (levels ++ more) := by
    rcases entry with rfl | ⟨start, -⟩
    · exact ⟨under, reached.trans (descends.under under)⟩
    · have element := (descends.element start nonempty).under under
      exact ⟨⟨.after, inner⟩ :: under, by simpa using reached.trans element⟩
  -- a token that starts the inner expression may come next at the outer point, at the same cost
  have first {kind : Token.Kind} (follows : (Point.expression.follow kind).isSome = true) :
      (point.follow kind).isSome = true ∧ Level.cost point kind = Level.cost .expression kind := by
    rcases entry with rfl | ⟨rfl | rfl, -⟩ <;> cases kind <;>
      simp_all [Point.follow, Point.begun, Level.cost]
  cases outcome with
  | @stuck tokens level rest _ valid source row descends stops =>
    by_cases empty : tokens = []
    · -- nothing of it was consumed, so the mismatch is one at the outer point
      subst empty
      obtain ⟨rfl, -⟩ : level = ⟨.expression, inner⟩ ∧ rest = [] := by simpa using descends.ran.symm
      rcases entry with rfl | ⟨-, starts⟩
      · have reached : Descends [⟨.expression, room⟩] (before ++ [])
            (⟨.expression, inner⟩ :: under) := by
          simpa using reached
        exact stuck valid source row reached stops
      · -- the element does start at the current token
        have current : after.current = stream.current := by
          simp [TokenStream.current, eof, source, row]
        rw [← current, ← Point.begun_isSome] at starts
        simp [Point.follow] at stops
        simp [stops] at starts
    · obtain ⟨more, descends⟩ := later empty descends
      exact stuck valid source row descends stops
  | @tooDeep tokens _ _ level rest _ row descends follows deep =>
    by_cases empty : tokens = []
    · subst empty
      obtain ⟨rfl, -⟩ : level = ⟨.expression, inner⟩ ∧ rest = [] := by simpa using descends.ran.symm
      obtain ⟨follows, cost⟩ := first follows
      exact tooDeepHere row reached follows (cost ▸ deep)
    · obtain ⟨more, descends⟩ := later empty descends
      exact tooDeep row descends follows deep
  | @tooLong tokens _ _ level rest _ row descends follows kind long =>
    by_cases empty : tokens = []
    · subst empty
      exact tooLong row (by simpa using reached) (first rfl).1 kind long
    · obtain ⟨more, descends⟩ := later empty descends
      exact tooLong row descends follows kind long

end Outcome

def Correct (room : Nat) (step : Reading Value) : Prop :=
  ∀ stream : TokenStream, stream.Valid → Outcome room [] stream (step stream)

section

variable {room : Nat} {before front last : List Token} {stream : TokenStream} {point : Point}
  {under : List Level} {values : List Value} {value : Value} {opening dot : Token}

theorem Outcome.expecting {kind : Token.Kind} {label : String} {level : Level}
    {next : Token → Reading Value} (valid : stream.Valid)
    (reached : Descends [⟨.expression, room⟩] before (level :: under))
    (real : kind ≠ .eof) (labels : level.point.labels = [label])
    (only : ∀ other, other ≠ kind → level.point.follow other = none)
    (goes : ∀ token after, token.kind = kind → stream.Takes [token] after →
      Outcome room before stream (next token after)) :
    Outcome room before stream ((expect kind label >>= next) stream) := by
  rw [bind_apply]
  by_cases same : stream.current.kind = kind
  · obtain ⟨more, row⟩ := stream.remaining_eq_cons (same ▸ real)
    rw [← same, valid.expect_eq label row]
    exact goes _ _ same (valid.takes_skipped row)
  · rw [valid.expect_error label same, ← labels]
    exact here reached (only _ same) valid.looked (looked_source stream) (looked_remaining stream)

theorem Outcome.reading {inner : Nat} {step : Reading Value} {next : Value → Reading Value}
    (correct : Correct inner step) (valid : stream.Valid)
    (reached : Descends [⟨.expression, room⟩] before (⟨point, inner⟩ :: under))
    (entry : point = .expression ∨
      (point = .first ∨ point = .next) ∧ stream.current.kind.startsExpression = true)
    (goes : ∀ tokens value after, Spells inner tokens value → stream.Takes tokens after →
      Outcome room (before ++ tokens) after (next value after)) :
    Outcome room before stream ((step >>= next) stream) := by
  rw [bind_apply]
  -- read, it is some tokens more in front; not read, it decides how the whole ends
  have outcome := correct stream valid
  cases ran : step stream with
  | ok value after =>
    rw [ran] at outcome
    cases outcome with
    | @done tokens _ _ taken spelled =>
      rw [List.nil_append] at spelled
      obtain ⟨first, rest, nonempty, -⟩ := spelled.exists_first
      exact behind taken (by simp [nonempty]) (goes tokens value after spelled taken)
  | error fault after =>
    rw [ran] at outcome
    exact inside reached entry outcome

theorem behindDot_outcome (smaller : ∀ inner < room, Correct inner (expression inner))
    (opened : opening.kind = .opening) (each : SpellsEach room front values)
    (dotted : dot.kind = .dot) (valid : stream.Valid) :
    Outcome (room + 2) (opening :: (front ++ [dot])) stream
      (behindDot (tailWithin room) values stream) := by
  have reached : Descends [⟨.expression, room + 2⟩] (opening :: (front ++ [dot]))
      [⟨.gap, room⟩] := by
    obtain ⟨point, start, between⟩ := each.descends (.inl rfl)
    exact .trans (.opening opened) (between.trans (.dot start dotted))
  apply Outcome.expecting valid reached (by decide) rfl
  · intro other different
    cases other <;> simp_all [Point.follow]
  · intro gap after blank taken
    -- the tail takes one level of room more than the elements do
    cases room with
    | zero =>
      refine .tooDeepHere taken.remaining reached ?_ ?_
      · simp [blank, Point.follow]
      · simp [blank, Level.cost]
    | succ room =>
      refine .behind taken (by simp) ?_
      have parted := reached.trans (.gap blank)
      apply Outcome.reading (smaller room (by omega)) taken.fresh.toValid parted (.inl rfl)
      intro tokens value after spelled taken
      have reached := parted.trans (spelled.descends.under [_])
      apply Outcome.expecting taken.fresh.toValid reached (by decide) rfl
      · intro other different
        cases other <;> simp_all [Point.follow]
      · intro closing after closed taken
        have whole := Spells.dotted opened each dotted blank spelled closed
        exact .behind taken (by simp) (.done taken.fresh.takes_nil (by simpa using whole))

/-- Behind the elements and the blanks after the last of them, at no further element. -/
theorem dottedTail_outcome (smaller : ∀ inner < room, Correct inner (expression inner))
    (opened : opening.kind = .opening) (each : SpellsEach room front values) (valid : stream.Valid)
    (reached : Descends [⟨.expression, room + 2⟩] (opening :: front) [⟨.next, room⟩])
    (starts : stream.current.kind.startsExpression = false) :
    Outcome (room + 2) (opening :: front) stream (dottedTail (tailWithin room) values
      (stream.noting (stream.mismatchHere Token.expressionLabels))) := by
  have noted := valid.noting (stream.mismatchHere Token.expressionLabels)
  by_cases dot : stream.current.kind = .dot
  · obtain ⟨more, row⟩ := stream.remaining_eq_cons (by simp [dot])
    have taken := valid.takes_skipped row
    rw [dottedTail_dot noted ((noting_remaining _ _).trans row) dot, valid.skipped_noting]
    exact .behind taken (by simp) (behindDot_outcome smaller opened each dot taken.fresh.toValid)
  · -- the labels of an element were noted before, and the dot's are added to them
    rw [dottedTail_other noted (by simpa using dot), mismatchHere_noting, valid.looked_noting]
    refine .here reached ?_ noted (noting_source _ _) (noting_remaining _ _)
    cases kind : stream.current.kind <;>
      simp_all [Point.follow, Point.begun, Token.Kind.startsExpression]

theorem closeList_outcome {sought : List String} {level : Level} (valid : stream.Valid)
    (reached : Descends [⟨.expression, room⟩] before (level :: under))
    (labels : sought ++ ((if values.isEmpty then Token.Kind.dot.labels else []) ++
      Token.Kind.closing.labels) = level.point.labels)
    (stops : stream.current.kind ≠ .closing → level.point.follow stream.current.kind = none)
    (whole : ∀ closing : Token, closing.kind = .closing →
      Spells room (before ++ [closing]) (.list values)) :
    Outcome room before stream
      (closeList values (stream.noting (stream.mismatchHere sought))) := by
  have noted := valid.noting (stream.mismatchHere sought)
  by_cases closing : stream.current.kind = .closing
  · obtain ⟨more, row⟩ := stream.remaining_eq_cons (by simp [closing])
    rw [closeList_closing noted ((noting_remaining _ _).trans row) closing, valid.skipped_noting]
    exact .done (valid.takes_skipped row) (whole _ closing)
  · rw [closeList_other noted (by simpa using closing), mismatchHere_noting, labels,
      valid.looked_noting]
    exact .here reached (stops closing) noted (noting_source _ _) (noting_remaining _ _)

theorem moreElements_outcome (element : Correct room (expression room))
    (smaller : ∀ inner < room, Correct inner (expression inner))
    (opened : opening.kind = .opening) {count : Nat} {items : List Value}
    (each : SpellsEach room front values) (one : Spells room last value)
    (gathered : items.reverse = values ++ [value]) (fresh : stream.Fresh)
    (enough : stream.remaining.length < count) :
    Outcome (room + 2) (opening :: (front ++ last)) stream
      (moreElements (expression room) (tailWithin room) count items stream) := by
  -- the element that was read last becomes one of those in front when another one follows
  induction count generalizing stream front values last value items with
  | zero => contradiction
  | succ count ih =>
    have reached : Descends [⟨.expression, room + 2⟩] (opening :: (front ++ last))
        [⟨.after, room⟩] := by
      obtain ⟨point, start, between⟩ := each.descends (.inl rfl)
      obtain ⟨token, rest, rfl, -⟩ := one.exists_first
      exact .trans (.opening opened) (between.trans (one.descends.element start (by simp)))
    by_cases blank : stream.current.kind = .space
    · obtain ⟨more, row⟩ := stream.remaining_eq_cons (by simp [blank])
      have taken := fresh.takes_skipped row
      have parted := reached.trans (.space blank)
      have each := each.concat one blank
      rw [moreElements_space fresh.toValid row blank]
      refine .behind taken (by simp) ?_
      by_cases starts : stream.skipped.current.kind.startsExpression = true
      · rw [nextElement_start taken.fresh.toValid starts]
        apply Outcome.of_looked
        apply Outcome.reading element taken.fresh.looked parted
          (.inr ⟨.inr rfl, by simpa using starts⟩)
        intro tokens item after spelled later
        have fewer : after.remaining.length < count := by
          have := congrArg List.length taken.remaining
          have := congrArg List.length later.remaining
          simp only [looked_remaining, List.length_append, List.length_cons] at *
          omega
        exact ih each spelled (by simp [gathered]) later.fresh fewer
      · rw [nextElement_other taken.fresh.toValid (by simpa using starts), gathered]
        exact dottedTail_outcome smaller opened each taken.fresh.toValid parted
          (by simpa using starts)
    · rw [moreElements_other fresh.toValid blank, gathered]
      refine closeList_outcome fresh.toValid reached (by simp; rfl) ?_ ?_
      · intro closing
        cases kind : stream.current.kind <;> simp_all [Point.follow]
      · intro closing closed
        exact .list opened each one closed

theorem parenthesized_outcome (element : Correct room (expression room))
    (smaller : ∀ inner < room, Correct inner (expression inner))
    (opened : opening.kind = .opening) (valid : stream.Valid) :
    Outcome (room + 2) [opening] stream (parenthesized room stream) := by
  have reached : Descends [⟨.expression, room + 2⟩] [opening] [⟨.first, room⟩] := .opening opened
  rw [parenthesized_eq]
  by_cases starts : stream.current.kind.startsExpression = true
  · rw [parenthesizedWith_start valid starts]
    apply Outcome.of_looked
    apply Outcome.reading element valid.looked reached (.inr ⟨.inl rfl, by simpa using starts⟩)
    intro tokens first after spelled taken
    rw [bind_apply, get_apply]
    exact moreElements_outcome element smaller opened .nil spelled rfl taken.fresh
      (Nat.lt_succ_of_le taken.fresh.length_remaining_le)
  · by_cases dot : stream.current.kind = .dot
    · obtain ⟨more, row⟩ := stream.remaining_eq_cons (by simp [dot])
      have taken := valid.takes_skipped row
      rw [parenthesizedWith_dot valid row dot]
      exact .behind taken (by simp) (behindDot_outcome smaller opened .nil dot taken.fresh.toValid)
    · rw [parenthesizedWith_other valid (by simpa using starts) dot]
      refine closeList_outcome valid reached rfl ?_ fun closing closed => .empty opened closed
      -- behind a parenthesis only expressions, the dot and the closing one are let through
      intro closing
      cases kind : stream.current.kind <;>
        simp_all [Point.follow, Point.begun, Token.Kind.startsExpression]

end

theorem expression_correct (room : Nat) : Correct room (expression room) := by
  induction room using Nat.strong_induction_on with
  | h room smaller =>
    intro stream valid
    rw [expression_eq]
    by_cases starts : stream.current.kind.startsExpression = false
    · rw [expressionWith_other valid starts]
      refine .here (.nil _) ?_ valid.looked (looked_source stream) (looked_remaining stream)
      rw [Point.follow, ← Option.isNone_iff_eq_none, ← Option.not_isSome, Point.begun_isSome,
        starts]
      rfl
    have real : stream.current.kind ≠ .eof := by
      intro eof
      simp [eof, Token.Kind.startsExpression] at starts
    obtain ⟨more, row⟩ := stream.remaining_eq_cons real
    have taken := valid.takes_skipped row
    cases kind : stream.current.kind with
    | atom =>
      rw [expressionWith_single valid row (.atom kind)]
      exact .done taken (.atom kind)
    | string =>
      rw [expressionWith_single valid row (.string kind)]
      exact .done taken (.string kind)
    | number =>
      by_cases short : stream.current.text.length ≤ digitLimit
      · rw [expressionWith_single valid row (.number kind short)]
        exact .done taken (.number kind short)
      · rw [expressionWith_tooLong valid row kind (by omega)]
        exact .tooLong row (.nil _) rfl kind (by omega)
    | quote =>
      rw [expressionWith_quote valid row kind]
      cases room with
      | zero =>
        refine .tooDeepHere row (.nil _) ?_ ?_
        · simp [kind, Point.follow, Point.begun]
        · simp [kind, Level.cost]
      | succ room =>
        refine .behind taken (by simp) ?_
        apply Outcome.reading (smaller room (by omega)) taken.fresh.toValid (.quote kind)
          (.inl rfl)
        intro tokens value after spelled taken
        exact .done taken.fresh.takes_nil (by simpa using Spells.quoted kind spelled)
    | opening =>
      rw [expressionWith_opening valid row kind]
      by_cases deep : room < 2
      · rw [parenthesizedWithin_of_lt deep]
        refine .tooDeepHere row (.nil _) ?_ ?_
        · simp [kind, Point.follow, Point.begun]
        · simpa [kind, Level.cost] using deep
      · obtain ⟨room, rfl⟩ := Nat.exists_eq_add_of_le' (Nat.le_of_not_lt deep)
        exact .behind taken (by simp) (parenthesized_outcome (smaller room (by omega))
          (fun inner less => smaller inner (by omega)) kind taken.fresh.toValid)
    | unterminated =>
      rw [expressionWith_unterminated valid row kind]
      refine .behind taken (by simp) ?_
      have reached : Descends [⟨.expression, room⟩] [stream.current] [⟨.string, room⟩] :=
        .single [.string] kind (by decide) (Nat.zero_le room) rfl rfl
      -- the string took in all the text, and is reported at the end
      have ended : stream.skipped.current = stream.skipped.eof := by
        rw [current, skipped_remaining row, valid.eq_nil_of_unterminated row kind]
        rfl
      have found : stream.skipped.mismatchHere Point.string.labels =
          ⟨stream.source.length, "end of input", Token.Kind.string.labels⟩ := by
        rw [mismatchHere, taken.fresh.earlier, List.nil_append, Point.labels_eraseDups, ended, eof,
          skipped_source]
        rfl
      rw [← found]
      exact .here reached (by rw [ended]; rfl) taken.fresh.toValid rfl rfl
    | space | closing | dot | unknown | eof => simp [kind, Token.Kind.startsExpression] at starts

end Lisplet.Reading
