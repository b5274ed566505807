import Lisplet.Proofs.StreamRuns

/-! Alternatives that fail. Whether a phrase can start at a token is decided by the kind of the
token. If it cannot, an attempt at it consumes nothing and adds what it expected to what was
expected there before; if it can, the token is consumed, however the attempt ends. -/

set_option autoImplicit false

namespace Lisplet

open TokenStream

/-! ## Phrases that start at a token -/

namespace Reading

variable {α β : Type} {stream middle : TokenStream} {index : Nat}

/-- The step ended with more tokens consumed than this, whether it failed or not. -/
def Past (index : Nat) : EStateM.Result ReadFault TokenStream α → Prop
  | .ok _ after | .error _ after => index < after.index

theorem Leaves.past {result : EStateM.Result ReadFault TokenStream α} (left : Leaves middle result)
    (less : index < middle.index) : Past index result := by
  cases result with
  | ok value after => exact Nat.lt_of_lt_of_le less left.index
  | error fault after => exact Nat.lt_of_lt_of_le less left.leads.index

theorem Past.bind {step : Reading α} {next : α → Reading β} (past : Past index (step stream))
    (keeps : Keeps step) (rest : ∀ value, Keeps (next value)) (sound : stream.Sound) :
    Past index ((step >>= next) stream) := by
  have left := keeps stream sound
  rw [bind_apply]
  cases ran : step stream with
  | ok value after =>
    rw [ran] at past left
    exact (rest value after left.sound).past past
  | error fault after =>
    rw [ran] at past
    exact past

theorem Past.map {step : Reading α} (change : α → β) (past : Past index (step stream)) :
    Past index ((change <$> step) stream) := by
  rw [map_apply]
  cases ran : step stream with
  | ok value after =>
    rw [ran] at past
    exact past
  | error fault after =>
    rw [ran] at past
    exact past

theorem expression_past (room : Nat) (sound : stream.Sound)
    (starts : stream.current.kind.startsExpression = true) :
    Past stream.index (expression room stream) := by
  have valid := sound.toValid
  have real : stream.current.kind ≠ .eof := by
    intro ended
    simp [ended, Token.Kind.startsExpression] at starts
  obtain ⟨more, row⟩ := stream.remaining_eq_cons real
  have fresh := (valid.takes_skipped row).fresh
  have behind : stream.index < stream.skipped.index := Nat.lt_succ_self stream.index
  rw [expression_eq]
  -- every branch consumes the first token, and nothing gives it back
  cases kind : stream.current.kind with
  | atom =>
    rw [expressionWith_single valid row (.atom kind)]
    exact behind
  | string =>
    rw [expressionWith_single valid row (.string kind)]
    exact behind
  | number =>
    by_cases short : stream.current.text.length ≤ digitLimit
    · rw [expressionWith_single valid row (.number kind short)]
      exact behind
    · rw [expressionWith_tooLong valid row kind (Nat.lt_of_not_le short)]
      exact behind
  | quote =>
    have inner : KeepsFresh (quotedWithin room) := .quotedWithin fun inner _ => .expression inner
    rw [expressionWith_quote valid row kind]
    refine Leaves.past ((inner stream.skipped fresh).bind ?_) behind
    intro value after _ further
    exact further.sound.onward
  | opening =>
    have list : KeepsFresh (parenthesizedWithin room) :=
      .parenthesizedWithin fun inner _ => .expression inner
    rw [expressionWith_opening valid row kind]
    exact (list stream.skipped fresh).past behind
  | unterminated =>
    rw [expressionWith_unterminated valid row kind]
    exact behind
  | space | closing | dot | unknown | eof => simp [kind, Token.Kind.startsExpression] at starts

theorem parenthesized_past (room : Nat) (sound : stream.Sound)
    (starts : stream.current.kind.startsExpression = true ∨ stream.current.kind = .dot ∨
      stream.current.kind = .closing) : Past stream.index (parenthesized room stream) := by
  have valid := sound.toValid
  have behind : stream.index < stream.skipped.index := Nat.lt_succ_self stream.index
  have tail : KeepsFresh (tailWithin room) := .tailWithin fun inner _ => .expression inner
  rw [parenthesized_eq]
  rcases starts with starts | dot | closing
  · have looked := sound.onward_looked.sound
    have first := expression_past room looked (by rwa [looked_current])
    rw [looked_index] at first
    rw [parenthesizedWith_start valid starts]
    exact first.bind (.expression room) (fun _ => .elements (.expression room) tail _) looked
  · obtain ⟨more, row⟩ := stream.remaining_eq_cons (by simp [dot])
    have onward := sound.onward_skipped row
    rw [parenthesizedWith_dot valid row dot]
    exact (Keeps.behindDot tail [] stream.skipped onward.sound).past behind
  · obtain ⟨more, row⟩ := stream.remaining_eq_cons (by simp [closing])
    have noted := valid.noting (stream.mismatchHere Token.expressionLabels)
    rw [parenthesizedWith_other valid (by rw [closing]; rfl) (by simp [closing]),
      closeList_closing noted ((noting_remaining _ _).trans row) closing, valid.skipped_noting]
    exact behind

theorem expect_past {kind : Token.Kind} (label : String) (sound : stream.Sound)
    (starts : stream.current.kind = kind) (real : kind ≠ .eof) :
    Past stream.index (expect kind label stream) := by
  obtain ⟨more, row⟩ := stream.remaining_eq_cons (by rwa [starts])
  rw [← starts, sound.expect_eq label row]
  exact Nat.lt_succ_self stream.index

end Reading

namespace Phrase

open Reading

def startsWith : Phrase → Token.Kind → Bool
  | .expression _, kind => kind.startsExpression
  | .parenthesized _, kind => kind.startsExpression || kind = .dot || kind = .closing
  | .separator, kind => kind = .space
  | .dottedTail _ _, kind => kind = .dot

def labels : Phrase → List String
  | .expression _ => Token.expressionLabels
  | .parenthesized _ =>
    Token.expressionLabels ++ (Token.Kind.dot.labels ++ Token.Kind.closing.labels)
  | .separator => Token.Kind.space.labels
  | .dottedTail _ _ => Token.Kind.dot.labels

theorem eraseDups_labels (phrase : Phrase) : phrase.labels.eraseDups = phrase.labels := by
  cases phrase with
  | expression | parenthesized | separator | dottedTail => rfl

variable {stream : TokenStream}

theorem reading_past (phrase : Phrase) (sound : stream.Sound)
    (starts : phrase.startsWith stream.current.kind = true) :
    Past stream.index (phrase.reading stream) := by
  cases phrase with
  | expression room => exact (expression_past room sound starts).map _
  | parenthesized room =>
    refine (parenthesized_past room sound ?_).map _
    simpa [startsWith, or_assoc] using starts
  | separator =>
    exact (expect_past "space" sound (of_decide_eq_true starts) (by decide)).map _
  | dottedTail room items =>
    have dot := expect_past (Text.shownChar '.') sound (of_decide_eq_true starts) (by decide)
    refine Past.map _ (dot.bind (.expect _ _) (fun _ => ?_) sound)
    exact .behindDot (Keeps.expression room).fresh items

theorem reading_error (phrase : Phrase) (valid : stream.Valid)
    (starts : phrase.startsWith stream.current.kind = false) :
    ∃ pending, phrase.reading stream =
      .error (.mismatch (stream.mismatchHere phrase.labels)) { stream.looked with pending } := by
  cases phrase with
  | expression room =>
    refine ⟨stream.looked.pending, ?_⟩
    rw [reading, map_apply, expression_eq, expressionWith_other valid starts]
    rfl
  | parenthesized room =>
    -- that an expression was expected is remembered before the list fails
    simp only [startsWith, Bool.or_eq_false_iff, decide_eq_false_iff_not] at starts
    obtain ⟨⟨other, noDot⟩, noClosing⟩ := starts
    have noted := valid.noting (stream.mismatchHere Token.expressionLabels)
    refine ⟨(stream.noting (stream.mismatchHere Token.expressionLabels)).pending, ?_⟩
    rw [reading, map_apply, parenthesized_eq, parenthesizedWith_other valid other noDot,
      closeList_other noted (by rwa [noting_current]), mismatchHere_noting, valid.looked_noting]
    rfl
  | separator =>
    refine ⟨stream.looked.pending, ?_⟩
    rw [reading, map_apply, Reading.separator, valid.expect_error _ (of_decide_eq_false starts)]
    rfl
  | dottedTail room items =>
    refine ⟨stream.looked.pending, ?_⟩
    rw [reading, map_apply, dottedTail_other valid (of_decide_eq_false starts)]
    rfl

theorem attempt_eq_none_iff (phrase : Phrase) (sound : stream.Sound) {after : TokenStream} :
    attempt phrase.reading stream = .ok none after ↔
      phrase.startsWith stream.current.kind = false ∧
        after = stream.noting (stream.mismatchHere phrase.labels) := by
  cases starts : phrase.startsWith stream.current.kind with
  | true =>
    have past := phrase.reading_past sound starts
    unfold attempt
    cases ran : phrase.reading stream with
    | ok value behind => simp
    | error fault behind =>
      rw [ran] at past
      cases fault with
      | limit reached => simp
      | mismatch found => simp [Nat.ne_of_gt past]
  | false =>
    obtain ⟨pending, failed⟩ := phrase.reading_error sound.toValid starts
    have gave : attempt phrase.reading stream =
        .ok none (stream.noting (stream.mismatchHere phrase.labels)) := by
      simp only [attempt, failed]
      exact if_pos (looked_index stream)
    rw [gave]
    simp [eq_comm]

end Phrase

/-! ## What is remembered -/

namespace TokenStream

variable {stream : TokenStream}

def remembered (stream : TokenStream) : List String :=
  match stream.pending with
  | some failed => failed.expected
  | none => []

theorem Sound.earlier_eq (sound : stream.Sound) : stream.earlier = stream.remembered := by
  unfold earlier remembered
  cases held : stream.pending with
  | none => rfl
  | some failed => exact if_pos (sound.pending failed held).pos

theorem Valid.noting_noting (valid : stream.Valid) (first second : Mismatch) :
    (stream.noting first).noting second = stream.noting second := by
  rw [TokenStream.noting, valid.looked_noting]
  rfl

theorem eraseDups_append_of_subset {labels others : List String} (held : others ⊆ labels) :
    (labels ++ others).eraseDups = labels.eraseDups := by
  have nothing : others.removeAll labels = [] := by
    apply List.filter_eq_nil_iff.mpr
    intro label member
    simp [held member]
  rw [List.eraseDups_append, nothing, List.eraseDups_nil, List.append_nil]

theorem mismatchHere_twice (stream : TokenStream) (expected : List String) :
    stream.mismatchHere (expected ++ expected) = stream.mismatchHere expected := by
  rw [mismatchHere, ← List.append_assoc,
    eraseDups_append_of_subset (List.subset_append_right stream.earlier expected), mismatchHere]

theorem Sound.remembered_noting (sound : stream.Sound) (expected : List String) :
    (stream.noting (stream.mismatchHere expected)).remembered =
      (stream.remembered ++ expected).eraseDups := by
  rw [← sound.earlier_eq]
  rfl

end TokenStream

namespace Phrase

variable {stream after : TokenStream}

/-- What a failed attempt at the phrase does to a stream: the current token stays, and what the
phrase expects there by itself comes behind what was expected before, each label once. -/
structure PassedOver (phrase : Phrase) (stream after : TokenStream) : Prop where
  index : after.index = stream.index
  current : ∃ token before again, peek stream = .ok token before ∧ peek after = .ok token again
  pending : ∃ token before found alone left, peek stream = .ok token before ∧
    after.pending = some found ∧ found.pos = token.pos ∧
    phrase.reading { stream with pending := none } = .error (.mismatch alone) left ∧
    found.expected = (stream.remembered ++ alone.expected).eraseDups

theorem passedOver (phrase : Phrase) (sound : stream.Sound)
    (gave : attempt phrase.reading stream = .ok none after) : phrase.PassedOver stream after := by
  obtain ⟨starts, rfl⟩ := (phrase.attempt_eq_none_iff sound).mp gave
  have valid := sound.toValid
  obtain ⟨pending, alone⟩ := phrase.reading_error (valid.remembering none) starts
  refine ⟨looked_index stream, ?_, ?_⟩
  · exact ⟨_, _, _, valid.peek_eq, valid.peek_noting _⟩
  · refine ⟨_, _, _, _, _, valid.peek_eq, rfl, rfl, alone, ?_⟩
    -- the phrase by itself fails on a stream that remembers nothing
    change (stream.earlier ++ phrase.labels).eraseDups =
      (stream.remembered ++ ([] ++ phrase.labels).eraseDups).eraseDups
    rw [sound.earlier_eq, List.nil_append, eraseDups_labels]

theorem sound_of_attempt (phrase : Phrase) (sound : stream.Sound) {result : Option (Value ⊕ Token)}
    (gave : attempt phrase.reading stream = .ok result after) : after.Sound := by
  have left := phrase.keeps.attempt stream sound
  rw [gave] at left
  exact left.sound

theorem attempt_twice_iff (first second : Phrase) (sound : stream.Sound) {final : TokenStream} :
    (∃ middle, attempt first.reading stream = .ok none middle ∧
      attempt second.reading middle = .ok none final) ↔
    first.startsWith stream.current.kind = false ∧ second.startsWith stream.current.kind = false ∧
      final = stream.noting (stream.mismatchHere (first.labels ++ second.labels)) := by
  constructor
  · rintro ⟨middle, gave, again⟩
    have later := (second.attempt_eq_none_iff (first.sound_of_attempt sound gave)).mp again
    obtain ⟨starts, rfl⟩ := (first.attempt_eq_none_iff sound).mp gave
    rw [noting_current, mismatchHere_noting, sound.noting_noting] at later
    exact ⟨starts, later⟩
  · rintro ⟨starts, later, rfl⟩
    have gave := (first.attempt_eq_none_iff sound).mpr ⟨starts, rfl⟩
    refine ⟨_, gave, (second.attempt_eq_none_iff (first.sound_of_attempt sound gave)).mpr ?_⟩
    rw [noting_current, mismatchHere_noting, sound.noting_noting]
    exact ⟨later, rfl⟩

theorem attempt_again (phrase : Phrase) (sound : stream.Sound)
    (gave : attempt phrase.reading stream = .ok none after) :
    attempt phrase.reading after = .ok none after := by
  obtain ⟨starts, rfl⟩ := (phrase.attempt_eq_none_iff sound).mp gave
  obtain ⟨middle, first, again⟩ :=
    (attempt_twice_iff phrase phrase sound).mpr ⟨starts, starts, rfl⟩
  rw [gave] at first
  cases first
  rwa [mismatchHere_twice] at again

theorem attempt_swap (first second : Phrase) (sound : stream.Sound) {final : TokenStream}
    (gave : attempt first.reading stream = .ok none after)
    (again : attempt second.reading after = .ok none final) :
    ∃ middle last, attempt second.reading stream = .ok none middle ∧
      attempt first.reading middle = .ok none last ∧ last.index = final.index ∧
      ∀ label, label ∈ last.remembered ↔ label ∈ final.remembered := by
  obtain ⟨starts, later, rfl⟩ := (attempt_twice_iff first second sound).mp ⟨after, gave, again⟩
  obtain ⟨middle, other, last⟩ :=
    (attempt_twice_iff second first sound).mpr ⟨later, starts, rfl⟩
  refine ⟨middle, _, other, last, rfl, ?_⟩
  intro label
  simp only [sound.remembered_noting, List.mem_eraseDups, List.mem_append]
  rw [or_comm (a := label ∈ second.labels)]

end Phrase

/-! ## Attempts -/

theorem attempt_none_iff {α : Type} (step : Reading α) (stream : TokenStream) :
    (∃ after, attempt step stream = .ok none after) ↔
      ∃ found after, step stream = .error (.mismatch found) after ∧ after.index = stream.index := by
  unfold attempt
  cases ran : step stream with
  | ok value after => simp
  | error fault after =>
    cases fault with
    | limit reached => simp
    | mismatch found =>
      by_cases same : after.index = stream.index
      · simp only [if_pos same]
        exact ⟨fun _ => ⟨found, after, rfl, same⟩, fun _ => ⟨_, rfl⟩⟩
      · simp only [if_neg same, reduceCtorEq, exists_false, false_iff]
        rintro ⟨_, _, ⟨⟩, index⟩
        exact same index

theorem Reading.Keeps.attempt_error_iff {α : Type} {step : Reading α} (keeps : Keeps step)
    {stream : TokenStream} (sound : stream.Sound) (found : Mismatch) (after : TokenStream) :
    TokenStream.attempt step stream = .error (.mismatch found) after ↔
      step stream = .error (.mismatch found) after ∧ stream.index < after.index := by
  have left := keeps stream sound
  unfold TokenStream.attempt
  cases ran : step stream with
  | ok value behind => simp
  | error fault behind =>
    rw [ran] at left
    have onward := left.leads.index
    cases fault with
    | limit reached => simp
    | mismatch other =>
      dsimp only
      split
      · simp only [reduceCtorEq, false_iff]
        rintro ⟨⟨⟩, less⟩
        omega
      · constructor
        · rintro ⟨⟩
          exact ⟨rfl, by omega⟩
        · rintro ⟨⟨⟩, -⟩
          rfl

/-- An attempt at a phrase gives up if the phrase fails before it consumes anything, and passes the
failure on if the phrase fails after that. Where it gives up the current token stays, and the labels
of the phrase are added to those remembered, each once. A second attempt then changes nothing, and
of two failed attempts either may come first. -/
theorem attempt_passes_over (sourceName : String) (source : List Char)
    (operations : List Operation) (stream : TokenStream)
    (reached : Operation.run operations (.start sourceName source) = stream) (phrase : Phrase) :
    ((∃ after, attempt phrase.reading stream = .ok none after) ↔
      ∃ found after, phrase.reading stream = .error (.mismatch found) after ∧
        after.index = stream.index) ∧
    (∀ found after, attempt phrase.reading stream = .error (.mismatch found) after ↔
      phrase.reading stream = .error (.mismatch found) after ∧ stream.index < after.index) ∧
    ∀ after, attempt phrase.reading stream = .ok none after →
      phrase.PassedOver stream after ∧
      attempt phrase.reading after = .ok none after ∧
      ∀ (other : Phrase) (final : TokenStream), attempt other.reading after = .ok none final →
        ∃ middle last, attempt other.reading stream = .ok none middle ∧
          attempt phrase.reading middle = .ok none last ∧ last.index = final.index ∧
          ∀ label, label ∈ last.remembered ↔ label ∈ final.remembered := by
  have sound : stream.Sound := by
    rw [← reached]
    exact (Operation.run_leads operations (sound_start sourceName source)).sound
  refine ⟨attempt_none_iff _ stream, phrase.keeps.attempt_error_iff sound, ?_⟩
  intro after gave
  exact ⟨phrase.passedOver sound gave, phrase.attempt_again sound gave,
      fun other _ => phrase.attempt_swap other sound gave⟩

theorem attempt_passes_over_sample :
    ∃ stream after, Operation.run [.advance, .advance, .attempt .separator]
        (.start "lisp" ['(', 'a', ')']) = stream ∧
      attempt (Phrase.expression 1).reading stream = .ok none after ∧
      stream.remembered = ["space"] ∧ after.remembered = "space" :: Token.expressionLabels ∧
      attempt (Phrase.expression 1).reading after = .ok none after := by
  have attempted := attempt_passes_over "lisp" ['(', 'a', ')']
    [.advance, .advance, .attempt .separator] _ rfl (.expression 1)
  exact ⟨_, _, rfl, rfl, rfl, rfl, (attempted.2.2 _ rfl).2.1⟩

end Lisplet
