import Lisplet.Proofs.Acceptance
import Lisplet.Proofs.Outcomes

/-! What the reader says of a row of tokens, whatever room it has. If the row spells a value, then
it gives that value or has too little room; if a token cannot follow those before it, then it says
so or has too little room. -/

set_option autoImplicit false

namespace Lisplet

open TokenStream Reading

variable {room other : Nat} {tokens more : List Token} {value : Value} {stream : TokenStream}

theorem Spells.unique {second : Value} (first : Spells room tokens value)
    (later : Spells other tokens second) (valid : stream.Valid)
    (row : stream.remaining = tokens ++ more) : value = second := by
  obtain ⟨after, ran, -⟩ :=
    (first.mono (Nat.le_max_left room other)).accepts stream more valid row
  obtain ⟨final, again, -⟩ :=
    (later.mono (Nat.le_max_right room other)).accepts stream more valid row
  rw [ran] at again
  cases again
  rfl

namespace Reading

/-- Room for two levels at every token is enough. -/
theorem lt_of_tooDeep {after : TokenStream} (valid : stream.Valid)
    (deep : expression room stream = .error (.limit .depth) after) :
    room < 2 * stream.remaining.length := by
  have outcome := expression_correct room stream valid
  rw [deep] at outcome
  cases outcome with
  | @tooDeep others behind token level _ _ left reached follows deep =>
    have least := reached.le_room level (by simp)
    have most := Level.cost_le level.point token.kind
    rw [left, List.length_append, List.length_cons]
    rw [List.nil_append] at least
    omega

theorem expression_of_reaches (room : Nat) (complete : Reaches [.expression] tokens [])
    (valid : stream.Valid) (row : stream.remaining = tokens ++ more) :
    (∃ value after, expression room stream = .ok value after ∧ Spells room tokens value ∧
      stream.Takes tokens after) ∨
    room < 2 * stream.remaining.length ∧
      ∃ after, expression room stream = .error (.limit .depth) after := by
  have outcome := expression_correct room stream valid
  have enough := @lt_of_tooDeep room stream
  generalize expression room stream = result at outcome enough
  cases outcome with
  | @done others value after taken spelled =>
    rw [List.nil_append] at spelled
    have same : tokens ++ more = others ++ after.remaining := row.symm.trans taken.remaining
    have length : tokens.length = others.length :=
      Nat.le_antisymm (spelled.reaches.length_le complete same.symm)
        (complete.length_le spelled.reaches same)
    obtain ⟨rfl, -⟩ := List.append_inj same length
    exact .inl ⟨value, after, rfl, spelled, taken⟩
  | @stuck others level under after _ _ left reached stops =>
    -- the token that it is stuck at is one of the row, and may come next
    obtain ⟨token, rest, rfl, follows⟩ :=
      complete.exists_follow reached.reaches (row.symm.trans left)
    have here : after.remaining = token :: (rest ++ more) :=
      (List.append_right_inj others).mp (by simpa using left.symm.trans row)
    rw [current_eq here] at stops
    simp [stops] at follows
  | tooDeep => exact .inr ⟨enough valid rfl, _, rfl⟩
  | @tooLong others behind token level under _ left reached follows kind long =>
    obtain ⟨first, rest, rfl, -⟩ := complete.exists_follow reached.reaches (row.symm.trans left)
    have here : token :: behind = first :: (rest ++ more) :=
      (List.append_right_inj others).mp (by simpa using left.symm.trans row)
    obtain ⟨rfl, -⟩ := List.cons.inj here
    have short := complete.short token (by simp) kind
    omega

theorem expression_of_spells (room : Nat) (spelled : Spells other tokens value)
    (valid : stream.Valid) (row : stream.remaining = tokens ++ more) :
    ∃ after, expression room stream = .ok value after ∨
      expression room stream = .error (.limit .depth) after := by
  rcases expression_of_reaches room spelled.reaches valid row with
    ⟨found, after, ran, again, -⟩ | ⟨-, after, ran⟩
  · rw [again.unique spelled valid row] at ran
    exact ⟨after, .inl ran⟩
  · exact ⟨after, .inr ran⟩

theorem expression_of_stuck (room : Nat) {front : List Token} {next : Token} {point : Point}
    {under : List Point} (reached : Reaches [.expression] front (point :: under))
    (stops : point.follow next.kind = none) (valid : stream.Valid)
    (row : stream.remaining = front ++ next :: more) :
    (∃ found after, expression room stream = .error (.mismatch found) after) ∨
      ∃ after, expression room stream = .error (.limit .depth) after := by
  -- no row of tokens of the stream gets past the one that cannot follow
  have blocked {others rest : List Token} (longer : front.length < others.length)
      (split : stream.remaining = others ++ rest) : Point.run [.expression] others = none := by
    have within : front ++ [next] <+: others :=
      List.prefix_of_prefix_length_le ⟨more, by simp [row]⟩ ⟨rest, split.symm⟩
        (by simpa using Nat.succ_le_of_lt longer)
    obtain ⟨between, rfl⟩ := within
    rw [List.append_assoc, List.singleton_append]
    exact Point.run_through reached.ran stops between
  have outcome := expression_correct room stream valid
  generalize expression room stream = result at outcome
  cases outcome with
  | @done others _ _ taken spelled =>
    rw [List.nil_append] at spelled
    obtain ⟨token, left, rfl, -⟩ :=
      spelled.reaches.exists_follow reached (taken.remaining.symm.trans row)
    have ran := spelled.reaches.ran
    rw [blocked (by simp) taken.remaining] at ran
    contradiction
  | stuck => exact .inl ⟨_, _, rfl⟩
  | tooDeep => exact .inr ⟨_, rfl⟩
  | @tooLong others behind token _ _ _ left through follows kind long =>
    rw [List.append_cons] at left
    by_cases longer : front.length < (others ++ [token]).length
    · have stopped := blocked longer left
      obtain ⟨followed, found⟩ := Option.isSome_iff_exists.mp follows
      rw [List.nil_append] at through
      have passed : Point.run [.expression] others = _ := through.reaches.ran
      simp [Point.run_append, passed, Point.step, kind, found] at stopped
    · -- a numeral that it got past is short
      obtain ⟨between, rfl⟩ : others ++ [token] <+: front :=
        List.prefix_of_prefix_length_le ⟨behind, left.symm⟩ ⟨next :: more, row.symm⟩ (by omega)
      have short := reached.short token (by simp) kind
      omega

theorem halts_of_stops {level : Level} {under : List Level}
    (stops : level.point.follow stream.current.kind = none) :
    Halts (level :: under) stream.remaining := by
  apply halts_of_follow
  intro next first
  obtain ⟨later, here⟩ := List.head?_eq_some_iff.mp first
  rw [current_eq here] at stops
  exact Level.follow_eq_none stops

/-- A numeral that may come next and is too long is where reading ends. -/
theorem expression_of_tooLong {token : Token} {level : Level} {under : List Level}
    (reached : Descends [⟨.expression, room⟩] tokens (level :: under))
    (follows : (level.point.follow .number).isSome = true) (kind : token.kind = .number)
    (long : digitLimit < token.text.length) (valid : stream.Valid)
    (row : stream.remaining = tokens ++ token :: more) :
    ∃ after, expression room stream = .error (.limit (.numeral token.text.length)) after := by
  have outcome := expression_correct room stream valid
  have halts : Halts (level :: under) (token :: more) := halts_of_long kind long
  generalize expression room stream = result at outcome
  -- the levels halt at the numeral, and at one place only
  cases outcome with
  | done taken spelled =>
    obtain ⟨-, ended⟩ := reached.unique spelled.descends (row.symm.trans taken.remaining) halts
      (halts_nil _)
    contradiction
  | stuck _ _ left there stops =>
    obtain ⟨rfl, levels⟩ := reached.unique there (row.symm.trans left) halts (halts_of_stops stops)
    obtain ⟨rfl, -⟩ := List.cons.inj levels
    rw [current_eq (List.append_cancel_left (left.symm.trans row)), kind] at stops
    simp [stops] at follows
  | tooDeep left there _ deep =>
    obtain ⟨rfl, levels⟩ := reached.unique there (row.symm.trans left) halts (halts_of_deep deep)
    obtain ⟨rfl, -⟩ := List.cons.inj levels
    obtain ⟨rfl, -⟩ := List.cons.inj (List.append_cancel_left (row.symm.trans left))
    rw [kind, Level.cost_number] at deep
    exact absurd deep (Nat.not_lt_zero _)
  | tooLong left there _ other longer =>
    obtain ⟨rfl, -⟩ := reached.unique there (row.symm.trans left) halts (halts_of_long other longer)
    obtain ⟨rfl, -⟩ := List.cons.inj (List.append_cancel_left (row.symm.trans left))
    exact ⟨_, rfl⟩

end Reading

end Lisplet
