import Lisplet.Proofs.Branches

/-! Rows of tokens that are read. What a row spells is what the reader makes of it, whatever stands
behind the row. -/

set_option autoImplicit false

namespace Lisplet

open TokenStream Reading

/-- The step consumes the tokens wherever they come next, and gives the value. -/
def Reading.Accepts (step : Reading Value) (tokens : List Token) (value : Value) : Prop :=
  ∀ (stream : TokenStream) (more : List Token), stream.Valid → stream.remaining = tokens ++ more →
    ∃ after, step stream = .ok value after ∧ stream.Takes tokens after

namespace Reading

variable {element tail : Reading Value} {count : Nat} {items values : List Value} {value : Value}
  {tokens last more : List Token} {gap closing token : Token} {stream : TokenStream}

theorem Accepts.behindDot (accepted : tail.Accepts last value) (blank : gap.kind = .space)
    (closed : closing.kind = .closing) :
    (behindDot tail items).Accepts (gap :: (last ++ [closing])) (.dotted items value) := by
  intro stream more valid row
  have first := valid.takes_skipped row
  have behind : stream.skipped.remaining = last ++ closing :: more := by
    simp [skipped_remaining row]
  obtain ⟨middle, ran, second⟩ := accepted stream.skipped _ first.fresh.toValid behind
  have left := second.left behind
  refine ⟨middle.skipped, ?_, first.trans (second.trans (second.fresh.takes_skipped left))⟩
  have separated := valid.expect_eq "space" row
  have ended := second.fresh.expect_eq (Text.shownChar ')') left
  rw [blank] at separated
  rw [closed] at ended
  simp [Reading.behindDot, separator, separated, ran, ended]

theorem Accepts.single {room : Nat} (spelled : Spells 0 [token] value) :
    (expression room).Accepts [token] value := by
  intro stream more valid row
  rw [expression_eq, expressionWith_single valid row spelled]
  exact ⟨_, rfl, valid.takes_skipped row⟩

theorem moreElements_closing (valid : stream.Valid) (next : stream.remaining = closing :: more)
    (closed : closing.kind = .closing) : moreElements element tail (count + 1) items stream =
      .ok (.list items.reverse) stream.skipped := by
  rw [moreElements_other valid (by simp [current_eq next, closed]),
    closeList_closing (valid.noting _) ((noting_remaining _ _).trans next) closed,
    valid.skipped_noting]

theorem nextElement_dot (valid : stream.Valid) (next : stream.remaining = token :: more)
    (kind : token.kind = .dot) : nextElement element tail count items stream =
      behindDot tail items.reverse stream.skipped := by
  rw [nextElement_other valid (by rw [current_eq next, kind]; rfl),
    dottedTail_dot (valid.noting _) ((noting_remaining _ _).trans next) kind, valid.skipped_noting]

theorem nextElement_accepted {room : Nat} (tail : Reading Value) (items : List Value)
    (accepted : element.Accepts tokens value) (spelled : Spells room tokens value)
    (valid : stream.Valid) (row : stream.remaining = tokens ++ more)
    (enough : stream.remaining.length ≤ count) :
    ∃ after, nextElement element tail count items stream =
        moreElements element tail count (value :: items) after ∧
      stream.Takes tokens after ∧ after.remaining.length < count := by
  obtain ⟨first, rest, rfl, starts⟩ := spelled.exists_first
  obtain ⟨after, ran, taken⟩ := accepted stream.looked more valid.looked (by simpa using row)
  have taken := taken.of_eq (looked_source stream) (looked_remaining stream)
  refine ⟨after, ?_, taken, ?_⟩
  · rw [nextElement_start valid (by rw [current_eq row, starts]), bind_apply, ran]
  · -- an element has a token at least, which pays for one step of the count
    rw [taken.remaining] at enough
    simp only [List.length_append, List.length_cons] at enough
    omega

theorem parenthesizedWith_accepted {room : Nat} (tail : Reading Value)
    (accepted : element.Accepts tokens value) (spelled : Spells room tokens value)
    (valid : stream.Valid) (row : stream.remaining = tokens ++ more) :
    ∃ after, parenthesizedWith element tail stream =
        moreElements element tail (after.rest.length + 1) [value] after ∧
      stream.Takes tokens after := by
  obtain ⟨first, rest, rfl, starts⟩ := spelled.exists_first
  obtain ⟨after, ran, taken⟩ := accepted stream.looked more valid.looked (by simpa using row)
  refine ⟨after, ?_, taken.of_eq (looked_source stream) (looked_remaining stream)⟩
  rw [parenthesizedWith_start valid (by rw [current_eq row, starts]), bind_apply, ran]
  simp

theorem nextElement_last {room : Nat} (accepted : element.Accepts last value)
    (spelled : Spells room last value) (closed : closing.kind = .closing) (valid : stream.Valid)
    (row : stream.remaining = last ++ closing :: more)
    (enough : stream.remaining.length ≤ count) :
    ∃ after, nextElement element tail count items stream =
        .ok (.list (items.reverse ++ [value])) after ∧ stream.Takes (last ++ [closing]) after := by
  obtain ⟨middle, same, taken, fewer⟩ :=
    nextElement_accepted tail items accepted spelled valid row enough
  obtain ⟨count, rfl⟩ := Nat.exists_eq_add_of_le' (show 1 ≤ count by omega)
  have left := taken.left row
  refine ⟨middle.skipped, ?_, taken.trans (taken.fresh.takes_skipped left)⟩
  rw [same, moreElements_closing taken.fresh.toValid left closed, List.reverse_cons]

theorem Accepts.opened {room : Nat} (accepted : (parenthesized room).Accepts tokens value)
    (kind : token.kind = .opening) : (expression (room + 2)).Accepts (token :: tokens) value := by
  intro stream more valid row
  have taken := valid.takes_skipped row
  obtain ⟨after, ran, later⟩ := accepted stream.skipped more taken.fresh.toValid (taken.left row)
  refine ⟨after, ?_, taken.trans later⟩
  rw [expression_eq, expressionWith_opening valid row kind, parenthesizedWithin, ran]

end Reading

theorem SpellsEach.eq_nil_or {room : Nat} {tokens : List Token} {values : List Value}
    (each : SpellsEach room tokens values) : (tokens = [] ∧ values = []) ∨ tokens ≠ [] := by
  cases each with
  | nil => exact .inl ⟨rfl, rfl⟩
  | cons first gap rest => exact .inr (by simp)

mutual

theorem Spells.accepts {room : Nat} {tokens : List Token} {value : Value} :
    Spells room tokens value → (expression room).Accepts tokens value
  | .atom kind => .single (.atom kind)
  | .number kind short => .single (.number kind short)
  | .string kind => .single (.string kind)
  | .quoted kind inner => by
    intro stream more valid row
    have taken := valid.takes_skipped row
    obtain ⟨after, ran, later⟩ :=
      inner.accepts stream.skipped more taken.fresh.toValid (taken.left row)
    refine ⟨after, ?_, taken.trans later⟩
    rw [expression_eq, expressionWith_quote valid row kind, bind_apply, quotedWithin, ran]
    rfl
  | .empty kind closed => by
    refine .opened ?_ kind
    intro stream more valid row
    have outside : stream.current.kind = .closing := by rw [current_eq row, closed]
    refine ⟨_, ?_, valid.takes_skipped row⟩
    rw [parenthesized_eq, parenthesizedWith_other valid (by rw [outside]; rfl) (by simp [outside]),
      closeList_closing (valid.noting _) ((noting_remaining _ _).trans row) closed,
      valid.skipped_noting]
  | .list kind front last closed => by
    refine .opened ?_ kind
    intro stream more valid row
    rw [List.append_assoc, List.append_assoc] at row
    rw [parenthesized_eq]
    obtain ⟨rfl, rfl⟩ | nonempty := front.eq_nil_or
    · -- the only element stands right behind the parenthesis
      obtain ⟨middle, same, taken⟩ := parenthesizedWith_accepted _ last.accepts last valid row
      have left := taken.left row
      refine ⟨_, ?_, taken.trans (taken.fresh.takes_skipped left)⟩
      rw [same, moreElements_closing taken.fresh.toValid left closed]
      rfl
    · obtain ⟨middle, fewer, same, taken, enough⟩ :=
        front.parenthesizedWith_eq _ stream _ valid row nonempty
      have left := taken.left row
      obtain ⟨after, ran, later⟩ :=
        nextElement_last last.accepts last closed taken.fresh.toValid left enough
      refine ⟨after, ?_, by simpa using taken.trans later⟩
      rw [same, ran, List.reverse_reverse]
  | .dotted kind front dot blank last closed => by
    refine .opened ?_ kind
    intro stream more valid row
    rw [parenthesized_eq, tailWithin]
    obtain ⟨rfl, rfl⟩ | nonempty := front.eq_nil_or
    · -- the dot stands right behind the parenthesis
      have taken := valid.takes_skipped row
      obtain ⟨after, ran, later⟩ := (last.accepts.behindDot blank closed) _ more
        taken.fresh.toValid (taken.left row)
      refine ⟨after, ?_, taken.trans later⟩
      rw [parenthesizedWith_dot valid row dot, ran]
    · rw [List.append_assoc, List.append_assoc] at row
      obtain ⟨middle, fewer, same, taken, enough⟩ :=
        front.parenthesizedWith_eq _ stream _ valid row nonempty
      have left := taken.left row
      have dotted := taken.fresh.takes_skipped left
      obtain ⟨after, ran, later⟩ := (last.accepts.behindDot blank closed) middle.skipped more
        dotted.fresh.toValid (by simp [dotted.left left])
      refine ⟨after, ?_, by simpa using taken.trans (dotted.trans later)⟩
      rw [same, nextElement_dot taken.fresh.toValid left dot, ran, List.reverse_reverse]

theorem SpellsEach.moreElements_eq {room : Nat} {tokens : List Token} {values : List Value} :
    SpellsEach room tokens values → ∀ (tail : Reading Value) (items : List Value) (count : Nat)
      (stream : TokenStream) (gap : Token) (more : List Token), gap.kind = .space → stream.Fresh →
      stream.remaining = gap :: (tokens ++ more) → stream.remaining.length < count →
      ∃ after fewer, moreElements (expression room) tail count items stream =
          nextElement (expression room) tail fewer (values.reverse ++ items) after ∧
        stream.Takes (gap :: tokens) after ∧ after.remaining.length ≤ fewer
  | .nil, tail, items, count + 1, stream, gap, more, blank, fresh, row, enough => by
    have taken := fresh.takes_skipped row
    refine ⟨_, count, moreElements_space fresh.toValid row blank, taken, ?_⟩
    rw [taken.remaining, List.singleton_append, List.length_cons] at enough
    omega
  | .cons first between rest, tail, items, count + 1, stream, gap, more, blank, fresh, row,
      enough => by
    have parted := fresh.takes_skipped row
    have left := skipped_remaining row
    rw [List.append_assoc, List.cons_append] at left
    rw [parted.remaining, List.singleton_append, List.length_cons, Nat.succ_lt_succ_iff] at enough
    -- the blanks behind the first element are those that the others are gathered from
    obtain ⟨middle, same, taken, fewer⟩ := nextElement_accepted tail items first.accepts first
      parted.fresh.toValid left enough.le
    obtain ⟨after, lower, next, later, enough⟩ := rest.moreElements_eq tail _ count middle _ more
      between taken.fresh (taken.left left) fewer
    refine ⟨after, lower, ?_, parted.trans (taken.trans later), enough⟩
    rw [moreElements_space fresh.toValid row blank, same, next]
    simp

theorem SpellsEach.parenthesizedWith_eq {room : Nat} {tokens : List Token} {values : List Value} :
    SpellsEach room tokens values → ∀ (tail : Reading Value) (stream : TokenStream)
      (more : List Token), stream.Valid → stream.remaining = tokens ++ more → tokens ≠ [] →
      ∃ after fewer, parenthesizedWith (expression room) tail stream =
          nextElement (expression room) tail fewer values.reverse after ∧
        stream.Takes tokens after ∧ after.remaining.length ≤ fewer
  | .nil, _, _, _, _, _, nonempty => absurd rfl nonempty
  | .cons first gap rest, tail, stream, more, valid, row, _ => by
    rw [List.append_assoc, List.cons_append] at row
    obtain ⟨middle, same, taken⟩ := parenthesizedWith_accepted tail first.accepts first valid row
    obtain ⟨after, lower, next, later, enough⟩ := rest.moreElements_eq tail _ _ middle _ more gap
      taken.fresh (taken.left row) (Nat.lt_succ_of_le taken.fresh.length_remaining_le)
    refine ⟨after, lower, ?_, taken.trans later, enough⟩
    rw [same, next, List.reverse_cons]

end

end Lisplet
