import Lisplet.Proofs.Tokenization
import Lisplet.Reading

/-! Streams as rows of tokens. A stream that has been used properly is known by the tokens that it
can still give, and every step on it by what it does to them. -/

set_option autoImplicit false

namespace Lisplet

open Text (shownChar)

/-- How a message shows a token, the end included. -/
def Token.shown (token : Token) : String :=
  match token.text with
  | [] => "end of input"
  | c :: _ => shownChar c

namespace Reading

variable {α β : Type}

@[simp] theorem bind_apply (step : Reading α) (next : α → Reading β) (stream : TokenStream) :
    (step >>= next) stream =
      match step stream with
      | .ok value after => next value after
      | .error fault after => .error fault after := by
  cases ran : step stream <;> simp [bind, EStateM.bind, ran]

@[simp] theorem map_apply (change : α → β) (step : Reading α) (stream : TokenStream) :
    (change <$> step) stream =
      match step stream with
      | .ok value after => .ok (change value) after
      | .error fault after => .error fault after := by
  cases ran : step stream <;> simp [Functor.map, EStateM.map, ran]

@[simp] theorem pure_apply (value : α) (stream : TokenStream) :
    (pure value : Reading α) stream = .ok value stream := rfl

@[simp] theorem throw_apply (fault : ReadFault) (stream : TokenStream) :
    (throw fault : Reading α) stream = .error fault stream := rfl

@[simp] theorem get_apply (stream : TokenStream) :
    (get : Reading TokenStream) stream = .ok stream stream := rfl

@[simp] theorem modify_apply (change : TokenStream → TokenStream) (stream : TokenStream) :
    (modify change : Reading Unit) stream = .ok () (change stream) := rfl

end Reading

namespace TokenStream

/-- All tokens that the stream has taken from its source and those that it would still take. -/
def row (stream : TokenStream) : List Token :=
  stream.buffer.toList ++ Token.allFrom stream.offset stream.rest

def remaining (stream : TokenStream) : List Token :=
  stream.row.drop stream.index

def current (stream : TokenStream) : Token :=
  stream.remaining.headD stream.eof

/-- The tokens of a stream are those of its source from the first on, at most one of them is taken
ahead of those that are consumed, and what is left is what some rest of the source holds. -/
structure Valid (stream : TokenStream) : Prop where
  tokens : stream.row <+: Token.all stream.source
  consumed : stream.index ≤ stream.buffer.size
  lookahead : stream.buffer.size ≤ stream.index + 1
  left : ∃ pos, stream.remaining = Token.allFrom pos (stream.source.drop pos)

@[simp] theorem row_start (sourceName : String) (source : List Char) :
    (start sourceName source).row = Token.all source := rfl

@[simp] theorem remaining_start (sourceName : String) (source : List Char) :
    (start sourceName source).remaining = Token.all source := rfl

theorem valid_start (sourceName : String) (source : List Char) :
    (start sourceName source).Valid :=
  ⟨List.prefix_rfl, Nat.le_refl 0, Nat.zero_le 1, 0, rfl⟩

def looked (stream : TokenStream) : TokenStream :=
  match peek stream with
  | .ok _ after | .error _ after => after

variable {stream : TokenStream}

theorem Valid.remaining_eq (valid : stream.Valid) : stream.remaining =
    stream.buffer.toList.drop stream.index ++ Token.allFrom stream.offset stream.rest := by
  rw [remaining, row, List.drop_append_of_le_length (by simpa using valid.consumed)]

theorem Valid.taken_eq (valid : stream.Valid) :
    stream.buffer.toList.take stream.index = (Token.all stream.source).take stream.index := by
  obtain ⟨others, whole⟩ := valid.tokens
  rw [← whole, row, List.append_assoc,
    List.take_append_of_le_length (by simpa using valid.consumed)]

theorem Valid.peek_cases (valid : stream.Valid) :
    (stream.remaining = [] ∧ peek stream = .ok stream.eof stream ∧
      stream.buffer.size = stream.index) ∨
    (∃ token more, stream.remaining = token :: more ∧ peek stream = .ok token stream ∧
      stream.buffer[stream.index]? = some token) ∨
    ∃ token more rest, stream.remaining = token :: more ∧ stream.buffer.size = stream.index ∧
      Token.allFrom (stream.offset + token.text.length) rest = more ∧
      peek stream = .ok token { stream with
        rest
        offset := stream.offset + token.text.length
        buffer := stream.buffer.push token } := by
  rw [valid.remaining_eq]
  cases held : stream.buffer[stream.index]? with
  | some token =>
    -- it has been looked at before
    obtain ⟨bound, same⟩ := Array.getElem?_eq_some_iff.mp held
    refine .inr (.inl ⟨token, stream.buffer.toList.drop (stream.index + 1) ++
      Token.allFrom stream.offset stream.rest, ?_, by simp only [peek, held], rfl⟩)
    rw [List.drop_eq_getElem_cons (by simpa using bound), List.cons_append, Array.getElem_toList,
      same]
  | none =>
    -- all that the buffer holds is consumed, and the next token is taken from the text
    have size : stream.buffer.size = stream.index := by
      have := Array.getElem?_eq_none_iff.mp held
      have := valid.consumed
      omega
    have consumed : stream.buffer.toList.drop stream.index = [] := by simp [size]
    rw [consumed, List.nil_append]
    cases found : Token.lexeme? stream.rest with
    | none =>
      have ended : stream.rest = [] := by
        cases text : stream.rest with
        | nil => rfl
        | cons c rest => simp [text, Token.lexeme?] at found
      refine .inl ⟨by rw [ended, Token.allFrom_nil], ?_, size⟩
      simp [peek, held, Token.next?, found]
    | some first =>
      obtain ⟨kind, lexeme, rest⟩ := first
      refine .inr (.inr ⟨⟨kind, lexeme, stream.offset⟩, _, rest,
        Token.allFrom_of_lexeme? _ found, size, rfl, ?_⟩)
      simp [peek, held, Token.next?, found]

theorem looked_eq (stream : TokenStream) :
    ∃ rest offset buffer, stream.looked = { stream with rest, offset, buffer } := by
  unfold looked peek
  cases stream.buffer[stream.index]? with
  | some token => exact ⟨_, _, _, rfl⟩
  | none =>
    cases Token.next? stream.offset stream.rest with
    | none => exact ⟨_, _, _, rfl⟩
    | some first => exact ⟨_, _, _, rfl⟩

@[simp] theorem looked_source (stream : TokenStream) : stream.looked.source = stream.source := by
  obtain ⟨rest, offset, buffer, same⟩ := stream.looked_eq
  rw [same]

@[simp] theorem looked_sourceName (stream : TokenStream) :
    stream.looked.sourceName = stream.sourceName := by
  obtain ⟨rest, offset, buffer, same⟩ := stream.looked_eq
  rw [same]

@[simp] theorem looked_index (stream : TokenStream) : stream.looked.index = stream.index := by
  obtain ⟨rest, offset, buffer, same⟩ := stream.looked_eq
  rw [same]

@[simp] theorem looked_pending (stream : TokenStream) : stream.looked.pending = stream.pending := by
  obtain ⟨rest, offset, buffer, same⟩ := stream.looked_eq
  rw [same]

@[simp] theorem looked_row (stream : TokenStream) : stream.looked.row = stream.row := by
  unfold looked peek
  cases stream.buffer[stream.index]? with
  | some token => rfl
  | none =>
    cases found : Token.next? stream.offset stream.rest with
    | none => rfl
    | some first =>
      simp only [row, Token.allFrom_of_next? found, Array.toList_push, List.append_assoc,
        List.singleton_append]

@[simp] theorem looked_remaining (stream : TokenStream) :
    stream.looked.remaining = stream.remaining := by
  simp [remaining]

@[simp] theorem looked_current (stream : TokenStream) : stream.looked.current = stream.current := by
  simp [current, eof]

theorem Valid.peek_eq (valid : stream.Valid) : peek stream = .ok stream.current stream.looked := by
  obtain ⟨row, seen, -⟩ | ⟨token, more, row, seen, -⟩ | ⟨token, more, rest, row, -, -, seen⟩ :=
    valid.peek_cases <;>
  simp [looked, current, row, seen]

theorem Valid.looked (valid : stream.Valid) : stream.looked.Valid := by
  refine ⟨by simpa using valid.tokens, ?_, ?_, by simpa using valid.left⟩
  all_goals
    have consumed := valid.consumed
    have lookahead := valid.lookahead
    obtain ⟨-, seen, -⟩ | ⟨token, more, -, seen, -⟩ | ⟨token, more, rest, -, size, -, seen⟩ :=
      valid.peek_cases <;>
    simp only [TokenStream.looked, seen, Array.size_push] <;>
    omega

theorem Valid.looked_size (valid : stream.Valid) {token : Token} {more : List Token}
    (next : stream.remaining = token :: more) :
    stream.looked.buffer.size = stream.index + 1 := by
  have most := valid.looked.lookahead
  rw [looked_index] at most
  obtain ⟨row, -⟩ | ⟨token, more, row, seen, held⟩ | ⟨token, more, rest, row, size, -, seen⟩ :=
    valid.peek_cases
  · simp [row] at next
  · obtain ⟨bound, -⟩ := Array.getElem?_eq_some_iff.mp held
    simp only [TokenStream.looked, seen] at most ⊢
    omega
  · simp [TokenStream.looked, seen, size]

theorem Valid.looked_looked (valid : stream.Valid) : stream.looked.looked = stream.looked := by
  obtain ⟨row, seen, -⟩ | ⟨token, more, row, seen, -⟩ |
    ⟨token, more, rest, row, size, left, seen⟩ := valid.peek_cases
  · have same : stream.looked = stream := by simp only [TokenStream.looked, seen]
    rw [same, same]
  · have same : stream.looked = stream := by simp only [TokenStream.looked, seen]
    rw [same, same]
  · simp only [TokenStream.looked, seen]
    simp [peek, ← size]

def skipped (stream : TokenStream) : TokenStream :=
  { stream.looked with index := stream.index + 1, pending := none }

def noting (stream : TokenStream) (found : Mismatch) : TokenStream :=
  { stream.looked with pending := some found }

@[simp] theorem skipped_source (stream : TokenStream) : stream.skipped.source = stream.source := by
  simp [skipped]

@[simp] theorem skipped_pending (stream : TokenStream) : stream.skipped.pending = none := rfl

theorem Valid.skipped_looked (valid : stream.Valid) : stream.looked.skipped = stream.skipped := by
  simp [skipped, valid.looked_looked]

@[simp] theorem skipped_row (stream : TokenStream) : stream.skipped.row = stream.row :=
  stream.looked_row

theorem skipped_remaining {token : Token} {more : List Token}
    (next : stream.remaining = token :: more) : stream.skipped.remaining = more := by
  rw [remaining] at next ⊢
  rw [skipped_row, skipped, ← List.drop_drop, next, List.drop_one, List.tail_cons]

theorem Valid.skipped (valid : stream.Valid) {token : Token} {more : List Token}
    (next : stream.remaining = token :: more) : stream.skipped.Valid := by
  have size := valid.looked_size next
  refine ⟨valid.looked.tokens, ?_, ?_, ?_⟩
  · simp [TokenStream.skipped, size]
  · simp [TokenStream.skipped, size]
  · obtain ⟨pos, left⟩ := valid.left
    obtain ⟨found, -, others⟩ := Token.allFrom_eq_cons (left.symm.trans next)
    refine ⟨pos + token.text.length, ?_⟩
    rw [skipped_remaining next, skipped_source, ← List.drop_drop, ← Token.lexeme?_append found,
      List.drop_left, ← others]

theorem Valid.skipped_size (valid : stream.Valid) {token : Token} {more : List Token}
    (next : stream.remaining = token :: more) :
    stream.skipped.buffer.size = stream.skipped.index := by
  simpa [TokenStream.skipped] using valid.looked_size next

theorem Valid.noting (valid : stream.Valid) (found : Mismatch) : (stream.noting found).Valid :=
  ⟨valid.looked.tokens, valid.looked.consumed, valid.looked.lookahead, valid.looked.left⟩

@[simp] theorem noting_pending (stream : TokenStream) (found : Mismatch) :
    (stream.noting found).pending = some found := rfl

@[simp] theorem noting_source (stream : TokenStream) (found : Mismatch) :
    (stream.noting found).source = stream.source := by
  simp [TokenStream.noting]

@[simp] theorem noting_remaining (stream : TokenStream) (found : Mismatch) :
    (stream.noting found).remaining = stream.remaining := by
  exact stream.looked_remaining

@[simp] theorem noting_current (stream : TokenStream) (found : Mismatch) :
    (stream.noting found).current = stream.current := by
  simp [current, eof]

theorem looked_remembering (stream : TokenStream) (pending : Option Mismatch) :
    { stream with pending }.looked = { stream.looked with pending } := by
  unfold looked peek
  dsimp only
  cases stream.buffer[stream.index]? with
  | some token => rfl
  | none =>
    cases Token.next? stream.offset stream.rest with
    | none => rfl
    | some first => rfl

theorem Valid.looked_noting (valid : stream.Valid) (found : Mismatch) :
    (stream.noting found).looked = stream.noting found := by
  rw [TokenStream.noting, looked_remembering, valid.looked_looked]

theorem Valid.skipped_noting (valid : stream.Valid) (found : Mismatch) :
    (stream.noting found).skipped = stream.skipped := by
  rw [TokenStream.skipped, valid.looked_noting]
  simp only [TokenStream.noting, looked_index, TokenStream.skipped]

theorem Valid.remembering (valid : stream.Valid) (pending : Option Mismatch) :
    { stream with pending }.Valid :=
  ⟨valid.tokens, valid.consumed, valid.lookahead, valid.left⟩

/-! ## Steps -/

theorem taken_append_remaining (stream : TokenStream) :
    stream.row.take stream.index ++ stream.remaining = stream.row :=
  List.take_append_drop _ _

theorem Valid.kind_ne_eof (valid : stream.Valid) {token : Token}
    (member : token ∈ stream.remaining) : token.kind ≠ .eof := by
  intro eof
  have admitted := Token.admits_of_mem (valid.tokens.subset (List.mem_of_mem_drop member))
  rw [eof] at admitted
  exact admitted

/-- A string that nothing closes goes on to the end. -/
theorem Valid.eq_nil_of_unterminated (valid : stream.Valid) {token : Token} {more : List Token}
    (next : stream.remaining = token :: more) (kind : token.kind = .unterminated) : more = [] := by
  obtain ⟨pos, left⟩ := valid.left
  have split := left.symm.trans next
  have ended := Token.not_goesOn_of_split (show _ = [] ++ _ from split)
  rw [kind, Token.Kind.GoesOn, not_not] at ended
  -- no text is left, and so no token
  obtain ⟨-, -, others⟩ := Token.allFrom_eq_cons split
  rw [others, ended, Token.allFrom_nil]

theorem current_eq {token : Token} {more : List Token} (next : stream.remaining = token :: more) :
    stream.current = token := by
  simp [current, next]

theorem remaining_eq_cons (stream : TokenStream) (real : stream.current.kind ≠ .eof) :
    ∃ more, stream.remaining = stream.current :: more := by
  unfold current at real ⊢
  cases row : stream.remaining with
  | nil =>
    rw [row] at real
    exact absurd rfl real
  | cons token more => exact ⟨more, rfl⟩

theorem Valid.advance_eq (valid : stream.Valid) {token : Token} {more : List Token}
    (next : stream.remaining = token :: more) : advance stream = .ok token stream.skipped := by
  have kind : token.kind ≠ .eof := valid.kind_ne_eof (by simp [next])
  simp [advance, valid.peek_eq, current_eq next, kind, TokenStream.skipped]

theorem Valid.advance_looked (valid : stream.Valid) {token : Token} {more : List Token}
    (next : stream.remaining = token :: more) :
    advance stream.looked = .ok token stream.skipped := by
  rw [valid.looked.advance_eq ((looked_remaining stream).trans next), valid.skipped_looked]

/-- The labels that were expected at the current token before. -/
def earlier (stream : TokenStream) : List String :=
  match stream.pending with
  | some failed => if failed.pos = stream.current.pos then failed.expected else []
  | none => []

def mismatchHere (stream : TokenStream) (expected : List String) : Mismatch :=
  ⟨stream.current.pos, stream.current.shown, (stream.earlier ++ expected).eraseDups⟩

theorem mismatchOf_current (stream : TokenStream) (expected : List String) :
    stream.looked.mismatchOf stream.current expected = stream.mismatchHere expected := by
  simp only [mismatchOf, mismatchAt, mismatchHere, earlier, looked_pending]
  rfl

@[simp] theorem looked_mismatchHere (stream : TokenStream) (expected : List String) :
    stream.looked.mismatchHere expected = stream.mismatchHere expected := by
  simp [mismatchHere, earlier]

@[simp] theorem earlier_noting (stream : TokenStream) (expected : List String) :
    (stream.noting (stream.mismatchHere expected)).earlier =
      (stream.earlier ++ expected).eraseDups := by
  rw [earlier, noting_pending, noting_current]
  exact if_pos rfl

theorem eraseDups_eraseDups (labels : List String) :
    labels.eraseDups.eraseDups = labels.eraseDups := by
  match labels with
  | [] => rfl
  | label :: labels =>
    have others : ∀ other ∈ (labels.filter fun other => !other == label).eraseDups,
        (!other == label) = true := by
      intro other member
      exact (List.mem_filter.mp (List.mem_eraseDups.mp member)).2
    rw [List.eraseDups_cons, List.eraseDups_cons, List.filter_eq_self.mpr others,
      eraseDups_eraseDups (labels.filter _)]
termination_by labels.length
decreasing_by exact Nat.lt_succ_of_le (List.length_filter_le _ _)

theorem eraseDups_eraseDups_append (labels others : List String) :
    (labels.eraseDups ++ others).eraseDups = (labels ++ others).eraseDups := by
  have same : others.removeAll labels.eraseDups = others.removeAll labels := by
    simp [List.removeAll]
  rw [List.eraseDups_append, List.eraseDups_append, same, eraseDups_eraseDups]

/-- What is expected at a token is gathered over the alternatives that fail there. -/
theorem mismatchHere_noting (stream : TokenStream) (expected others : List String) :
    (stream.noting (stream.mismatchHere expected)).mismatchHere others =
      stream.mismatchHere (expected ++ others) := by
  rw [mismatchHere, earlier_noting, noting_current, eraseDups_eraseDups_append,
    List.append_assoc, mismatchHere]

theorem Valid.reject_eq (valid : stream.Valid) {α : Type} (expected : List String) :
    (reject expected : Reading α) stream =
      .error (.mismatch (stream.mismatchHere expected)) stream.looked := by
  simp [reject, valid.peek_eq, mismatchOf_current]

theorem Valid.expect_eq (valid : stream.Valid) (label : String) {token : Token} {more : List Token}
    (next : stream.remaining = token :: more) :
    expect token.kind label stream = .ok token stream.skipped := by
  simp [expect, valid.peek_eq, current_eq next, valid.advance_looked next]

theorem Valid.expect_error (valid : stream.Valid) {kind : Token.Kind} (label : String)
    (other : stream.current.kind ≠ kind) :
    expect kind label stream = .error (.mismatch (stream.mismatchHere [label])) stream.looked := by
  simp [expect, valid.peek_eq, other, valid.looked.reject_eq, valid.looked_looked]

theorem Valid.atExpression_true (valid : stream.Valid)
    (starts : stream.current.kind.startsExpression = true) :
    atExpression stream = .ok true stream.looked := by
  simp [atExpression, valid.peek_eq, starts]

theorem Valid.atExpression_false (valid : stream.Valid)
    (starts : stream.current.kind.startsExpression = false) :
    atExpression stream =
      .ok false (stream.noting (stream.mismatchHere Token.expressionLabels)) := by
  simp only [atExpression, Reading.bind_apply, valid.peek_eq, starts, Bool.false_eq_true,
    ↓reduceIte, Reading.modify_apply, Reading.pure_apply, mismatchOf_current]
  rfl

theorem Valid.attempt_some (valid : stream.Valid) (label : String) {token : Token}
    {more : List Token} (next : stream.remaining = token :: more) :
    attempt (expect token.kind label) stream = .ok (some token) stream.skipped := by
  simp [attempt, valid.expect_eq label next]

theorem Valid.attempt_none (valid : stream.Valid) {kind : Token.Kind} (label : String)
    (other : stream.current.kind ≠ kind) :
    attempt (expect kind label) stream =
      .ok none (stream.noting (stream.mismatchHere [label])) := by
  simp only [attempt, valid.expect_error label other, looked_index, ↓reduceIte,
    TokenStream.noting]

theorem Valid.peek_noting (valid : stream.Valid) (found : Mismatch) :
    peek (stream.noting found) = .ok stream.current (stream.noting found) := by
  rw [(valid.noting found).peek_eq, noting_current, valid.looked_noting]

/-! ## Runs of tokens -/

/-- Nothing that is left has been looked at, and no mismatch is remembered. -/
structure Fresh (stream : TokenStream) : Prop extends Valid stream where
  pending : stream.pending = none
  size : stream.buffer.size = stream.index

theorem fresh_start (sourceName : String) (source : List Char) :
    (start sourceName source).Fresh :=
  ⟨valid_start sourceName source, rfl, rfl⟩

theorem Fresh.earlier (fresh : stream.Fresh) : stream.earlier = [] := by
  simp [TokenStream.earlier, fresh.pending]

theorem Fresh.length_remaining_le (fresh : stream.Fresh) :
    stream.remaining.length ≤ stream.rest.length := by
  have consumed : stream.buffer.toList.drop stream.index = [] := by simp [fresh.size]
  rw [fresh.remaining_eq, consumed, List.nil_append]
  exact Token.length_allFrom_le _ _

/-- A token may stand in the buffer, and each of the others has a character in the text. -/
theorem Valid.length_remaining_le (valid : stream.Valid) :
    stream.remaining.length ≤ stream.rest.length + 1 := by
  have most := Token.length_allFrom_le stream.offset stream.rest
  have lookahead := valid.lookahead
  rw [valid.remaining_eq, List.length_append, List.length_drop, Array.length_toList]
  omega

/-! ## Finished streams -/

@[simp] theorem finished_row (stream : TokenStream) :
    stream.finished.row = stream.buffer.toList := by
  simp [row, finished]

theorem finished_prefix (stream : TokenStream) : stream.finished.row <+: stream.row := by
  rw [finished_row]
  exact List.prefix_append _ _

theorem Fresh.finished_remaining (fresh : stream.Fresh) : stream.finished.remaining = [] := by
  rw [remaining, finished_row]
  simp [finished, fresh.size]

theorem Fresh.finished (fresh : stream.Fresh) : stream.finished.Fresh := by
  have whole : stream.finished.row <+: Token.all stream.source :=
    stream.finished_prefix.trans fresh.tokens
  refine ⟨⟨whole, fresh.consumed, fresh.lookahead, stream.source.length, ?_⟩, fresh.pending,
    fresh.size⟩
  rw [fresh.finished_remaining]
  simp [TokenStream.finished]

/-- A stream that has come to its end is as good as finished. -/
theorem Valid.finished_eq (valid : stream.Valid) (ended : stream.remaining = []) :
    stream.finished = stream := by
  rw [valid.remaining_eq] at ended
  have nothing : stream.rest = [] := by
    rw [← Token.textOf_allFrom stream.offset stream.rest, (List.append_eq_nil_iff.mp ended).2]
    rfl
  rw [TokenStream.finished, ← nothing]

/-! ## Consumed tokens -/

/-- Going from the one stream to the other consumes the tokens. -/
structure Takes (stream : TokenStream) (tokens : List Token) (after : TokenStream) : Prop where
  fresh : after.Fresh
  source : after.source = stream.source
  remaining : stream.remaining = tokens ++ after.remaining

theorem Fresh.takes_nil (fresh : stream.Fresh) : stream.Takes [] stream :=
  ⟨fresh, rfl, rfl⟩

theorem Valid.takes_skipped (valid : stream.Valid) {token : Token} {more : List Token}
    (next : stream.remaining = token :: more) : stream.Takes [token] stream.skipped where
  fresh := ⟨valid.skipped next, skipped_pending stream, valid.skipped_size next⟩
  source := skipped_source stream
  remaining := by rw [skipped_remaining next, next]; rfl

namespace Takes

variable {middle after : TokenStream} {tokens others : List Token}

theorem trans (first : stream.Takes tokens middle) (second : middle.Takes others after) :
    stream.Takes (tokens ++ others) after :=
  ⟨second.fresh, second.source.trans first.source,
    by rw [first.remaining, second.remaining, List.append_assoc]⟩

theorem left (taken : stream.Takes tokens after) (row : stream.remaining = tokens ++ others) :
    after.remaining = others :=
  List.append_cancel_left (taken.remaining.symm.trans row)

/-- Only the tokens that are left matter at the start. -/
theorem of_eq (taken : middle.Takes tokens after) (source : middle.source = stream.source)
    (remaining : middle.remaining = stream.remaining) : stream.Takes tokens after :=
  ⟨taken.fresh, taken.source.trans source, remaining ▸ taken.remaining⟩

end Takes

end TokenStream

end Lisplet
