import Lisplet.Proofs.Grammar
import Lisplet.Proofs.Streams

/-! The branches of the reader. Each lemma says what one definition does on a stream whose current
token is known, so that nothing else has to open these definitions. -/

set_option autoImplicit false

namespace Lisplet.Reading

open TokenStream
open Text (shownChar)

def behindDot (tail : Reading Value) (items : List Value) : Reading Value := do
  let _ ← separator
  let last ← tail
  let _ ← expect .closing (shownChar ')')
  pure (.dotted items last)

def nextElement (element tail : Reading Value) (count : Nat) (items : List Value) :
    Reading Value := do
  if ← atExpression then
    let item ← element
    moreElements element tail count (item :: items)
  else dottedTail tail items.reverse

def quotedWithin : Nat → Reading Value
  | 0 => tooDeep
  | room + 1 => expression room

/-- What follows an opening parenthesis, with room for the parenthesis too. -/
def parenthesizedWithin : Nat → Reading Value
  | room + 2 => parenthesized room
  | _ => tooDeep

theorem parenthesizedWithin_of_lt {room : Nat} (little : room < 2) :
    parenthesizedWithin room = tooDeep := by
  rcases Nat.lt_succ_iff_lt_or_eq.mp little with less | rfl
  · rw [Nat.lt_one_iff.mp less]
    rfl
  · rfl

def tailWithin : Nat → Reading Value
  | 0 => tooDeep
  | room + 1 => expression room

theorem expression_eq (room : Nat) (stream : TokenStream) : expression room stream =
    expressionWith (quotedWithin room) (parenthesizedWithin room) stream := by
  match room with
  | 0 | 1 | 2 | room + 3 => rfl

theorem parenthesized_eq (room : Nat) :
    parenthesized room = parenthesizedWith (expression room) (tailWithin room) := by
  cases room with
  | zero => rfl
  | succ room => rfl

@[simp] theorem tooDeep_apply (stream : TokenStream) :
    tooDeep stream = .error (.limit .depth) stream.finished := rfl

variable {element tail quoted parenthesized : Reading Value} {count : Nat} {items : List Value}
  {stream : TokenStream} {token : Token} {more : List Token}

/-! ## Ends of lists -/

theorem closeList_closing (valid : stream.Valid) (next : stream.remaining = token :: more)
    (kind : token.kind = .closing) :
    closeList items stream = .ok (.list items) stream.skipped := by
  simp [closeList, valid.peek_eq, current_eq next, kind, valid.advance_looked next]

theorem closeList_other (valid : stream.Valid) (kind : stream.current.kind ≠ .closing) :
    closeList items stream = .error (.mismatch (stream.mismatchHere
      ((if items.isEmpty then Token.Kind.dot.labels else []) ++ Token.Kind.closing.labels)))
      stream.looked := by
  simp [closeList, valid.peek_eq, kind, valid.looked.reject_eq, valid.looked_looked]

theorem dottedTail_dot (valid : stream.Valid) (next : stream.remaining = token :: more)
    (kind : token.kind = .dot) :
    dottedTail tail items stream = behindDot tail items stream.skipped := by
  rw [dottedTail, bind_apply, ← kind, valid.expect_eq _ next]
  rfl

theorem dottedTail_other (valid : stream.Valid) (kind : stream.current.kind ≠ .dot) :
    dottedTail tail items stream =
      .error (.mismatch (stream.mismatchHere Token.Kind.dot.labels)) stream.looked := by
  rw [dottedTail, bind_apply, valid.expect_error _ kind]
  rfl

/-! ## Elements -/

theorem moreElements_space (valid : stream.Valid) (next : stream.remaining = token :: more)
    (kind : token.kind = .space) : moreElements element tail (count + 1) items stream =
      nextElement element tail count items stream.skipped := by
  rw [moreElements, bind_apply, separator, ← kind, valid.attempt_some _ next]
  rfl

theorem moreElements_other (valid : stream.Valid) (kind : stream.current.kind ≠ .space) :
    moreElements element tail (count + 1) items stream =
      closeList items.reverse (stream.noting (stream.mismatchHere Token.Kind.space.labels)) := by
  rw [moreElements, bind_apply, separator, valid.attempt_none _ kind]
  rfl

theorem nextElement_start (valid : stream.Valid)
    (starts : stream.current.kind.startsExpression = true) :
    nextElement element tail count items stream =
      (element >>= fun item => moreElements element tail count (item :: items)) stream.looked := by
  rw [nextElement, bind_apply, valid.atExpression_true starts]
  rfl

theorem nextElement_other (valid : stream.Valid)
    (starts : stream.current.kind.startsExpression = false) :
    nextElement element tail count items stream = dottedTail tail items.reverse
      (stream.noting (stream.mismatchHere Token.expressionLabels)) := by
  rw [nextElement, bind_apply, valid.atExpression_false starts]
  rfl

theorem parenthesizedWith_start (valid : stream.Valid)
    (starts : stream.current.kind.startsExpression = true) :
    parenthesizedWith element tail stream = (element >>= fun first => get >>= fun after =>
      moreElements element tail (after.rest.length + 1) [first]) stream.looked := by
  rw [parenthesizedWith, bind_apply, valid.atExpression_true starts]
  rfl

theorem parenthesizedWith_dot (valid : stream.Valid) (next : stream.remaining = token :: more)
    (kind : token.kind = .dot) :
    parenthesizedWith element tail stream = behindDot tail [] stream.skipped := by
  have starts : stream.current.kind.startsExpression = false := by
    rw [current_eq next, kind]
    rfl
  have noted := valid.noting (stream.mismatchHere Token.expressionLabels)
  rw [parenthesizedWith, bind_apply, valid.atExpression_false starts]
  simp only [Bool.false_eq_true, ↓reduceIte, bind_apply, valid.peek_noting, current_eq next, kind]
  rw [dottedTail_dot noted ((noting_remaining _ _).trans next) kind, valid.skipped_noting]

theorem parenthesizedWith_other (valid : stream.Valid)
    (starts : stream.current.kind.startsExpression = false) (kind : stream.current.kind ≠ .dot) :
    parenthesizedWith element tail stream =
      closeList [] (stream.noting (stream.mismatchHere Token.expressionLabels)) := by
  rw [parenthesizedWith, bind_apply, valid.atExpression_false starts]
  simp only [Bool.false_eq_true, ↓reduceIte, bind_apply, valid.peek_noting, kind]

/-! ## Expressions -/

theorem expressionWith_single (valid : stream.Valid) (next : stream.remaining = token :: more)
    {value : Value} (spelled : Spells 0 [token] value) :
    expressionWith quoted parenthesized stream = .ok value stream.skipped := by
  cases spelled with
  | atom kind | string kind =>
    simp [expressionWith, valid.peek_eq, current_eq next, kind, valid.advance_looked next]
  | number kind short =>
    simp [expressionWith, valid.peek_eq, current_eq next, kind, valid.advance_looked next,
      Numeral.ofDecimal, Nat.not_lt.mpr short]

theorem expressionWith_tooLong (valid : stream.Valid) (next : stream.remaining = token :: more)
    (kind : token.kind = .number) (long : digitLimit < token.text.length) :
    expressionWith quoted parenthesized stream =
      .error (.limit (.numeral token.text.length)) stream.skipped := by
  simp [expressionWith, valid.peek_eq, current_eq next, kind, valid.advance_looked next,
    Numeral.ofDecimal, long]

theorem expressionWith_quote (valid : stream.Valid) (next : stream.remaining = token :: more)
    (kind : token.kind = .quote) : expressionWith quoted parenthesized stream =
      (quoted >>= fun value => pure value.quoted) stream.skipped := by
  simp [expressionWith, valid.peek_eq, current_eq next, kind, valid.advance_looked next]

theorem expressionWith_opening (valid : stream.Valid) (next : stream.remaining = token :: more)
    (kind : token.kind = .opening) :
    expressionWith quoted parenthesized stream = parenthesized stream.skipped := by
  simp [expressionWith, valid.peek_eq, current_eq next, kind, valid.advance_looked next]

theorem expressionWith_unterminated (valid : stream.Valid)
    (next : stream.remaining = token :: more) (kind : token.kind = .unterminated) :
    expressionWith quoted parenthesized stream = .error (.mismatch
      ⟨stream.source.length, "end of input", Token.Kind.string.labels⟩) stream.skipped := by
  simp [expressionWith, valid.peek_eq, current_eq next, kind, valid.advance_looked next,
    mismatchAt]
  rfl

theorem expressionWith_other (valid : stream.Valid)
    (starts : stream.current.kind.startsExpression = false) :
    expressionWith quoted parenthesized stream =
      .error (.mismatch (stream.mismatchHere Token.expressionLabels)) stream.looked := by
  have rejected := valid.looked.reject_eq (α := Value) Token.expressionLabels
  rw [looked_mismatchHere, valid.looked_looked] at rejected
  rw [expressionWith, bind_apply, valid.peek_eq]
  cases kind : stream.current.kind <;> simp_all [Token.Kind.startsExpression]

end Lisplet.Reading
