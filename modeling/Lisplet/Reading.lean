import Lisplet.TokenStream

/-! Reading of expressions. Blanks count: one run of them stands between two elements of a list and
on both sides of the dot, and nowhere else. -/

set_option autoImplicit false

namespace Lisplet

open TokenStream
open Text (shownChar)

namespace Reading

/-- The room is used up where the next token would be taken from the source. The failure passes
through what takes tokens from it, which gives none from then on. -/
def tooDeep : Reading Value := fun stream =>
  .error (.limit .depth) stream.finished

def separator : Reading Token :=
  expect .space "space"

def dottedTail (tail : Reading Value) (items : List Value) : Reading Value := do
  let _ ← expect .dot (shownChar '.')
  let _ ← separator
  let last ← tail
  let _ ← expect .closing (shownChar ')')
  pure (.dotted items last)

def closeList (items : List Value) : Reading Value := do
  if (← peek).kind = .closing then
    let _ ← advance
    pure (.list items)
  else
    reject ((if items.isEmpty then Token.Kind.dot.labels else []) ++ Token.Kind.closing.labels)

/-- What follows an element: more elements, each after a separator, and the end of the list. The
elements so far are given last one first. The count bounds those to come; every one of them stands
after a separator, so the characters that are left are enough. -/
def moreElements (element tail : Reading Value) : Nat → List Value → Reading Value
  | 0, _ => tooDeep
  | count + 1, items => do
    match ← attempt separator with
    | none => closeList items.reverse
    | some _ =>
      if ← atExpression then
        let item ← element
        moreElements element tail count (item :: items)
      else dottedTail tail items.reverse

def parenthesizedWith (element tail : Reading Value) : Reading Value := do
  if ← atExpression then
    let first ← element
    moreElements element tail ((← get).rest.length + 1) [first]
  else if (← peek).kind = .dot then dottedTail tail []
  else closeList []

def expressionWith (quoted parenthesized : Reading Value) : Reading Value := do
  let token ← peek
  match token.kind with
  | .atom =>
    let _ ← advance
    pure (.ofAtomText (String.ofList token.text))
  | .string =>
    let _ ← advance
    pure (.string (String.ofList token.text.tail.dropLast))
  | .number =>
    let _ ← advance
    match Numeral.ofDecimal token.text with
    | .ok n => pure (.number n)
    | .error reached => throw (.limit reached)
  | .quote =>
    let _ ← advance
    let value ← quoted
    pure value.quoted
  | .opening =>
    let _ ← advance
    parenthesized
  | .unterminated =>
    let _ ← advance
    let stream ← get
    throw (.mismatch
      (stream.mismatchAt stream.source.length "end of input" Token.Kind.string.labels))
  | _ => reject Token.expressionLabels

/-- An expression, read with this much room for nesting: what is quoted has one level less, an
element of a list two less, and a tail three less. -/
def expression : Nat → Reading Value
  | 0, stream => expressionWith tooDeep tooDeep stream
  | 1, stream => expressionWith (expression 0) tooDeep stream
  | 2, stream => expressionWith (expression 1) (parenthesizedWith (expression 0) tooDeep) stream
  | room + 3, stream =>
    expressionWith (expression (room + 2))
      (parenthesizedWith (expression (room + 1)) (expression room)) stream

def parenthesized : Nat → Reading Value
  | 0 => parenthesizedWith (expression 0) tooDeep
  | room + 1 => parenthesizedWith (expression (room + 1)) (expression room)

end Reading

end Lisplet
