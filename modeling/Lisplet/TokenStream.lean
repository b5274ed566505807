import Lisplet.Error
import Lisplet.Text.Position
import Lisplet.Token

/-! A stream of tokens under one token of lookahead, with the expectations of the alternatives that
have failed at the current token. -/

set_option autoImplicit false

namespace Lisplet

open Text (positionAt shownChar)

structure Mismatch where
  pos : Int
  unexpected : String
  expected : List String
  deriving DecidableEq, Repr

/-- Tokens are taken from the source only when they are looked at. -/
structure TokenStream where
  source : List Char
  sourceName : String
  rest : List Char
  offset : Nat
  buffer : Array Token
  index : Nat
  /-- The last alternative that failed at the current token. -/
  pending : Option Mismatch
  deriving DecidableEq, Repr

inductive ReadFault where
  | mismatch (found : Mismatch)
  | limit (reached : Limit)
  deriving DecidableEq, Repr

/-- A step on a stream. When it fails the stream is left where it failed. -/
abbrev Reading (α : Type) : Type :=
  EStateM ReadFault TokenStream α

namespace TokenStream

def start (sourceName : String) (source : List Char) : TokenStream where
  source := source
  sourceName := sourceName
  rest := source
  offset := 0
  buffer := #[]
  index := 0
  pending := none

def eof (stream : TokenStream) : Token :=
  ⟨.eof, [], stream.source.length⟩

def finished (stream : TokenStream) : TokenStream :=
  { stream with rest := [] }

def peek : Reading Token := fun stream =>
  match stream.buffer[stream.index]? with
  | some token => .ok token stream
  | none =>
    match Token.next? stream.offset stream.rest with
    | none => .ok stream.eof stream
    | some (token, rest) =>
      .ok token { stream with
        rest
        offset := stream.offset + token.text.length
        buffer := stream.buffer.push token }

def advance : Reading Token := do
  let token ← peek
  if token.kind ≠ .eof then
    modify fun stream => { stream with index := stream.index + 1, pending := none }
  pure token

/-- A mismatch at an offset. What alternatives expected that failed there before comes first. -/
def mismatchAt (stream : TokenStream) (pos : Int) (unexpected : String) (expected : List String) :
    Mismatch :=
  let earlier :=
    match stream.pending with
    | some failed => if failed.pos = pos then failed.expected else []
    | none => []
  ⟨pos, unexpected, (earlier ++ expected).eraseDups⟩

def mismatchOf (stream : TokenStream) (token : Token) (expected : List String) : Mismatch :=
  stream.mismatchAt token.pos
    (match token.text with
      | [] => "end of input"
      | c :: _ => shownChar c)
    expected

def report (stream : TokenStream) (found : Mismatch) : SyntaxError :=
  let here := positionAt stream.source found.pos
  { pos := found.pos
    line := here.line
    column := here.column
    unexpected := found.unexpected
    expected := found.expected
    sourceName := stream.sourceName
    reason := none }

def reject {α : Type} (expected : List String) : Reading α := do
  let token ← peek
  throw (.mismatch ((← get).mismatchOf token expected))

def expect (kind : Token.Kind) (label : String) : Reading Token := do
  let token ← peek
  if token.kind = kind then advance else reject [label]

/-- Runs a step that may fail. If it fails without consuming anything there is no result, and what
it expected is remembered. -/
def attempt {α : Type} (step : Reading α) : Reading (Option α) := fun stream =>
  let start := stream.index
  match step stream with
  | .ok result after => .ok (some result) after
  | .error (.mismatch found) after =>
    if after.index = start then .ok none { after with pending := some found }
    else .error (.mismatch found) after
  | .error (.limit reached) after => .error (.limit reached) after

def atExpression : Reading Bool := do
  let token ← peek
  if token.kind.startsExpression then pure true
  else
    modify fun stream =>
      { stream with pending := some (stream.mismatchOf token Token.expressionLabels) }
    pure false

end TokenStream

end Lisplet
