import Lisplet.Mode
import Lisplet.Text.DecimalDigit
import Lisplet.Text.Quoted

/-! The arguments of a command line: flags, which may be shortened or joined, and one expression. -/

set_option autoImplicit false

namespace Lisplet.CommandLine

inductive Flag where
  | help
  | strict
  | lenient
  | verbose
  deriving DecidableEq, Repr

namespace Flag

def letter : Flag → Option Char
  | .help => some 'h'
  | .verbose => some 'v'
  | .strict | .lenient => none

def word : Flag → String
  | .help => "help"
  | .strict => "strict"
  | .lenient => "lenient"
  | .verbose => "verbose"

def all : List Flag :=
  [.help, .strict, .lenient, .verbose]

def ofLetter? (c : Char) : Option Flag :=
  all.find? (·.letter = some c)

def label (flag : Flag) : String :=
  match flag.letter with
  | some c => "-" ++ c.toString ++ "/--" ++ flag.word
  | none => "--" ++ flag.word

end Flag

inductive UsageError where
  | ambiguous (argument : String) (candidates : List Flag)
  | ignoredValue (flag : Flag) (value : String)
  | conflict (flag earlier : Flag)
  | missingExpression
  | unrecognized (arguments : List String)
  deriving DecidableEq, Repr

def UsageError.message : UsageError → String
  | .ambiguous argument candidates =>
    "ambiguous option: " ++ argument ++ " could match "
      ++ ", ".intercalate (candidates.map fun flag => "--" ++ flag.word)
  | .ignoredValue flag value =>
    "argument " ++ flag.label ++ ": ignored explicit argument " ++ Text.quoted value
  | .conflict flag earlier =>
    "argument " ++ flag.label ++ ": not allowed with argument " ++ earlier.label
  | .missingExpression => "the following arguments are required: expr"
  | .unrecognized arguments => "unrecognized arguments: " ++ " ".intercalate arguments

inductive Word where
  | operand (text : String)
  | short (flag : Flag) (joined : Option String)
  | long (flag : Flag) (value : Option String)
  | unknown (text : String)
  | divider
  deriving DecidableEq, Repr

/-- A negative number, whole or with a point: a minus sign, digits, and maybe a line break. -/
def isNegativeNumber (text : List Char) : Bool :=
  match text with
  | '-' :: unsigned =>
    let body := if unsigned.getLast? = some '\n' then unsigned.dropLast else unsigned
    let whole := body.takeWhile Text.isDecimalDigit
    match body.dropWhile Text.isDecimalDigit with
    | [] => !whole.isEmpty
    | '.' :: fraction => !fraction.isEmpty && fraction.all Text.isDecimalDigit
    | _ => false
  | _ => false

def splitValue (text : List Char) : List Char × Option String :=
  match text.dropWhile (· ≠ '=') with
  | [] => (text, none)
  | _ :: value => (text.takeWhile (· ≠ '='), some (String.ofList value))

def unflagged (argument : String) : Word :=
  if isNegativeNumber argument.toList || argument.contains ' ' then .operand argument
  else .unknown argument

/-- What an argument is taken for that stands before any divider. A long flag may be cut short as
long as one flag only starts so. -/
def classify (argument : String) : Except UsageError Word :=
  match argument.toList with
  | ['-'] => .ok (.operand argument)
  | ['-', '-'] => .ok .divider
  | '-' :: '-' :: body =>
    let (name, value) := splitValue body
    match Flag.all.filter fun flag => name.isPrefixOf flag.word.toList with
    | [flag] => .ok (.long flag value)
    | [] => .ok (unflagged argument)
    | candidates => .error (.ambiguous argument candidates)
  | '-' :: c :: rest =>
    match Flag.ofLetter? c with
    | some flag =>
      match rest with
      | [] => .ok (.short flag none)
      | '=' :: value => .ok (.short flag (some (String.ofList value)))
      | joined => .ok (.short flag (some (String.ofList joined)))
    | none => .ok (unflagged argument)
  | _ => .ok (.operand argument)

def classifyAll : List String → Except UsageError (List Word)
  | [] => .ok []
  | argument :: rest => do
    match ← classify argument with
    | .divider => .ok (.divider :: rest.map .operand)
    | word =>
      let words ← classifyAll rest
      .ok (word :: words)

/-- The flags of a joined group. The characters behind a single-dash flag are further such flags. -/
def joinedFlags (flag : Flag) : List Char → Except UsageError (List Flag)
  | [] => .ok [flag]
  | c :: rest =>
    match Flag.ofLetter? c with
    | some next => do
      let others ← joinedFlags next rest
      .ok (flag :: others)
    | none => .error (.ignoredValue flag (String.ofList (c :: rest)))

structure Request where
  expression : Option String
  mode : Option Mode
  verbose : Bool
  /-- Arguments that have no meaning, last one first. -/
  extras : List String
  deriving DecidableEq, Repr

namespace Request

def empty : Request := ⟨none, none, false, []⟩

def choose (request : Request) (mode : Mode) (flag other : Flag) : Except UsageError Request :=
  match request.mode with
  | none => .ok { request with mode := some mode }
  | some chosen => if chosen = mode then .ok request else .error (.conflict flag other)

end Request

inductive Invocation where
  | help
  | run (expression : String) (mode : Option Mode) (verbose : Bool)
  deriving DecidableEq, Repr

def actOn (request : Request) : List Flag → Except UsageError (Option Request)
  | [] => .ok (some request)
  | .help :: _ => .ok none
  | .verbose :: rest => actOn { request with verbose := true } rest
  | .strict :: rest => do actOn (← request.choose .strict .strict .lenient) rest
  | .lenient :: rest => do actOn (← request.choose .lenient .lenient .strict) rest

def finish (request : Request) : Except UsageError Invocation :=
  match request.expression, request.extras with
  | none, _ => .error .missingExpression
  | some expression, [] => .ok (.run expression request.mode request.verbose)
  | some _, extras => .error (.unrecognized extras.reverse)

/-- Acts on the words from left to right. The first operand is the expression, and a divider
next to it goes with it. -/
def interpret (request : Request) : List Word → Except UsageError Invocation
  | [] => finish request
  | .operand text :: .divider :: rest =>
    match request.expression with
    | none => interpret { request with expression := some text } rest
    | some _ => interpret { request with extras := "--" :: text :: request.extras } rest
  | .operand text :: rest =>
    match request.expression with
    | none => interpret { request with expression := some text } rest
    | some _ => interpret { request with extras := text :: request.extras } rest
  | .divider :: .operand text :: rest =>
    match request.expression with
    | none => interpret { request with expression := some text } rest
    | some _ => interpret { request with extras := text :: "--" :: request.extras } rest
  | .divider :: rest => interpret { request with extras := "--" :: request.extras } rest
  | .unknown text :: rest => interpret { request with extras := text :: request.extras } rest
  | .short flag joined :: rest => do
    let flags ←
      match joined with
      | none => .ok [flag]
      | some "" => .error (.ignoredValue flag "")
      | some text => joinedFlags flag text.toList
    match ← actOn request flags with
    | some request => interpret request rest
    | none => .ok .help
  | .long flag (some value) :: _ => .error (.ignoredValue flag value)
  | .long flag none :: rest => do
    match ← actOn request [flag] with
    | some request => interpret request rest
    | none => .ok .help

def parseArguments (arguments : List String) : Except UsageError Invocation := do
  interpret .empty (← classifyAll arguments)

end Lisplet.CommandLine
