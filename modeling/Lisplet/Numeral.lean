import Lisplet.Limit
import Lisplet.Text.Blank

/-! Integers as text: digit runs and their values, the text of an integer, and the integer that a
text starts with. -/

set_option autoImplicit false

namespace Lisplet.Numeral

open Text (isBlank)

def digitValue (c : Char) : Nat :=
  if c.isDigit then c.toNat - '0'.toNat
  else if c.isLower then c.toNat - 'a'.toNat + 10
  else c.toNat - 'A'.toNat + 10

def isOctalDigit (c : Char) : Bool :=
  '0' ≤ c && c ≤ '7'

def isHexDigit (c : Char) : Bool :=
  c.isDigit || ('a' ≤ c && c ≤ 'f') || ('A' ≤ c && c ≤ 'F')

def value (base : Nat) (digits : List Char) : Nat :=
  digits.foldl (fun total digit => base * total + digitValue digit) 0

@[simp] theorem value_nil (base : Nat) : value base [] = 0 := rfl

theorem value_concat (base : Nat) (digits : List Char) (digit : Char) :
    value base (digits ++ [digit]) = base * value base digits + digitValue digit := by
  simp [value]

/-- The number that a run of decimal digits names, unless the run is too long. Zeros in front
count. -/
def ofDecimal (digits : List Char) : Except Limit Nat :=
  if digitLimit < digits.length then .error (.numeral digits.length)
  else .ok (value 10 digits)

def text (n : Int) : Except Limit String :=
  if Nat.pow 10 digitLimit ≤ n.natAbs then .error .integer
  else .ok n.repr

theorem text_of_lt {n : Int} (short : n.natAbs < Nat.pow 10 digitLimit) : text n = .ok n.repr :=
  if_neg (Nat.not_le_of_lt short)

theorem text_of_le {n : Int} (long : Nat.pow 10 digitLimit ≤ n.natAbs) :
    text n = .error .integer :=
  if_pos long

/-! ## Reading from the front of a text -/

/-- Passes the opening parentheses at the front, blanks before them and after them included, and
counts them. -/
def openings : Nat → List Char → Nat × List Char
  | depth, [] => (depth, [])
  | depth, c :: rest =>
    if isBlank c then openings depth rest
    else if c = '(' then openings (depth + 1) rest
    else (depth, c :: rest)

def closes : Nat → List Char → Bool
  | 0, _ => true
  | _ + 1, [] => false
  | depth + 1, c :: rest =>
    if isBlank c then closes (depth + 1) rest
    else c = ')' && closes depth rest

def sign : List Char → Bool × List Char
  | '-' :: rest => (true, rest.dropWhile isBlank)
  | text => (false, text)

def digitRun (base : Nat) (isDigit : Char → Bool) (text : List Char) : Option (Nat × List Char) :=
  match text.takeWhile isDigit with
  | [] => none
  | digits => some (value base digits, text.dropWhile isDigit)

def markedLiteral : List Char → Option (Nat × List Char)
  | '0' :: mark :: rest =>
    if mark = 'x' ∨ mark = 'X' then digitRun 16 isHexDigit rest
    else if mark = 'o' ∨ mark = 'O' then digitRun 8 isOctalDigit rest
    else none
  | _ => none

def startsWithDigit : List Char → Bool
  | c :: _ => c.isDigit
  | [] => false

/-- Whether what follows a run of decimal digits makes a fractional literal of it: a point and a
digit, or an exponent. -/
def isFractional : List Char → Bool
  | '.' :: rest => startsWithDigit rest
  | mark :: rest =>
    (mark = 'e' || mark = 'E') &&
      match rest with
      | '+' :: digits | '-' :: digits => startsWithDigit digits
      | digits => startsWithDigit digits
  | [] => false

def literal (text : List Char) : Except Limit (Option (Nat × List Char)) :=
  match markedLiteral text with
  | some found => .ok (some found)
  | none =>
    match text.takeWhile Char.isDigit, text.dropWhile Char.isDigit with
    | [], _ => .ok none
    | digits, rest =>
      if isFractional rest then .ok none
      else (ofDecimal digits).map fun n => some (n, rest)

/-- The integer that the text starts with, if it starts with one. Balanced parentheses around it
and blanks in front of it are passed over, and what follows it does not matter. -/
def readInteger (text : List Char) : Except Limit (Option Int) :=
  let (depth, inner) := openings 0 text
  let (negative, unsigned) := sign inner
  match literal unsigned with
  | .error limit => .error limit
  | .ok none => .ok none
  | .ok (some (n, rest)) =>
    .ok (if closes depth rest then some (if negative then -(n : Int) else n) else none)

end Lisplet.Numeral
