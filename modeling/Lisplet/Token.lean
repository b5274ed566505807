import Lisplet.Text.Blank
import Lisplet.Text.Letter
import Lisplet.Text.Quoted

/-! Tokens. Every text is a row of tokens: each one is as long as its kind allows, and a character
that starts no other token is a token of unknown kind. -/

set_option autoImplicit false

namespace Lisplet

open Text (isBlank isLetter shownChar)

def symbolChars : List Char :=
  ['!', '#', '$', '%', '&', '|', '*', '+', '-', '/', ':', '<', '=', '>', '?', '@', '^', '_', '~']

def isSymbol (c : Char) : Bool :=
  symbolChars.contains c

def isAtomStart (c : Char) : Bool :=
  isLetter c || isSymbol c

def isAtomChar (c : Char) : Bool :=
  isAtomStart c || c.isDigit

inductive Token.Kind where
  | space
  | atom
  | string
  /-- A double quote that no later one closes, and the rest of the text. -/
  | unterminated
  | number
  | quote
  | opening
  | closing
  | dot
  | unknown
  | eof
  deriving DecidableEq, Repr

structure Token where
  kind : Token.Kind
  text : List Char
  pos : Nat
  deriving DecidableEq, Repr

namespace Token

namespace Kind

def labels : Kind → List String
  | .space => ["space"]
  | .atom => ["letter", "symbol"]
  | .string => [shownChar '"']
  | .number => ["digit"]
  | .quote => [shownChar '\'']
  | .opening => [shownChar '(']
  | .closing => [shownChar ')']
  | .dot => [shownChar '.']
  | .unterminated | .unknown | .eof => []

def startsExpression : Kind → Bool
  | .atom | .string | .unterminated | .number | .quote | .opening => true
  | .space | .closing | .dot | .unknown | .eof => false

/-- The kind of a token that is one character, no letter, digit or blank. -/
def ofPunctuation (c : Char) : Kind :=
  if c = '\'' then .quote
  else if c = '(' then .opening
  else if c = ')' then .closing
  else if c = '.' then .dot
  else .unknown

end Kind

def expressionLabels : List String :=
  [Kind.atom, .string, .number, .quote, .opening].flatMap Kind.labels

def runOf (kind : Kind) (belongs : Char → Bool) (first : Char) (rest : List Char) :
    Kind × List Char × List Char :=
  (kind, first :: rest.takeWhile belongs, rest.dropWhile belongs)

/-- A string up to the next double quote, its opening one being read already, and the rest. -/
def stringOf (rest : List Char) : Kind × List Char × List Char :=
  match rest.dropWhile (· != '"') with
  | [] => (.unterminated, '"' :: rest, [])
  | last :: after => (.string, '"' :: rest.takeWhile (· != '"') ++ [last], after)

def lexeme? : List Char → Option (Kind × List Char × List Char)
  | [] => none
  | c :: rest => some <|
    if isBlank c then runOf .space isBlank c rest
    else if isAtomStart c then runOf .atom isAtomChar c rest
    else if c = '"' then stringOf rest
    else if c.isDigit then runOf .number Char.isDigit c rest
    else (.ofPunctuation c, [c], rest)

theorem lexeme?_append {text lexeme rest : List Char} {kind : Kind}
    (found : lexeme? text = some (kind, lexeme, rest)) : lexeme ++ rest = text := by
  cases text with
  | nil => simp [lexeme?] at found
  | cons c tail =>
    simp only [lexeme?, Option.some.injEq] at found
    split at found
    · simp only [runOf, Prod.mk.injEq] at found
      obtain ⟨_, rfl, rfl⟩ := found
      simp
    split at found
    · simp only [runOf, Prod.mk.injEq] at found
      obtain ⟨_, rfl, rfl⟩ := found
      simp
    split at found
    case isTrue quote =>
      have whole := List.takeWhile_append_dropWhile (p := (· != '"')) (l := tail)
      unfold stringOf at found
      split at found
      · cases found
        simp [quote]
      case h_2 last after cut =>
        cases found
        rw [cut] at whole
        rw [quote, List.cons_append, List.cons_append, List.append_assoc]
        exact congrArg (List.cons '"') whole
    split at found
    · simp only [runOf, Prod.mk.injEq] at found
      obtain ⟨_, rfl, rfl⟩ := found
      simp
    · cases found
      rfl

theorem lexeme?_ne_nil {text lexeme rest : List Char} {kind : Kind}
    (found : lexeme? text = some (kind, lexeme, rest)) : lexeme ≠ [] := by
  rintro rfl
  cases text with
  | nil => simp [lexeme?] at found
  | cons c tail =>
    simp only [lexeme?, Option.some.injEq] at found
    unfold runOf stringOf at found
    repeat' split at found
    all_goals simp at found

def next? (pos : Nat) (text : List Char) : Option (Token × List Char) :=
  (lexeme? text).map fun (kind, lexeme, rest) => (⟨kind, lexeme, pos⟩, rest)

theorem next?_append {pos : Nat} {text rest : List Char} {token : Token}
    (found : next? pos text = some (token, rest)) : token.text ++ rest = text := by
  simp only [next?, Option.map_eq_some_iff] at found
  obtain ⟨⟨kind, lexeme, after⟩, seen, same⟩ := found
  cases same
  exact lexeme?_append seen

theorem next?_text_ne_nil {pos : Nat} {text rest : List Char} {token : Token}
    (found : next? pos text = some (token, rest)) : token.text ≠ [] := by
  simp only [next?, Option.map_eq_some_iff] at found
  obtain ⟨⟨kind, lexeme, after⟩, seen, same⟩ := found
  cases same
  exact lexeme?_ne_nil seen

theorem length_rest_lt {pos : Nat} {text rest : List Char} {token : Token}
    (found : next? pos text = some (token, rest)) : rest.length < text.length := by
  have whole := congrArg List.length (next?_append found)
  have nonempty := List.length_pos_iff.mpr (next?_text_ne_nil found)
  simp only [List.length_append] at whole
  omega

def allFrom (pos : Nat) (text : List Char) : List Token :=
  match _found : next? pos text with
  | none => []
  | some (token, rest) => token :: allFrom (pos + token.text.length) rest
termination_by text.length
decreasing_by exact length_rest_lt _found

def all (text : List Char) : List Token :=
  allFrom 0 text

end Token

end Lisplet
