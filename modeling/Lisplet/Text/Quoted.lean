import Lisplet.Text.Printable

/-! Quoted text: printable characters stand for themselves, the others are written as escapes. -/

set_option autoImplicit false

namespace Lisplet.Text

def hexadecimal (width n : Nat) : List Char :=
  (Nat.toDigits 16 n).leftpad width '0'

def numericEscape (code : Nat) : List Char :=
  if code < 0x100 then '\\' :: 'x' :: hexadecimal 2 code
  else if code < 0x10000 then '\\' :: 'u' :: hexadecimal 4 code
  else '\\' :: 'U' :: hexadecimal 8 code

def escapeChar (quote c : Char) : List Char :=
  if c = quote ∨ c = '\\' then ['\\', c]
  else if c = '\n' then ['\\', 'n']
  else if c = '\r' then ['\\', 'r']
  else if c = '\t' then ['\\', 't']
  else if isPrintable c then [c]
  else numericEscape c.toNat

def quotedWith (quote : Char) (text : List Char) : String :=
  String.ofList (quote :: text.flatMap (escapeChar quote) ++ [quote])

/-- Single quotes, or double ones around a text with single quotes and no double ones. -/
def quoted (text : String) : String :=
  let chars := text.toList
  quotedWith (if chars.contains '\'' && !chars.contains '"' then '"' else '\'') chars

def shownChar (c : Char) : String :=
  quotedWith '"' [c]

end Lisplet.Text
