import Cubing.Text.Printable

/-!
# Quoted text

A quoted text stands between single quotes, or between double quotes if it
holds a single quote and no double quote. Inside, the enclosing quote and the
backslash are escaped, line feed, carriage return and tab have letters of their
own, and every other character that is not printable is given by its code point
in hexadecimal.
-/
namespace Cubing.Text

/-- The last `width` hexadecimal digits of a number. -/
def hexDigits (width : Nat) (code : Nat) : List Char :=
  let digits := Nat.toDigits 16 code
  List.replicate (width - digits.length) '0' ++ digits

def singleQuote : Char := Char.ofNat 39

def doubleQuote : Char := Char.ofNat 34

def backslash : Char := Char.ofNat 92

/-- A character that does not stand for itself, by its code point. -/
def escapeCode (code : Nat) : List Char :=
  if code < 0x100 then [backslash, 'x'] ++ hexDigits 2 code
  else if code < 0x10000 then [backslash, 'u'] ++ hexDigits 4 code
  else [backslash, 'U'] ++ hexDigits 8 code

/-- How a character is written between quotes of the given kind. -/
def escapeChar (mark : Char) (c : Char) : List Char :=
  if c = mark ∨ c = backslash then [backslash, c]
  else if c = '\n' then [backslash, 'n']
  else if c = '\r' then [backslash, 'r']
  else if c = '\t' then [backslash, 't']
  else if isPrintable c then [c]
  else escapeCode c.toNat

/-- The quotes that enclose a text. -/
def quoteMark (text : List Char) : Char :=
  if singleQuote ∈ text ∧ doubleQuote ∉ text then doubleQuote else singleQuote

def quoteChars (text : List Char) : List Char :=
  let mark := quoteMark text
  mark :: text.flatMap (escapeChar mark) ++ [mark]

def quote (text : String) : String := String.ofList (quoteChars text.toList)

end Cubing.Text
