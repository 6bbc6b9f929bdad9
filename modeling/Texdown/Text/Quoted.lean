import Texdown.Text.Basic
import Texdown.Text.Printable

/-!
# Quoted texts

Messages show a text between quotes. Single quotes are used unless the text holds a single quote
and no double quote. The quote in use and the backslash are escaped, line feed, carriage return and
tab have short escapes, and every other unprintable character is written by its code point.
-/
namespace Texdown.Text

/-- The code point of a character, in the shortest of the three hexadecimal escapes. -/
def hexEscape (c : Char) : Text :=
  let n := c.toNat
  if n < 0x100 then '\\' :: 'x' :: hex 2 n
  else if n < 0x10000 then '\\' :: 'u' :: hex 4 n
  else '\\' :: 'U' :: hex 8 n

/-- One character between quotes of the given kind. -/
def quoteChar (mark c : Char) : Text :=
  if c = mark ∨ c = '\\' then ['\\', c]
  else if c = '\n' then ['\\', 'n']
  else if c = '\r' then ['\\', 'r']
  else if c = '\t' then ['\\', 't']
  else if isPrintable c then [c]
  else hexEscape c

def quoteMark (t : Text) : Char := if '\'' ∈ t ∧ '"' ∉ t then '"' else '\''

def quoted (t : Text) : Text :=
  let mark := quoteMark t
  mark :: t.flatMap (quoteChar mark) ++ [mark]

/-- A text that may be missing. -/
def quotedOr (absent : Text) : Option Text → Text
  | none => absent
  | some t => quoted t

def quotedList (ts : List Text) : Text :=
  '[' :: List.intercalate [',', ' '] (ts.map quoted) ++ [']']

def quotedTuple (ts : List Text) : Text :=
  '(' :: List.intercalate [',', ' '] (ts.map quoted) ++ (if ts.length = 1 then [',', ')'] else [')'])

end Texdown.Text
