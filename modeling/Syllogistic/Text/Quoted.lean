import Syllogistic.Text.Casing
import Syllogistic.Text.Quoted.Table

/-!
# Quoted text

A text between double quotes for a description of a value: quotes, backslashes
and the common controls have short escapes, and a character that would not show
is given by its code point.
-/

namespace Syllogistic.Text

/-- Hexadecimal digits of a number, the most significant first. -/
def hexDigits (n : Nat) : List Char :=
  Nat.toDigits 16 n

/-- The form of a character inside a quoted text. -/
def quoteChar (c : Char) : List Char :=
  if c = '\x00' then ['\\', '0']
  else if c = '\t' then ['\\', 't']
  else if c = '\r' then ['\\', 'r']
  else if c = '\n' then ['\\', 'n']
  else if c = '"' then ['\\', '"']
  else if c = '\\' then ['\\', '\\']
  else if inRanges unprintedRanges c.toNat then
    ['\\', 'u', '{'] ++ hexDigits c.toNat ++ ['}']
  else [c]

/-- The text between double quotes. -/
def quoted (s : String) : String :=
  String.ofList ('"' :: s.toList.flatMap quoteChar ++ ['"'])

end Syllogistic.Text
