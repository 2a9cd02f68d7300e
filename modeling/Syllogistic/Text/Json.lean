/-!
# Writing JSON

Objects whose fields are texts, numbers or lists of texts, one field a line. A
text is written between quotes; quotes, backslashes and the control characters
below the blank are escaped, by a letter where JSON has one and else by their
number, and every other character stands for itself.
-/

namespace Syllogistic.Text.Json

/-- A digit of a number in base sixteen, in lower case. -/
def hexDigit (n : Nat) : Char :=
  if n < 10 then Char.ofNat ('0'.toNat + n) else Char.ofNat ('a'.toNat + (n - 10))

/-- A character inside quotes. -/
def escaped (c : Char) : List Char :=
  if c = '"' then ['\\', '"']
  else if c = '\\' then ['\\', '\\']
  else if c = '\x08' then ['\\', 'b']
  else if c = '\x0c' then ['\\', 'f']
  else if c = '\n' then ['\\', 'n']
  else if c = '\r' then ['\\', 'r']
  else if c = '\t' then ['\\', 't']
  else if c.toNat < 32 then
    ['\\', 'u', '0', '0', hexDigit (c.toNat / 16), hexDigit (c.toNat % 16)]
  else [c]

/-- A text between quotes. -/
def quote (s : String) : String :=
  String.ofList ('"' :: s.toList.flatMap escaped ++ ['"'])

/-- What a field holds. -/
inductive Value where
  | text (content : String)
  | number (n : Nat)
  | texts (contents : List String)
  deriving DecidableEq, Repr

/-- Texts on lines of their own with a comma after all but the last. -/
def commaLines (margin : String) (texts : List String) : String :=
  ",\n".intercalate (texts.map (margin ++ ·))

/-- The written form of what a field holds. -/
def Value.write : Value → String
  | text content => quote content
  | number n => toString n
  | texts [] => "[]"
  | texts contents => "[\n" ++ commaLines "    " (contents.map quote) ++ "\n  ]"

/-- The written form of an object. -/
def object (fields : List (String × Value)) : String :=
  String.singleton '{' ++ "\n" ++
    commaLines "  " (fields.map fun (name, value) => quote name ++ ": " ++ value.write) ++ "\n" ++
    String.singleton '}'

end Syllogistic.Text.Json
