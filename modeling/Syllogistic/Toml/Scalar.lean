import Syllogistic.Toml.Value

/-!
# Strings, numbers and dates

The values without parts. A string is read to its closing quotes; everything
else is a run of characters that ends at the first one that no number, date or
word can hold, and the run is looked at as a whole.
-/

namespace Syllogistic.Toml

/-- A reader takes something off the front of a text. -/
abbrev Reader (α : Type) := List Char → Except Fault (α × List Char)

/-- Blanks inside a line. -/
def isSpace (c : Char) : Bool :=
  c == ' ' || c == '\t'

/-- What follows the blanks inside a line. -/
def skipSpace (s : List Char) : List Char :=
  s.dropWhile isSpace

/-- What follows one line break, if the text begins with one. -/
def afterBreak? : List Char → Option (List Char)
  | '\n' :: rest => some rest
  | '\r' :: '\n' :: rest => some rest
  | _ => none

/-- Characters that may stand in comments and strings as they are: all but the
controls, of which a tab is allowed. -/
def isPlain (c : Char) : Bool :=
  c == '\t' || (0x20 ≤ c.toNat && c.toNat ≠ 0x7F)

/-! ## Strings -/

/-- The value of a hexadecimal digit. -/
def hexValue? (c : Char) : Option Nat :=
  if '0' ≤ c ∧ c ≤ '9' then some (c.toNat - '0'.toNat)
  else if 'a' ≤ c ∧ c ≤ 'f' then some (c.toNat - 'a'.toNat + 10)
  else if 'A' ≤ c ∧ c ≤ 'F' then some (c.toNat - 'A'.toNat + 10)
  else none

/-- The number that hexadecimal digits spell. -/
def hexNumber? (digits : List Char) : Option Nat :=
  digits.foldl (fun n c => do return (← n) * 16 + (← hexValue? c)) (some 0)

/-- The character that hexadecimal digits name. -/
def hexChar? (digits : List Char) : Option Char :=
  match hexNumber? digits with
  | none => none
  | some n => if n.isValidChar then some (Char.ofNat n) else none

/-- The character that a backslash with this letter stands for. -/
def escaped? : Char → Option Char
  | 'b' => some '\x08'
  | 't' => some '\t'
  | 'n' => some '\n'
  | 'f' => some '\x0c'
  | 'r' => some '\r'
  | '"' => some '"'
  | '\\' => some '\\'
  | _ => none

/-- Reads a string in double quotes behind its opening quote. `done` holds what
is read, the last first. -/
def readBasic (done : List Char) : Reader String
  | [] => .error .malformed
  | '"' :: rest => .ok (String.ofList done.reverse, rest)
  | '\\' :: 'u' :: a :: b :: c :: d :: rest =>
    match hexChar? [a, b, c, d] with
    | some x => readBasic (x :: done) rest
    | none => .error .malformed
  | '\\' :: 'U' :: a :: b :: c :: d :: e :: f :: g :: h :: rest =>
    match hexChar? [a, b, c, d, e, f, g, h] with
    | some x => readBasic (x :: done) rest
    | none => .error .malformed
  | '\\' :: c :: rest =>
    match escaped? c with
    | some x => readBasic (x :: done) rest
    | none => .error .malformed
  | c :: rest => if isPlain c ∧ c ≠ '\\' then readBasic (c :: done) rest else .error .malformed

/-- Whether a line has nothing more on it than blanks. -/
def restIsBlank (s : List Char) : Bool :=
  (afterBreak? (skipSpace s)).isSome

/-- Reads a string in three double quotes behind the opening ones. `trimming` is
set behind a backslash that ended a line: blanks and line breaks are left out. Of
up to five closing quotes the first two belong to the string. -/
def readBasicLines (done : List Char) (trimming : Bool) : Reader String
  | [] => .error .malformed
  | '"' :: '"' :: '"' :: '"' :: '"' :: rest =>
    .ok (String.ofList ('"' :: '"' :: done).reverse, rest)
  | '"' :: '"' :: '"' :: '"' :: rest => .ok (String.ofList ('"' :: done).reverse, rest)
  | '"' :: '"' :: '"' :: rest => .ok (String.ofList done.reverse, rest)
  | '\r' :: '\n' :: rest =>
    readBasicLines (if trimming then done else '\n' :: done) trimming rest
  | '\\' :: 'u' :: a :: b :: c :: d :: rest =>
    match hexChar? [a, b, c, d] with
    | some x => readBasicLines (x :: done) false rest
    | none => .error .malformed
  | '\\' :: 'U' :: a :: b :: c :: d :: e :: f :: g :: h :: rest =>
    match hexChar? [a, b, c, d, e, f, g, h] with
    | some x => readBasicLines (x :: done) false rest
    | none => .error .malformed
  | '\\' :: c :: rest =>
    match escaped? c with
    | some x => readBasicLines (x :: done) false rest
    | none =>
      if restIsBlank (c :: rest) then readBasicLines done true (c :: rest) else .error .malformed
  | c :: rest =>
    if trimming ∧ (isSpace c ∨ c = '\n') then readBasicLines done true rest
    else if (isPlain c ∨ c = '\n') ∧ c ≠ '\\' then readBasicLines (c :: done) false rest
    else .error .malformed

/-- Reads a string in apostrophes behind the opening one; nothing is escaped. -/
def readLiteral (done : List Char) : Reader String
  | [] => .error .malformed
  | '\'' :: rest => .ok (String.ofList done.reverse, rest)
  | c :: rest => if isPlain c then readLiteral (c :: done) rest else .error .malformed

/-- Reads a string in three apostrophes behind the opening ones. -/
def readLiteralLines (done : List Char) : Reader String
  | [] => .error .malformed
  | '\'' :: '\'' :: '\'' :: '\'' :: '\'' :: rest =>
    .ok (String.ofList ('\'' :: '\'' :: done).reverse, rest)
  | '\'' :: '\'' :: '\'' :: '\'' :: rest => .ok (String.ofList ('\'' :: done).reverse, rest)
  | '\'' :: '\'' :: '\'' :: rest => .ok (String.ofList done.reverse, rest)
  | '\r' :: '\n' :: rest => readLiteralLines ('\n' :: done) rest
  | c :: rest =>
    if isPlain c ∨ c = '\n' then readLiteralLines (c :: done) rest else .error .malformed

/-- The text without a line break at its start. -/
def dropBreak (s : List Char) : List Char :=
  (afterBreak? s).getD s

/-- Reads a string of any of the four kinds. -/
def readString : Reader String
  | '"' :: '"' :: '"' :: rest => readBasicLines [] false (dropBreak rest)
  | '"' :: rest => readBasic [] rest
  | '\'' :: '\'' :: '\'' :: rest => readLiteralLines [] (dropBreak rest)
  | '\'' :: rest => readLiteral [] rest
  | _ => .error .malformed

/-! ## Numbers -/

/-- The digits of a number in which single underscores stand between digits. -/
def ungroup (isDigit : Char → Bool) : List Char → Option (List Char)
  | [] => none
  | [c] => if isDigit c then some [c] else none
  | c :: '_' :: rest => if isDigit c then (ungroup isDigit rest).map (c :: ·) else none
  | c :: rest => if isDigit c then (ungroup isDigit rest).map (c :: ·) else none

/-- The number that digits in a base spell. -/
def ofDigits (base : Nat) (digits : List Char) : Nat :=
  digits.foldl (fun n c => n * base + (hexValue? c).getD 0) 0

/-- A sign at the start of a number: whether it is a minus, and what follows. -/
def splitSign : List Char → Bool × List Char
  | '+' :: rest => (false, rest)
  | '-' :: rest => (true, rest)
  | s => (false, s)

/-- The digits of a whole decimal number: no zero before another digit. -/
def wholeDigits (s : List Char) : Option (List Char) :=
  match ungroup Char.isDigit s with
  | some ('0' :: _ :: _) => none
  | digits => digits

/-- A number between the bounds of 64 bits with a sign. -/
def bounded (n : Int) : Option Int :=
  if Int64.minValue.toInt ≤ n ∧ n ≤ Int64.maxValue.toInt then some n else none

/-- The integer that a run of characters spells. -/
def integer? : List Char → Option Int
  | '0' :: 'x' :: rest =>
    (ungroup (fun c => (hexValue? c).isSome) rest).bind fun digits => bounded (ofDigits 16 digits)
  | '0' :: 'o' :: rest =>
    (ungroup (fun c => '0' ≤ c && c ≤ '7') rest).bind fun digits => bounded (ofDigits 8 digits)
  | '0' :: 'b' :: rest =>
    (ungroup (fun c => c == '0' || c == '1') rest).bind fun digits => bounded (ofDigits 2 digits)
  | s =>
    let (negative, rest) := splitSign s
    (wholeDigits rest).bind fun digits =>
      bounded (if negative then -(ofDigits 10 digits : Int) else ofDigits 10 digits)

/-- Whether `mantissa * 10 ^ exponent` is too large for a double. -/
def overflows (mantissa : Nat) (exponent : Int) : Bool :=
  let limit := Nat.pow 2 1024 - Nat.pow 2 970
  let digits : Int := (Nat.toDigits 10 mantissa).length
  if mantissa = 0 then false
  else if 310 < digits + exponent then true
  else if digits + exponent < 300 then false
  else limit * Nat.pow 10 (-exponent).toNat ≤ mantissa * Nat.pow 10 exponent.toNat

/-- The power of ten behind the `e` of a number. -/
def exponent? (s : List Char) : Option Int :=
  let (negative, rest) := splitSign s
  (ungroup Char.isDigit rest).map fun digits =>
    if negative then -(ofDigits 10 digits : Int) else ofDigits 10 digits

/-- Whether a run of characters spells a number with a fraction or an exponent
that a double can hold. -/
def isReal (s : List Char) : Bool :=
  let (negative, body) := splitSign s
  if body = "inf".toList ∨ body = "nan".toList then true
  else
    let isMark (c : Char) : Bool := c == 'e' || c == 'E'
    let mantissa := body.takeWhile fun c => !isMark c
    let tail := body.dropWhile fun c => !isMark c
    let whole := mantissa.takeWhile (· ≠ '.')
    let fraction := mantissa.dropWhile (· ≠ '.')
    let fractionDigits : Option (List Char) :=
      match fraction with
      | [] => some []
      | _ :: digits => ungroup Char.isDigit digits
    let power : Option Int :=
      match tail with
      | [] => some 0
      | _ :: rest => exponent? rest
    match wholeDigits whole, fractionDigits, power with
    | some digits, some places, some power =>
      !(fraction.isEmpty && tail.isEmpty) &&
        (negative || !overflows (ofDigits 10 (digits ++ places)) (power - places.length))
    | _, _, _ => false

/-! ## Dates and times -/

/-- The number of two digits, if it is within bounds. -/
def twoDigits? (low high : Nat) (a b : Char) : Option Nat :=
  if a.isDigit ∧ b.isDigit then
    let n := (a.toNat - '0'.toNat) * 10 + (b.toNat - '0'.toNat)
    if low ≤ n ∧ n ≤ high then some n else none
  else none

/-- The number of days in a month. -/
def daysIn (year month : Nat) : Nat :=
  if month = 2 then
    if year % 4 = 0 ∧ (year % 100 ≠ 0 ∨ year % 400 = 0) then 29 else 28
  else if month ∈ [4, 6, 9, 11] then 30
  else 31

/-- Whether ten characters are a date. -/
def isDate : List Char → Bool
  | [a, b, c, d, '-', e, f, '-', g, h] =>
    match twoDigits? 0 99 a b, twoDigits? 0 99 c d, twoDigits? 1 12 e f with
    | some century, some year, some month =>
      (twoDigits? 1 (daysIn (century * 100 + year) month) g h).isSome
    | _, _, _ => false
  | _ => false

/-- Whether the rest of a time is an offset from universal time, or nothing. -/
def isOffset : List Char → Bool
  | [] | ['Z'] | ['z'] => true
  | [sign, a, b, ':', c, d] =>
    (sign == '+' || sign == '-') && (twoDigits? 0 23 a b).isSome && (twoDigits? 0 59 c d).isSome
  | _ => false

/-- What follows the fraction of a second, if there is none or one with digits. -/
def afterFraction? : List Char → Option (List Char)
  | '.' :: c :: rest => if c.isDigit then some (rest.dropWhile Char.isDigit) else none
  | ['.'] => none
  | s => some s

/-- What follows the time of day at the start of a text. -/
def afterTime? : List Char → Option (List Char)
  | a :: b :: ':' :: c :: d :: ':' :: e :: f :: rest =>
    match twoDigits? 0 23 a b, twoDigits? 0 59 c d, twoDigits? 0 60 e f with
    | some _, some _, some _ => afterFraction? rest
    | _, _, _ => none
  | _ => none

/-- Whether a run of characters is a time of day with or without an offset. -/
def isTimed (s : List Char) : Bool :=
  match afterTime? s with
  | some rest => isOffset rest
  | none => false

/-- Whether a run of characters is a date, a time of day, or both. -/
def isMoment (s : List Char) : Bool :=
  match s.drop 10 with
  | [] => isDate s || afterTime? s == some []
  | c :: rest =>
    ((c == 'T' || c == 't') && isDate (s.take 10) && isTimed rest) || afterTime? s == some []

/-! ## The rest -/

/-- Characters of numbers, dates and words. -/
def isRunChar (c : Char) : Bool :=
  c.isAlphanum || c == '_' || c == '+' || c == '-' || c == '.' || c == ':'

/-- The time of day behind a date and a blank, if there is one: the run that
spells it, and what follows. -/
def timeBehind? : List Char → Option (List Char × List Char)
  | ' ' :: a :: b :: ':' :: rest =>
    if a.isDigit ∧ b.isDigit then
      some (a :: b :: ':' :: rest.takeWhile isRunChar, rest.dropWhile isRunChar)
    else none
  | _ => none

/-- Reads a number, a date or a word. -/
def readRun (s : List Char) : Except Fault (Value × List Char) :=
  let run := s.takeWhile isRunChar
  let rest := s.dropWhile isRunChar
  if run = "true".toList then .ok (.boolean true, rest)
  else if run = "false".toList then .ok (.boolean false, rest)
  else if isDate run then
    match timeBehind? rest with
    | none => .ok (.moment, rest)
    | some (time, rest) => if isTimed time then .ok (.moment, rest) else .error .malformed
  else if isMoment run then .ok (.moment, rest)
  else
    match integer? run with
    | some n => .ok (.integer n, rest)
    | none => if isReal run then .ok (.real, rest) else .error .malformed

end Syllogistic.Toml
