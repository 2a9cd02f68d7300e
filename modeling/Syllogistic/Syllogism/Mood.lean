import Syllogistic.Fault
import Syllogistic.Text.Blank
import Syllogistic.Text.Casing

/-!
# Moods, modal readings and figures

The three choices a syllogism is made of. A mood letter says how much of the
subject a premise is about and whether it affirms or denies; a modal reading
says what is necessary, possible or accidental in it; the figure says where the
middle term stands. Each has a one-character sign, and the signs of moods and
readings overlap (`A` is in both alphabets), so a sign is read by its place.
-/

namespace Syllogistic

/-- The categorical mood of a premise. -/
inductive Mood where
  | A
  | E
  | I
  | O
  deriving DecidableEq, Hashable, Repr, Inhabited

namespace Mood

/-- All moods, in the order of enumeration. -/
def values : List Mood := [A, E, I, O]

def letter : Mood → Char
  | A => 'A'
  | E => 'E'
  | I => 'I'
  | O => 'O'

/-- The mood with a letter. -/
def ofLetter? (c : Char) : Option Mood :=
  values.find? (·.letter == c)

theorem ofLetter?_letter (mood : Mood) : ofLetter? mood.letter = some mood := by
  cases mood <;> rfl

/-- The text of a mood: its letter alone. -/
def name (mood : Mood) : String :=
  String.singleton mood.letter

/-- The mood that a text names: one character, its letter. -/
def ofName? (text : String) : Option Mood :=
  match text.toList with
  | [c] => ofLetter? c
  | _ => none

end Mood

/-- The modal reading of a premise. The readings with `QuodEst` are about the
things that fall under the subject as it stands, and have their modality on the
predicate alone. -/
inductive Modality where
  | plain
  | accidental
  | accidentalQuodEst
  | necessary
  | necessaryQuodEst
  | possible
  | possibleQuodEst
  deriving DecidableEq, Hashable, Repr, Inhabited

namespace Modality

/-- All readings, in the order of enumeration. -/
def values : List Modality :=
  [plain, accidental, accidentalQuodEst, necessary, necessaryQuodEst, possible, possibleQuodEst]

def name : Modality → String
  | plain => "non modal"
  | accidental => "accidentally"
  | accidentalQuodEst => "accidentally (quod est)"
  | necessary => "necessarily"
  | necessaryQuodEst => "necessarily (quod est)"
  | possible => "possibly"
  | possibleQuodEst => "possibly (quod est)"

def sign : Modality → Char
  | plain => '0'
  | accidental => 'a'
  | accidentalQuodEst => 'A'
  | necessary => 'n'
  | necessaryQuodEst => 'N'
  | possible => 'p'
  | possibleQuodEst => 'P'

/-- The reading with a sign. -/
def ofSign? (c : Char) : Option Modality :=
  values.find? (·.sign == c)

theorem ofSign?_sign (modality : Modality) : ofSign? modality.sign = some modality := by
  cases modality <;> rfl

/-- The reading that a text names, blanks at the ends aside: by its name in any
case, or by its sign in exactly that case. A sign counts only where the lower
case of the text is a single ASCII character. -/
def ofName? (text : String) : Option Modality :=
  let trimmed := String.ofList (Text.trim text.toList)
  let wanted := Text.lower trimmed
  values.find? fun modality =>
    modality.name == wanted ||
      (wanted.utf8ByteSize == 1 && String.singleton modality.sign == trimmed)

end Modality

/-- The place of the middle term in the two premises. -/
inductive Figure where
  | first
  | second
  | third
  | fourth
  deriving DecidableEq, Hashable, Repr, Inhabited

namespace Figure

/-- All figures, in the order of enumeration. -/
def values : List Figure := [first, second, third, fourth]

def number : Figure → Nat
  | first => 1
  | second => 2
  | third => 3
  | fourth => 4

/-- The digit of a figure's number. -/
def digit : Figure → Char
  | first => '1'
  | second => '2'
  | third => '3'
  | fourth => '4'

/-- The figure with a number. -/
def ofNumber? (n : Nat) : Option Figure :=
  values.find? (·.number == n)

/-- The figure with a digit. -/
def ofDigit? (c : Char) : Option Figure :=
  values.find? (·.digit == c)

theorem ofNumber?_number (figure : Figure) : ofNumber? figure.number = some figure := by
  cases figure <;> rfl

theorem ofDigit?_digit (figure : Figure) : ofDigit? figure.digit = some figure := by
  cases figure <;> rfl

end Figure

/-- Why a syllogism cannot be built from the names of its parts. -/
inductive NameError where
  | unknownFigure (number : Nat)
  | unknownMood (text : String)
  | unknownModality (text : String)
  deriving DecidableEq, Repr

def NameError.message : NameError → String
  | unknownFigure number => configurationFault ("unknown figure: " ++ toString number)
  | unknownMood text => configurationFault ("unknown mood letter: " ++ text)
  | unknownModality text => configurationFault ("unknown modal variant: " ++ text)

/-- Reads a mood by its name. -/
def Mood.parse (text : String) : Except NameError Mood :=
  match ofName? text with
  | some mood => .ok mood
  | none => .error (.unknownMood text)

/-- Reads a modal reading by its name or sign. -/
def Modality.parse (text : String) : Except NameError Modality :=
  match ofName? text with
  | some modality => .ok modality
  | none => .error (.unknownModality text)

/-- Reads a figure by its number. -/
def Figure.parse (number : Nat) : Except NameError Figure :=
  match ofNumber? number with
  | some figure => .ok figure
  | none => .error (.unknownFigure number)

end Syllogistic
