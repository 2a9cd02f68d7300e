import Syllogistic.Syllogism.Basic

/-!
# Reading syllogism codes

A code has seven characters, counted as characters and not as bytes. Its places
are read from left to right, so the error of a text of the right length is that
of its leftmost bad character, with the place it stands at.
-/

namespace Syllogistic

/-- Why a text is no syllogism code. -/
inductive CodeError where
  | length (count : Nat)
  | figure (found : Char)
  | mood (found : Char) (place : Nat)
  | modality (found : Char) (place : Nat)
  deriving DecidableEq, Repr

namespace CodeError

/-- A character between apostrophes. -/
def cited (c : Char) : String :=
  String.ofList ['\'', c, '\'']

def message : CodeError → String
  | length count => "syllogism UID must be 7 characters, got " ++ toString count
  | figure found => "invalid figure digit " ++ cited found ++ " (expected 1-4)"
  | mood found place =>
    "invalid mood letter " ++ cited found ++ " at position " ++ toString place ++
      " (expected A, E, I or O)"
  | modality found place =>
    "invalid modal code " ++ cited found ++ " at position " ++ toString place ++
      " (expected one of 0aAnNpP)"

end CodeError

/-- Reads the figure at the start of a code. -/
def Figure.ofCode (c : Char) : Except CodeError Figure :=
  match ofDigit? c with
  | some figure => .ok figure
  | none => .error (.figure c)

/-- Reads the premise whose mood letter stands at a place of a code and whose
sign stands next to it. -/
def Premise.ofCode (letter sign : Char) (place : Nat) : Except CodeError Premise :=
  match Mood.ofLetter? letter with
  | none => .error (.mood letter place)
  | some mood =>
    match Modality.ofSign? sign with
    | none => .error (.modality sign (place + 1))
    | some modality => .ok ⟨mood, modality⟩

/-- Reads a syllogism code. -/
def Construction.ofCode (code : String) : Except CodeError Construction :=
  match code.toList with
  | [digit, majorMood, majorSign, minorMood, minorSign, conclusionMood, conclusionSign] => do
    let figure ← Figure.ofCode digit
    let major ← Premise.ofCode majorMood majorSign 1
    let minor ← Premise.ofCode minorMood minorSign 3
    let conclusion ← Premise.ofCode conclusionMood conclusionSign 5
    return ⟨figure, major, minor, conclusion⟩
  | characters => .error (.length characters.length)

/-- Builds the syllogism with a code. -/
def Syllogism.ofCode (code : String) : Except CodeError Syllogism :=
  (Construction.ofCode code).map Construction.build

theorem Premise.ofCode_signs (premise : Premise) (place : Nat) :
    Premise.ofCode premise.mood.letter premise.modality.sign place = .ok premise := by
  simp [Premise.ofCode, Mood.ofLetter?_letter, Modality.ofSign?_sign]

theorem Construction.ofCode_code (construction : Construction) :
    Construction.ofCode construction.code = .ok construction := by
  obtain ⟨figure, major, minor, conclusion⟩ := construction
  simp [Construction.ofCode, Construction.code, Premise.signs, Premise.ofCode_signs,
    Figure.ofCode, Figure.ofDigit?_digit, bind, Except.bind, pure, Except.pure]

end Syllogistic
