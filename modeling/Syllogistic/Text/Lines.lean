/-!
# Lines and tokens

A text is cut into lines at each line feed; a line feed takes one carriage
return before it along, and a last line that is empty does not count. A line is
cut into tokens at each single space, so two spaces in a row have an empty token
between them.
-/

namespace Syllogistic.Text

/-- The pieces between the occurrences of a separator; there is always one. -/
def splitAtEach (separator : Char) : List Char → List (List Char)
  | [] => [[]]
  | c :: rest =>
    if c = separator then [] :: splitAtEach separator rest
    else
      match splitAtEach separator rest with
      | [] => [[c]]
      | piece :: pieces => (c :: piece) :: pieces

/-- The tokens of a line: its pieces between single spaces. -/
def tokens (line : List Char) : List (List Char) :=
  splitAtEach ' ' line

/-- The line without one carriage return at its end. -/
def dropReturn (line : List Char) : List Char :=
  if line.getLast? = some '\r' then line.dropLast else line

/-- Lines from the pieces between line feeds: all but the last piece were ended
by one. -/
def endLines : List (List Char) → List (List Char)
  | [] => []
  | [last] => if last.isEmpty then [] else [last]
  | piece :: rest => dropReturn piece :: endLines rest

/-- The lines of a text. -/
def lines (s : List Char) : List (List Char) :=
  endLines (splitAtEach '\n' s)

/-- The texts with one character between each two. -/
def joinWith (separator : Char) : List (List Char) → List Char
  | [] => []
  | [piece] => piece
  | piece :: rest => piece ++ separator :: joinWith separator rest

theorem splitAtEach_ne_nil (separator : Char) (s : List Char) :
    splitAtEach separator s ≠ [] := by
  cases s with
  | nil => simp [splitAtEach]
  | cons c rest =>
    rw [splitAtEach]
    split
    · simp
    · split <;> simp

theorem joinWith_splitAtEach (separator : Char) (s : List Char) :
    joinWith separator (splitAtEach separator s) = s := by
  induction s with
  | nil => rfl
  | cons c rest ih =>
    rw [splitAtEach]
    split
    next h =>
      cases hp : splitAtEach separator rest with
      | nil => exact absurd hp (splitAtEach_ne_nil separator rest)
      | cons piece pieces =>
        rw [hp] at ih
        simp [joinWith, ih, h]
    next h =>
      cases hp : splitAtEach separator rest with
      | nil => exact absurd hp (splitAtEach_ne_nil separator rest)
      | cons piece pieces =>
        rw [hp] at ih
        cases pieces with
        | nil => simpa [joinWith] using ih
        | cons next others => simpa [joinWith] using ih

end Syllogistic.Text
