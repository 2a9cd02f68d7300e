import Syllogistic.Formula.Rendering
import Syllogistic.Syllogism.Template

/-!
# Syllogisms

A construction is a figure with a mood and a modal reading for each of the two
premises and the conclusion. Building it puts the figure's terms into the three
templates and joins them to `(major ∧ minor) → conclusion`; the construction's
seven-character code goes with the formula.
-/

namespace Syllogistic

/-- Mood and modal reading of one premise. -/
structure Premise where
  mood : Mood
  modality : Modality
  deriving DecidableEq, Hashable, Repr, Inhabited

/-- How a syllogism is put together. -/
structure Construction where
  figure : Figure
  major : Premise
  minor : Premise
  conclusion : Premise
  deriving DecidableEq, Hashable, Repr, Inhabited

/-- A formula with the construction it came from and its code. -/
structure Syllogism where
  formula : Formula
  construction : Construction
  code : String
  deriving DecidableEq, Repr, Inhabited

/-- The terms that stand for subject and predicate in a premise. -/
structure Terms where
  subject : String
  object : String
  deriving DecidableEq, Repr

namespace Figure

/-- The middle term, which the conclusion does not mention. -/
def middle : String := "M"

/-- The subject of the conclusion. -/
def minorTerm : String := "S"

/-- The predicate of the conclusion. -/
def majorTerm : String := "P"

/-- The terms of the major premise. -/
def major : Figure → Terms
  | first | third => ⟨middle, majorTerm⟩
  | second | fourth => ⟨majorTerm, middle⟩

/-- The terms of the minor premise. -/
def minor : Figure → Terms
  | first | second => ⟨minorTerm, middle⟩
  | third | fourth => ⟨middle, minorTerm⟩

/-- The terms of the conclusion, the same in every figure. -/
def conclusion : Terms := ⟨minorTerm, majorTerm⟩

end Figure

namespace Premise

/-- The premise over given terms: the template with the subject's placeholder
renamed first and the predicate's second. -/
def onTerms (premise : Premise) (terms : Terms) : Formula :=
  ((template premise.modality premise.mood).rename Template.subject terms.subject).rename
    Template.object terms.object

/-- Mood letter and the name of the reading. -/
def describe (premise : Premise) : String :=
  premise.mood.name ++ "(" ++ premise.modality.name ++ ")"

/-- The two characters of the premise in a code. -/
def signs (premise : Premise) : List Char :=
  [premise.mood.letter, premise.modality.sign]

end Premise

namespace Construction

/-- The formula of a construction. -/
def formula (construction : Construction) : Formula :=
  .implies
    (.and (construction.major.onTerms construction.figure.major)
      (construction.minor.onTerms construction.figure.minor))
    (construction.conclusion.onTerms Figure.conclusion)

/-- The code of a construction: the figure's digit, then mood letter and sign of
the reading for each premise and the conclusion. -/
def code (construction : Construction) : String :=
  String.ofList (construction.figure.digit :: construction.major.signs ++
    construction.minor.signs ++ construction.conclusion.signs)

/-- The syllogism of a construction. -/
def build (construction : Construction) : Syllogism :=
  ⟨construction.formula, construction, construction.code⟩

/-- The construction in words, for instance
`E(necessarily) A(non modal) E(possibly) : figure: 2`. -/
def describe (construction : Construction) : String :=
  construction.major.describe ++ " " ++ construction.minor.describe ++ " " ++
    construction.conclusion.describe ++ " : figure: " ++ toString construction.figure.number

/-- Reads a construction by the names of its parts; of two unknown names the
first is reported. -/
def ofNames (figure : Nat) (majorMood majorModality minorMood minorModality conclusionMood
    conclusionModality : String) : Except NameError Construction := do
  let figure ← Figure.parse figure
  let majorMood ← Mood.parse majorMood
  let majorModality ← Modality.parse majorModality
  let minorMood ← Mood.parse minorMood
  let minorModality ← Modality.parse minorModality
  let conclusionMood ← Mood.parse conclusionMood
  let conclusionModality ← Modality.parse conclusionModality
  return ⟨figure, ⟨majorMood, majorModality⟩, ⟨minorMood, minorModality⟩,
    ⟨conclusionMood, conclusionModality⟩⟩

end Construction

/-- Code and readable formula, for instance `[1A0A0A0] (…)`. -/
def Syllogism.describe (syllogism : Syllogism) : String :=
  "[" ++ syllogism.code ++ "] " ++ syllogism.formula.unicode

end Syllogistic
