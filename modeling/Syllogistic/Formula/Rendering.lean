import Syllogistic.Formula.Basic
import Syllogistic.Text.Casing

/-!
# Three written forms of a formula

The readable form with logical signs, the clause form that the connection and
tableau engines read, and the typed form with `$box` and `$dia`. They differ in
signs, blanks and letter case alone: every binary connective is bracketed in all
three, so the tree can be read back from each of them up to the case of names.
-/

namespace Syllogistic.Formula

/-- The readable form, for instance `(∀x(Mx→Px)∧∃xMx)`. -/
def unicode : Formula → String
  | predicate name => Text.upper name ++ "x"
  | not body => "¬" ++ body.unicode
  | and left right => "(" ++ left.unicode ++ "∧" ++ right.unicode ++ ")"
  | or left right => "(" ++ left.unicode ++ "∨" ++ right.unicode ++ ")"
  | implies left right => "(" ++ left.unicode ++ "→" ++ right.unicode ++ ")"
  | necessarily body => "□" ++ body.unicode
  | possibly body => "◇" ++ body.unicode
  | exist body => "∃x" ++ body.unicode
  | all body => "∀x" ++ body.unicode

/-- The clause form of the leanCoP and leanTAP family. -/
def prolog : Formula → String
  | predicate name => Text.lower name ++ "(X)"
  | not body => "(~ " ++ body.prolog ++ ")"
  | and left right => "(" ++ left.prolog ++ " , " ++ right.prolog ++ ")"
  | or left right => "(" ++ left.prolog ++ " ; " ++ right.prolog ++ ")"
  | implies left right => "(" ++ left.prolog ++ " => " ++ right.prolog ++ ")"
  | necessarily body => "(# " ++ body.prolog ++ ")"
  | possibly body => "(* " ++ body.prolog ++ ")"
  | exist body => "(ex X: " ++ body.prolog ++ ")"
  | all body => "(all X: " ++ body.prolog ++ ")"

/-- The typed higher-order form with the modal constants of THF. -/
def thf : Formula → String
  | predicate name => "(" ++ Text.lower name ++ " @ X)"
  | not body => "(~ " ++ body.thf ++ ")"
  | and left right => "( " ++ left.thf ++ " & " ++ right.thf ++ " )"
  | or left right => "( " ++ left.thf ++ " | " ++ right.thf ++ " )"
  | implies left right => "( " ++ left.thf ++ " => " ++ right.thf ++ " )"
  | necessarily body => "( $box @ " ++ body.thf ++ " )"
  | possibly body => "( $dia @ " ++ body.thf ++ " )"
  | exist body => "( ? [X: $i] : " ++ body.thf ++ " )"
  | all body => "( ! [X: $i] : " ++ body.thf ++ " )"

end Syllogistic.Formula
