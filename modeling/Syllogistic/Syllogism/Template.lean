import Syllogistic.Formula.Basic
import Syllogistic.Syllogism.Mood

/-!
# Premise templates

What a premise says, over the placeholders `F` for its subject and `G` for its
predicate. Universal affirmatives carry an existence conjunct and particular
negatives the matching disjunct, so opposed moods stay contradictory. Under the
accidental readings affirmation and denial coincide: that something may be and
may not be is the same said of its denial.
-/

namespace Syllogistic

namespace Template

/-- The placeholder for the subject of a premise. -/
def subject : String := "F"

/-- The placeholder for the predicate of a premise. -/
def object : String := "G"

def f : Formula := .predicate subject
def g : Formula := .predicate object

/-- The predicate holds possibly, and possibly not. -/
def contingent : Formula :=
  .and (.possibly g) (.possibly (.not g))

/-- Premises without modality. -/
def plain : Mood → Formula
  | .A => .and (.all (.implies f g)) (.exist f)
  | .E => .all (.implies f (.not g))
  | .I => .exist (.and f g)
  | .O => .or (.exist (.and f (.not g))) (.not (.exist f))

/-- Premises that say the contingency of the whole, in every or some world. -/
def accidental : Mood → Formula
  | .A | .E => .necessarily (.all (.implies f contingent))
  | .I | .O => .possibly (.exist (.and f contingent))

/-- Premises that say the contingency of the predicate of what is a subject here. -/
def accidentalQuodEst : Mood → Formula
  | .A | .E => .and (.all (.implies f contingent)) (.exist f)
  | .I | .O => .exist (.and f contingent)

/-- Premises as a whole under necessity or possibility, with a modality on the
predicate. -/
def deDicto (modality : Formula → Formula) : Mood → Formula
  | .A => .and (.necessarily (.all (.implies f (modality g)))) (.possibly (.exist f))
  | .E => .necessarily (.all (.implies f (modality (.not g))))
  | .I => .possibly (.exist (.and f (modality g)))
  | .O => .or (.possibly (.exist (.and f (modality (.not g))))) (.necessarily (.not (.exist f)))

/-- Premises about what is a subject here, with a modality on the predicate alone. -/
def quodEst (modality : Formula → Formula) : Mood → Formula
  | .A => .and (.all (.implies f (modality g))) (.exist f)
  | .E => .all (.implies f (modality (.not g)))
  | .I => .exist (.and f (modality g))
  | .O => .or (.exist (.and f (modality (.not g)))) (.necessarily (.not (.exist f)))

end Template

/-- The premise template of a modal reading and a mood. -/
def template : Modality → Mood → Formula
  | .plain => Template.plain
  | .accidental => Template.accidental
  | .accidentalQuodEst => Template.accidentalQuodEst
  | .necessary => Template.deDicto .necessarily
  | .necessaryQuodEst => Template.quodEst .necessarily
  | .possible => Template.deDicto .possibly
  | .possibleQuodEst => Template.quodEst .possibly

end Syllogistic
