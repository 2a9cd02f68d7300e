import Syllogistic.Syllogism.Basic

/-!
# When two constructions have one formula

Renaming leaves the shape of a template alone, and the first two leaves of every
template are its two placeholders. So the formula of a premise gives away the
template it came from, up to what templates have in common, and the terms that
were put in: no exchange of the two terms can make one template look like
another. The terms of the two premises give away the figure in turn.

What templates have in common is little. Under the accidental readings a denial
is the affirmation of the same quantity, word for word, and otherwise no two
templates have the same shape.
-/

namespace Syllogistic

/-- Whether a mood is about all of its subject. -/
def Mood.universal : Mood → Bool
  | A | E => true
  | I | O => false

def Mood.denies : Mood → Bool
  | E | O => true
  | A | I => false

/-- The affirmative mood of the same quantity. -/
def Mood.affirmed : Mood → Mood
  | A | E => A
  | I | O => I

/-- Whether affirmation and denial coincide under a reading. -/
def Modality.indifferent : Modality → Bool
  | accidental | accidentalQuodEst => true
  | plain | necessary | necessaryQuodEst | possible | possibleQuodEst => false

namespace Premise

/-- The premise with its denial turned into an affirmation, where that makes no
difference. -/
def affirmed (premise : Premise) : Premise :=
  if premise.modality.indifferent then ⟨premise.mood.affirmed, premise.modality⟩ else premise

/-- Whether the premise denies where it might as well affirm. -/
def redundant (premise : Premise) : Bool :=
  premise.modality.indifferent && premise.mood.denies

/-- The same reading, and the same mood as far as the reading tells moods apart. -/
def Agrees (p q : Premise) : Prop :=
  p.modality = q.modality ∧
    if p.modality.indifferent then p.mood.universal = q.mood.universal else p.mood = q.mood

def values : List Premise :=
  Modality.values.flatMap fun modality => Mood.values.map fun mood => ⟨mood, modality⟩

theorem mem_values (premise : Premise) : premise ∈ values := by
  obtain ⟨mood, modality⟩ := premise
  cases modality <;> cases mood <;> decide

theorem affirmed_eq_iff {p q : Premise} : p.affirmed = q.affirmed ↔ p.Agrees q := by
  obtain ⟨mood, modality⟩ := p
  obtain ⟨mood', modality'⟩ := q
  have hmoods : ∀ m m' : Mood, m.affirmed = m'.affirmed ↔ m.universal = m'.universal := by
    intro m m'
    cases m <;> cases m' <;> decide
  simp only [affirmed, Agrees]
  constructor
  · intro h
    split at h <;> split at h <;> simp_all
  · rintro ⟨rfl, h⟩
    split <;> simp_all

theorem affirmed_eq_self_iff {premise : Premise} :
    premise.affirmed = premise ↔ premise.redundant = false := by
  obtain ⟨mood, modality⟩ := premise
  cases modality <;> cases mood <;> decide

end Premise

/-! ## Shapes and leaves -/

namespace Formula

/-- The formula with all its names taken away. -/
def shape : Formula → Formula := mapNames fun _ => ""

theorem mapNames_mapNames (f g : String → String) (formula : Formula) :
    (formula.mapNames f).mapNames g = formula.mapNames (g ∘ f) := by
  induction formula <;> simp_all [mapNames]

theorem shape_mapNames (f : String → String) (formula : Formula) :
    (formula.mapNames f).shape = formula.shape := mapNames_mapNames f _ formula

end Formula

namespace Premise

theorem template_affirmed (premise : Premise) :
    template premise.affirmed.modality premise.affirmed.mood =
      template premise.modality premise.mood := by
  obtain ⟨mood, modality⟩ := premise
  cases modality <;> cases mood <;> rfl

/-- Templates are told apart by their shapes: all pairs of them are compared. -/
theorem affirmed_of_shape {p q : Premise}
    (h : (template p.modality p.mood).shape = (template q.modality q.mood).shape) :
    p.affirmed = q.affirmed := by
  have hall : ∀ p ∈ values, ∀ q ∈ values,
      (template p.modality p.mood).shape = (template q.modality q.mood).shape →
        p.affirmed = q.affirmed := by decide +kernel
  exact hall p (mem_values p) q (mem_values q) h

theorem leaves_template (premise : Premise) :
    (template premise.modality premise.mood).leaves.take 2 =
      [Template.subject, Template.object] := by
  obtain ⟨mood, modality⟩ := premise
  cases modality <;> cases mood <;> rfl

section OnTerms

variable {p q : Premise} {terms terms' : Terms}

theorem shape_onTerms : (p.onTerms terms).shape = (template p.modality p.mood).shape := by
  rw [onTerms, Formula.rename, Formula.rename, Formula.shape_mapNames, Formula.shape_mapNames]

/-- The first two leaves are the terms, unless the term put in for the subject is
taken for the other placeholder. -/
theorem leaves_onTerms (h : terms.subject ≠ Template.object) :
    (p.onTerms terms).leaves.take 2 = [terms.subject, terms.object] := by
  have hobject : Template.object ≠ Template.subject := by decide
  rw [onTerms, Formula.rename, Formula.rename, Formula.leaves_mapNames, Formula.leaves_mapNames,
    ← List.map_take, ← List.map_take, leaves_template]
  simp [h, hobject]

theorem onTerms_affirmed : p.affirmed.onTerms terms = p.onTerms terms := by
  rw [onTerms, onTerms, template_affirmed]

theorem onTerms_eq_iff (h : terms.subject ≠ Template.object)
    (h' : terms'.subject ≠ Template.object) :
    p.onTerms terms = q.onTerms terms' ↔ terms = terms' ∧ p.affirmed = q.affirmed := by
  constructor
  · intro heq
    have hleaves := congrArg (fun formula => formula.leaves.take 2) heq
    have hshape := congrArg Formula.shape heq
    simp only [leaves_onTerms h, leaves_onTerms h', List.cons.injEq, and_true] at hleaves
    rw [shape_onTerms, shape_onTerms] at hshape
    refine ⟨?_, affirmed_of_shape hshape⟩
    cases terms
    cases terms'
    simp_all
  · rintro ⟨rfl, haffirmed⟩
    rw [← onTerms_affirmed, haffirmed, onTerms_affirmed]

end OnTerms

end Premise

/-! ## Constructions -/

namespace Figure

theorem subject_ne_object (figure : Figure) :
    figure.major.subject ≠ Template.object ∧ figure.minor.subject ≠ Template.object := by
  cases figure <;> decide

theorem eq_of_terms {f f' : Figure} (hmajor : f.major = f'.major) (hminor : f.minor = f'.minor) :
    f = f' := by
  cases f <;> cases f' <;> revert hmajor hminor <;> decide

end Figure

namespace Construction

/-- All three premises with their denials turned into affirmations, where that makes
no difference. -/
def affirmed (c : Construction) : Construction :=
  ⟨c.figure, c.major.affirmed, c.minor.affirmed, c.conclusion.affirmed⟩

/-- Whether a premise or the conclusion denies where it might as well affirm. -/
def redundant (c : Construction) : Bool :=
  c.major.redundant || c.minor.redundant || c.conclusion.redundant

/-- The same figure and premises that agree. -/
def Agrees (c d : Construction) : Prop :=
  c.figure = d.figure ∧ c.major.Agrees d.major ∧ c.minor.Agrees d.minor ∧
    c.conclusion.Agrees d.conclusion

variable {c d : Construction}

theorem affirmed_eq_iff : c.affirmed = d.affirmed ↔ c.Agrees d := by
  simp only [affirmed, Agrees, Construction.mk.injEq, Premise.affirmed_eq_iff]

theorem affirmed_eq_self_iff : c.affirmed = c ↔ c.redundant = false := by
  obtain ⟨figure, major, minor, conclusion⟩ := c
  simp [affirmed, redundant, Premise.affirmed_eq_self_iff, and_assoc]

theorem formula_affirmed (c : Construction) : c.affirmed.formula = c.formula := by
  simp only [formula, affirmed, Premise.onTerms_affirmed]

theorem formula_eq_iff : c.formula = d.formula ↔ c.affirmed = d.affirmed := by
  constructor
  · intro h
    simp only [formula, Formula.implies.injEq, Formula.and.injEq] at h
    obtain ⟨⟨hmajor, hminor⟩, hconclusion⟩ := h
    obtain ⟨hterms, hmajor⟩ := (Premise.onTerms_eq_iff c.figure.subject_ne_object.1
      d.figure.subject_ne_object.1).mp hmajor
    obtain ⟨hterms', hminor⟩ := (Premise.onTerms_eq_iff c.figure.subject_ne_object.2
      d.figure.subject_ne_object.2).mp hminor
    have hnames : Figure.conclusion.subject ≠ Template.object := by decide
    obtain ⟨-, hconclusion⟩ := (Premise.onTerms_eq_iff hnames hnames).mp hconclusion
    rw [affirmed, affirmed, Figure.eq_of_terms hterms hterms', hmajor, hminor, hconclusion]
  · intro h
    rw [← formula_affirmed c, h, formula_affirmed d]

end Construction

end Syllogistic
