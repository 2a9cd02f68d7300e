import Mathlib.Data.Set.Basic
import Syllogistic.Syllogism.Basic

/-!
# What formulas say

A formula is read at a world of a model. The worlds share one domain of individuals, a name
holds of other individuals in other worlds, and what is necessary or possible is what holds in
all or some of the worlds that are reached. A quantifier binds the one variable, so what the
variable stood for before does not matter below it. Outside of all quantifiers it need not
stand for anything; that way a formula can be read also where there are no individuals at all,
and for the formulas of syllogisms it makes no difference.

Renaming is a change of the model: the renamed formula says of a model what the formula says
of the model in which each name has the extent of its new name. So what a premise says of its
terms is what its template says of the placeholders.
-/

namespace Syllogistic

universe u v

/-- Worlds that reach each other, and in each of them an extent for each name. -/
structure Model (World : Type u) (Domain : Type v) where
  reaches : World → World → Prop
  extent : World → String → Set Domain

namespace Model

variable {World : Type u} {Domain : Type v}

/-- Whether a formula holds at a world of what the variable stands for. -/
def Satisfies (m : Model World Domain) : World → Option Domain → Formula → Prop
  | w, x, .predicate name => ∃ d, x = some d ∧ d ∈ m.extent w name
  | w, x, .not body => ¬ m.Satisfies w x body
  | w, x, .and left right => m.Satisfies w x left ∧ m.Satisfies w x right
  | w, x, .or left right => m.Satisfies w x left ∨ m.Satisfies w x right
  | w, x, .implies left right => m.Satisfies w x left → m.Satisfies w x right
  | w, x, .necessarily body => ∀ w', m.reaches w w' → m.Satisfies w' x body
  | w, x, .possibly body => ∃ w', m.reaches w w' ∧ m.Satisfies w' x body
  | w, _, .exist body => ∃ d, m.Satisfies w (some d) body
  | w, _, .all body => ∀ d, m.Satisfies w (some d) body

/-- Whether a formula holds at a world, if its variable stands for nothing by itself. -/
def Holds (m : Model World Domain) (w : World) (formula : Formula) : Prop :=
  m.Satisfies w none formula

/-- The model in which a name has the extent of another name. -/
def comap (m : Model World Domain) (f : String → String) : Model World Domain where
  reaches := m.reaches
  extent w name := m.extent w (f name)

variable {m : Model World Domain} {w : World} {x : Option Domain} {d : Domain}

theorem satisfies_predicate {name : String} :
    m.Satisfies w (some d) (.predicate name) ↔ d ∈ m.extent w name := by
  constructor
  · rintro ⟨_, heq, h⟩
    cases heq
    exact h
  · intro h
    exact ⟨d, rfl, h⟩

theorem satisfies_mapNames {f : String → String} {formula : Formula} :
    m.Satisfies w x (formula.mapNames f) ↔ (m.comap f).Satisfies w x formula := by
  induction formula generalizing w x with
  | predicate name => exact Iff.rfl
  | not body ih => exact not_congr ih
  | and left right ihl ihr => exact and_congr ihl ihr
  | or left right ihl ihr => exact or_congr ihl ihr
  | implies left right ihl ihr => exact imp_congr ihl ihr
  | necessarily body ih => exact forall_congr' fun _ => imp_congr Iff.rfl ih
  | possibly body ih => exact exists_congr fun _ => and_congr Iff.rfl ih
  | exist body ih => exact exists_congr fun _ => ih
  | all body ih => exact forall_congr' fun _ => ih

end Model

/-! ## Closed formulas -/

namespace Formula

/-- Whether every leaf stands below a quantifier. -/
def closed : Formula → Bool
  | predicate _ => false
  | not body | necessarily body | possibly body => body.closed
  | and left right | or left right | implies left right => left.closed && right.closed
  | exist _ | all _ => true

theorem closed_mapNames {f : String → String} {formula : Formula} :
    (formula.mapNames f).closed = formula.closed := by
  induction formula <;> simp_all [mapNames, closed]

end Formula

theorem Construction.closed_formula (c : Construction) : c.formula.closed = true := by
  have hpremise : ∀ (premise : Premise) (terms : Terms),
      (premise.onTerms terms).closed = true := by
    intro premise terms
    obtain ⟨mood, modality⟩ := premise
    rw [Premise.onTerms, Formula.rename, Formula.rename, Formula.closed_mapNames,
      Formula.closed_mapNames]
    cases modality <;> cases mood <;> rfl
  simp [formula, Formula.closed, hpremise]

namespace Model

variable {World : Type u} {Domain : Type v} {m : Model World Domain} {w : World}

/-- What the variable stands for outside of a closed formula does not matter. -/
theorem satisfies_iff_holds {formula : Formula} (hclosed : formula.closed = true)
    (x : Option Domain) : m.Satisfies w x formula ↔ m.Holds w formula := by
  induction formula generalizing w with
  | predicate name => cases hclosed
  | not body ih => exact not_congr (ih hclosed)
  | and left right ihl ihr =>
      obtain ⟨hl, hr⟩ := Bool.and_eq_true_iff.mp hclosed
      exact and_congr (ihl hl) (ihr hr)
  | or left right ihl ihr =>
      obtain ⟨hl, hr⟩ := Bool.and_eq_true_iff.mp hclosed
      exact or_congr (ihl hl) (ihr hr)
  | implies left right ihl ihr =>
      obtain ⟨hl, hr⟩ := Bool.and_eq_true_iff.mp hclosed
      exact imp_congr (ihl hl) (ihr hr)
  | necessarily body ih => exact forall_congr' fun _ => imp_congr Iff.rfl (ih hclosed)
  | possibly body ih => exact exists_congr fun _ => and_congr Iff.rfl (ih hclosed)
  | exist body => exact Iff.rfl
  | all body => exact Iff.rfl

/-! ## Premises -/

/-- The model in which the placeholders have the extents of two terms. -/
def onTerms (m : Model World Domain) (terms : Terms) : Model World Domain :=
  (m.comap fun name => if name = Template.object then terms.object else name).comap
    fun name => if name = Template.subject then terms.subject else name

theorem holds_onTerms {premise : Premise} {terms : Terms} :
    m.Holds w (premise.onTerms terms) ↔
      (m.onTerms terms).Holds w (template premise.modality premise.mood) :=
  satisfies_mapNames.trans satisfies_mapNames

variable {terms : Terms}

theorem extent_subject (h : terms.subject ≠ Template.object) :
    (m.onTerms terms).extent w Template.subject = m.extent w terms.subject := by
  simp [onTerms, comap, h]

theorem extent_object : (m.onTerms terms).extent w Template.object = m.extent w terms.object := by
  have hne : Template.object ≠ Template.subject := by decide
  simp [onTerms, comap, hne]

end Model

end Syllogistic
