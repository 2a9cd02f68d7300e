import Mathlib.Logic.Nontrivial.Basic
import Syllogistic.Proofs.Semantics.Categorical
import Syllogistic.Proofs.Semantics.Model
import Syllogistic.Proofs.Syllogism.Shape

/-!
# Which syllogisms without modality are valid

A structure has one world, and a premise without modality says of it what its mood says of the
extents of its two terms. So a syllogism is valid if its moods, in the order of terms that the
figure gives, hold of any three sets.

The moods that tradition counts come from the first figure. All others fail, and to see that
two individuals are enough: each of them has a counterexample among a few couples, and a
couple can be found in every domain with two individuals, by letting all others be like one of
them.
-/

namespace Syllogistic

universe u

/-- An extent for each name in one domain. -/
structure Structure (Domain : Type u) where
  extent : String → Set Domain

namespace Structure

variable {Domain : Type u}

/-- The structure as the only world of a model. -/
def model (s : Structure Domain) : Model Unit Domain where
  reaches _ _ := True
  extent _ := s.extent

/-- Whether a formula is true in a structure. -/
def Holds (s : Structure Domain) (formula : Formula) : Prop := s.model.Holds () formula

end Structure

/-- Whether a formula is true in every structure, whatever its variable stands for. -/
def Formula.Valid (formula : Formula) : Prop :=
  ∀ (Domain : Type u) (s : Structure Domain) (x : Option Domain), s.model.Satisfies () x formula

/-- The moods of major premise, minor premise and conclusion that tradition counts as
syllogisms. -/
def Figure.traditional : Figure → List (Mood × Mood × Mood)
  | first => [(.A, .A, .A), (.E, .A, .E), (.A, .I, .I), (.E, .I, .O), (.A, .A, .I), (.E, .A, .O)]
  | second => [(.E, .A, .E), (.A, .E, .E), (.E, .I, .O), (.A, .O, .O), (.E, .A, .O), (.A, .E, .O)]
  | third => [(.A, .A, .I), (.I, .A, .I), (.A, .I, .I), (.E, .A, .O), (.O, .A, .O), (.E, .I, .O)]
  | fourth => [(.A, .A, .I), (.A, .E, .E), (.I, .A, .I), (.E, .A, .O), (.E, .I, .O), (.A, .E, .O)]

/-! ## What a syllogism says of three extents -/

namespace Model

variable {World Domain : Type*} {m : Model World Domain} {w : World} {mood : Mood} {terms : Terms}

theorem holds_plain : m.Holds w (Template.plain mood) ↔
    mood.Relates (m.extent w Template.subject) (m.extent w Template.object) := by
  cases mood <;>
    simp only [Holds, Template.plain, Satisfies, Template.f, Template.g, Option.some.injEq,
      exists_eq_left', Mood.Relates]

theorem holds_plain_onTerms (h : terms.subject ≠ Template.object) :
    m.Holds w (Premise.onTerms ⟨mood, .plain⟩ terms) ↔
      mood.Relates (m.extent w terms.subject) (m.extent w terms.object) := by
  rw [holds_onTerms, template, holds_plain, extent_subject h, extent_object]

end Model

namespace Structure

variable {Domain : Type u} {figure : Figure} {major minor conclusion : Mood}

/-- Whether the conclusion of a figure follows from its premises about the extents of its
terms. -/
def Argues (s : Structure Domain) (figure : Figure) (major minor conclusion : Mood) : Prop :=
  major.Relates (s.extent figure.major.subject) (s.extent figure.major.object) →
    minor.Relates (s.extent figure.minor.subject) (s.extent figure.minor.object) →
      conclusion.Relates (s.extent Figure.minorTerm) (s.extent Figure.majorTerm)

theorem holds_plain (s : Structure Domain) :
    s.Holds (Construction.build
      ⟨figure, ⟨major, .plain⟩, ⟨minor, .plain⟩, ⟨conclusion, .plain⟩⟩).formula ↔
      s.Argues figure major minor conclusion := by
  obtain ⟨hmajor, hminor⟩ := figure.subject_ne_object
  have hconclusion : Figure.conclusion.subject ≠ Template.object := by decide
  refine Iff.trans (imp_congr (and_congr (Model.holds_plain_onTerms hmajor)
    (Model.holds_plain_onTerms hminor)) (Model.holds_plain_onTerms hconclusion)) ?_
  exact and_imp

end Structure

/-! ## The moods that follow -/

namespace Figure

open Mood

variable {α : Type*} {s m p : Set α} {a b c : Mood}

theorem follows_first (h : (a, b, c) ∈ first.traditional) (hmajor : a.Relates m p)
    (hminor : b.Relates s m) : c.Relates s p := by
  simp only [traditional, List.mem_cons, Prod.mk.injEq, List.not_mem_nil, or_false] at h
  rcases h with ⟨rfl, rfl, rfl⟩ | ⟨rfl, rfl, rfl⟩ | ⟨rfl, rfl, rfl⟩ | ⟨rfl, rfl, rfl⟩ |
    ⟨rfl, rfl, rfl⟩ | ⟨rfl, rfl, rfl⟩
  · exact barbara hmajor hminor
  · exact celarent hmajor hminor
  · exact darii hmajor hminor
  · exact ferio hmajor hminor
  · exact I_of_A (barbara hmajor hminor)
  · exact O_of_E (celarent hmajor hminor)

theorem follows_second (h : (a, b, c) ∈ second.traditional) (hmajor : a.Relates p m)
    (hminor : b.Relates s m) : c.Relates s p := by
  simp only [traditional, List.mem_cons, Prod.mk.injEq, List.not_mem_nil, or_false] at h
  rcases h with ⟨rfl, rfl, rfl⟩ | ⟨rfl, rfl, rfl⟩ | ⟨rfl, rfl, rfl⟩ | ⟨rfl, rfl, rfl⟩ |
    ⟨rfl, rfl, rfl⟩ | ⟨rfl, rfl, rfl⟩
  · exact celarent (E_symm hmajor) hminor
  · exact E_symm (celarent (E_symm hminor) hmajor)
  · exact ferio (E_symm hmajor) hminor
  · exact baroco hmajor hminor
  · exact O_of_E (celarent (E_symm hmajor) hminor)
  · exact O_of_E (E_symm (celarent (E_symm hminor) hmajor))

theorem follows_third (h : (a, b, c) ∈ third.traditional) (hmajor : a.Relates m p)
    (hminor : b.Relates m s) : c.Relates s p := by
  simp only [traditional, List.mem_cons, Prod.mk.injEq, List.not_mem_nil, or_false] at h
  rcases h with ⟨rfl, rfl, rfl⟩ | ⟨rfl, rfl, rfl⟩ | ⟨rfl, rfl, rfl⟩ | ⟨rfl, rfl, rfl⟩ |
    ⟨rfl, rfl, rfl⟩ | ⟨rfl, rfl, rfl⟩
  · exact darii hmajor (I_symm (I_of_A hminor))
  · exact I_symm (darii hminor (I_symm hmajor))
  · exact darii hmajor (I_symm hminor)
  · exact ferio hmajor (I_symm (I_of_A hminor))
  · exact bocardo hmajor hminor
  · exact ferio hmajor (I_symm hminor)

theorem follows_fourth (h : (a, b, c) ∈ fourth.traditional) (hmajor : a.Relates p m)
    (hminor : b.Relates m s) : c.Relates s p := by
  simp only [traditional, List.mem_cons, Prod.mk.injEq, List.not_mem_nil, or_false] at h
  rcases h with ⟨rfl, rfl, rfl⟩ | ⟨rfl, rfl, rfl⟩ | ⟨rfl, rfl, rfl⟩ | ⟨rfl, rfl, rfl⟩ |
    ⟨rfl, rfl, rfl⟩ | ⟨rfl, rfl, rfl⟩
  · exact I_symm (I_of_A (barbara hminor hmajor))
  · exact E_symm (celarent hminor hmajor)
  · exact I_symm (darii hminor hmajor)
  · exact ferio (E_symm hmajor) (I_symm (I_of_A hminor))
  · exact ferio (E_symm hmajor) (I_symm hminor)
  · exact O_of_E (E_symm (celarent hminor hmajor))

end Figure

namespace Structure

variable {Domain : Type u} {figure : Figure} {major minor conclusion : Mood}

theorem argues_of_traditional (s : Structure Domain)
    (h : (major, minor, conclusion) ∈ figure.traditional) :
    s.Argues figure major minor conclusion := by
  intro hmajor hminor
  cases figure with
  | first => exact Figure.follows_first h hmajor hminor
  | second => exact Figure.follows_second h hmajor hminor
  | third => exact Figure.follows_third h hmajor hminor
  | fourth => exact Figure.follows_fourth h hmajor hminor

/-! ## The moods that do not follow -/

/-- The structure in which an individual is what another one is. -/
def comap {Other : Type*} (s : Structure Other) (f : Domain → Other) : Structure Domain where
  extent name := Set.preimage f (s.extent name)

theorem argues_comap {Other : Type*} {s : Structure Other} {f : Domain → Other}
    (hf : Function.Surjective f) :
    (s.comap f).Argues figure major minor conclusion ↔
      s.Argues figure major minor conclusion :=
  imp_congr (Mood.relates_preimage hf major)
    (imp_congr (Mood.relates_preimage hf minor) (Mood.relates_preimage hf conclusion))

/-- Two individuals, each with the names that hold of it. -/
def couple (names : List String × List String) : Structure Bool where
  extent name := {b | name ∈ bif b then names.2 else names.1}

instance (names : List String × List String) (name : String) :
    DecidablePred (· ∈ (couple names).extent name) := fun b =>
  inferInstanceAs (Decidable (name ∈ bif b then names.2 else names.1))

instance (mood : Mood) (s p : Set Bool) [DecidablePred (· ∈ s)] [DecidablePred (· ∈ p)] :
    Decidable (mood.Relates s p) :=
  match mood with
  | .A => inferInstanceAs (Decidable ((∀ d ∈ s, d ∈ p) ∧ ∃ d, d ∈ s))
  | .E => inferInstanceAs (Decidable (∀ d ∈ s, d ∉ p))
  | .I => inferInstanceAs (Decidable (∃ d ∈ s, d ∈ p))
  | .O => inferInstanceAs (Decidable ((∃ d ∈ s, d ∉ p) ∨ ¬ ∃ d, d ∈ s))

instance (names : List String × List String) :
    Decidable ((couple names).Argues figure major minor conclusion) :=
  inferInstanceAs (Decidable (_ → _ → _))

/-- Couples among which every syllogism that is not traditional fails. -/
def couples : List (List String × List String) :=
  let s := Figure.minorTerm
  let m := Figure.middle
  let p := Figure.majorTerm
  [([], []), ([s, m], [s, m]), ([s, p], [s, p]), ([m, p], [m, p]), ([s, m, p], [s, m, p]),
    ([s, m], [s, p]), ([s, m], [m, p]), ([s, p], [m, p]),
    ([s, m, p], [s]), ([s, m, p], [m]), ([s, m, p], [p])]

/-- All combinations of figure and moods are gone through. -/
theorem exists_couple (h : (major, minor, conclusion) ∉ figure.traditional) :
    ∃ names ∈ couples, ¬ (couple names).Argues figure major minor conclusion := by
  have hall : ∀ figure ∈ Figure.values, ∀ major ∈ Mood.values, ∀ minor ∈ Mood.values,
      ∀ conclusion ∈ Mood.values, (major, minor, conclusion) ∉ figure.traditional →
        ∃ names ∈ couples, ¬ (couple names).Argues figure major minor conclusion := by
    decide +kernel
  have hmood : ∀ mood : Mood, mood ∈ Mood.values := by
    intro mood
    cases mood <;> decide
  have hfigure : figure ∈ Figure.values := by cases figure <;> decide
  exact hall figure hfigure major (hmood major) minor (hmood minor) conclusion
    (hmood conclusion) h

/-- A couple can be told apart in every domain with two individuals. -/
theorem exists_comap_couple (Domain : Type u) [Nontrivial Domain]
    (h : (major, minor, conclusion) ∉ figure.traditional) :
    ∃ s : Structure Domain, ¬ s.Argues figure major minor conclusion := by
  classical
  obtain ⟨names, -, hnot⟩ := exists_couple h
  obtain ⟨d, e, hne⟩ := exists_pair_ne Domain
  have hf : Function.Surjective fun x : Domain => decide (x = d) := by
    intro b
    cases b with
    | false => exact ⟨e, decide_eq_false hne.symm⟩
    | true => exact ⟨d, decide_eq_true rfl⟩
  exact ⟨(couple names).comap _, fun hargues => hnot ((argues_comap hf).mp hargues)⟩

end Structure

/-- The syllogisms without modality that are true in every structure are those that tradition
counts, and every other one is false in some structure on any domain with two individuals. -/
theorem valid_iff_traditional (figure : Figure) (major minor conclusion : Mood) :
    let formula := (Construction.build
      ⟨figure, ⟨major, .plain⟩, ⟨minor, .plain⟩, ⟨conclusion, .plain⟩⟩).formula
    (Formula.Valid.{u} formula ↔ (major, minor, conclusion) ∈ figure.traditional) ∧
      ((major, minor, conclusion) ∉ figure.traditional →
        ∀ (Domain : Type u) [Nontrivial Domain], ∃ s : Structure Domain, ¬ s.Holds formula) := by
  intro formula
  have hfalse : (major, minor, conclusion) ∉ figure.traditional →
      ∀ (Domain : Type u) [Nontrivial Domain], ∃ s : Structure Domain, ¬ s.Holds formula := by
    intro h Domain _
    obtain ⟨s, hs⟩ := Structure.exists_comap_couple Domain h
    exact ⟨s, fun hholds => hs (s.holds_plain.mp hholds)⟩
  refine ⟨⟨fun hvalid => ?_, fun h Domain s x => ?_⟩, hfalse⟩
  · by_contra h
    have htwo : Nontrivial (ULift.{u} Bool) := ⟨⟨.up false, .up true, nofun⟩⟩
    obtain ⟨s, hs⟩ := hfalse h (ULift.{u} Bool)
    exact hs (hvalid _ s none)
  · have hclosed : formula.closed = true := Construction.closed_formula _
    exact (Model.satisfies_iff_holds hclosed x).mpr
      (s.holds_plain.mpr (s.argues_of_traditional h))

example : (Figure.values.flatMap Figure.traditional).length = 24 := by decide

end Syllogistic
