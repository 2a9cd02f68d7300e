import Mathlib.Data.Set.Basic
import Syllogistic.Syllogism.Mood

/-!
# Categorical premises about sets

Without modality a premise relates two sets. Denials of all and affirmations of some can be
read either way round, an affirmation of all says that there is something it is about, and the
opposed moods contradict each other. With that all syllogisms come from four, the moods of the
first figure that conclude with all that their premises give: the other figures turn a premise
round, conclude less than they might, or argue from the contradictory of the conclusion to
that of a premise.
-/

namespace Syllogistic

namespace Mood

variable {α : Type*} {s m p : Set α}

/-- What a mood says of the sets of its subject and its predicate. -/
def Relates (mood : Mood) (s p : Set α) : Prop :=
  match mood with
  | A => (∀ d ∈ s, d ∈ p) ∧ ∃ d, d ∈ s
  | E => ∀ d ∈ s, d ∉ p
  | I => ∃ d ∈ s, d ∈ p
  | O => (∃ d ∈ s, d ∉ p) ∨ ¬ ∃ d, d ∈ s

theorem relates_O_iff : O.Relates s p ↔ ¬ A.Relates s p := by
  rw [Relates, Relates, not_and_or, not_forall]
  simp only [Classical.not_imp]

/-- A set is read through a map onto the domain as it is read there. -/
theorem relates_preimage {β : Type*} {f : β → α} (hf : Function.Surjective f) (mood : Mood) :
    mood.Relates (Set.preimage f s) (Set.preimage f p) ↔ mood.Relates s p := by
  cases mood with
  | A =>
      rw [Relates, Relates, hf.forall, hf.exists]
      rfl
  | E =>
      rw [Relates, Relates, hf.forall]
      rfl
  | I =>
      rw [Relates, Relates, hf.exists]
      rfl
  | O =>
      rw [Relates, Relates, hf.exists, hf.exists]
      rfl

/-! ## Turning premises round -/

theorem E_symm (h : E.Relates s p) : E.Relates p s := fun d hp hs => h d hs hp

theorem I_symm (h : I.Relates s p) : I.Relates p s := by
  obtain ⟨d, hs, hp⟩ := h
  exact ⟨d, hp, hs⟩

theorem I_of_A (h : A.Relates s p) : I.Relates s p := by
  obtain ⟨hall, d, hs⟩ := h
  exact ⟨d, hs, hall d hs⟩

theorem O_of_E (h : E.Relates s p) : O.Relates s p := by
  by_cases hsome : ∃ d, d ∈ s
  · obtain ⟨d, hs⟩ := hsome
    exact .inl ⟨d, hs, h d hs⟩
  · exact .inr hsome

/-! ## The first figure -/

theorem barbara (hmajor : A.Relates m p) (hminor : A.Relates s m) : A.Relates s p :=
  ⟨fun d hs => hmajor.1 d (hminor.1 d hs), hminor.2⟩

theorem celarent (hmajor : E.Relates m p) (hminor : A.Relates s m) : E.Relates s p :=
  fun d hs => hmajor d (hminor.1 d hs)

theorem darii (hmajor : A.Relates m p) (hminor : I.Relates s m) : I.Relates s p := by
  obtain ⟨d, hs, hm⟩ := hminor
  exact ⟨d, hs, hmajor.1 d hm⟩

theorem ferio (hmajor : E.Relates m p) (hminor : I.Relates s m) : O.Relates s p := by
  obtain ⟨d, hs, hm⟩ := hminor
  exact .inl ⟨d, hs, hmajor d hm⟩

/-! ## From the contradictory of the conclusion -/

theorem baroco (hmajor : A.Relates p m) (hminor : O.Relates s m) : O.Relates s p :=
  relates_O_iff.mpr fun h => relates_O_iff.mp hminor (barbara hmajor h)

theorem bocardo (hmajor : O.Relates m p) (hminor : A.Relates m s) : O.Relates s p :=
  relates_O_iff.mpr fun h => relates_O_iff.mp hmajor (barbara h hminor)

end Mood

end Syllogistic
