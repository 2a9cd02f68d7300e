import Mathlib.Logic.Basic
import Syllogistic.Proofs.Semantics.Model

/-!
# The square of opposition

An affirmation and the denial of the other quantity contradict each other. Where a premise has
a modality, its contradictory has the other one: what is not necessary may be otherwise. The
readings that are about the whole keep this for all moods, since their existence conjunct and
disjunct are under the modality as well. A particular denial that is about what falls under
the subject as it stands says of the existence of the subject more than that there is none
here, so together with the affirmation it leaves something undecided; the two still exclude
each other wherever a world reaches itself.

An affirmation of all entails that of some, as long as it says that there is something to
speak of. The accidental reading of the whole is the one that does not.
-/

namespace Syllogistic

universe u v

/-- The reading that a contradictory premise has. -/
def Modality.dual : Modality → Modality
  | necessary => possible
  | possible => necessary
  | necessaryQuodEst => possibleQuodEst
  | possibleQuodEst => necessaryQuodEst
  | plain => plain
  | accidental => accidental
  | accidentalQuodEst => accidentalQuodEst

namespace Model

variable {World : Type u} {Domain : Type v} {m : Model World Domain} {w : World}
  {modality dual : Formula → Formula}

/-- What is denied of one modality the other one says of the denial. -/
structure Dual (m : Model World Domain) (modality dual : Formula → Formula) : Prop where
  dual_not : ∀ w x body, m.Satisfies w x (dual (.not body)) ↔ ¬ m.Satisfies w x (modality body)
  dual_iff : ∀ w x body, m.Satisfies w x (dual body) ↔ ¬ m.Satisfies w x (modality (.not body))

theorem dual_necessarily (m : Model World Domain) : m.Dual .necessarily .possibly := by
  constructor
  · intro w x body
    simp [Satisfies]
  · intro w x body
    simp [Satisfies]

theorem dual_possibly (m : Model World Domain) : m.Dual .possibly .necessarily := by
  constructor
  · intro w x body
    simp [Satisfies]
  · intro w x body
    simp [Satisfies]

/-! ## Contradictories -/

/-- Some `F` is this, if what is not that is this, and not every `F` is that. -/
theorem exist_and_iff {x : Option Domain} {f this that : Formula}
    (h : ∀ d, m.Satisfies w (some d) this ↔ ¬ m.Satisfies w (some d) that) :
    m.Satisfies w x (.exist (.and f this)) ↔ ¬ m.Satisfies w x (.all (.implies f that)) := by
  show (∃ d, m.Satisfies w (some d) f ∧ m.Satisfies w (some d) this) ↔
    ¬ ∀ d, m.Satisfies w (some d) f → m.Satisfies w (some d) that
  rw [not_forall]
  refine exists_congr fun d => ?_
  rw [Classical.not_imp, h d]

theorem plain_O_iff : m.Holds w (Template.plain .O) ↔ ¬ m.Holds w (Template.plain .A) :=
  (or_congr (exist_and_iff fun _ => Iff.rfl) Iff.rfl).trans not_and_or.symm

theorem plain_I_iff : m.Holds w (Template.plain .I) ↔ ¬ m.Holds w (Template.plain .E) :=
  exist_and_iff fun _ => not_not.symm

theorem deDicto_O_iff (h : m.Dual modality dual) :
    m.Holds w (Template.deDicto dual .O) ↔ ¬ m.Holds w (Template.deDicto modality .A) := by
  refine Iff.trans (or_congr ?_ ?_) not_and_or.symm
  · refine Iff.trans (exists_congr fun w' => ?_) not_forall.symm
    rw [Classical.not_imp, exist_and_iff fun d => h.dual_not w' (some d) Template.g]
  · exact (forall_congr' fun w' => not_and.symm).trans not_exists.symm

theorem deDicto_I_iff (h : m.Dual modality dual) :
    m.Holds w (Template.deDicto dual .I) ↔ ¬ m.Holds w (Template.deDicto modality .E) := by
  refine Iff.trans (exists_congr fun w' => ?_) not_forall.symm
  rw [Classical.not_imp, exist_and_iff fun d => h.dual_iff w' (some d) Template.g]

theorem quodEst_I_iff (h : m.Dual modality dual) :
    m.Holds w (Template.quodEst dual .I) ↔ ¬ m.Holds w (Template.quodEst modality .E) :=
  exist_and_iff fun d => h.dual_iff w (some d) Template.g

/-! ## Contraries -/

theorem quodEst_exclusive (h : m.Dual modality dual) (hrefl : m.reaches w w)
    (hA : m.Holds w (Template.quodEst modality .A)) : ¬ m.Holds w (Template.quodEst dual .O) := by
  obtain ⟨hall, hsome⟩ := hA
  rintro (⟨d, hf, hnot⟩ | hnone)
  · exact (h.dual_not w (some d) _).mp hnot (hall d hf)
  · exact hnone w hrefl hsome

/-- Everything is everything at one world, nothing is anything at the other, and both worlds
reach both. -/
def awayFrom : Model Bool Unit where
  reaches _ _ := True
  extent w _ := {_d | w = true}

theorem quodEst_undecided (modality dual : Formula → Formula) :
    ¬ awayFrom.Holds false (Template.quodEst modality .A) ∧
      ¬ awayFrom.Holds false (Template.quodEst dual .O) := by
  have hnone : ∀ d, ¬ awayFrom.Satisfies false (some d) Template.f := by
    intro d h
    cases satisfies_predicate.mp h
  constructor
  · rintro ⟨-, d, hf⟩
    exact hnone d hf
  · rintro (⟨d, hf, -⟩ | h)
    · exact hnone d hf
    · exact h true trivial ⟨(), satisfies_predicate.mpr rfl⟩

/-! ## Subalterns -/

theorem deDicto_subaltern (hA : m.Holds w (Template.deDicto modality .A)) :
    m.Holds w (Template.deDicto modality .I) := by
  obtain ⟨hall, w', hreach, d, hf⟩ := hA
  exact ⟨w', hreach, d, hf, hall w' hreach d hf⟩

theorem quodEst_subaltern (hA : m.Holds w (Template.quodEst modality .A)) :
    m.Holds w (Template.quodEst modality .I) := by
  obtain ⟨hall, d, hf⟩ := hA
  exact ⟨d, hf, hall d hf⟩

theorem subaltern {r : Modality} (hr : r ≠ .accidental) (hA : m.Holds w (template r .A)) :
    m.Holds w (template r .I) := by
  cases r with
  | accidental => exact absurd rfl hr
  | plain =>
      obtain ⟨hall, d, hf⟩ := hA
      exact ⟨d, hf, hall d hf⟩
  | accidentalQuodEst =>
      obtain ⟨hall, d, hf⟩ := hA
      exact ⟨d, hf, hall d hf⟩
  | necessary => exact deDicto_subaltern hA
  | possible => exact deDicto_subaltern hA
  | necessaryQuodEst => exact quodEst_subaltern hA
  | possibleQuodEst => exact quodEst_subaltern hA

/-- At a world at which nothing is anything, all of it is contingent. -/
def blank : Model Unit Unit where
  reaches _ _ := True
  extent _ _ := ∅

theorem accidental_not_subaltern :
    blank.Holds () (template .accidental .A) ∧ ¬ blank.Holds () (template .accidental .I) := by
  have hnone : ∀ w d, ¬ blank.Satisfies w (some d) Template.f := fun _ _ h =>
    satisfies_predicate.mp h
  constructor
  · intro w _ d hf
    exact absurd hf (hnone w d)
  · rintro ⟨w, -, d, hf, -⟩
    exact hnone w d hf

/-- What the templates say of each other. At every world a particular denial and the
affirmation of all contradict each other, and so do a particular affirmation and the denial of
all, with the modality turned into the other one; but a particular denial about what falls
under the subject here only excludes the affirmation, and that where the world reaches itself.
An affirmation of all entails that of some, except under the accidental reading of the whole.
The exceptions are seen in models in which all worlds are alike. -/
theorem square_of_opposition :
    (∀ (World : Type u) (Domain : Type v) (m : Model World Domain) (w : World),
      (∀ r ∈ [Modality.plain, .necessary, .possible],
        (m.Holds w (template r.dual .O) ↔ ¬ m.Holds w (template r .A))) ∧
      (∀ r ∈ [Modality.plain, .necessary, .possible, .necessaryQuodEst, .possibleQuodEst],
        (m.Holds w (template r.dual .I) ↔ ¬ m.Holds w (template r .E))) ∧
      (∀ r ∈ [Modality.necessaryQuodEst, .possibleQuodEst], m.reaches w w →
        ¬ (m.Holds w (template r .A) ∧ m.Holds w (template r.dual .O))) ∧
      ∀ r, r ≠ .accidental → m.Holds w (template r .A) → m.Holds w (template r .I)) ∧
    (∀ r ∈ [Modality.necessaryQuodEst, .possibleQuodEst],
      ∃ (m : Model Bool Unit) (w : Bool), Equivalence m.reaches ∧
        ¬ m.Holds w (template r .A) ∧ ¬ m.Holds w (template r.dual .O)) ∧
    ∃ (m : Model Unit Unit) (w : Unit), Equivalence m.reaches ∧
      m.Holds w (template .accidental .A) ∧ ¬ m.Holds w (template .accidental .I) := by
  have halike : ∀ {World : Type}, Equivalence fun _ _ : World => True :=
    ⟨fun _ => trivial, fun _ => trivial, fun _ _ => trivial⟩
  refine ⟨fun World Domain m w => ⟨?_, ?_, ?_, fun r => subaltern⟩, ?_,
    blank, (), halike, accidental_not_subaltern⟩
  · simp only [List.forall_mem_cons, List.not_mem_nil, false_imp_iff, implies_true, and_true]
    exact ⟨plain_O_iff, deDicto_O_iff m.dual_necessarily, deDicto_O_iff m.dual_possibly⟩
  · simp only [List.forall_mem_cons, List.not_mem_nil, false_imp_iff, implies_true, and_true]
    exact ⟨plain_I_iff, deDicto_I_iff m.dual_necessarily, deDicto_I_iff m.dual_possibly,
      quodEst_I_iff m.dual_necessarily, quodEst_I_iff m.dual_possibly⟩
  · simp only [List.forall_mem_cons, List.not_mem_nil, false_imp_iff, implies_true, and_true]
    exact ⟨fun hrefl h => quodEst_exclusive m.dual_necessarily hrefl h.1 h.2,
      fun hrefl h => quodEst_exclusive m.dual_possibly hrefl h.1 h.2⟩
  · simp only [List.forall_mem_cons, List.not_mem_nil, false_imp_iff, implies_true, and_true]
    exact ⟨⟨awayFrom, false, halike, quodEst_undecided _ _⟩,
      ⟨awayFrom, false, halike, quodEst_undecided _ _⟩⟩

end Model

end Syllogistic
