import Mathlib.Data.List.FinRange
import Syllogistic.Proofs.Consensus.Decision

/-!
# A record weighs the votes

Verdict and flag of a record depend on the results only through the two counts. So the order
of the results does not matter, and a result that leaves the question open might as well not
be there.

With positive thresholds neither side is preferred, although one of them is looked at first:
whoever has reached a threshold has a vote, and then the other side has none or there is a
contradiction. For the same reason more results can confirm a conclusive verdict or contradict
it, but not turn it round.
-/

namespace Syllogistic

/-- The verdict of the other side. -/
def Verdict.swapped : Verdict → Verdict
  | proved => refuted
  | refuted => proved
  | unknown => unknown

theorem Verdict.swapped_eq_iff {v w : Verdict} : v.swapped = w ↔ v = w.swapped := by
  cases v <;> cases w <;> decide

/-- The result with its verdict turned into that of the other side. -/
def EngineResult.swapped (result : EngineResult) : EngineResult :=
  { result with verdict := result.verdict.swapped }

/-- The two thresholds exchanged. -/
def Policy.swapped (policy : Policy) : Policy := ⟨policy.refuted, policy.proved⟩

/-- Whether two records come to the same, whoever has voted. -/
structure Record.Agrees (record other : Record) : Prop where
  verdict : record.verdict = other.verdict
  contradiction : record.contradiction = other.contradiction

namespace Policy

/-! ## Counts that grow and counts that are exchanged -/

section Decide

variable {policy : Policy} {proved refuted proved' refuted' : Nat}

theorem decide_swapped (hproved : 1 ≤ policy.proved) (hrefuted : 1 ≤ policy.refuted) :
    policy.swapped.decide refuted proved =
      ((policy.decide proved refuted).1.swapped, (policy.decide proved refuted).2) := by
  rw [decide, decide, swapped]
  by_cases hboth : 0 < proved ∧ 0 < refuted
  · rw [if_pos hboth, if_pos hboth.symm]
    rfl
  · rw [if_neg hboth, if_neg fun h => hboth h.symm]
    by_cases hp : policy.proved ≤ proved
    · have hr : ¬ policy.refuted ≤ refuted := by omega
      rw [if_neg hr, if_pos hp, if_pos hp]
      rfl
    · rw [if_neg hp, if_neg hp]
      by_cases hr : policy.refuted ≤ refuted
      · rw [if_pos hr, if_pos hr]
        rfl
      · rw [if_neg hr, if_neg hr]
        rfl

theorem decide_proved_of_le (hproved : 1 ≤ policy.proved)
    (h : (policy.decide proved refuted).1 = .proved) (hle : proved ≤ proved') :
    policy.decide proved' refuted' = (.proved, false) ∨
      policy.decide proved' refuted' = (.unknown, true) := by
  obtain ⟨hreached, -⟩ := (decide_proved_iff hproved).mp h
  rw [decide]
  by_cases hrefuted : 0 < refuted'
  · exact .inr (if_pos ⟨by omega, hrefuted⟩)
  · rw [if_neg fun hboth => hrefuted hboth.2, if_pos (Nat.le_trans hreached hle)]
    exact .inl rfl

theorem decide_refuted_of_le (hproved : 1 ≤ policy.proved) (hrefuted : 1 ≤ policy.refuted)
    (h : (policy.decide proved refuted).1 = .refuted) (hle : refuted ≤ refuted') :
    policy.decide proved' refuted' = (.refuted, false) ∨
      policy.decide proved' refuted' = (.unknown, true) := by
  -- The two sides are exchanged, and exchanged back.
  have hswapped : (policy.swapped.decide refuted proved).1 = .proved := by
    rw [decide_swapped hproved hrefuted, h]
    rfl
  have hmore : policy.swapped.decide refuted' proved' = (.proved, false) ∨
      policy.swapped.decide refuted' proved' = (.unknown, true) :=
    decide_proved_of_le hrefuted hswapped hle
  rw [decide_swapped hproved hrefuted, Prod.mk.injEq, Prod.mk.injEq, Verdict.swapped_eq_iff,
    Verdict.swapped_eq_iff] at hmore
  exact hmore.imp (fun h => Prod.ext h.1 h.2) (fun h => Prod.ext h.1 h.2)

theorem decide_contradiction_of_le (h : (policy.decide proved refuted).2 = true)
    (hproved : proved ≤ proved') (hrefuted : refuted ≤ refuted') :
    (policy.decide proved' refuted').2 = true := by
  obtain ⟨hp, hr⟩ := decide_contradiction_iff.mp h
  exact decide_contradiction_iff.mpr ⟨Nat.lt_of_lt_of_le hp hproved, Nat.lt_of_lt_of_le hr hrefuted⟩

end Decide

section Results

variable {policy : Policy} {syllogism : Syllogism} {results results' : List EngineResult}
  {verdict : Verdict}

theorem count_filter_conclusive (hconclusive : verdict.conclusive = true) :
    count verdict (results.filter (·.verdict.conclusive)) = count verdict results := by
  rw [count, count, List.countP_filter]
  refine List.countP_congr fun result _ => ?_
  simp only [Bool.and_eq_true, decide_eq_true_eq, and_iff_left_iff_imp]
  rintro rfl
  exact hconclusive

theorem count_map_swapped :
    count verdict (results.map (·.swapped)) = count verdict.swapped results := by
  rw [count, count, List.countP_map]
  refine List.countP_congr fun result _ => ?_
  simpa [EngineResult.swapped] using Verdict.swapped_eq_iff

theorem recordOf_agrees (hproved : count .proved results' = count .proved results)
    (hrefuted : count .refuted results' = count .refuted results) :
    (policy.recordOf syllogism results').Agrees (policy.recordOf syllogism results) := by
  constructor
  · rw [recordOf, recordOf, hproved, hrefuted]
  · rw [recordOf, recordOf, hproved, hrefuted]

theorem recordOf_swapped (hproved : 1 ≤ policy.proved) (hrefuted : 1 ≤ policy.refuted) :
    (policy.swapped.recordOf syllogism (results.map (·.swapped))).verdict =
        (policy.recordOf syllogism results).verdict.swapped ∧
      (policy.swapped.recordOf syllogism (results.map (·.swapped))).contradiction =
        (policy.recordOf syllogism results).contradiction := by
  rw [recordOf, recordOf, count_map_swapped, count_map_swapped, Verdict.swapped, Verdict.swapped,
    decide_swapped hproved hrefuted]
  exact ⟨rfl, rfl⟩

theorem exists_agreeing (hresults : results' ≠ [])
    (hformula : ∀ result ∈ results', result.formula = syllogism.formula)
    (hproved : count .proved results' = count .proved results)
    (hrefuted : count .refuted results' = count .refuted results) :
    ∃ other, policy.consolidate syllogism results' = .ok other ∧
      other.Agrees (policy.recordOf syllogism results) :=
  ⟨_, consolidate_eq_recordOf hresults hformula, recordOf_agrees hproved hrefuted⟩

theorem exists_permuted (hresults : results ≠ [])
    (hformula : ∀ result ∈ results, result.formula = syllogism.formula)
    (σ : Equiv.Perm (Fin results.length)) :
    ∃ other, policy.consolidate syllogism (List.ofFn fun i => results[σ i]) = .ok other ∧
      other.Agrees (policy.recordOf syllogism results) ∧ other.votes.length = results.length ∧
      ∀ i : Fin results.length,
        other.votes[i]? = (policy.recordOf syllogism results).votes[σ i]? := by
  have hperm : (List.ofFn fun i => results[σ i]).Perm results := by
    have := σ.ofFn_comp_perm results.get
    rwa [List.ofFn_get] at this
  have hne : (List.ofFn fun i => results[σ i]) ≠ [] := fun hnil =>
    hresults (List.nil_perm.mp (hnil ▸ hperm))
  have hmem : ∀ result ∈ List.ofFn fun i => results[σ i],
      result.formula = syllogism.formula := fun result hmem =>
    hformula result (hperm.mem_iff.mp hmem)
  refine ⟨_, consolidate_eq_recordOf hne hmem,
    recordOf_agrees (hperm.countP_eq _) (hperm.countP_eq _), ?_, fun i => ?_⟩
  · simp [recordOf]
  · simp [recordOf]

/-- Results that line up come to a record. It is the same in whatever order they are, with the
votes in that order, and with whatever results that leave the question open. If the
thresholds are positive, exchanging the sides exchanges the verdicts, and with more results a
conclusive verdict stays or is contradicted, and a contradiction stays. -/
theorem consolidate_weighs (policy : Policy) (hresults : results ≠ [])
    (hformula : ∀ result ∈ results, result.formula = syllogism.formula) :
    ∃ record, policy.consolidate syllogism results = .ok record ∧
      (∀ σ : Equiv.Perm (Fin results.length), ∃ other,
        policy.consolidate syllogism (List.ofFn fun i => results[σ i]) = .ok other ∧
          other.Agrees record ∧ other.votes.length = results.length ∧
          ∀ i : Fin results.length, other.votes[i]? = record.votes[σ i]?) ∧
      (∀ results', results' ≠ [] → (∀ result ∈ results', result.formula = syllogism.formula) →
        results'.filter (·.verdict.conclusive) = results.filter (·.verdict.conclusive) →
        ∃ other, policy.consolidate syllogism results' = .ok other ∧ other.Agrees record) ∧
      (1 ≤ policy.proved → 1 ≤ policy.refuted →
        (∃ other, policy.swapped.consolidate syllogism (results.map (·.swapped)) = .ok other ∧
          other.verdict = record.verdict.swapped ∧ other.contradiction = record.contradiction) ∧
        ∀ results', (∀ result ∈ results', result.formula = syllogism.formula) →
          results.Subperm results' →
          ∃ other, policy.consolidate syllogism results' = .ok other ∧
            (record.verdict = .proved →
              (other.verdict, other.contradiction) = (.proved, false) ∨
                (other.verdict, other.contradiction) = (.unknown, true)) ∧
            (record.verdict = .refuted →
              (other.verdict, other.contradiction) = (.refuted, false) ∨
                (other.verdict, other.contradiction) = (.unknown, true)) ∧
            (record.contradiction = true → other.contradiction = true)) := by
  refine ⟨_, consolidate_eq_recordOf hresults hformula, exists_permuted hresults hformula, ?_,
    fun hproved hrefuted => ⟨?_, fun results' hformula' hmore => ?_⟩⟩
  · intro results' hresults' hformula' hsame
    refine exists_agreeing hresults' hformula' ?_ ?_
    · rw [← count_filter_conclusive rfl, hsame, count_filter_conclusive rfl]
    · rw [← count_filter_conclusive rfl, hsame, count_filter_conclusive rfl]
  · have hmem : ∀ result ∈ results.map (·.swapped), result.formula = syllogism.formula := by
      intro result hmem
      obtain ⟨origin, horigin, rfl⟩ := List.mem_map.mp hmem
      exact hformula origin horigin
    exact ⟨_, consolidate_eq_recordOf (by simpa using hresults) hmem,
      recordOf_swapped hproved hrefuted⟩
  · have hne : results' ≠ [] := fun hnil =>
      hresults (List.subperm_nil.mp (hnil ▸ hmore))
    refine ⟨_, consolidate_eq_recordOf hne hformula', fun h => ?_, fun h => ?_, fun h => ?_⟩
    · exact decide_proved_of_le hproved h (hmore.countP_le _)
    · exact decide_refuted_of_le hproved hrefuted h (hmore.countP_le _)
    · exact decide_contradiction_of_le h (hmore.countP_le _) (hmore.countP_le _)

end Results

/-- Two engines of three say that a formula is a theorem, and one leaves it open. -/
def threeResults (formula : Formula) : List EngineResult :=
  [⟨"TPG", formula, .proved, none⟩, ⟨"LEO-III", formula, .unknown, some "% Proof"⟩,
    ⟨"MleanCoP", formula, .proved, some "[]"⟩]

theorem consolidate_weighs_three :
    let barbara := Construction.build ⟨.first, ⟨.A, .plain⟩, ⟨.A, .plain⟩, ⟨.A, .plain⟩⟩
    (threeResults barbara.formula ≠ [] ∧
        ∀ result ∈ threeResults barbara.formula, result.formula = barbara.formula) ∧
      ∃ record, Policy.consolidate ⟨2, 1⟩ barbara (threeResults barbara.formula) = .ok record ∧
        record.verdict = .proved ∧
        ∀ results', (∀ result ∈ results', result.formula = barbara.formula) →
          (threeResults barbara.formula).Subperm results' →
          ∃ other, Policy.consolidate ⟨2, 1⟩ barbara results' = .ok other ∧
            other.verdict ≠ .refuted := by
  intro barbara
  have hresults : threeResults barbara.formula ≠ [] := nofun
  have hformula : ∀ result ∈ threeResults barbara.formula, result.formula = barbara.formula := by
    simp [threeResults]
  refine ⟨⟨hresults, hformula⟩, ?_⟩
  obtain ⟨record, hrecord, -, -, hpositive⟩ := consolidate_weighs ⟨2, 1⟩ hresults hformula
  have hproved : record.verdict = .proved := by
    obtain ⟨-, -, rfl⟩ := consolidate_eq_ok_iff.mp hrecord
    rfl
  refine ⟨record, hrecord, hproved, fun results' hformula' hmore => ?_⟩
  obtain ⟨other, hother, hstays, -⟩ :=
    (hpositive (by decide) (by decide)).2 results' hformula' hmore
  refine ⟨other, hother, fun hrefuted => ?_⟩
  rcases hstays hproved with h | h
  · cases hrefuted.symm.trans (congrArg Prod.fst h)
  · cases hrefuted.symm.trans (congrArg Prod.fst h)

end Policy

end Syllogistic
