import Syllogistic.Proofs.Engine.Votes

/-!
# What a status output says

The scan has one pass over the lines, and what it carries along is gone when it ends. What it
says can be put without it. The heading is what stands before the first proof block. If a
status line of the heading is not sound, the first such line is what is wrong; else the last
status says what the answer is, and a theorem comes with the text of the block, if there is
one. Nothing in the block or after it has a part in this, apart from the text of the proof, and
no status makes up for an earlier one that is not sound.
-/

namespace Syllogistic

namespace Status

variable {lines other : List (List Char)} {line word : List Char} {stdout : String} {k : Nat}

/-- What is wrong with a status line that is not sound. -/
def complaint (line : List Char) : ProtocolFault :=
  match statusWord line with
  | none => .malformedStatus (String.ofList line)
  | some word => .errorStatus (String.ofList word) (String.ofList line)

/-- The proof in these lines: what kind of proof the first line of the block says it is, and the
lines after that one, up to the first that ends a proof. -/
def proofText (lines : List (List Char)) : Option String :=
  lines[proofStart lines]?.map fun line =>
    let kind := ((Text.tokens line)[4]?).getD "Proof".toList
    let after := lines.drop (proofStart lines + 1)
    let body := after.take (after.findIdx (proofEndMark.isPrefixOf ·))
    String.ofList ("% ".toList ++ kind ++ ['\n'] ++ (body.map (· ++ ['\n'])).flatten)

/-- What a status means as the last one. -/
def meaning (word : List Char) (proof : Option String) : Except EngineFailure Finding :=
  if word = "Theorem".toList then .ok (.proved, proof)
  else if word = "CounterSatisfiable".toList then .ok (.refuted, none)
  else if word = "Timeout".toList then .error .timeout
  else .ok (.unknown, none)

/-- What these lines say. -/
def answerOf (lines : List (List Char)) : Except EngineFailure Finding :=
  match (statusLines (heading lines)).find? (!sound ·) with
  | some line => .error (.protocol (complaint line))
  | none =>
    match lastWord (heading lines) with
    | none => .error (.protocol .noStatus)
    | some word => meaning word (proofText lines)

/-! ## The parts of an answer -/

theorem lineFault_eq (line : List Char) :
    lineFault line = if !sound line then some (complaint line) else none := by
  rw [lineFault, lineStatus, sound, complaint, statusWord]
  cases (Text.tokens line)[3]? with
  | none => rfl
  | some word =>
      by_cases herror : "Error".toList.isSuffixOf word = true
      · simp only [herror, Option.any_some, Bool.not_true, Bool.not_false, if_true]
      · simp only [herror, Option.any_some, Bool.not_false, Bool.not_true, Bool.false_eq_true,
          if_false]

theorem firstFault_eq (lines : List (List Char)) :
    firstFault lines = ((statusLines lines).find? (!sound ·)).map complaint := by
  rw [firstFault]
  induction statusLines lines with
  | nil => rfl
  | cons line rest ih =>
      rw [List.findSome?_cons, List.find?_cons, lineFault_eq, ih]
      cases sound line <;> rfl

theorem proofText_eq (lines : List (List Char)) :
    (proofIn lines).map String.ofList = proofText lines := by
  rw [proofIn, Option.map_map, proofText]
  refine congrArg (lines[proofStart lines]?.map ·) (funext fun line => ?_)
  rw [Function.comp_apply, proofBlock, List.takeWhile_eq_take_findIdx_not]
  simp [List.flatMap_def]

theorem readLeo_eq (stdout : String) : readLeo stdout = answerOf (outputLines stdout) := by
  rw [readLeo, scan_none, reading, answerOf, firstFault_eq]
  cases (statusLines (heading (outputLines stdout))).find? (!sound ·) with
  | some line => rfl
  | none =>
      cases lastWord (heading (outputLines stdout)) with
      | none => rfl
      | some word =>
          rw [← proofText_eq]
          dsimp only [Option.map_none]
          split
          · next hword => rw [eq_of_ofList_eq hword, meaning, if_pos rfl]
          · next hword => rw [eq_of_ofList_eq hword, meaning, if_neg (by decide), if_pos rfl]
          · next hword =>
              rw [eq_of_ofList_eq hword, meaning, if_neg (by decide), if_neg (by decide),
                if_pos rfl]
          · next hproved hrefuted htimeout =>
              have hother : ∀ text, String.ofList word ≠ text → word ≠ text.toList := by
                rintro text hne rfl
                exact hne String.ofList_toList
              rw [meaning, if_neg (hother _ hproved), if_neg (hother _ hrefuted),
                if_neg (hother _ htimeout)]

/-! ## Where the block begins -/

/-- Whether line `k` opens a proof block. -/
def opensAt (lines : List (List Char)) (k : Nat) : Bool :=
  lines[k]?.any (opensProof (lines.take k))

theorem proofStart_eq_iff :
    proofStart lines = k ∧ k < lines.length ↔
      opensAt lines k = true ∧ ∀ j < k, opensAt lines j = false := by
  have hsearch : (List.range lines.length).find? (opensAt lines) = some k ↔
      opensAt lines k = true ∧ ∀ j < k, opensAt lines j = false := by
    rw [List.find?_range_eq_some, List.mem_range]
    simp only [Bool.not_eq_true']
    refine ⟨fun ⟨hk, _, hbefore⟩ => ⟨hk, hbefore⟩, fun ⟨hk, hbefore⟩ => ⟨hk, ?_, hbefore⟩⟩
    by_contra hge
    rw [opensAt, List.getElem?_eq_none (Nat.le_of_not_lt hge), Option.any_none] at hk
    cases hk
  rw [← hsearch]
  have hstart : proofStart lines =
      ((List.range lines.length).find? (opensAt lines)).getD lines.length := rfl
  rw [hstart]
  constructor
  · rintro ⟨hk, hlt⟩
    cases hfound : (List.range lines.length).find? (opensAt lines) with
    | none =>
        rw [hfound, Option.getD_none] at hk
        omega
    | some first =>
        rw [hfound, Option.getD_some] at hk
        rw [hk]
  · intro hfound
    rw [hfound, Option.getD_some]
    exact ⟨rfl, List.mem_range.mp (List.mem_of_find?_eq_some hfound)⟩

/-- Whether a line opens a block is settled by the lines up to it. -/
theorem opensAt_congr (h : other.take (k + 1) = lines.take (k + 1)) {j : Nat} (hj : j ≤ k) :
    opensAt other j = opensAt lines j := by
  have hread : ∀ text : List (List Char), opensAt text j = opensAt (text.take (k + 1)) j := by
    intro text
    rw [opensAt, opensAt, List.getElem?_take_of_lt (by omega), List.take_take,
      Nat.min_eq_left (by omega)]
  rw [hread other, h, ← hread lines]

/-- What stands within or after the proof has no part in the heading. -/
theorem heading_congr (hblock : proofStart lines < lines.length)
    (h : other.take (proofStart lines + 1) = lines.take (proofStart lines + 1)) :
    heading other = heading lines := by
  obtain ⟨hopens, hbefore⟩ := proofStart_eq_iff.mp ⟨rfl, hblock⟩
  have hstart : proofStart other = proofStart lines ∧ proofStart lines < other.length := by
    refine proofStart_eq_iff.mpr ⟨?_, fun j hj => ?_⟩
    · rw [opensAt_congr h (Nat.le_refl _), hopens]
    · rw [opensAt_congr h (Nat.le_of_lt hj), hbefore j hj]
  have hheading := congrArg (List.take (proofStart lines)) h
  rw [List.take_take, List.take_take, Nat.min_eq_left (by omega)] at hheading
  rw [heading, heading, hstart.1, hheading]

/-! ## What the answer depends on -/

theorem answerOf_verdict_congr (h : heading other = heading lines) :
    (answerOf other).map Prod.fst = (answerOf lines).map Prod.fst := by
  rw [answerOf, answerOf, h]
  split
  · rfl
  · split
    · rfl
    · next word _ =>
        rw [meaning, meaning]
        split
        · rfl
        · rfl

theorem isSome_proofText : (proofText lines).isSome = true ↔ proofStart lines < lines.length := by
  rw [proofText, Option.isSome_map, isSome_getElem?]

/-- There is a proof if there is a block, and then the formula is a theorem. -/
theorem answerOf_proof {verdict : Verdict} {proof : Option String}
    (h : answerOf lines = .ok (verdict, proof)) :
    proof.isSome = true ↔ verdict = .proved ∧ proofStart lines < lines.length := by
  rw [answerOf] at h
  split at h
  · cases h
  · split at h
    · cases h
    · rw [meaning] at h
      split at h
      · cases h
        rw [isSome_proofText, eq_self_iff_true, true_and]
      · -- No other status comes with a proof, or means a theorem.
        split at h
        · cases h
          simp
        · split at h
          · cases h
          · cases h
            simp

theorem answerOf_unsound (hline : line ∈ statusLines (heading lines))
    (hsound : sound line = false) :
    ∃ first ∈ statusLines (heading lines), sound first = false ∧
      answerOf lines = .error (.protocol (complaint first)) := by
  rw [answerOf]
  cases hfirst : (statusLines (heading lines)).find? (!sound ·) with
  | none =>
      have hnone := List.find?_eq_none.mp hfirst line hline
      rw [hsound] at hnone
      exact absurd rfl hnone
  | some first =>
      refine ⟨first, List.mem_of_find?_eq_some hfirst, ?_, rfl⟩
      simpa using List.find?_some hfirst

/-- The answer of a status output is what its heading says. It has a proof if the heading ends
with a block after a theorem; what else is in the block or after it does not matter for the
verdict, and one status line that is not sound is enough for an error. A process that was
killed has not answered, and the exit code of one that was not only says how an output is
reported that is no answer. -/
theorem readLeo_eq_answerOf (stdout : String) :
    let lines := outputLines stdout
    readLeo stdout = answerOf lines ∧
      (∀ verdict proof, readLeo stdout = .ok (verdict, proof) →
        (proof.isSome = true ↔ verdict = .proved ∧ proofStart lines < lines.length)) ∧
      (∀ other, proofStart lines < lines.length →
        (outputLines other).take (proofStart lines + 1) = lines.take (proofStart lines + 1) →
          (readLeo other).map Prod.fst = (readLeo stdout).map Prod.fst) ∧
      (∀ line ∈ statusLines (heading lines), sound line = false →
        ∃ first ∈ statusLines (heading lines), sound first = false ∧
          readLeo stdout = .error (.protocol (complaint first))) ∧
      Engine.leo.interpret .overdue = .error .timeout ∧
      ∀ stderr exitCode elapsed,
        Engine.leo.interpret (.ended ⟨stdout, stderr, exitCode, elapsed⟩) =
          match answerOf lines with
          | .ok (verdict, proof) => .ok ⟨verdict, proof, elapsed⟩
          | .error (.protocol fault) =>
            .error (.protocol (if exitCode = some 0 then fault
              else .exited exitCode (firstLine stderr)))
          | .error failure => .error failure := by
  intro lines
  have hread : readLeo stdout = answerOf lines := readLeo_eq stdout
  refine ⟨hread, fun verdict proof h => ?_, fun other hblock hsame => ?_, fun line hline h => ?_,
    rfl, fun stderr exitCode elapsed => ?_⟩
  · rw [hread] at h
    exact answerOf_proof h
  · rw [readLeo_eq other, hread]
    exact answerOf_verdict_congr (heading_congr hblock hsame)
  · rw [hread]
    exact answerOf_unsound hline h
  · rw [Engine.interpret, Engine.finding, interpretLeo, hread]
    cases answerOf lines with
    | ok finding => rfl
    | error failure =>
        cases failure with
        | timeout => rfl
        | launch reason => rfl
        | protocol fault => by_cases hzero : exitCode = some 0 <;> simp [hzero]

/-- A status in the proof and one after it are no statuses. -/
theorem readLeo_eq_answerOf_theorem :
    let stdout := "% SZS status Theorem for x\n% SZS output start Refutation for x\n" ++
      "% SZS status InputError\n% SZS output end\n% SZS status GaveUp for x\n"
    proofStart (outputLines stdout) = 1 ∧
      readLeo stdout = .ok (.proved, some "% Refutation\n% SZS status InputError\n") := by
  intro stdout
  have hanswer : answerOf (outputLines stdout) =
      .ok (.proved, some "% Refutation\n% SZS status InputError\n") := by decide +kernel
  exact ⟨by decide +kernel, (readLeo_eq_answerOf stdout).1.trans hanswer⟩

end Status

end Syllogistic
