import Syllogistic.Proofs.Text.Lines
import Syllogistic.Engine.Status

/-!
# The lines of a proof come back as they were printed

An engine that prints its proof puts two lines before it and one after it. Trimming reaches no
farther than the first of these lines and the last, so the proof is what stands between, line by
line and however many there are, blank ones at either end among them. What the lines of the
proof say does not matter: the status is only looked for in the first line.

None of the engines that print has an answer that depends on how lines are ended.
-/

namespace Syllogistic

namespace Status

open Text

/-- The lines that an engine prints which has found a proof, from the first to the last. -/
structure Printout where
  first : List Char
  second : List Char
  proof : List (List Char)
  last : List Char

namespace Printout

/-- The lines, joined by line feeds. -/
def text (printout : Printout) : List Char :=
  ['\n'].intercalate (printout.first :: printout.second :: printout.proof ++ [printout.last])

/-- The lines are lines, and trimming neither takes away the first or the last nor changes the
first. -/
structure Proper (printout : Printout) : Prop where
  first_line : '\n' ∉ printout.first
  first_begins : ∃ c, printout.first.head? = some c ∧ isBlank c = false
  first_ends : ∃ c, printout.first.getLast? = some c ∧ isBlank c = false
  second_line : '\n' ∉ printout.second
  proof_line : ∀ line ∈ printout.proof, '\n' ∉ line ∧ line.getLast? ≠ some '\r'
  last_line : '\n' ∉ printout.last
  last_printed : ∃ c ∈ printout.last, isBlank c = false

variable {printout : Printout} {before after : List Char}

/-- Only the last line can have lost something when the text is trimmed. -/
theorem trim_text (h : printout.Proper) (hbefore : ∀ c ∈ before, isBlank c = true)
    (hafter : ∀ c ∈ after, isBlank c = true) :
    trim (before ++ printout.text ++ after) =
      joinWith '\n' (printout.first :: printout.second :: printout.proof ++
        [trimRight printout.last]) := by
  have hne : printout.first :: printout.second :: printout.proof ≠ [] := List.cons_ne_nil _ _
  obtain ⟨c, hc, hblank⟩ := h.first_begins
  have hhead : (joinWith '\n' (printout.first :: printout.second :: printout.proof) ++
      ['\n']).head? = some c := by
    rw [joinWith_cons _ (List.cons_ne_nil _ _), List.append_assoc, List.head?_append, hc,
      Option.some_or]
  rw [text, ← joinWith_eq_intercalate, joinWith_concat hne, joinWith_concat hne,
    List.append_cons, List.append_cons _ '\n' (trimRight _)]
  exact trim_append hbefore hafter hhead hblank h.last_printed

/-- The lines are read as they were printed, but for a carriage return of the second and what
stands at the end of the last. -/
theorem outputLines_text (h : printout.Proper) (hbefore : ∀ c ∈ before, isBlank c = true)
    (hafter : ∀ c ∈ after, isBlank c = true) :
    outputLines (String.ofList (before ++ printout.text ++ after)) =
      printout.first :: dropReturn printout.second :: printout.proof ++
        [trimRight printout.last] := by
  obtain ⟨c, hc, hblank⟩ := h.first_ends
  have hfirst : dropReturn printout.first = printout.first := by
    refine dropReturn_of_getLast? ?_
    rw [hc]
    rintro ⟨⟩
    cases hblank
  have hproof : printout.proof.map dropReturn = printout.proof :=
    (List.map_congr_left fun line hline => dropReturn_of_getLast? (h.proof_line line hline).2).trans
      (List.map_id _)
  have hlast : '\n' ∉ trimRight printout.last := fun hmem =>
    h.last_line ((isPrefix_trimRight printout.last).subset hmem)
  rw [outputLines, String.toList_ofList, trim_text h hbefore hafter,
    lines_joinWith _ hlast (trimRight_ne_nil h.last_printed), List.map_cons, List.map_cons,
    hfirst, hproof]
  refine List.forall_mem_cons.mpr ⟨h.first_line, List.forall_mem_cons.mpr ⟨h.second_line, ?_⟩⟩
  exact fun line hline => (h.proof_line line hline).1

theorem innerLines_printed (first second : List Char) (proof : List (List Char))
    (last : List Char) :
    innerLines (first :: second :: proof ++ [last]) = ['\n'].intercalate proof := by
  rw [innerLines, List.cons_append, List.cons_append, List.drop_succ_cons, List.drop_succ_cons,
    List.drop_zero, List.dropLast_concat, joinWith_eq_intercalate]

end Printout

theorem outputLines_withReturns {stdout : String} (h : '\r' ∉ stdout.toList) :
    outputLines (String.ofList (withReturns stdout.toList)) = outputLines stdout := by
  rw [outputLines, outputLines, String.toList_ofList, trim_withReturns, lines_withReturns]
  exact fun hmem => h (trim_subset stdout.toList hmem)

/-- A printout whose first line names a theorem is read as one with the proof as it was printed,
whatever blanks stand around the printout. And no engine that prints has another answer if a
carriage return is put before every line feed. -/
theorem proof_as_printed :
    (∀ printout : Printout, printout.Proper → ∀ before after : List Char,
      (∀ c ∈ before, isBlank c = true) → (∀ c ∈ after, isBlank c = true) →
        let stdout := String.ofList (before ++ printout.text ++ after)
        let found := (Verdict.proved, some (String.ofList (['\n'].intercalate printout.proof)))
        ((tokens printout.first).getLast? = some "Theorem".toList →
          readMleanCop stdout = .ok found) ∧
        ((tokens printout.first)[1]? = some "Theorem".toList → readTpg stdout = .ok found)) ∧
    ∀ stdout : String, '\r' ∉ stdout.toList →
      let returned := String.ofList (withReturns stdout.toList)
      readMleanCop returned = readMleanCop stdout ∧ readTpg returned = readTpg stdout ∧
        readLeo returned = readLeo stdout := by
  refine ⟨fun printout h before after hbefore hafter => ?_, fun stdout h => ?_⟩
  · intro stdout found
    have hlines : outputLines stdout = _ := printout.outputLines_text h hbefore hafter
    have hinner := Printout.innerLines_printed printout.first (dropReturn printout.second)
      printout.proof (trimRight printout.last)
    rw [← hlines] at hinner
    have hhead : (outputLines stdout).head? = some printout.first := by
      rw [hlines]
      rfl
    refine ⟨fun htoken => ?_, fun htoken => ?_⟩
    · rw [readMleanCop, hhead, Option.bind_some, htoken, hinner]
      rfl
    · rw [readTpg, hhead, Option.bind_some, htoken, hinner]
      rfl
  · intro returned
    have hlines := outputLines_withReturns h
    exact ⟨by rw [readMleanCop, readMleanCop, hlines], by rw [readTpg, readTpg, hlines],
      by rw [readLeo, readLeo, hlines]⟩

/-- The proof begins with a blank line and ends with a line that is a status elsewhere. -/
theorem proof_as_printed_blank :
    let printout : Printout :=
      ⟨"f Theorem".toList, [], [[], "f Timeout".toList], "end ".toList⟩
    let stdout := String.ofList (['\n', ' '] ++ printout.text ++ ['\n'])
    printout.Proper ∧ '\r' ∉ stdout.toList ∧
      readMleanCop stdout = .ok (.proved, some "\nf Timeout") ∧
      readTpg stdout = .ok (.proved, some "\nf Timeout") ∧
      readTpg (String.ofList (withReturns stdout.toList)) = readTpg stdout := by
  intro printout stdout
  have hproper : printout.Proper :=
    ⟨by decide, ⟨'f', rfl, rfl⟩, ⟨'m', rfl, rfl⟩, by decide, by decide, by decide,
      ⟨'e', by decide, rfl⟩⟩
  have hreturn : '\r' ∉ stdout.toList := by decide +kernel
  obtain ⟨hprinted, hreturned⟩ := proof_as_printed
  have hbefore : ∀ c ∈ ['\n', ' '], isBlank c = true :=
    List.forall_mem_cons.mpr ⟨rfl, List.forall_mem_singleton.mpr rfl⟩
  have hafter : ∀ c ∈ ['\n'], isBlank c = true := List.forall_mem_singleton.mpr rfl
  obtain ⟨hmlean, htpg⟩ := hprinted printout hproper ['\n', ' '] ['\n'] hbefore hafter
  exact ⟨hproper, hreturn, hmlean rfl, htpg rfl, (hreturned stdout hreturn).2.1⟩

end Status

end Syllogistic
