import Mathlib.Data.List.Basic
import Mathlib.Data.List.TakeWhile
import Syllogistic.Text.Blank
import Syllogistic.Text.Lines

/-!
# Lines that are joined and cut again

Texts that were joined by line feeds are the lines of what they were joined to, apart from
carriage returns before the line feeds and from a last text that is empty. Taking blanks off the
ends comes first, but it only reaches the first and the last of the texts, and stops there if
they have a character that is no blank.

The two ways to end a line are one and the same to a reader. A carriage return put before every
line feed is a blank before a blank, so trimming takes both or none, and what is left of them is
taken along when the lines are cut.
-/

namespace Syllogistic.Text

variable {separator : Char} {piece last s t before after : List Char}
  {pieces rest : List (List Char)}

/-! ## Cutting what was joined -/

theorem joinWith_cons (piece : List Char) (hne : rest ≠ []) :
    joinWith separator (piece :: rest) = piece ++ separator :: joinWith separator rest := by
  cases rest with
  | nil => exact absurd rfl hne
  | cons next others => rfl

theorem joinWith_eq_intercalate (separator : Char) (pieces : List (List Char)) :
    joinWith separator pieces = [separator].intercalate pieces := by
  induction pieces with
  | nil => rfl
  | cons piece rest ih =>
      cases rest with
      | nil => simp [joinWith]
      | cons next others =>
          rw [joinWith_cons piece (List.cons_ne_nil next others), ih, List.intercalate_cons_cons,
            List.append_assoc, List.singleton_append]

theorem joinWith_concat (hne : pieces ≠ []) (last : List Char) :
    joinWith separator (pieces ++ [last]) = joinWith separator pieces ++ separator :: last := by
  induction pieces with
  | nil => exact absurd rfl hne
  | cons piece rest ih =>
      cases rest with
      | nil => rfl
      | cons next others =>
          rw [List.cons_append, joinWith_cons piece (by simp), ih (by simp),
            joinWith_cons piece (by simp), List.append_assoc, List.cons_append]

theorem splitAtEach_append (h : separator ∉ piece) (s : List Char) :
    splitAtEach separator (piece ++ separator :: s) = piece :: splitAtEach separator s := by
  induction piece with
  | nil => rw [List.nil_append, splitAtEach, if_pos rfl]
  | cons c piece ih =>
      rw [List.mem_cons, not_or] at h
      rw [List.cons_append, splitAtEach, if_neg (Ne.symm h.1), ih h.2]

theorem splitAtEach_of_not_mem (h : separator ∉ piece) :
    splitAtEach separator piece = [piece] := by
  induction piece with
  | nil => rfl
  | cons c piece ih =>
      rw [List.mem_cons, not_or] at h
      rw [splitAtEach, if_neg (Ne.symm h.1), ih h.2]

theorem splitAtEach_joinWith (h : ∀ piece ∈ pieces, separator ∉ piece) (hne : pieces ≠ []) :
    splitAtEach separator (joinWith separator pieces) = pieces := by
  induction pieces with
  | nil => exact absurd rfl hne
  | cons piece rest ih =>
      obtain ⟨hpiece, hrest⟩ := List.forall_mem_cons.mp h
      cases rest with
      | nil => exact splitAtEach_of_not_mem hpiece
      | cons next others =>
          rw [joinWith_cons piece (by simp), splitAtEach_append hpiece, ih hrest (by simp)]

theorem endLines_concat (pieces : List (List Char)) (hlast : last ≠ []) :
    endLines (pieces ++ [last]) = pieces.map dropReturn ++ [last] := by
  induction pieces with
  | nil => simp [endLines, hlast]
  | cons piece rest ih =>
      cases rest with
      | nil => simp [endLines, hlast]
      | cons next others =>
          rw [List.cons_append, List.cons_append, endLines, ← List.cons_append, ih]
          · rfl
          · simp

theorem dropReturn_of_getLast? (h : piece.getLast? ≠ some '\r') : dropReturn piece = piece :=
  if_neg h

theorem lines_joinWith (h : ∀ piece ∈ pieces, '\n' ∉ piece) (hline : '\n' ∉ last)
    (hlast : last ≠ []) :
    lines (joinWith '\n' (pieces ++ [last])) = pieces.map dropReturn ++ [last] := by
  rw [lines, splitAtEach_joinWith _ (by simp), endLines_concat pieces hlast]
  intro piece hpiece
  rcases List.mem_append.mp hpiece with hmem | hmem
  · exact h piece hmem
  · rwa [List.mem_singleton.mp hmem]

/-! ## Trimming -/

theorem dropWhile_append_of_all {p : Char → Bool} (h : ∀ c ∈ s, p c = true) (t : List Char) :
    (s ++ t).dropWhile p = t.dropWhile p := by
  rw [List.dropWhile_append, List.dropWhile_eq_nil_iff.mpr h]
  rfl

theorem trimLeft_append (h : ∀ c ∈ before, isBlank c = true) (s : List Char) :
    trimLeft (before ++ s) = trimLeft s :=
  dropWhile_append_of_all h s

theorem trimRight_append_blank (s : List Char) (h : ∀ c ∈ after, isBlank c = true) :
    trimRight (s ++ after) = trimRight s := by
  rw [trimRight, List.reverse_append, dropWhile_append_of_all, trimRight]
  exact fun c hc => h c (List.mem_reverse.mp hc)

theorem trimRight_ne_nil (h : ∃ c ∈ s, isBlank c = false) : trimRight s ≠ [] := by
  obtain ⟨c, hc, hblank⟩ := h
  rw [trimRight, ne_eq, List.reverse_eq_nil_iff, List.dropWhile_eq_nil_iff]
  intro hall
  rw [hall c (List.mem_reverse.mpr hc)] at hblank
  cases hblank

theorem trimRight_append (t : List Char) (h : ∃ c ∈ s, isBlank c = false) :
    trimRight (t ++ s) = t ++ trimRight s := by
  have hne := trimRight_ne_nil h
  rw [trimRight, ne_eq, List.reverse_eq_nil_iff] at hne
  rw [trimRight, List.reverse_append, List.dropWhile_append, if_neg (by simpa using hne),
    List.reverse_append, List.reverse_reverse, trimRight]

theorem trimLeft_of_head? {c : Char} (hc : s.head? = some c) (hblank : isBlank c = false) :
    trimLeft s = s := by
  obtain ⟨rest, rfl⟩ := List.head?_eq_some_iff.mp hc
  rw [trimLeft, List.dropWhile_cons, hblank, if_neg Bool.false_ne_true]

/-- Trimming takes what was put around a text, and then only reaches its last part. -/
theorem trim_append {c : Char} (hbefore : ∀ c ∈ before, isBlank c = true)
    (hafter : ∀ c ∈ after, isBlank c = true) (hc : t.head? = some c) (hblank : isBlank c = false)
    (hprinted : ∃ c ∈ s, isBlank c = false) :
    trim (before ++ (t ++ s) ++ after) = t ++ trimRight s := by
  have hhead : (t ++ s ++ after).head? = some c := by
    rw [List.append_assoc, List.head?_append, hc, Option.some_or]
  rw [trim, List.append_assoc, trimLeft_append hbefore, trimLeft_of_head? hhead hblank,
    trimRight_append_blank _ hafter, trimRight_append t hprinted]

theorem isPrefix_trimRight (s : List Char) : trimRight s <+: s := by
  rw [← List.reverse_suffix, trimRight, List.reverse_reverse]
  exact List.dropWhile_suffix _

theorem trim_subset (s : List Char) : trim s ⊆ s :=
  fun _ h => (List.dropWhile_suffix isBlank).subset ((isPrefix_trimRight (trimLeft s)).subset h)

/-! ## The two ways to end a line -/

/-- A carriage return before each line feed. -/
def withReturns (s : List Char) : List Char :=
  s.flatMap fun c => if c = '\n' then ['\r', '\n'] else [c]

/-- A carriage return at the end of each piece but the last. -/
def endReturns : List (List Char) → List (List Char)
  | [] => []
  | [last] => [last]
  | piece :: rest => (piece ++ ['\r']) :: endReturns rest

/-- What is dropped of a text that is written out character by character is what is written
out of the characters that are dropped. -/
theorem dropWhile_flatMap {p : Char → Bool} {write : Char → List Char}
    (hall : ∀ c, p c = true → ∀ d ∈ write c, p d = true)
    (hfirst : ∀ c, p c = false → ∃ d rest, write c = d :: rest ∧ p d = false) (s : List Char) :
    (s.flatMap write).dropWhile p = (s.dropWhile p).flatMap write := by
  induction s with
  | nil => rfl
  | cons c s ih =>
      rw [List.flatMap_cons, List.dropWhile_cons]
      cases hc : p c with
      | true =>
          rw [if_pos rfl, dropWhile_append_of_all (hall c hc), ih]
      | false =>
          obtain ⟨d, rest, hwrite, hd⟩ := hfirst c hc
          rw [if_neg Bool.false_ne_true, List.flatMap_cons, hwrite, List.cons_append,
            List.dropWhile_cons, hd, if_neg Bool.false_ne_true]

theorem trim_withReturns (s : List Char) : trim (withReturns s) = withReturns (trim s) := by
  -- Forwards and backwards, a line feed is written as blanks and all else as it is.
  have hblanks : ∀ c, isBlank c = true →
      ∀ d ∈ (if c = '\n' then ['\r', '\n'] else [c]), isBlank d = true := by
    intro c hc d hd
    split at hd
    · rcases List.mem_pair.mp hd with rfl | rfl <;> rfl
    · rwa [List.mem_singleton.mp hd]
  have hother : ∀ c, isBlank c = false → (if c = '\n' then ['\r', '\n'] else [c]) = [c] := by
    intro c hc
    refine if_neg ?_
    rintro rfl
    cases hc
  have hleft : ∀ s, trimLeft (withReturns s) = withReturns (trimLeft s) :=
    dropWhile_flatMap hblanks fun c hc => ⟨c, [], hother c hc, hc⟩
  have hright : ∀ s, trimRight (withReturns s) = withReturns (trimRight s) := by
    intro s
    rw [trimRight, withReturns, List.reverse_flatMap, dropWhile_flatMap, trimRight, withReturns,
      List.reverse_flatMap, Function.comp_def]
    · simp only [Function.comp_apply, List.reverse_reverse]
    · exact fun c hc d hd => hblanks c hc d (List.mem_reverse.mp hd)
    · exact fun c hc => ⟨c, [], by rw [Function.comp_apply, hother c hc]; rfl, hc⟩
  rw [trim, hleft, hright, trim]

theorem endReturns_cons (piece : List Char) (hne : rest ≠ []) :
    endReturns (piece :: rest) = (piece ++ ['\r']) :: endReturns rest := by
  cases rest with
  | nil => exact absurd rfl hne
  | cons next others => rfl

theorem splitAtEach_withReturns (s : List Char) :
    splitAtEach '\n' (withReturns s) = endReturns (splitAtEach '\n' s) := by
  induction s with
  | nil => rfl
  | cons c s ih =>
      have hne := splitAtEach_ne_nil '\n' s
      rw [withReturns] at ih
      rw [withReturns, List.flatMap_cons]
      by_cases hc : c = '\n'
      · rw [hc, if_pos rfl, splitAtEach, if_pos rfl, endReturns_cons [] hne, ← ih]
        have hreturn : '\n' ∉ ['\r'] := by decide
        exact splitAtEach_append hreturn _
      · rw [if_neg hc, List.singleton_append, splitAtEach, if_neg hc, ih, splitAtEach, if_neg hc]
        cases hpieces : splitAtEach '\n' s with
        | nil => exact absurd hpieces hne
        | cons piece pieces => cases pieces <;> rfl

theorem endLines_cons (piece : List Char) (hne : rest ≠ []) :
    endLines (piece :: rest) = dropReturn piece :: endLines rest := by
  cases rest with
  | nil => exact absurd rfl hne
  | cons next others => rfl

theorem endReturns_ne_nil (hne : pieces ≠ []) : endReturns pieces ≠ [] := by
  match pieces with
  | [] => exact absurd rfl hne
  | [last] => exact List.cons_ne_nil last []
  | piece :: next :: others => exact List.cons_ne_nil _ _

/-- The carriage returns are taken along with the line feeds. -/
theorem endLines_endReturns (h : ∀ piece ∈ pieces, '\r' ∉ piece) :
    endLines (endReturns pieces) = endLines pieces := by
  induction pieces with
  | nil => rfl
  | cons piece rest ih =>
      obtain ⟨hpiece, hrest⟩ := List.forall_mem_cons.mp h
      cases rest with
      | nil => rfl
      | cons next others =>
          have hkept : piece.getLast? ≠ some '\r' := fun hlast =>
            hpiece (List.mem_of_getLast? hlast)
          rw [endReturns_cons piece (by simp), endLines_cons _ (endReturns_ne_nil (by simp)),
            ih hrest, endLines_cons piece (by simp), dropReturn_of_getLast? hkept, dropReturn,
            List.getLast?_concat, if_pos rfl, List.dropLast_concat]

theorem mem_of_mem_splitAtEach {c : Char} (h : piece ∈ splitAtEach separator s) (hc : c ∈ piece) :
    c ∈ s := by
  induction s generalizing piece with
  | nil =>
      rw [splitAtEach, List.mem_singleton] at h
      rwa [h] at hc
  | cons d s ih =>
      rw [splitAtEach] at h
      split at h
      · rcases List.mem_cons.mp h with rfl | hmem
        · cases hc
        · exact List.mem_cons_of_mem d (ih hmem hc)
      · split at h
        · next hnil => exact absurd hnil (splitAtEach_ne_nil separator s)
        · next first pieces hpieces =>
            rcases List.mem_cons.mp h with rfl | hmem
            · -- The first piece has the new character in front.
              rcases List.mem_cons.mp hc with rfl | hc
              · exact List.mem_cons_self
              · exact List.mem_cons_of_mem d (ih (by rw [hpieces]; exact List.mem_cons_self) hc)
            · have hmem : piece ∈ splitAtEach separator s := by
                rw [hpieces]
                exact List.mem_cons_of_mem first hmem
              exact List.mem_cons_of_mem d (ih hmem hc)

theorem lines_withReturns (h : '\r' ∉ s) : lines (withReturns s) = lines s := by
  rw [lines, splitAtEach_withReturns, endLines_endReturns, lines]
  exact fun piece hpiece hreturn => h (mem_of_mem_splitAtEach hpiece hreturn)

end Syllogistic.Text
