import Mathlib.Data.List.Basic
import Syllogistic.Engine.Status

/-!
# What the scan of a status output reads

The scan goes over the lines once and carries the last status it has seen. Looked at from
behind, the state is a search backwards through the lines that are past, and a proof block
opens at the first line for which that search finds a theorem. So everything the scan comes
to is a function of the heading, the lines before that one: the first status line in it that
is no status, or else its last status, with the block that follows.
-/

namespace Syllogistic.Status

variable {lines before rest : List (List Char)} {line word : List Char} {fault : ProtocolFault}

/-- The fourth token of a line. -/
def statusWord (line : List Char) : Option (List Char) :=
  (Text.tokens line)[3]?

def statusLines (lines : List (List Char)) : List (List Char) :=
  lines.filter (statusMark.isPrefixOf ·)

/-- The status of the last status line. -/
def lastWord (lines : List (List Char)) : Option (List Char) :=
  (statusLines lines).getLast?.bind statusWord

/-- Whether a line opens a proof block after these lines. -/
def opensProof (before : List (List Char)) (line : List Char) : Bool :=
  lastWord before = some "Theorem".toList && proofMark.isPrefixOf line

/-- How many lines come before the first proof block; all of them if there is none. -/
def proofStart (lines : List (List Char)) : Nat :=
  ((List.range lines.length).find? fun k =>
    lines[k]?.any (opensProof (lines.take k))).getD lines.length

/-- The lines before the first proof block. -/
def heading (lines : List (List Char)) : List (List Char) :=
  lines.take (proofStart lines)

/-- The proof block, if there is one. -/
def proofIn (lines : List (List Char)) : Option (List Char) :=
  lines[proofStart lines]?.map fun line => proofBlock line (lines.drop (proofStart lines + 1))

/-- A status line is sound if it has a status, and that names no error. -/
def sound (line : List Char) : Bool :=
  (statusWord line).any fun word => !"Error".toList.isSuffixOf word

/-- What is wrong with a status line. -/
def lineFault (line : List Char) : Option ProtocolFault :=
  match lineStatus line with
  | .error fault => some fault
  | .ok _ => none

/-- What is wrong with the first status line that is not sound. -/
def firstFault (lines : List (List Char)) : Option ProtocolFault :=
  (statusLines lines).findSome? lineFault

/-! ## One status line -/

theorem lineStatus_ok (h : lineStatus line = .ok word) :
    statusWord line = some word ∧ sound line = true := by
  rw [lineStatus] at h
  split at h
  · cases h
  · next found hfound =>
      split at h
      · cases h
      · next hword =>
          cases h
          refine ⟨hfound, ?_⟩
          rw [sound, statusWord, hfound, Option.any_some, Bool.eq_false_iff.mpr hword,
            Bool.not_false]

theorem lineStatus_error (h : lineStatus line = .error fault) : sound line = false := by
  rw [lineStatus] at h
  rw [sound, statusWord]
  split at h
  · next hnone => rw [hnone, Option.any_none]
  · next found hfound =>
      split at h
      · next hword => rw [hfound, Option.any_some, hword, Bool.not_true]
      · cases h

theorem lineFault_eq_none_iff : lineFault line = none ↔ sound line = true := by
  rw [lineFault]
  cases h : lineStatus line with
  | error fault => simp [lineStatus_error h]
  | ok word => simp [(lineStatus_ok h).2]

theorem firstFault_eq_none_iff :
    firstFault lines = none ↔ (statusLines lines).all sound = true := by
  rw [firstFault, List.findSome?_eq_none_iff, List.all_eq_true]
  exact forall₂_congr fun line _ => lineFault_eq_none_iff

theorem statusLines_concat (before : List (List Char)) (line : List Char) :
    statusLines (before ++ [line]) =
      statusLines before ++ if statusMark.isPrefixOf line then [line] else [] := by
  rw [statusLines, statusLines, List.filter_append]
  cases h : statusMark.isPrefixOf line <;> simp [h]

theorem lastWord_concat_status (h : statusMark.isPrefixOf line = true) :
    lastWord (before ++ [line]) = statusWord line := by
  rw [lastWord, statusLines_concat, if_pos h, List.getLast?_concat, Option.bind_some]

theorem lastWord_concat_other (h : statusMark.isPrefixOf line = false) :
    lastWord (before ++ [line]) = lastWord before := by
  rw [lastWord, statusLines_concat, h, if_neg (by simp), List.append_nil, lastWord]

theorem firstFault_concat (before : List (List Char)) (line : List Char) :
    firstFault (before ++ [line]) =
      (firstFault before).or (if statusMark.isPrefixOf line then lineFault line else none) := by
  rw [firstFault, statusLines_concat, List.findSome?_append, firstFault]
  split <;> simp

theorem firstFault_of_prefix (h : before <+: lines) (hfault : firstFault before = some fault) :
    firstFault lines = some fault := by
  obtain ⟨rest, rfl⟩ := h
  rw [firstFault] at hfault
  rw [firstFault, statusLines, List.filter_append, List.findSome?_append]
  rw [show List.findSome? lineFault (List.filter _ before) = some fault from hfault]
  rfl

/-- No line is a status line and opens a proof. -/
theorem opensProof_status (before : List (List Char))
    (h : statusMark.isPrefixOf line = true) :
    opensProof before line = false := by
  rw [opensProof]
  cases hproof : proofMark.isPrefixOf line with
  | false => exact Bool.and_false _
  | true =>
      obtain ⟨rest, hrest⟩ := List.isPrefixOf_iff_prefix.mp h
      obtain ⟨others, hothers⟩ := List.isPrefixOf_iff_prefix.mp hproof
      -- The two marks begin with the same six characters.
      have hseventh : (statusMark ++ rest)[6]? = (proofMark ++ others)[6]? := by
        rw [hrest, hothers]
      rw [List.getElem?_append_left (by decide), List.getElem?_append_left (by decide)] at hseventh
      exact absurd hseventh (by decide)

/-! ## Where the heading ends -/

/-- No line of these opens a proof block. -/
def Blockless (lines : List (List Char)) : Prop :=
  ∀ k < lines.length, lines[k]?.any (opensProof (lines.take k)) = false

theorem blockless_nil : Blockless [] :=
  fun _ hk => absurd hk (Nat.not_lt_zero _)

theorem Blockless.concat (h : Blockless before) (hline : opensProof before line = false) :
    Blockless (before ++ [line]) := by
  intro k hk
  rw [List.length_append, List.length_singleton] at hk
  rcases Nat.lt_or_ge k before.length with hlt | hge
  · rw [List.getElem?_append_left hlt, List.take_append_of_le_length (by omega)]
    exact h k hlt
  · obtain rfl : k = before.length := by omega
    rw [List.getElem?_concat_length, List.take_left, Option.any_some, hline]

theorem Blockless.heading_eq (h : Blockless lines) :
    heading lines = lines ∧ proofIn lines = none := by
  have hnone : (List.range lines.length).find? (fun k =>
      lines[k]?.any (opensProof (lines.take k))) = none := by
    refine List.find?_eq_none.mpr fun k hk => ?_
    rw [h k (List.mem_range.mp hk)]
    exact Bool.false_ne_true
  have hstart : proofStart lines = lines.length := by
    rw [proofStart, hnone, Option.getD_none]
  rw [heading, proofIn, hstart]
  simp

theorem Blockless.heading_append (h : Blockless before) (rest : List (List Char))
    (hline : opensProof before line = true) :
    heading (before ++ line :: rest) = before ∧
      proofIn (before ++ line :: rest) = some (proofBlock line rest) := by
  have hsome : (List.range (before ++ line :: rest).length).find? (fun k =>
      (before ++ line :: rest)[k]?.any (opensProof ((before ++ line :: rest).take k))) =
        some before.length := by
    rw [List.find?_range_eq_some]
    refine ⟨?_, by simp, fun k hk => ?_⟩
    · simpa using hline
    · rw [List.getElem?_append_left hk, List.take_append_of_le_length (by omega), h k hk]
      rfl
  have hstart : proofStart (before ++ line :: rest) = before.length := by
    rw [proofStart, hsome, Option.getD_some]
  rw [heading, proofIn, hstart, List.take_left, List.drop_length_add_append]
  simp

/-- The heading does not end within lines without a block. -/
theorem Blockless.prefix_heading (h : Blockless before) : before <+: heading (before ++ rest) := by
  rw [heading]
  suffices hle : before.length ≤ proofStart (before ++ rest) by
    rw [List.take_append, List.take_of_length_le hle]
    exact List.prefix_append _ _
  rw [proofStart]
  cases hfound : (List.range (before ++ rest).length).find? (fun k =>
      (before ++ rest)[k]?.any (opensProof ((before ++ rest).take k))) with
  | none => simp
  | some k =>
      rw [Option.getD_some]
      by_contra hlt
      have hk : k < before.length := by omega
      have hopens := (List.find?_range_eq_some.mp hfound).1
      rw [List.getElem?_append_left hk, List.take_append_of_le_length (by omega), h k hk] at hopens
      exact Bool.false_ne_true hopens

/-! ## The scan -/

/-- What a scan comes to, as a function of the heading. -/
def reading (lines : List (List Char)) :
    Except ProtocolFault (Option (List Char) × Option (List Char)) :=
  match firstFault (heading lines) with
  | some fault => .error fault
  | none => .ok (lastWord (heading lines), proofIn lines)

/-- Reading on after lines that are sound and hold no block. -/
theorem scan_eq_reading (hopen : Blockless before) (hsound : firstFault before = none) :
    scan (lastWord before) rest = reading (before ++ rest) := by
  induction rest generalizing before with
  | nil =>
      obtain ⟨hheading, hproof⟩ := hopen.heading_eq
      rw [scan, List.append_nil, reading, hheading, hsound, hproof]
  | cons line rest ih =>
      have hjoin : before ++ line :: rest = (before ++ [line]) ++ rest := by simp
      rw [scan]
      split
      · next hstatus =>
          -- A status line goes to the lines before, where it is the last status or the fault.
          have hnext := hopen.concat (opensProof_status before hstatus)
          split
          · next fault hfault =>
              have hfirst : firstFault (before ++ [line]) = some fault := by
                rw [firstFault_concat, hsound, if_pos hstatus, Option.none_or, lineFault, hfault]
              rw [reading, hjoin, firstFault_of_prefix hnext.prefix_heading hfirst]
          · next word hword =>
              obtain ⟨hlast, hgood⟩ := lineStatus_ok hword
              rw [hjoin, ← ih hnext, lastWord_concat_status hstatus, hlast]
              rw [firstFault_concat, hsound, if_pos hstatus, Option.none_or]
              exact lineFault_eq_none_iff.mpr hgood
      · next hstatus =>
          have hother : statusMark.isPrefixOf line = false := Bool.eq_false_iff.mpr hstatus
          split
          · next hblock =>
              -- The block opens here, so the lines before are the heading.
              obtain ⟨hheading, hproof⟩ := hopen.heading_append rest hblock
              rw [reading, hheading, hsound, hproof]
          · next hblock =>
              -- Any other line changes nothing that is carried along.
              rw [hjoin, ← ih (hopen.concat (Bool.eq_false_iff.mpr hblock))]
              rw [lastWord_concat_other hother]
              rw [firstFault_concat, hsound, hother]
              rfl

theorem scan_none (lines : List (List Char)) : scan none lines = reading lines := by
  have hstart := @scan_eq_reading [] lines blockless_nil rfl
  rwa [show lastWord [] = none from rfl, List.nil_append] at hstart

end Syllogistic.Status
