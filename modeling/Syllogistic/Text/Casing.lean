import Syllogistic.Text.Casing.Table

/-!
# Letter case

Upper and lower case of whole texts by the full Unicode mapping: one character
may become several, and a capital sigma becomes the final form of its small
letter at the end of a word. On ASCII both maps are the familiar shift of the
26 letters, which is what predicate names of ASCII letters rely on.
-/

namespace Syllogistic.Text

/-- Whether the run has the character with this code point. -/
def CaseRun.covers (run : CaseRun) (code : Nat) : Bool :=
  run.first ≤ code && code ≤ run.last && (code - run.first) % run.step == 0

/-- The other case of a character outside ASCII: the expansion if there is one,
else the shifted character, else the character itself. -/
def recase (expansions : List (Nat × List Nat)) (runs : List CaseRun) (c : Char) : List Char :=
  match expansions.lookup c.toNat with
  | some codes => codes.map Char.ofNat
  | none =>
    match runs.find? (·.covers c.toNat) with
    | some run => [Char.ofNat (c.toNat + run.shift).toNat]
    | none => [c]

/-- The upper case of one character. -/
def upperOf (c : Char) : List Char :=
  if c.toNat < 0x80 then [c.toUpper] else recase upperExpansions upperRuns c

/-- The lower case of one character, apart from its neighbours. -/
def lowerOf (c : Char) : List Char :=
  if c.toNat < 0x80 then [c.toLower] else recase lowerExpansions lowerRuns c

/-- Whether a code point lies in one of the ranges. -/
def inRanges (ranges : List (Nat × Nat)) (code : Nat) : Bool :=
  ranges.any fun range => range.1 ≤ code && code ≤ range.2

/-- Whether the first character that is not passed over is a cased one. -/
def startsCased (s : List Char) : Bool :=
  match s.dropWhile fun c => inRanges caseIgnorableRanges c.toNat with
  | [] => false
  | c :: _ => inRanges casedRanges c.toNat

/-- Lower case of what follows; `before` holds what stands before it, the
nearest character first. A capital sigma is final when a cased letter comes
before it and none after. -/
def lowerFrom (before : List Char) : List Char → List Char
  | [] => []
  | c :: rest =>
    (if c = 'Σ' then [if startsCased before && !startsCased rest then 'ς' else 'σ']
      else lowerOf c) ++ lowerFrom (c :: before) rest

/-- The text in upper case. -/
def upper (s : String) : String :=
  String.ofList (s.toList.flatMap upperOf)

/-- The text in lower case. -/
def lower (s : String) : String :=
  String.ofList (lowerFrom [] s.toList)

theorem upperOf_ascii {c : Char} (h : c.toNat < 0x80) : upperOf c = [c.toUpper] := by
  rw [upperOf, if_pos h]

theorem lowerOf_ascii {c : Char} (h : c.toNat < 0x80) : lowerOf c = [c.toLower] := by
  rw [lowerOf, if_pos h]

theorem lowerFrom_ascii {s : List Char} (h : ∀ c ∈ s, c.toNat < 0x80) (before : List Char) :
    lowerFrom before s = s.map Char.toLower := by
  induction s generalizing before with
  | nil => rfl
  | cons c rest ih =>
    have hc := h c (by simp)
    have hne : c ≠ 'Σ' := by
      rintro rfl
      revert hc
      decide
    rw [lowerFrom, if_neg hne, lowerOf_ascii hc, ih fun d hd => h d (by simp [hd])]
    rfl

end Syllogistic.Text
