import Mathlib.Data.List.Basic
import Mathlib.Data.List.TFAE
import Mathlib.Tactic.TFAE
import Syllogistic.Proofs.Engine.Invocation
import Syllogistic.Proofs.Formula.Style

/-!
# Three notations for one formula

The readable form, the clause form and the typed form are notations, and in each
of them a formula can be read back from its text. In the readable form a leaf
ends in a small `x`, and names are written in capitals; in the other two a bracket
or a blank ends the name. Where a quantifier of the clause form has a word behind
its bracket, `(ex X: `, so has a connective whose left part is a leaf called `ex`,
but there the word is followed by a bracket and not by a blank.

So the engines, each of which reads one of the notations, are asked about the same
formula whenever they are asked the same question, up to the case of names.
-/

namespace Syllogistic

open Formula

namespace Style

def unicode : Style where
  casing := Text.upper
  beforeName := ""
  afterName := "x"
  opening
    | .not => "¬"
    | .necessarily => "□"
    | .possibly => "◇"
    | .exist => "∃x"
    | .all => "∀x"
  closing _ := ""
  left := "("
  between
    | .and => "∧"
    | .or => "∨"
    | .implies => "→"
  right := ")"

def prolog : Style where
  casing := Text.lower
  beforeName := ""
  afterName := "(X)"
  opening
    | .not => "(~ "
    | .necessarily => "(# "
    | .possibly => "(* "
    | .exist => "(ex X: "
    | .all => "(all X: "
  closing _ := ")"
  left := "("
  between
    | .and => " , "
    | .or => " ; "
    | .implies => " => "
  right := ")"

def thf : Style where
  casing := Text.lower
  beforeName := "("
  afterName := " @ X)"
  opening
    | .not => "(~ "
    | .necessarily => "( $box @ "
    | .possibly => "( $dia @ "
    | .exist => "( ? [X: $i] : "
    | .all => "( ! [X: $i] : "
  closing
    | .not => ")"
    | _ => " )"
  left := "( "
  between
    | .and => " & "
    | .or => " | "
    | .implies => " => "
  right := " )"

theorem write_unicode (f : Formula) : unicode.write f = f.unicode :=
  write_eq (fun _ => by rw [named, unicode, String.empty_append, Formula.unicode])
    (fun o body => by cases o <;> exact String.append_empty.symm)
    (fun c left right => by cases c <;> rfl) f

theorem write_prolog (f : Formula) : prolog.write f = f.prolog :=
  write_eq (fun _ => by rw [named, prolog, String.empty_append, Formula.prolog])
    (fun o body => by cases o <;> rfl) (fun c left right => by cases c <;> rfl) f

theorem write_thf (f : Formula) : thf.write f = f.thf :=
  write_eq (fun _ => rfl) (fun o body => by cases o <;> rfl)
    (fun c left right => by cases c <;> rfl) f

end Style

/-! ## Words

Word characters are few, so what holds of each of them is looked up. -/

namespace Formula

theorem isWordChar_lt {c : Char} (h : IsWordChar c) : c.toNat < 128 := by
  have hlast : c.val ≤ 'z'.val := by
    rcases h with h | rfl
    · have hkind : ((c.isUpper || c.isLower) || c.isDigit) = true := h
      rw [Bool.or_eq_true, Bool.or_eq_true] at hkind
      rcases hkind with (hupper | hlower) | hdigit
      · exact UInt32.le_trans (of_decide_eq_true hupper).2 (by decide)
      · exact of_decide_eq_true (Bool.and_eq_true_iff.mp hlower).2
      · exact UInt32.le_trans (of_decide_eq_true (Bool.and_eq_true_iff.mp hdigit).2) (by decide)
    · decide
  exact Nat.lt_of_le_of_lt (UInt32.le_iff_toNat_le.mp hlast) (by decide)

theorem isWordChar_cases {p : Char → Prop}
    (h : ∀ n < 128, IsWordChar (Char.ofNat n) → p (Char.ofNat n)) (c : Char)
    (hc : IsWordChar c) : p c := by
  have hp := h c.toNat (isWordChar_lt hc)
  rw [Char.ofNat_toNat] at hp
  exact hp hc

theorem toLower_toUpper : ∀ c, IsWordChar c → c.toUpper.toLower = c.toLower :=
  isWordChar_cases (by decide)

theorem toUpper_toLower : ∀ c, IsWordChar c → c.toLower.toUpper = c.toUpper :=
  isWordChar_cases (by decide)

theorem toLower_toLower : ∀ c, IsWordChar c → c.toLower.toLower = c.toLower :=
  isWordChar_cases (by decide)

theorem upper_of_isWord (name : String) (h : IsWord name) :
    (Text.upper name).toList = name.toList.map Char.toUpper := by
  have hletters : name.toList.flatMap Text.upperOf = name.toList.flatMap fun c => [c.toUpper] :=
    List.flatMap_congr fun c hc => Text.upperOf_ascii (isWordChar_lt (h.2 c hc))
  rw [Text.upper, String.toList_ofList, hletters, List.map_eq_flatMap]

theorem lower_of_isWord (name : String) (h : IsWord name) :
    (Text.lower name).toList = name.toList.map Char.toLower := by
  rw [Text.lower, String.toList_ofList, Text.lowerFrom_ascii fun c hc => isWordChar_lt (h.2 c hc)]

end Formula

/-! ## The three notations can be read -/

namespace Style

theorem unicode_readable : unicode.Readable Char.toUpper where
  casing := upper_of_isWord
  toLower_letter := toLower_toUpper
  letter_toLower := toUpper_toLower
  name_ends := ⟨'x', [], rfl, isWordChar_cases (by decide)⟩
  operators := Apart.of_pairwise (by decide)
  connectives := Apart.of_pairwise (by decide)
  noName_opening := by
    intro o
    cases o <;> exact ⟨_, _, rfl, isWordChar_cases (by decide)⟩
  noName_left := ⟨_, _, rfl, isWordChar_cases (by decide)⟩
  connective_operator := by
    intro start o _
    have hbracket : Apart unicode.left.toList (unicode.opening o).toList := by
      refine Apart.of_not_prefix ?_ ?_ <;> cases o <;> decide
    exact hbracket.append_right start

/-- Behind the bracket of an operator of the clause form stands a sign or a word,
and behind that another character than behind the name of a leaf. -/
theorem prolog_opening (o : Operator) :
    ∃ word c rest, (prolog.opening o).toList = '(' :: (word ++ c :: rest) ∧
      (∀ d ∈ word, IsWordChar d) ∧ ¬ IsWordChar c ∧ c ≠ '(' := by
  cases o with
  | not => exact ⟨[], '~', [' '], rfl, nofun, by decide⟩
  | necessarily => exact ⟨[], '#', [' '], rfl, nofun, by decide⟩
  | possibly => exact ⟨[], '*', [' '], rfl, nofun, by decide⟩
  | exist =>
      have hword : IsWord "ex" := by decide
      exact ⟨"ex".toList, ' ', ['X', ':', ' '], rfl, hword.2, by decide⟩
  | all =>
      have hword : IsWord "all" := by decide
      exact ⟨"all".toList, ' ', ['X', ':', ' '], rfl, hword.2, by decide⟩

theorem prolog_readable : prolog.Readable Char.toLower where
  casing := lower_of_isWord
  toLower_letter := toLower_toLower
  letter_toLower := toLower_toLower
  name_ends := ⟨'(', ['X', ')'], rfl, isWordChar_cases (by decide)⟩
  operators := Apart.of_pairwise (by decide)
  connectives := Apart.of_pairwise (by decide)
  noName_opening := by
    intro o
    cases o <;> exact ⟨_, _, rfl, isWordChar_cases (by decide)⟩
  noName_left := ⟨_, _, rfl, isWordChar_cases (by decide)⟩
  connective_operator := by
    intro start o hstart
    cases hstart with
    | @name name hname =>
        -- `(ex(X)` against `(ex X: `: the words may be the same, what ends them is not.
        obtain ⟨word, c, rest, hopening, hword, hc, hne⟩ := prolog_opening o
        have hletters : ∀ d ∈ (Text.lower name).toList, IsWordChar d := by
          intro d hd
          rw [lower_of_isWord name hname] at hd
          obtain ⟨e, he, rfl⟩ := List.mem_map.mp hd
          exact isWordChar_cases (p := fun e => IsWordChar e.toLower) (by decide) e (hname.2 e he)
        intro u v heq
        rw [hopening] at heq
        have hbehind : (Text.lower name).toList ++ '(' :: 'X' :: ')' :: u =
            word ++ c :: (rest ++ v) := by
          simpa [named, prolog] using heq
        exact hne (append_inj_of_words hletters hword (by decide) hc hbehind).2.1.symm
    | operator o' =>
        refine Apart.of_not_prefix ?_ ?_ <;> revert o o' <;> decide
    | connective =>
        refine Apart.of_not_prefix ?_ ?_ <;> revert o <;> decide

theorem thf_readable : thf.Readable Char.toLower where
  casing := lower_of_isWord
  toLower_letter := toLower_toLower
  letter_toLower := toLower_toLower
  name_ends := ⟨' ', ['@', ' ', 'X', ')'], rfl, isWordChar_cases (by decide)⟩
  operators := Apart.of_pairwise (by decide)
  connectives := Apart.of_pairwise (by decide)
  noName_opening := by
    intro o
    cases o <;> exact ⟨_, _, rfl, isWordChar_cases (by decide)⟩
  noName_left := ⟨_, _, rfl, isWordChar_cases (by decide)⟩
  connective_operator := by
    intro start o hstart
    cases hstart with
    | @name name _ =>
        have hbracket : Apart ['(', ' ', '('] (thf.opening o).toList := by
          refine Apart.of_not_prefix ?_ ?_ <;> revert o <;> decide
        rw [named, String.toList_append, String.toList_append, List.append_assoc,
          ← List.append_assoc]
        exact hbracket.append_right _
    | operator o' =>
        refine Apart.of_not_prefix ?_ ?_ <;> revert o o' <;> decide
    | connective =>
        refine Apart.of_not_prefix ?_ ?_ <;> revert o <;> decide

end Style

namespace Formula

/-- Two formulas over words have the same text in one of the notations exactly if
they have it in each of the others, and exactly if they are the same formula up to
the case of their names. So each engine is called alike for two formulas if and only
if every other engine is. -/
theorem notations_agree {f g : Formula} (hf : ∀ name ∈ f.leaves, IsWord name)
    (hg : ∀ name ∈ g.leaves, IsWord name) :
    List.TFAE [f.prolog = g.prolog, f.thf = g.thf, f.unicode = g.unicode,
      f.mapNames String.toLower = g.mapNames String.toLower] ∧
    ∀ (prover : Prover) (timeout : Nat),
      prover.invocation f timeout = prover.invocation g timeout ↔
        f.mapNames String.toLower = g.mapNames String.toLower := by
  have hprolog := Style.prolog_readable.write_eq_iff hf hg
  have hthf := Style.thf_readable.write_eq_iff hf hg
  have hunicode := Style.unicode_readable.write_eq_iff hf hg
  rw [Style.write_prolog, Style.write_prolog] at hprolog
  rw [Style.write_thf, Style.write_thf] at hthf
  rw [Style.write_unicode, Style.write_unicode] at hunicode
  constructor
  · tfae_have 1 ↔ 4 := hprolog
    tfae_have 2 ↔ 4 := hthf
    tfae_have 3 ↔ 4 := hunicode
    tfae_finish
  · intro prover timeout
    rw [Prover.invocation_eq_iff]
    cases prover.engine with
    | mleanCop | mleanTap => exact hprolog
    | leo => exact hthf
    | tpg => exact hunicode

/-- A leaf called `ex` beside a quantifier that is written `ex`. -/
theorem notations_agree_ex :
    let f : Formula := .and (.predicate "Ex") (.exist (.predicate "EX_1"))
    let g : Formula := .and (.predicate "eX") (.exist (.predicate "ex_1"))
    (∀ name ∈ f.leaves, IsWord name) ∧ (∀ name ∈ g.leaves, IsWord name) ∧
      f.prolog = g.prolog ∧ f.thf = g.thf ∧ f.unicode = g.unicode := by
  intro f g
  have hf : ∀ name ∈ f.leaves, IsWord name := by decide
  have hg : ∀ name ∈ g.leaves, IsWord name := by decide
  have hleft : "Ex".toLower = "eX".toLower := by
    rw [← String.toList_inj, toList_toLower, toList_toLower]
    rfl
  have hright : "EX_1".toLower = "ex_1".toLower := by
    rw [← String.toList_inj, toList_toLower, toList_toLower]
    rfl
  have hlower : f.mapNames String.toLower = g.mapNames String.toLower := by
    dsimp only [f, g, mapNames]
    rw [hleft, hright]
  obtain ⟨hagree, -⟩ := notations_agree hf hg
  exact ⟨hf, hg, (hagree.out 3 0).mp hlower, (hagree.out 3 1).mp hlower,
    (hagree.out 3 2).mp hlower⟩

end Formula

end Syllogistic
