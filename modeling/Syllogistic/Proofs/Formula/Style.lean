import Mathlib.Data.Fintype.Defs
import Mathlib.Data.Finset.Insert
import Syllogistic.Formula.Basic

/-!
# When a written formula can be read back

A notation writes a name between two fixed texts, an operator as a fixed text
before its part and one behind it, and a connective between its two parts, with
brackets around them. What is written for a formula begins with one of three
things: a name, an operator's text, or the bracket of a connective. If these can
be told apart, however the text goes on, then a formula's text tells where it
ends and which formula it is, up to what the notation does to the letters of
names.

The bracket of a connective says nothing alone, as an operator's text may begin
with the same bracket. So it is looked at together with the beginning of the
left part that follows it.
-/

namespace Syllogistic

namespace Formula

/-- What stands before one part. -/
inductive Operator where
  | not
  | necessarily
  | possibly
  | exist
  | all
  deriving DecidableEq

/-- What stands between two parts. -/
inductive Connective where
  | and
  | or
  | implies
  deriving DecidableEq

instance : Fintype Operator :=
  ⟨{.not, .necessarily, .possibly, .exist, .all}, fun o => by cases o <;> decide⟩

instance : Fintype Connective :=
  ⟨{.and, .or, .implies}, fun c => by cases c <;> decide⟩

def Operator.apply : Operator → Formula → Formula
  | not => .not
  | necessarily => .necessarily
  | possibly => .possibly
  | exist => .exist
  | all => .all

def Connective.apply : Connective → Formula → Formula → Formula
  | and => .and
  | or => .or
  | implies => .implies

/-- A property of formulas by what a formula is made of. -/
theorem byParts {motive : Formula → Prop} (predicate : ∀ name, motive (.predicate name))
    (operator : ∀ (o : Operator) body, motive body → motive (o.apply body))
    (connective : ∀ (c : Connective) left right,
      motive left → motive right → motive (c.apply left right)) (f : Formula) : motive f := by
  induction f with
  | predicate name => exact predicate name
  | not body ih => exact operator .not body ih
  | and left right ihl ihr => exact connective .and left right ihl ihr
  | or left right ihl ihr => exact connective .or left right ihl ihr
  | implies left right ihl ihr => exact connective .implies left right ihl ihr
  | necessarily body ih => exact operator .necessarily body ih
  | possibly body ih => exact operator .possibly body ih
  | exist body ih => exact operator .exist body ih
  | all body ih => exact operator .all body ih

@[simp] theorem leaves_operator (o : Operator) (body : Formula) :
    (o.apply body).leaves = body.leaves := by
  cases o <;> rfl

@[simp] theorem leaves_connective (c : Connective) (left right : Formula) :
    (c.apply left right).leaves = left.leaves ++ right.leaves := by
  cases c <;> rfl

@[simp] theorem mapNames_operator (m : String → String) (o : Operator) (body : Formula) :
    (o.apply body).mapNames m = o.apply (body.mapNames m) := by
  cases o <;> rfl

@[simp] theorem mapNames_connective (m : String → String) (c : Connective)
    (left right : Formula) :
    (c.apply left right).mapNames m = c.apply (left.mapNames m) (right.mapNames m) := by
  cases c <;> rfl

/-! ## Words

Names are words here. The characters of a word are told from all others that a
notation writes, so a word ends where the first other character stands. -/

/-- An ASCII letter, digit or underscore. -/
def IsWordChar (c : Char) : Prop := c.isAlphanum ∨ c = '_'

instance (c : Char) : Decidable (IsWordChar c) := inferInstanceAs (Decidable (_ ∨ _))

/-- A name of ASCII letters, digits and underscores. -/
def IsWord (name : String) : Prop := name ≠ "" ∧ ∀ c ∈ name.toList, IsWordChar c

instance (name : String) : Decidable (IsWord name) :=
  -- There are finitely many characters, but a name has fewer.
  have := List.decidableBAll IsWordChar name.toList
  inferInstanceAs (Decidable (_ ∧ _))

theorem toList_toLower (name : String) : name.toLower.toList = name.toList.map Char.toLower :=
  String.toList_map

theorem append_inj_of_words {p : Char → Prop} {w w' s t : List Char} {a b : Char}
    (hw : ∀ c ∈ w, p c) (hw' : ∀ c ∈ w', p c) (ha : ¬ p a) (hb : ¬ p b)
    (h : w ++ a :: s = w' ++ b :: t) : w = w' ∧ a = b ∧ s = t := by
  induction w generalizing w' with
  | nil =>
      cases w' with
      | nil =>
          rw [List.nil_append, List.nil_append, List.cons.injEq] at h
          exact ⟨rfl, h⟩
      | cons d rest =>
          obtain ⟨rfl, -⟩ := List.cons.inj h
          exact absurd (hw' a (by simp)) ha
  | cons c rest ih =>
      cases w' with
      | nil =>
          obtain ⟨rfl, -⟩ := List.cons.inj h
          exact absurd (hw c (by simp)) hb
      | cons d rest' =>
          obtain ⟨rfl, hrest⟩ := List.cons.inj h
          obtain ⟨hword, hends⟩ := ih (fun x hx => hw x (List.mem_cons_of_mem _ hx))
            (fun x hx => hw' x (List.mem_cons_of_mem _ hx)) hrest
          exact ⟨by rw [hword], hends⟩

/-! ## Texts that cannot be taken for one another -/

/-- However the two texts go on, they differ. -/
def Apart (s t : List Char) : Prop := ∀ u v, s ++ u ≠ t ++ v

namespace Apart

variable {s t : List Char}

theorem of_not_prefix (h : ¬ s <+: t) (h' : ¬ t <+: s) : Apart s t := by
  intro u v heq
  rcases List.prefix_or_prefix_of_prefix (List.prefix_append s u) (heq ▸ List.prefix_append t v)
    with hst | hts
  · exact h hst
  · exact h' hts

theorem of_pairwise {ι : Type} {text : ι → String}
    (h : ∀ i j, i ≠ j → ¬ (text i).toList <+: (text j).toList) :
    ∀ i j, i ≠ j → Apart (text i).toList (text j).toList :=
  fun i j hne => of_not_prefix (h i j hne) (h j i hne.symm)

theorem append_right (h : Apart s t) (r : List Char) : Apart (s ++ r) t := by
  intro u v heq
  rw [List.append_assoc] at heq
  exact h _ _ heq

end Apart

end Formula

open Formula

/-- A notation for formulas. -/
structure Style where
  casing : String → String
  beforeName : String
  afterName : String
  opening : Operator → String
  closing : Operator → String
  left : String
  between : Connective → String
  right : String

namespace Style

variable (style : Style)

def named (name : String) : String := style.beforeName ++ style.casing name ++ style.afterName

def operator (o : Operator) (body : String) : String := style.opening o ++ body ++ style.closing o

def connective (c : Connective) (left right : String) : String :=
  style.left ++ left ++ style.between c ++ right ++ style.right

/-- What the notation writes for a formula. -/
def write : Formula → String
  | .predicate name => style.named name
  | .not body => style.operator .not (write body)
  | .and left right => style.connective .and (write left) (write right)
  | .or left right => style.connective .or (write left) (write right)
  | .implies left right => style.connective .implies (write left) (write right)
  | .necessarily body => style.operator .necessarily (write body)
  | .possibly body => style.operator .possibly (write body)
  | .exist body => style.operator .exist (write body)
  | .all body => style.operator .all (write body)

theorem write_operator (o : Operator) (body : Formula) :
    style.write (o.apply body) = style.operator o (style.write body) := by
  cases o <;> rfl

theorem write_connective (c : Connective) (left right : Formula) :
    style.write (c.apply left right) =
      style.connective c (style.write left) (style.write right) := by
  cases c <;> rfl

theorem toList_write_operator (o : Operator) (body : Formula) (s : List Char) :
    (style.write (o.apply body)).toList ++ s = (style.opening o).toList ++
      ((style.write body).toList ++ ((style.closing o).toList ++ s)) := by
  simp only [write_operator, operator, String.toList_append, List.append_assoc]

theorem toList_write_connective (c : Connective) (left right : Formula) (s : List Char) :
    (style.write (c.apply left right)).toList ++ s = style.left.toList ++
      ((style.write left).toList ++ ((style.between c).toList ++
        ((style.write right).toList ++ (style.right.toList ++ s)))) := by
  simp only [write_connective, connective, String.toList_append, List.append_assoc]

/-- A notation that does to every part what a writing function does is what that
function writes. -/
theorem write_eq {style : Style} {text : Formula → String}
    (hname : ∀ name, text (.predicate name) = style.named name)
    (hoperator : ∀ (o : Operator) body, text (o.apply body) = style.operator o (text body))
    (hconnective : ∀ (c : Connective) left right,
      text (c.apply left right) = style.connective c (text left) (text right)) (f : Formula) :
    style.write f = text f := by
  induction f using byParts with
  | predicate name => rw [hname, write]
  | operator o body ih => rw [write_operator, hoperator, ih]
  | connective c left right ihl ihr => rw [write_connective, hconnective, ihl, ihr]

/-- What the text of a formula can begin with. -/
inductive Start (style : Style) : List Char → Prop where
  | name {name : String} : IsWord name → Start style (style.named name).toList
  | operator (o : Operator) : Start style (style.opening o).toList
  | connective : Start style style.left.toList

theorem exists_start {f : Formula} (hf : ∀ name ∈ f.leaves, IsWord name) :
    ∃ start rest, style.Start start ∧ (style.write f).toList = start ++ rest := by
  induction f using byParts with
  | predicate name => exact ⟨_, [], .name (hf name (by simp [leaves])), by simp [write]⟩
  | operator o body =>
      have htext := style.toList_write_operator o body []
      rw [List.append_nil] at htext
      exact ⟨_, _, .operator o, htext⟩
  | connective c left right =>
      have htext := style.toList_write_connective c left right []
      rw [List.append_nil] at htext
      exact ⟨_, _, .connective, htext⟩

/-- Where a name could begin, the text has something else; `letter` is what the
notation does to the letters of words. -/
def NoName (letter : Char → Char) (text : String) : Prop :=
  ∃ c rest, text.toList = style.beforeName.toList ++ c :: rest ∧
    ∀ d, IsWordChar d → letter d ≠ c

/-- The texts of a notation can be told apart. -/
structure Readable (letter : Char → Char) : Prop where
  casing : ∀ name, IsWord name → (style.casing name).toList = name.toList.map letter
  toLower_letter : ∀ c, IsWordChar c → (letter c).toLower = c.toLower
  letter_toLower : ∀ c, IsWordChar c → letter c.toLower = letter c
  name_ends : ∃ c rest, style.afterName.toList = c :: rest ∧ ∀ d, IsWordChar d → letter d ≠ c
  operators : ∀ o o', o ≠ o' → Apart (style.opening o).toList (style.opening o').toList
  connectives : ∀ c c', c ≠ c' → Apart (style.between c).toList (style.between c').toList
  noName_opening : ∀ o, style.NoName letter (style.opening o)
  noName_left : style.NoName letter style.left
  connective_operator : ∀ start o, style.Start start →
    Apart (style.left.toList ++ start) (style.opening o).toList

namespace Readable

variable {style : Style} {letter : Char → Char}

theorem toLower_casing (h : style.Readable letter) {name : String} (hname : IsWord name) :
    (style.casing name).toLower = name.toLower := by
  rw [← String.toList_inj, toList_toLower, toList_toLower, h.casing name hname, List.map_map]
  exact List.map_congr_left fun c hc => h.toLower_letter c (hname.2 c hc)

theorem name_inj (h : style.Readable letter) {name name' : String} (hname : IsWord name)
    (hname' : IsWord name') {s t : List Char}
    (heq : (style.named name).toList ++ s = (style.named name').toList ++ t) :
    name.toLower = name'.toLower ∧ s = t := by
  obtain ⟨c, rest, hafter, hends⟩ := h.name_ends
  have hletters : ∀ n, IsWord n → ∀ d ∈ (style.casing n).toList, d ≠ c := by
    intro n hn d hd
    rw [h.casing n hn] at hd
    obtain ⟨e, he, rfl⟩ := List.mem_map.mp hd
    exact hends e (hn.2 e he)
  simp only [named, String.toList_append, hafter, List.append_assoc, List.cons_append,
    List.append_cancel_left_eq] at heq
  obtain ⟨hword, -, hrest⟩ := append_inj_of_words (hletters name hname) (hletters name' hname')
    (not_not_intro rfl) (not_not_intro rfl) heq
  refine ⟨?_, List.append_cancel_left hrest⟩
  rw [← h.toLower_casing hname, ← h.toLower_casing hname', String.toList_inj.mp hword]

theorem named_apart (h : style.Readable letter) {name text : String} (hname : IsWord name)
    (htext : style.NoName letter text) : Apart (style.named name).toList text.toList := by
  obtain ⟨c, rest, htext, hother⟩ := htext
  intro u v heq
  simp only [named, String.toList_append, htext, List.append_assoc, List.cons_append,
    List.append_cancel_left_eq] at heq
  cases hletters : name.toList with
  | nil => exact hname.1 (String.toList_eq_nil_iff.mp hletters)
  | cons d letters =>
      rw [h.casing name hname, hletters] at heq
      exact hother d (hname.2 d (by simp [hletters])) (List.cons.inj heq).1

/-- The bracket of a connective and the left part behind it are no operator's text. -/
theorem connective_apart (h : style.Readable letter) {f : Formula}
    (hf : ∀ name ∈ f.leaves, IsWord name) (o : Operator) (s t : List Char) :
    style.left.toList ++ ((style.write f).toList ++ s) ≠ (style.opening o).toList ++ t := by
  obtain ⟨start, rest, hstart, hwrite⟩ := style.exists_start hf
  rw [hwrite, List.append_assoc, ← List.append_assoc]
  exact h.connective_operator start o hstart _ _

/-- Formulas whose texts begin alike are the same up to the case of their names,
and what follows the two texts is the same. -/
theorem write_inj (h : style.Readable letter) {f g : Formula}
    (hf : ∀ name ∈ f.leaves, IsWord name) (hg : ∀ name ∈ g.leaves, IsWord name)
    {s t : List Char} (heq : (style.write f).toList ++ s = (style.write g).toList ++ t) :
    f.mapNames String.toLower = g.mapNames String.toLower ∧ s = t := by
  -- What follows the first part is compared once that part is known to end alike, so
  -- the induction is on `f` for every `g` and all that may follow.
  induction f using byParts generalizing g s t with
  | predicate name =>
      have hname := hf name (by simp [leaves])
      cases g using byParts with
      | predicate name' =>
          obtain ⟨hlower, hrest⟩ := h.name_inj hname (hg name' (by simp [leaves])) heq
          exact ⟨congrArg Formula.predicate hlower, hrest⟩
      | operator o body =>
          rw [toList_write_operator] at heq
          exact absurd heq (h.named_apart hname (h.noName_opening o) _ _)
      | connective c left right =>
          rw [toList_write_connective] at heq
          exact absurd heq (h.named_apart hname h.noName_left _ _)
  | operator o body ih =>
      rw [leaves_operator] at hf
      rw [toList_write_operator] at heq
      cases g using byParts with
      | predicate name' =>
          have hname' := hg name' (by simp [leaves])
          exact absurd heq.symm (h.named_apart hname' (h.noName_opening o) _ _)
      | operator o' body' =>
          rw [leaves_operator] at hg
          rw [toList_write_operator] at heq
          by_cases ho : o = o'
          · subst ho
            obtain ⟨hbody, hrest⟩ := ih hf hg (List.append_cancel_left heq)
            rw [mapNames_operator, mapNames_operator, hbody]
            exact ⟨rfl, List.append_cancel_left hrest⟩
          · exact absurd heq (h.operators o o' ho _ _)
      | connective c left right =>
          rw [leaves_connective, List.forall_mem_append] at hg
          rw [toList_write_connective] at heq
          exact absurd heq.symm (h.connective_apart hg.1 o _ _)
  | connective c left right ihl ihr =>
      rw [leaves_connective, List.forall_mem_append] at hf
      rw [toList_write_connective] at heq
      cases g using byParts with
      | predicate name' =>
          have hname' := hg name' (by simp [leaves])
          exact absurd heq.symm (h.named_apart hname' h.noName_left _ _)
      | operator o body =>
          rw [toList_write_operator] at heq
          exact absurd heq (h.connective_apart hf.1 o _ _)
      | connective c' left' right' =>
          rw [leaves_connective, List.forall_mem_append] at hg
          rw [toList_write_connective] at heq
          -- The left parts are the same, so the signs stand at the same place.
          obtain ⟨hl, hsign⟩ := ihl hf.1 hg.1 (List.append_cancel_left heq)
          by_cases hc : c = c'
          · subst hc
            obtain ⟨hr, hrest⟩ := ihr hf.2 hg.2 (List.append_cancel_left hsign)
            rw [mapNames_connective, mapNames_connective, hl, hr]
            exact ⟨rfl, List.append_cancel_left hrest⟩
          · exact absurd hsign (h.connectives c c' hc _ _)

/-- The text of a formula does not depend on the case of its names: it is what a
notation writes that takes them in lower case. -/
theorem write_eq_write_toLower (h : style.Readable letter) {f : Formula}
    (hf : ∀ name ∈ f.leaves, IsWord name) :
    style.write f =
      write { style with casing := fun name => String.ofList (name.toList.map letter) }
        (f.mapNames String.toLower) := by
  induction f using byParts with
  | predicate name =>
      have hname := hf name (by simp [leaves])
      have hcasing : style.casing name = String.ofList (name.toLower.toList.map letter) := by
        rw [← String.toList_inj, String.toList_ofList, h.casing name hname, toList_toLower,
          List.map_map]
        exact List.map_congr_left fun c hc => (h.letter_toLower c (hname.2 c hc)).symm
      simp only [write, mapNames, named, hcasing]
  | operator o body ih =>
      rw [leaves_operator] at hf
      rw [write_operator, mapNames_operator, write_operator, ih hf]
      rfl
  | connective c left right ihl ihr =>
      rw [leaves_connective, List.forall_mem_append] at hf
      rw [write_connective, mapNames_connective, write_connective, ihl hf.1, ihr hf.2]
      rfl

theorem write_eq_iff (h : style.Readable letter) {f g : Formula}
    (hf : ∀ name ∈ f.leaves, IsWord name) (hg : ∀ name ∈ g.leaves, IsWord name) :
    style.write f = style.write g ↔ f.mapNames String.toLower = g.mapNames String.toLower := by
  constructor
  · intro heq
    exact (h.write_inj hf hg (s := []) (t := []) (by rw [heq])).1
  · intro heq
    rw [h.write_eq_write_toLower hf, h.write_eq_write_toLower hg, heq]

end Readable

end Style

end Syllogistic
