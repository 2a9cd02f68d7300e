import Mathlib.Data.List.Sort
import Syllogistic.Proofs.Syllogism.Shape

/-!
# When renaming is substitution

A formula is its shape and its leaves, and a renaming leaves the shape alone. So two
maps of names do the same to a formula exactly if they agree on the names in it. The
maps that the laws of renaming compare differ at one name at most, and each law comes
down to two questions: whether that name is in the formula, and what becomes of it.

Renaming back is one of these laws. A leaf that had the new name from the start is
taken for a renamed one and gets the old name with the others. Renaming two names one
after the other is another. The second renaming sees what the first has put in, and
if that is the name it looks for, it renames it again, as the simultaneous
substitution never does. Premises are made from their templates that way; the
placeholder renamed second is none of the terms of a figure, so nothing is caught.
-/

namespace Syllogistic

namespace Formula

variable {f g : Formula} {old new : String}

/-! ## Shape, leaves and maps of names -/

theorem length_leaves_of_shape (h : f.shape = g.shape) : f.leaves.length = g.leaves.length := by
  have hlength := congrArg (fun formula => formula.leaves.length) h
  simpa only [shape, leaves_mapNames, List.length_map] using hlength

theorem eq_of_shape_of_leaves (hshape : f.shape = g.shape) (hleaves : f.leaves = g.leaves) :
    f = g := by
  induction f generalizing g with
  | predicate name =>
      cases g <;> simp [shape, mapNames] at hshape
      simpa [leaves] using hleaves
  | not body ih | necessarily body ih | possibly body ih | exist body ih | all body ih =>
      cases g <;> simp [shape, mapNames] at hshape
      rw [ih hshape hleaves]
  | and left right ihl ihr | or left right ihl ihr | implies left right ihl ihr =>
      -- The leaves stand in one row, and the shape of the left part tells where to cut it.
      cases g <;> simp [shape, mapNames] at hshape
      obtain ⟨hl, hr⟩ := List.append_inj hleaves (length_leaves_of_shape hshape.1)
      rw [ihl hshape.1 hl, ihr hshape.2 hr]

theorem eq_mapNames_iff {s : String → String} :
    g = f.mapNames s ↔ g.shape = f.shape ∧ g.leaves = f.leaves.map s := by
  constructor
  · rintro rfl
    exact ⟨shape_mapNames s f, leaves_mapNames s f⟩
  · rintro ⟨hshape, hleaves⟩
    apply eq_of_shape_of_leaves
    · rw [hshape, shape_mapNames]
    · rw [hleaves, leaves_mapNames]

theorem mapNames_id (f : Formula) : f.mapNames id = f := by
  have h : f = f.mapNames id := eq_mapNames_iff.mpr ⟨rfl, (List.map_id f.leaves).symm⟩
  exact h.symm

theorem mapNames_eq_iff {s t : String → String} :
    f.mapNames s = f.mapNames t ↔ ∀ name ∈ f.names, s name = t name := by
  rw [eq_mapNames_iff, shape_mapNames, leaves_mapNames, List.map_inj_left]
  simp only [mem_names, true_and]

/-- Maps that differ at one name at most are told apart by that name. -/
theorem mapNames_eq_iff_at {s t : String → String} (name : String)
    (h : ∀ other, other ≠ name → s other = t other) :
    f.mapNames s = f.mapNames t ↔ name ∉ f.names ∨ s name = t name := by
  rw [mapNames_eq_iff]
  constructor
  · intro hall
    by_cases hmem : name ∈ f.names
    · exact Or.inr (hall name hmem)
    · exact Or.inl hmem
  · intro hname other hother
    by_cases heq : other = name
    · rw [heq] at hother ⊢
      exact hname.resolve_left (not_not_intro hother)
    · exact h other heq

theorem mapNames_eq_self_iff_at {s : String → String} (name : String)
    (h : ∀ other, other ≠ name → s other = other) :
    f.mapNames s = f ↔ name ∉ f.names ∨ s name = name := by
  have hid := mapNames_eq_iff_at (f := f) (t := id) name h
  rwa [mapNames_id] at hid

theorem rename_eq_self_iff : f.rename old new = f ↔ old ∉ f.names ∨ new = old := by
  rw [rename, mapNames_eq_self_iff_at old (fun other hother => if_neg hother), if_pos rfl]

theorem rename_rename_eq_self_iff :
    (f.rename old new).rename new old = f ↔ new ∉ f.names ∨ old = new := by
  rw [rename, rename, mapNames_mapNames, mapNames_eq_self_iff_at new]
  · by_cases h : new = old <;> simp [h, eq_comm]
  · intro other hother
    by_cases h : other = old <;> simp [h, hother]

/-! ## The names of a renamed formula -/

theorem pairwise_insertName {name : String} {sorted : List String}
    (h : sorted.Pairwise (· < ·)) : (insertName name sorted).Pairwise (· < ·) := by
  induction sorted with
  | nil => simp [insertName]
  | cons first rest ih =>
      rw [List.pairwise_cons] at h
      rw [insertName]
      split
      next hlt =>
          refine List.pairwise_cons.mpr ⟨?_, List.pairwise_cons.mpr h⟩
          intro other hother
          rcases List.mem_cons.mp hother with rfl | hrest
          · exact hlt
          · exact String.lt_trans hlt (h.1 other hrest)
      next hge =>
          split
          next hlt =>
              refine List.pairwise_cons.mpr ⟨?_, ih h.2⟩
              intro other hother
              rcases mem_insertName.mp hother with rfl | hrest
              · exact hlt
              · exact h.1 other hrest
          next => exact List.pairwise_cons.mpr h

theorem increasing_names (f : Formula) : f.names.Pairwise (· < ·) := by
  rw [names]
  induction f.leaves with
  | nil => exact List.Pairwise.nil
  | cons leaf rest ih => exact pairwise_insertName ih

theorem mem_names_rename {name : String} :
    name ∈ (f.rename old new).names ↔
      old ∈ f.names ∧ name = new ∨ name ≠ old ∧ name ∈ f.names := by
  simp only [mem_names, rename, leaves_mapNames, List.mem_map]
  constructor
  · rintro ⟨leaf, hleaf, rfl⟩
    by_cases h : leaf = old
    · subst h
      exact Or.inl ⟨hleaf, if_pos rfl⟩
    · rw [if_neg h]
      exact Or.inr ⟨h, hleaf⟩
  · rintro (⟨hold, rfl⟩ | ⟨hne, hname⟩)
    · exact ⟨old, hold, if_pos rfl⟩
    · exact ⟨name, hname, if_neg hne⟩

theorem names_rename :
    (f.rename old new).names =
      if old ∈ f.names then insertName new (f.names.erase old) else f.names := by
  split
  next hold =>
      have hnodup : f.names.Nodup := (increasing_names f).nodup
      have hsorted : (f.names.erase old).Pairwise (· < ·) :=
        (increasing_names f).sublist List.erase_sublist
      refine (increasing_names _).eq_of_mem_iff (pairwise_insertName hsorted) fun name => ?_
      rw [mem_names_rename, mem_insertName, hnodup.mem_erase_iff]
      simp only [hold, true_and]
  next hold => rw [rename_eq_self_iff.mpr (Or.inl hold)]

/-- What a renaming makes of a formula: the same tree with another name at some of its
leaves, and one name of its set given up for another. -/
structure Renamed (old new : String) (f g : Formula) : Prop where
  shape : g.shape = f.shape
  depth : g.depth = f.depth
  leaves : g.leaves = f.leaves.map fun name => if name = old then new else name
  names : g.names = if old ∈ f.names then insertName new (f.names.erase old) else f.names

theorem renamed_iff : Renamed old new f g ↔ g = f.rename old new := by
  constructor
  · intro h
    exact eq_mapNames_iff.mpr ⟨h.shape, h.leaves⟩
  · rintro rfl
    exact
      { shape := shape_mapNames _ f
        depth := depth_mapNames _ f
        leaves := leaves_mapNames _ f
        names := names_rename }

/-! ## Simultaneous substitution -/

/-- The name that is put for another by a list of old and new names. -/
def replacement (pairs : List (String × String)) (name : String) : String :=
  (pairs.lookup name).getD name

/-- Puts new names for old ones at one time: each leaf is looked up once, by the name it
has to begin with, and the first pair for that name counts. -/
def substitute (pairs : List (String × String)) : Formula → Formula :=
  mapNames (replacement pairs)

variable {pairs : List (String × String)}

theorem eq_substitute_iff :
    g = f.substitute pairs ↔ g.shape = f.shape ∧ g.leaves = f.leaves.map (replacement pairs) :=
  eq_mapNames_iff

theorem replacement_cons (name : String) :
    replacement ((old, new) :: pairs) name =
      if name = old then new else replacement pairs name := by
  rw [replacement, List.lookup_cons]
  by_cases h : name = old
  · simp [h]
  · rw [if_neg h, beq_false_of_ne h, replacement]

theorem rename_eq_substitute : f.rename old new = f.substitute [(old, new)] := by
  rw [rename, substitute, mapNames_eq_iff]
  intro name _
  rw [replacement_cons]
  rfl

/-- A renaming goes into the substitution that follows it, unless its new name is
replaced there. -/
theorem substitute_rename_iff :
    (f.rename old new).substitute pairs = f.substitute ((old, new) :: pairs) ↔
      old ∉ f.names ∨ replacement pairs new = new := by
  rw [rename, substitute, substitute, mapNames_mapNames, mapNames_eq_iff_at old]
  · simp [replacement_cons]
  · intro other hother
    simp [replacement_cons, hother]

theorem rename_rename_iff {a b c d : String} :
    (f.rename a c).rename b d = f.substitute [(a, c), (b, d)] ↔
      a ∉ f.names ∨ c ≠ b ∨ d = b := by
  rw [rename_eq_substitute, substitute_rename_iff, replacement_cons]
  by_cases h : c = b <;> simp [h, replacement]

-- The leaf that was `F` is caught on its way, and the two can no longer be told apart.
example : ((and Template.f Template.g).rename "F" "G").rename "G" "P" =
    and (predicate "P") (predicate "P") := by decide

end Formula

/-! ## Premises -/

/-- The terms put for the placeholders. -/
def Terms.assignment (terms : Terms) : List (String × String) :=
  [(Template.subject, terms.subject), (Template.object, terms.object)]

namespace Premise

variable {premise : Premise} {terms : Terms}

theorem subject_mem_names :
    Template.subject ∈ (template premise.modality premise.mood).names := by
  rw [Formula.mem_names]
  refine List.mem_of_mem_take (i := 2) ?_
  rw [leaves_template]
  exact List.mem_cons_self

/-- The subject's placeholder is in every template, so the condition is exact. -/
theorem onTerms_eq_substitute_iff :
    premise.onTerms terms =
        (template premise.modality premise.mood).substitute terms.assignment ↔
      terms.subject ≠ Template.object ∨ terms.object = Template.object := by
  rw [onTerms, Terms.assignment, Formula.rename_rename_iff]
  exact or_iff_right (not_not_intro subject_mem_names)

theorem onTerms_of_ne (h : terms.subject ≠ Template.object) :
    premise.onTerms terms =
      (template premise.modality premise.mood).substitute terms.assignment :=
  onTerms_eq_substitute_iff.mpr (Or.inl h)

end Premise

/-- Renaming keeps the tree and gives up one name of the set for another. The opposite
renaming undoes it exactly if the new name was not there before, or is the old one. Two
renamings one after the other are the simultaneous substitution exactly if the second
does not catch what the first puts in, and in the making of a premise it never does. -/
theorem renamings_substitute (f : Formula) (premise : Premise) (figure : Figure) :
    (∀ old new g, Formula.Renamed old new f g ↔ g = f.rename old new) ∧
    (∀ old new, (f.rename old new).rename new old = f ↔ new ∉ f.names ∨ old = new) ∧
    (∀ pairs g, g = f.substitute pairs ↔
      g.shape = f.shape ∧ g.leaves = f.leaves.map (Formula.replacement pairs)) ∧
    (∀ a b c d, (f.rename a c).rename b d = f.substitute [(a, c), (b, d)] ↔
      a ∉ f.names ∨ c ≠ b ∨ d = b) ∧
    premise.onTerms figure.major =
      (template premise.modality premise.mood).substitute figure.major.assignment ∧
    premise.onTerms figure.minor =
      (template premise.modality premise.mood).substitute figure.minor.assignment ∧
    premise.onTerms Figure.conclusion =
      (template premise.modality premise.mood).substitute Figure.conclusion.assignment := by
  refine ⟨?_, ?_, ?_, ?_, ?_, ?_, ?_⟩
  · intro old new g
    exact Formula.renamed_iff
  · intro old new
    exact Formula.rename_rename_eq_self_iff
  · intro pairs g
    exact Formula.eq_substitute_iff
  · intro a b c d
    exact Formula.rename_rename_iff
  · exact Premise.onTerms_of_ne figure.subject_ne_object.1
  · exact Premise.onTerms_of_ne figure.subject_ne_object.2
  · exact Premise.onTerms_of_ne (by decide)

end Syllogistic
