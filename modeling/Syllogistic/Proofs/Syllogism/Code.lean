import Syllogistic.Syllogism.Code

/-!
# Which texts are codes

A code has seven places and three alphabets: a digit first, then letters of moods and signs of
readings in turn. The reader takes a code in four parts and gives up at the first part that it
cannot read, so what it reports is what a walk over all places from left to right would stop
at. The proof goes that way round: each part is read exactly if the walk passes it, and
otherwise its fault is where the walk stops. Two walks one after the other are one walk, which
puts the four parts together.

What the walk passes are the codes of constructions and nothing else, since each character
names one choice only at the place where it stands. `A` is a mood and a reading.
-/

namespace Syllogistic

namespace CodeError

/-- The characters that may stand at a place of a code. -/
def alphabet (place : Nat) : List Char :=
  if place = 0 then ['1', '2', '3', '4']
  else if place % 2 = 1 then ['A', 'E', 'I', 'O']
  else ['0', 'a', 'A', 'n', 'N', 'p', 'P']

/-- The fault of a character that may not stand at its place. -/
def misplaced (place : Nat) (found : Char) : CodeError :=
  if place = 0 then .figure found
  else if place % 2 = 1 then .mood found place
  else .modality found place

/-- The leftmost character of a text that may not stand at its place, and that place. -/
structure Leftmost (text : List Char) (place : Nat) (found : Char) : Prop where
  found_at : text[place]? = some found
  not_mem : found ∉ alphabet place
  before : ∀ earlier < place, ∀ c, text[earlier]? = some c → c ∈ alphabet earlier

/-- What a walk over characters that start at a place stops at. -/
def firstFault (place : Nat) : List Char → Option CodeError
  | [] => none
  | c :: rest =>
    if c ∈ alphabet place then firstFault (place + 1) rest else some (misplaced place c)

variable {place : Nat} {text rest : List Char} {error : CodeError}

theorem firstFault_append :
    firstFault place (text ++ rest) =
      (firstFault place text).or (firstFault (place + text.length) rest) := by
  induction text generalizing place with
  | nil => rfl
  | cons c text ih =>
      rw [List.cons_append, firstFault, firstFault, ih, List.length_cons, Nat.add_right_comm,
        ← Nat.add_assoc]
      split <;> rfl

theorem firstFault_eq_some_iff :
    firstFault place text = some error ↔
      ∃ i found, text[i]? = some found ∧ found ∉ alphabet (place + i) ∧
        (∀ j < i, ∀ c, text[j]? = some c → c ∈ alphabet (place + j)) ∧
        error = misplaced (place + i) found := by
  induction text generalizing place with
  | nil => simp [firstFault]
  | cons c text ih =>
      rw [firstFault]
      split
      · next hmem =>
          rw [ih]
          constructor
          · rintro ⟨i, found, hfound, hnot, hbefore, rfl⟩
            refine ⟨i + 1, found, hfound, by rwa [Nat.add_right_comm] at hnot, ?_,
              by rw [Nat.add_right_comm, ← Nat.add_assoc]⟩
            rintro (_ | j) hj d hd
            · cases hd
              exact hmem
            · have := hbefore j (by omega) d hd
              rwa [Nat.add_right_comm] at this
          · rintro ⟨_ | i, found, hfound, hnot, hbefore, rfl⟩
            · cases hfound
              exact absurd hmem hnot
            · refine ⟨i, found, hfound, by rwa [Nat.add_right_comm], fun j hj d hd => ?_,
                by rw [Nat.add_right_comm, ← Nat.add_assoc]⟩
              have := hbefore (j + 1) (by omega) d hd
              rwa [← Nat.add_assoc, Nat.add_right_comm] at this
      · next hmem =>
          constructor
          · intro h
            cases h
            exact ⟨0, c, rfl, hmem, fun _ hj => absurd hj (Nat.not_lt_zero _), rfl⟩
          · rintro ⟨_ | i, found, hfound, -, hbefore, rfl⟩
            · cases hfound
              rfl
            · exact absurd (hbefore 0 (Nat.succ_pos i) c rfl) hmem

theorem firstFault_zero_iff :
    firstFault 0 text = some error ↔
      ∃ place found, Leftmost text place found ∧ error = misplaced place found := by
  rw [firstFault_eq_some_iff]
  simp only [Nat.zero_add]
  constructor
  · rintro ⟨i, found, hfound, hnot, hbefore, herror⟩
    exact ⟨i, found, ⟨hfound, hnot, hbefore⟩, herror⟩
  · rintro ⟨i, found, hleftmost, herror⟩
    exact ⟨i, found, hleftmost.found_at, hleftmost.not_mem, hleftmost.before, herror⟩

end CodeError

open CodeError

/-! ## The parts of a code

A sign is looked up among the signs of all choices, so it is found if it is in the alphabet of
its place, and what is found has that sign. -/

theorem find?_cases {α : Type} (values : List α) (sign : α → Char) (c : Char) :
    (∃ a, values.find? (sign · == c) = some a ∧ c = sign a ∧ c ∈ values.map sign) ∨
      values.find? (sign · == c) = none ∧ c ∉ values.map sign := by
  cases hfind : values.find? (sign · == c) with
  | some a =>
      have hsign : sign a = c := by simpa using List.find?_some hfind
      exact .inl ⟨a, rfl, hsign.symm, List.mem_map.mpr ⟨a, List.mem_of_find?_eq_some hfind, hsign⟩⟩
  | none =>
      refine .inr ⟨rfl, fun hmem => ?_⟩
      obtain ⟨a, ha, hsign⟩ := List.mem_map.mp hmem
      exact List.find?_eq_none.mp hfind a ha (beq_iff_eq.mpr hsign)

theorem alphabet_figure : alphabet 0 = Figure.values.map Figure.digit := rfl

theorem alphabet_mood {place : Nat} (h : place % 2 = 1) :
    alphabet place = Mood.values.map Mood.letter := by
  rw [alphabet, if_neg (by omega), if_pos h]
  rfl

theorem alphabet_modality {place : Nat} (h : place % 2 = 1) :
    alphabet (place + 1) = Modality.values.map Modality.sign := by
  rw [alphabet, if_neg (by omega), if_neg (by omega)]
  rfl

/-- A part of a code is read if the walk passes it, and it is the part that stands for what is
read; otherwise its fault is what the walk stops at. -/
inductive ReadsAt {α : Type} (place : Nat) (text : List Char) (code : α → List Char) :
    Except CodeError α → Prop
  | read (a : α) : text = code a → firstFault place text = none → ReadsAt place text code (.ok a)
  | stopped (error : CodeError) : firstFault place text = some error →
      ReadsAt place text code (.error error)

theorem Figure.readsAt (c : Char) :
    ReadsAt 0 [c] (fun figure => [digit figure]) (ofCode c) := by
  rw [ofCode, ofDigit?]
  rcases find?_cases values digit c with ⟨figure, hfind, hdigit, hmem⟩ | ⟨hfind, hmem⟩
  · rw [hfind]
    rw [← alphabet_figure] at hmem
    exact .read figure (by rw [hdigit]) (by rw [firstFault, if_pos hmem, firstFault])
  · rw [hfind]
    rw [← alphabet_figure] at hmem
    exact .stopped _ (by rw [firstFault, if_neg hmem]; rfl)

theorem Premise.readsAt {place : Nat} (h : place % 2 = 1) (letter sign : Char) :
    ReadsAt place [letter, sign] signs (ofCode letter sign place) := by
  have hmoodFault : misplaced place letter = .mood letter place := by
    rw [misplaced, if_neg (by omega), if_pos h]
  have hsignFault : misplaced (place + 1) sign = .modality sign (place + 1) := by
    rw [misplaced, if_neg (by omega), if_neg (by omega)]
  rw [ofCode, Mood.ofLetter?, Modality.ofSign?]
  rcases find?_cases Mood.values Mood.letter letter with
    ⟨mood, hmood, hletter, hmem⟩ | ⟨hmood, hmem⟩
  · rw [hmood]
    dsimp only
    rw [← alphabet_mood h] at hmem
    rcases find?_cases Modality.values Modality.sign sign with
      ⟨modality, hmodality, hsign, hnext⟩ | ⟨hmodality, hnext⟩
    · rw [hmodality]
      rw [← alphabet_modality h] at hnext
      have hpassed : firstFault place [letter, sign] = none := by
        rw [firstFault, if_pos hmem, firstFault, if_pos hnext, firstFault]
      exact .read (⟨mood, modality⟩ : Premise) (by rw [hletter, hsign, signs]) hpassed
    · rw [hmodality]
      rw [← alphabet_modality h] at hnext
      exact .stopped _ (by rw [firstFault, if_pos hmem, firstFault, if_neg hnext, hsignFault])
  · rw [hmood]
    rw [← alphabet_mood h] at hmem
    exact .stopped _ (by rw [firstFault, if_neg hmem, hmoodFault])

/-- Two parts that are read one after the other make one part. -/
theorem ReadsAt.andThen {α β γ : Type} {place next : Nat} {text rest : List Char}
    {first : α → List Char} {second : β → List Char} {outcome : Except CodeError α}
    {after : Except CodeError β} (join : α → β → γ) (code : γ → List Char)
    (h : ReadsAt place text first outcome) (hrest : ReadsAt next rest second after)
    (hnext : next = place + text.length)
    (hcode : ∀ a b, code (join a b) = first a ++ second b) :
    ReadsAt place (text ++ rest) code (outcome.bind fun a => after.map (join a)) := by
  subst hnext
  cases h with
  | stopped error hfault => exact .stopped error (by rw [firstFault_append, hfault, Option.some_or])
  | read a htext hpassed =>
      cases hrest with
      | stopped error hfault =>
          exact .stopped error (by rw [firstFault_append, hpassed, hfault, Option.none_or])
      | read b hrest hpassed' =>
          exact .read (join a b) (by rw [hcode, htext, hrest])
            (by rw [firstFault_append, hpassed, hpassed', Option.none_or])

/-! ## Whole codes -/

theorem exists_seven {α : Type} {l : List α} (h : l.length = 7) :
    ∃ a b c d e f g, l = [a, b, c, d, e, f, g] := by
  rcases l with _ | ⟨a, _ | ⟨b, _ | ⟨c, _ | ⟨d, _ | ⟨e, _ | ⟨f, _ | ⟨g, _ | ⟨_, _⟩⟩⟩⟩⟩⟩⟩⟩ <;>
    simp at h ⊢

theorem Construction.readsAt {text : String} (h : text.length = 7) :
    ReadsAt 0 text.toList (fun construction => construction.code.toList) (ofCode text) := by
  rw [← String.length_toList] at h
  obtain ⟨digit, majorMood, majorSign, minorMood, minorSign, conclusionMood, conclusionSign,
    htext⟩ := exists_seven h
  rw [ofCode, htext]
  have hfigure := Figure.readsAt digit
  have hmajor := Premise.readsAt (show 1 % 2 = 1 from rfl) majorMood majorSign
  have hminor := Premise.readsAt (show 3 % 2 = 1 from rfl) minorMood minorSign
  have hconclusion := Premise.readsAt (show 5 % 2 = 1 from rfl) conclusionMood conclusionSign
  have hlast := ReadsAt.andThen Prod.mk (fun p => p.1.signs ++ p.2.signs) hminor hconclusion rfl
    fun _ _ => rfl
  have hpremises := ReadsAt.andThen Prod.mk
    (fun p => p.1.signs ++ (p.2.1.signs ++ p.2.2.signs)) hmajor hlast rfl fun _ _ => rfl
  have hwhole := ReadsAt.andThen (fun figure p => ⟨figure, p.1, p.2.1, p.2.2⟩)
    (fun construction : Construction => construction.code.toList) hfigure hpremises rfl
    fun figure p => by simp [Construction.code]
  revert hwhole
  dsimp only
  cases Figure.ofCode digit <;> cases Premise.ofCode majorMood majorSign 1 <;>
    cases Premise.ofCode minorMood minorSign 3 <;>
    cases Premise.ofCode conclusionMood conclusionSign 5 <;> exact id

theorem Construction.ofCode_of_length_ne {text : String} (h : text.length ≠ 7) :
    ofCode text = .error (.length text.length) := by
  rw [← String.length_toList] at h ⊢
  rw [ofCode]
  split
  · next htext => exact absurd (congrArg List.length htext) h
  · rfl

/-- A text is read exactly if it is the code of a construction, and that construction is what is
read. Any other text is refused for its number of characters, if that is not seven, and else for
the leftmost character that may not stand at its place. A syllogism is read from exactly its own
code, and refused for the same faults. -/
theorem Construction.ofCode_iff (text : String) :
    (∀ construction, ofCode text = .ok construction ↔ text = construction.code) ∧
    (∀ error, ofCode text = .error error ↔
      text.length ≠ 7 ∧ error = .length text.length ∨
        text.length = 7 ∧
          ∃ place found, Leftmost text.toList place found ∧ error = misplaced place found) ∧
    (∀ syllogism, Syllogism.ofCode text = .ok syllogism ↔
      syllogism = syllogism.construction.build ∧ syllogism.code = text) ∧
    ∀ error, Syllogism.ofCode text = .error error ↔ ofCode text = .error error := by
  have hok : ∀ construction, ofCode text = .ok construction ↔ text = construction.code := by
    intro construction
    constructor
    · intro h
      by_cases hlength : text.length = 7
      · have hreads := readsAt hlength
        rw [h] at hreads
        cases hreads with
        | read _ htext _ => exact String.toList_inj.mp htext
      · rw [ofCode_of_length_ne hlength] at h
        cases h
    · rintro rfl
      exact ofCode_code construction
  refine ⟨hok, fun error => ?_, fun syllogism => ?_, fun error => ?_⟩
  · by_cases hlength : text.length = 7
    · have hreads := readsAt hlength
      simp only [hlength, ne_eq, not_true, false_and, true_and, false_or, ← firstFault_zero_iff]
      revert hreads
      cases ofCode text with
      | ok construction =>
          rintro (⟨_, _, hpassed⟩ | _)
          simp [hpassed]
      | error fault =>
          rintro (_ | ⟨_, hfault⟩)
          simp [hfault, eq_comm]
    · rw [ofCode_of_length_ne hlength]
      simp [hlength, eq_comm]
  · rw [Syllogism.ofCode]
    constructor
    · intro h
      cases hread : ofCode text with
      | error fault =>
          rw [hread] at h
          cases h
      | ok construction =>
          rw [hread] at h
          cases h
          exact ⟨rfl, ((hok construction).mp hread).symm⟩
    · rintro ⟨hbuild, hcode⟩
      have hread : ofCode text = .ok syllogism.construction := by
        rw [hok, ← hcode, hbuild]
        rfl
      rw [hread, hbuild]
      rfl
  · rw [Syllogism.ofCode]
    cases ofCode text <;> simp [Except.map]

/-- A mood is not read at the place of a reading's sign, though `A` is in both alphabets; and of
two faults the first is reported. -/
example : Construction.ofCode "1AA0AxB" = .error (.mood '0' 3) := rfl

end Syllogistic
