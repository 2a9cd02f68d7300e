import Syllogistic.Proofs.Wire.Datum
import Syllogistic.Wire.Message

/-!
# What is stored or sent comes back, whole or not at all

The codecs of formulas, syllogisms, engine results and records are lawful. All
but one are put together from those of their parts. The formula's own decoder is
recursive, and the recursion runs on the bytes themselves: a formula has no more
connectives on a path than bytes. So the decoder is canonical for the formulas
of bounded depth, by induction on the bound, and any two bounds that cover the
bytes give the same reading. A formula that is cut short needs the second part:
the bytes that are left of it may be too few for its depth, but reading them with
a larger bound makes no difference.
-/

namespace Syllogistic.Wire

/-! ## Alternatives -/

/-- A type with finitely many values: each is its number, without fields. -/
theorem LawfulCodec.ofValues {α : Type} [codec : Codec α] [Described α] [BEq α] [LawfulBEq α]
    {values : List α} (hcount : values.length < 256 ^ 4) (hnodup : values.Nodup)
    (hall : ∀ a, a ∈ values) (hcodec : codec = .ofValues values)
    (hdatum : ∀ a : α, datum a = .variant (values.idxOf a) []) : LawfulCodec α where
  encode_eq a := by
    subst hcodec
    show encodeTag (values.idxOf a) = _
    rw [hdatum, Datum.bytes, bytesOfAll, List.append_nil, fixedBytes_eq, encodeTag]
  canonical := by
    subst hcodec
    refine ((canonical_littleEndian 4).bind (fun a => values.idxOf a) (fun _ => [])
      (fun _ => True) ?_).congr (fun _ _ => (List.append_nil _).symm) fun a => ?_
    · intro tag _
      cases ha : values[tag]? with
      | some a =>
          refine (Canonical.pure a).congr (fun _ _ => rfl) fun b => ?_
          obtain ⟨hlt, rfl⟩ := List.getElem?_eq_some_iff.mp ha
          constructor
          · rintro ⟨rfl, -⟩
            exact (List.getElem_idxOf hlt).symm
          · rintro rfl
            exact ⟨hnodup.idxOf_getElem tag hlt, trivial⟩
      | none =>
          refine Canonical.fail (fun b hb => ?_) _
          have hlt := List.idxOf_lt_length_of_mem (hall b)
          have hle := List.getElem?_eq_none_iff.mp ha
          omega
    · have hlt := List.idxOf_lt_length_of_mem (hall a)
      refine ⟨fun _ => ⟨by omega, trivial⟩, fun _ n hn => ?_⟩
      rw [hdatum, Datum.lengths, lengthsOfAll] at hn
      cases hn

instance : Described Mood := ⟨fun mood => .variant (Mood.values.idxOf mood) []⟩
instance : Described Modality := ⟨fun reading => .variant (Modality.values.idxOf reading) []⟩
instance : Described Figure := ⟨fun figure => .variant (Figure.values.idxOf figure) []⟩

instance : Described Verdict :=
  ⟨fun verdict => .variant ([Verdict.proved, .refuted, .unknown].idxOf verdict) []⟩

instance : LawfulCodec Mood :=
  .ofValues (by decide) (by decide) (by rintro (_ | _) <;> decide) rfl fun _ => rfl

instance : LawfulCodec Modality :=
  .ofValues (by decide) (by decide) (by rintro (_ | _) <;> decide) rfl fun _ => rfl

instance : LawfulCodec Figure :=
  .ofValues (by decide) (by decide) (by rintro (_ | _) <;> decide) rfl fun _ => rfl

instance : LawfulCodec Verdict :=
  .ofValues (by decide) (by decide) (by rintro (_ | _) <;> decide) rfl fun _ => rfl

/-! ## Formulas

The decoder of a formula goes as deep as it is given bytes, and every connective
takes bytes of its own, so it never stops for want of depth before it stops for
want of bytes. -/

/-- The form of a formula: the number of its outermost connective and its parts. -/
def formulaDatum : Formula → Datum
  | .predicate name => .variant 0 [.text name]
  | .not body => .variant 1 [formulaDatum body]
  | .and left right => .variant 2 [formulaDatum left, formulaDatum right]
  | .or left right => .variant 3 [formulaDatum left, formulaDatum right]
  | .implies left right => .variant 4 [formulaDatum left, formulaDatum right]
  | .necessarily body => .variant 5 [formulaDatum body]
  | .possibly body => .variant 6 [formulaDatum body]
  | .exist body => .variant 7 [formulaDatum body]
  | .all body => .variant 8 [formulaDatum body]

instance : Described Formula := ⟨formulaDatum⟩

/-- The number of the outermost connective. -/
def connective : Formula → Nat
  | .predicate _ => 0
  | .not _ => 1
  | .and _ _ => 2
  | .or _ _ => 3
  | .implies _ _ => 4
  | .necessarily _ => 5
  | .possibly _ => 6
  | .exist _ => 7
  | .all _ => 8

/-- The bytes of what the outermost connective joins. -/
def encodeParts : Formula → List UInt8
  | .predicate name => encode name
  | .not body | .necessarily body | .possibly body | .exist body | .all body =>
    encodeFormula body
  | .and left right | .or left right | .implies left right =>
    encodeFormula left ++ encodeFormula right

theorem encodeFormula_eq (formula : Formula) :
    encodeFormula formula = encodeTag (connective formula) ++ encodeParts formula := by
  cases formula <;> simp [encodeFormula, encodeParts, connective]

theorem encodeFormula_datum (formula : Formula) :
    encodeFormula formula = (formulaDatum formula).bytes := by
  induction formula <;>
    simp_all [encodeFormula, formulaDatum, Datum.bytes, bytesOfAll, fixedBytes_eq, encodeTag,
      LawfulCodec.encode_eq, datum]

/-- A formula whose names fit and that has no more connectives and leaves on a
path. -/
def FitsWithin : Nat → Formula → Prop
  | 0, _ => False
  | _ + 1, .predicate name => Fits name
  | depth + 1, .not body | depth + 1, .necessarily body | depth + 1, .possibly body
  | depth + 1, .exist body | depth + 1, .all body => FitsWithin depth body
  | depth + 1, .and left right | depth + 1, .or left right
  | depth + 1, .implies left right => FitsWithin depth left ∧ FitsWithin depth right

/-- What the outermost connective joins, by its number. -/
def decodeParts (part : Decoder Formula) : Nat → Decoder Formula
  | 0 => do return .predicate (← decode)
  | 1 => do return .not (← part)
  | 2 => do let left ← part; let right ← part; return .and left right
  | 3 => do let left ← part; let right ← part; return .or left right
  | 4 => do let left ← part; let right ← part; return .implies left right
  | 5 => do return .necessarily (← part)
  | 6 => do return .possibly (← part)
  | 7 => do return .exist (← part)
  | 8 => do return .all (← part)
  | tag => .fail (.unknownVariant tag 9)

theorem decodeFormula_cons (b : UInt8) (depth : List UInt8) :
    decodeFormula (b :: depth) = decodeTag >>= decodeParts (decodeFormula depth) := by
  rw [decodeFormula]
  rfl

theorem fits_formula {formula : Formula} :
    Fits formula ↔ ∀ name ∈ formula.leaves, Fits name := by
  have h : ∀ n, n ∈ (formulaDatum formula).lengths ↔
      ∃ name ∈ formula.leaves, n ∈ (datum name).lengths := by
    intro n
    induction formula with
    | predicate name => simp [formulaDatum, Formula.leaves, Datum.lengths, lengthsOfAll, datum]
    | not body ih | necessarily body ih | possibly body ih | exist body ih | all body ih =>
        simp [formulaDatum, Formula.leaves, Datum.lengths, lengthsOfAll, ih]
    | and left right ihl ihr | or left right ihl ihr | implies left right ihl ihr =>
        simp [formulaDatum, Formula.leaves, Datum.lengths, lengthsOfAll, ihl, ihr, or_and_right,
          exists_or]
  constructor
  · intro hfits name hname n hn
    exact hfits n ((h n).mpr ⟨name, hname, hn⟩)
  · intro hfits n hn
    obtain ⟨name, hname, hn⟩ := (h n).mp hn
    exact hfits name hname n hn

theorem fitsWithin_iff {depth : Nat} {formula : Formula} :
    FitsWithin depth formula ↔ Fits formula ∧ formula.depth ≤ depth := by
  induction depth generalizing formula with
  | zero => cases formula <;> simp [FitsWithin, Formula.depth]
  | succ depth ih =>
      rw [fits_formula]
      cases formula with
      | predicate name => simp [FitsWithin, Formula.leaves, Formula.depth]
      | not body | necessarily body | possibly body | exist body | all body =>
          simp [FitsWithin, Formula.leaves, Formula.depth, ih, fits_formula, Nat.add_comm 1]
      | and left right | or left right | implies left right =>
          simp only [FitsWithin, Formula.leaves, Formula.depth, ih, fits_formula,
            List.forall_mem_append]
          rw [Nat.add_comm 1, Nat.add_le_add_iff_right, Nat.max_le, and_and_and_comm]

/-- What one connective joins is read by readers of what it joins. -/
theorem canonical_decodeParts {depth : Nat} {part : Decoder Formula}
    (h : Canonical encodeFormula (FitsWithin depth) part) (tag : Nat) :
    Canonical encodeParts (fun f => connective f = tag ∧ FitsWithin (depth + 1) f)
      (decodeParts part tag) := by
  match tag with
  | 0 =>
      refine LawfulCodec.canonical.map (fun _ _ => rfl) fun f => ?_
      cases f <;> simp [connective, FitsWithin]
  | 1 | 5 | 6 | 7 | 8 =>
      refine h.map (fun _ _ => rfl) fun f => ?_
      cases f <;> simp [connective, FitsWithin]
  | 2 | 3 | 4 =>
      refine h.map₂ h (fun _ _ => rfl) fun f => ?_
      cases f <;> simp [connective, FitsWithin, and_assoc]
  | tag + 9 =>
      refine Canonical.fail (fun f hf => ?_) _
      cases f <;> simp [connective] at hf

theorem canonical_decodeFormula (depth : List UInt8) :
    Canonical encodeFormula (FitsWithin depth.length) (decodeFormula depth) := by
  induction depth with
  | nil =>
      rw [decodeFormula]
      exact Canonical.fail (fun _ h => h) _
  | cons b depth ih =>
      rw [decodeFormula_cons]
      refine ((canonical_littleEndian 4).bind connective encodeParts
        (FitsWithin (depth.length + 1)) fun tag _ =>
          canonical_decodeParts ih tag).congr (fun f _ => encodeFormula_eq f) fun f => ?_
      have hlt : connective f < 256 ^ 4 := by cases f <;> simp [connective]
      exact ⟨fun hf => ⟨hlt, hf⟩, And.right⟩

theorem depth_le_length (formula : Formula) :
    formula.depth ≤ (encodeFormula formula).length := by
  induction formula with
  | predicate name =>
      rw [encodeFormula, List.length_append, encodeTag, length_littleEndian, Formula.depth]
      omega
  | not body ih | necessarily body ih | possibly body ih | exist body ih | all body ih =>
      rw [encodeFormula, List.length_append, encodeTag, length_littleEndian, Formula.depth]
      omega
  | and left right ihl ihr | or left right ihl ihr | implies left right ihl ihr =>
      rw [encodeFormula, List.length_append, List.length_append, encodeTag,
        length_littleEndian, Formula.depth]
      omega

/-- Readers of the parts that agree on few bytes make readers of the whole that do. -/
theorem decodeParts_congr {part part' : Decoder Formula} {bytes : List UInt8}
    (h : ∀ more, more.length ≤ bytes.length → part more = part' more)
    (hrest : ∀ formula rest, part bytes = .ok (formula, rest) → rest.length ≤ bytes.length)
    (tag : Nat) : decodeParts part tag bytes = decodeParts part' tag bytes := by
  have hhere := h bytes (Nat.le_refl _)
  match tag with
  | 0 => rfl
  | 1 | 5 | 6 | 7 | 8 => exact Decoder.bind_congr hhere fun _ _ _ => rfl
  | 2 | 3 | 4 =>
      exact Decoder.bind_congr hhere fun left rest hleft =>
        Decoder.bind_congr (h rest (hrest left rest hleft)) fun _ _ _ => rfl
  | tag + 9 => rfl

/-- Two bounds that cover the bytes read the same. -/
theorem decodeFormula_congr : ∀ {depth₁ depth₂ bytes : List UInt8},
    bytes.length ≤ depth₁.length → bytes.length ≤ depth₂.length →
    decodeFormula depth₁ bytes = decodeFormula depth₂ bytes
  | [], [], _, _, _ => rfl
  | [], _ :: _, [], _, _ => rfl
  | _ :: _, [], [], _, _ => rfl
  | b₁ :: depth₁, b₂ :: depth₂, bytes, h₁, h₂ => by
      rw [decodeFormula_cons, decodeFormula_cons]
      refine Decoder.bind_congr rfl fun tag rest htag => ?_
      -- The number has been taken off, so the shorter bounds cover what is left.
      have hshort : rest.length + 4 = bytes.length := by
        rw [← ((canonical_littleEndian 4).write_of_read bytes tag rest htag).1,
          List.length_append, length_littleEndian, Nat.add_comm]
      rw [List.length_cons] at h₁ h₂
      refine decodeParts_congr (fun more hmore => ?_) (fun formula last hlast => ?_) tag
      · exact decodeFormula_congr (by omega) (by omega)
      · rw [← ((canonical_decodeFormula depth₁).write_of_read rest formula last hlast).1,
          List.length_append]
        omega

instance : LawfulCodec Formula where
  encode_eq := encodeFormula_datum
  canonical := {
    read_write := by
      intro formula rest hfits
      have hlen := depth_le_length formula
      refine (canonical_decodeFormula (encodeFormula formula ++ rest)).read_write formula rest
        (fitsWithin_iff.mpr ⟨hfits, ?_⟩)
      rw [List.length_append]
      omega
    write_of_read := by
      intro bytes formula rest hread
      obtain ⟨heq, hfits⟩ := (canonical_decodeFormula bytes).write_of_read bytes formula rest hread
      exact ⟨heq, (fitsWithin_iff.mp hfits).1⟩
    read_cut := by
      intro formula part hfits hcut
      -- The part is read as if the bound were that of the whole formula.
      have hbound : decode part = decodeFormula (encodeFormula formula) part :=
        decodeFormula_congr (Nat.le_refl _) (Nat.le_of_lt hcut.length_lt)
      rw [hbound]
      exact (canonical_decodeFormula (encodeFormula formula)).read_cut formula part
        (fitsWithin_iff.mpr ⟨hfits, depth_le_length formula⟩) hcut }

/-! ## Records of several fields -/

/-- Data with the same bytes and the same lengths. -/
structure Datum.Alike (d d' : Datum) : Prop where
  bytes : d.bytes = d'.bytes
  lengths : d.lengths = d'.lengths

theorem Datum.alike_three (a b c : Datum) :
    Alike (.fields [a, b, c]) (.fields [a, .fields [b, c]]) where
  bytes := by simp [Datum.bytes, bytesOfAll]
  lengths := by simp [Datum.lengths, lengthsOfAll]

theorem Datum.alike_four (a b c d : Datum) :
    Alike (.fields [a, b, c, d]) (.fields [a, .fields [b, .fields [c, d]]]) where
  bytes := by simp [Datum.bytes, bytesOfAll]
  lengths := by simp [Datum.lengths, lengthsOfAll]

/-- A type whose values are those of another, in the same form. -/
theorem LawfulCodec.through {α β : Type} [Codec β] [Described β] [LawfulCodec β]
    [codec : Codec α] [Described α] {there : α → β} {back : β → α}
    (hcodec : codec = .through there back) (hthere : ∀ b, there (back b) = b)
    (hback : ∀ a, back (there a) = a)
    (halike : ∀ a, (datum a).Alike (datum (there a))) : LawfulCodec α where
  encode_eq a := by
    subst hcodec
    rw [(halike a).bytes, ← LawfulCodec.encode_eq]
    rfl
  canonical := by
    subst hcodec
    refine LawfulCodec.canonical.map (fun b _ => congrArg encode (hthere b)) fun a => ?_
    have hfits : Fits a ↔ Fits (there a) := by rw [Fits, Fits, (halike a).lengths]
    rw [hfits]
    constructor
    · intro h
      exact ⟨there a, hback a, h⟩
    · rintro ⟨b, rfl, h⟩
      rw [hthere]
      exact h

instance : Described Premise := ⟨fun p => .fields [datum p.mood, datum p.modality]⟩

instance : Described Construction :=
  ⟨fun c => .fields [datum c.figure, datum c.major, datum c.minor, datum c.conclusion]⟩

instance : Described Syllogism :=
  ⟨fun s => .fields [datum s.formula, datum s.construction, datum s.code]⟩

instance : Described EngineResult :=
  ⟨fun r => .fields [datum r.engine, datum r.formula, datum r.verdict, datum r.proof]⟩

instance : Described Vote :=
  ⟨fun v => .fields [datum v.engine, datum v.verdict, datum v.proof]⟩

instance : Described Record :=
  ⟨fun r => .fields [datum r.syllogism, datum r.verdict, datum r.contradiction, datum r.votes]⟩

instance : LawfulCodec Premise :=
  .through rfl (fun _ => rfl) (fun _ => rfl) fun _ => ⟨rfl, rfl⟩

instance : LawfulCodec Construction :=
  .through rfl (fun _ => rfl) (fun _ => rfl) fun _ => Datum.alike_four _ _ _ _

instance : LawfulCodec Syllogism :=
  .through rfl (fun _ => rfl) (fun _ => rfl) fun _ => Datum.alike_three _ _ _

instance : LawfulCodec EngineResult :=
  .through rfl (fun _ => rfl) (fun _ => rfl) fun _ => Datum.alike_four _ _ _ _

instance : LawfulCodec Vote :=
  .through rfl (fun _ => rfl) (fun _ => rfl) fun _ => Datum.alike_three _ _ _

instance : LawfulCodec Record :=
  .through rfl (fun _ => rfl) (fun _ => rfl) fun _ => Datum.alike_four _ _ _ _

theorem fits_verdict (verdict : Verdict) : Fits verdict := by
  intro n hn
  cases hn

theorem fits_fields {α : Type} [Described α] {a : α} {items : List Datum}
    (h : datum a = .fields items) : Fits a ↔ ∀ item ∈ items, ∀ n ∈ item.lengths, n < 2 ^ 64 := by
  rw [Fits, h, Datum.lengths]
  constructor
  · intro hall item hitem n hn
    exact hall n (mem_lengthsOfAll.mpr ⟨item, hitem, hn⟩)
  · intro hall n hn
    obtain ⟨item, hitem, hlen⟩ := mem_lengthsOfAll.mp hn
    exact hall item hitem n hlen

theorem fits_syllogism {syllogism : Syllogism} :
    Fits syllogism ↔ Fits syllogism.formula ∧ Fits syllogism.code := by
  have hconstruction : Fits syllogism.construction := by
    intro n hn
    cases hn
  rw [fits_fields rfl]
  simp only [List.forall_mem_cons]
  exact ⟨fun h => ⟨h.1, h.2.2.1⟩,
    fun h => ⟨h.1, hconstruction, h.2, fun _ hmem => absurd hmem List.not_mem_nil⟩⟩

theorem fits_engineResult {result : EngineResult} :
    Fits result ↔ Fits result.engine ∧ Fits result.formula ∧ Fits result.proof := by
  rw [fits_fields rfl]
  simp only [List.forall_mem_cons]
  exact ⟨fun h => ⟨h.1, h.2.1, h.2.2.2.1⟩, fun h => ⟨h.1, h.2.1, fits_verdict result.verdict, h.2.2,
    fun _ hmem => absurd hmem List.not_mem_nil⟩⟩

theorem fits_vote {vote : Vote} : Fits vote ↔ Fits vote.engine ∧ Fits vote.proof := by
  rw [fits_fields rfl]
  simp only [List.forall_mem_cons]
  exact ⟨fun h => ⟨h.1, h.2.2.1⟩, fun h => ⟨h.1, fits_verdict vote.verdict, h.2,
    fun _ hmem => absurd hmem List.not_mem_nil⟩⟩

theorem fits_record {record : Record} :
    Fits record ↔ Fits record.syllogism ∧ Fits record.votes := by
  rw [fits_fields rfl]
  simp only [List.forall_mem_cons]
  exact ⟨fun h => ⟨h.1, h.2.2.2.1⟩, fun h => ⟨h.1, fits_verdict record.verdict,
    fits_bool record.contradiction, h.2, fun _ hmem => absurd hmem List.not_mem_nil⟩⟩

/-- What a receiver may rely on: the bytes are those of the value's datum, a value
is read back from in front of whatever follows it, what is read is spelled by
the bytes that were taken, and of a value that is cut short the bytes run out. -/
structure Faithful (α : Type) [Codec α] [Described α] : Prop where
  encode_eq : ∀ a : α, encode a = (datum a).bytes
  decode_encode : ∀ (a : α) (rest : List UInt8), Fits a →
    decode (encode a ++ rest) = .ok (a, rest)
  encode_of_decode : ∀ (bytes : List UInt8) (a : α) (rest : List UInt8),
    decode bytes = .ok (a, rest) → encode a ++ rest = bytes
  decode_truncated : ∀ (a : α) (part : List UInt8), Fits a → part <+: encode a →
    part ≠ encode a → ∃ wanted, wanted ≤ (encode a).length ∧
      (decode part : Except Error (α × List UInt8)) = .error (.outOfBytes wanted)

theorem LawfulCodec.faithful {α : Type} [Codec α] [Described α] [LawfulCodec α] :
    Faithful α where
  encode_eq := LawfulCodec.encode_eq
  decode_encode a rest h := LawfulCodec.canonical.read_write a rest h
  encode_of_decode bytes a rest h := (LawfulCodec.canonical.write_of_read bytes a rest h).1
  decode_truncated a part h hbegin hne := LawfulCodec.canonical.read_cut a part h ⟨hbegin, hne⟩

/-- A file that begins with a value's bytes holds the value, and one that ends
before they do holds none. -/
theorem Faithful.loadFile {α : Type} [Codec α] [Described α] (faithful : Faithful α) {a : α}
    (h : Fits a) (memory : Memory) :
    (∀ rest, loadFile memory (encode a ++ rest) = .ok a) ∧
      ∀ part : List UInt8, part <+: encode a → part ≠ encode a →
        ∃ wanted, wanted ≤ (encode a).length ∧
          (loadFile memory part : Except FileError α) =
            .error (.ofError memory (.outOfBytes wanted)) := by
  refine ⟨fun rest => ?_, fun part hbegin hne => ?_⟩
  · rw [Wire.loadFile, load, faithful.decode_encode a rest h]
    rfl
  · obtain ⟨wanted, hle, herror⟩ := faithful.decode_truncated a part h hbegin hne
    refine ⟨wanted, hle, ?_⟩
    rw [Wire.loadFile, load, herror]
    rfl

/-- The stored formula sets and the frames of a run are faithful, and a formula set
that was cut short is not taken for another one. -/
theorem travelling_values_faithful :
    (Faithful (List Syllogism) ∧ Faithful (List EngineResult) ∧ Faithful (List Record)) ∧
      ∀ formulas : List Syllogism, Fits formulas → ∀ memory : Memory,
        (∀ rest, loadFile memory (encode formulas ++ rest) = .ok formulas) ∧
        ∀ part : List UInt8, part <+: encode formulas → part ≠ encode formulas →
          ∃ wanted, wanted ≤ (encode formulas).length ∧
            (loadFile memory part : Except FileError (List Syllogism)) =
              .error (.ofError memory (.outOfBytes wanted)) :=
  ⟨⟨LawfulCodec.faithful, LawfulCodec.faithful, LawfulCodec.faithful⟩,
    fun _ => LawfulCodec.faithful.loadFile⟩

/-- Two syllogisms with every connective and names of more than one byte a character, in a file
with something after them and in a file without its last byte; and, each in a frame with
something after it, an engine's results for them and the record of the first, which is
contested. -/
theorem travelling_values_faithful_contested :
    let every : Formula := .implies (.and (.all (.implies (.predicate "M") (.possibly
      (.predicate "Πä")))) (.necessarily (.exist (.not (.predicate "")))))
      (.or (.predicate "S") (.not (.predicate "M")))
    let formulas : List Syllogism :=
      [⟨every, ⟨.second, ⟨.E, .necessary⟩, ⟨.A, .plain⟩, ⟨.O, .possibleQuodEst⟩⟩, "2E□"⟩,
        ⟨.not every, default, ""⟩]
    let results : List EngineResult :=
      [⟨"LEO-III", every, .proved, some "1. S → S\n2. q.e.d."⟩,
        ⟨"LEO-III", .not every, .unknown, none⟩]
    let records : List Record :=
      [⟨⟨every, default, "2E□"⟩, .unknown, true,
        [⟨"LEO-III", .proved, some "q.e.d."⟩, ⟨"TPG", .refuted, none⟩]⟩]
    (Fits formulas ∧ Fits results ∧ Fits records) ∧
      loadFile .ample (encode formulas ++ [7]) = .ok formulas ∧
      (∃ wanted, (loadFile .ample (encode formulas).dropLast : Except FileError (List Syllogism)) =
        .error (.ofError .ample (.outOfBytes wanted))) ∧
      decode (encode results ++ [7]) = .ok (results, [7]) ∧
      decode (encode records ++ [7]) = .ok (records, [7]) := by
  intro every formulas results records
  have hevery : Fits every := by
    simp [every, fits_formula, fits_string, Formula.leaves]
    decide
  have hnot : Fits (Formula.not every) := fits_formula.mpr (fits_formula.mp hevery)
  have hfits : Fits formulas := by
    simp [formulas, fits_list, fits_syllogism, fits_string, hevery, hnot]
    decide
  have hresults : Fits results := by
    simp [results, fits_list, fits_engineResult, fits_some, fits_none, fits_string, hevery, hnot]
    decide
  have hrecords : Fits records := by
    simp [records, fits_list, fits_record, fits_syllogism, fits_vote, fits_some, fits_none,
      fits_string, hevery]
    decide
  have hnonempty : encode formulas ≠ [] := List.cons_ne_nil _ _
  have hcutShort : (encode formulas).dropLast ≠ encode formulas := by
    intro heq
    have hlength := congrArg List.length heq
    have hpos := List.length_pos_iff.mpr hnonempty
    rw [List.length_dropLast] at hlength
    omega
  obtain ⟨⟨-, hfaithfulResults, hfaithfulRecords⟩, hfile⟩ := travelling_values_faithful
  obtain ⟨hload, hcut⟩ := hfile formulas hfits .ample
  obtain ⟨wanted, -, herror⟩ := hcut (encode formulas).dropLast (List.dropLast_prefix _) hcutShort
  exact ⟨⟨hfits, hresults, hrecords⟩, hload [7], ⟨wanted, herror⟩,
    hfaithfulResults.decode_encode _ _ hresults, hfaithfulRecords.decode_encode _ _ hrecords⟩

end Syllogistic.Wire
