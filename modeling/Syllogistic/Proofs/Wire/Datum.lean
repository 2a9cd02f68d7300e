import Syllogistic.Proofs.Wire.Canonical

/-!
# The form of a value on the wire

A `Datum` says what a value is made of as far as its bytes are concerned: texts,
truth values, values that may be absent, lists, alternatives and fields. The
format is then one function, `Datum.bytes`: numbers have the lowest byte first,
a length takes eight bytes and the number of an alternative four, a truth value
and the presence of a value take one byte, and fields follow each other with
nothing between them.

A codec is lawful if it writes the bytes of the value's datum and reads them
canonically. Only one thing can go wrong with a value: a length that has no
eight bytes. `Fits` says that there is none.
-/

namespace Syllogistic.Wire

/-- What a value is made of. -/
inductive Datum where
  | flag (value : Bool)
  | text (value : String)
  | absent
  | present (value : Datum)
  | list (items : List Datum)
  | fields (items : List Datum)
  /-- One of several alternatives, with its fields. -/
  | variant (tag : Nat) (items : List Datum)

/-- The bytes of a number, so many and the lowest first. -/
def fixedBytes (width n : Nat) : List UInt8 :=
  (List.range width).map fun place => UInt8.ofNat (n / 256 ^ place)

mutual

/-- The bytes of a datum. -/
def Datum.bytes : Datum → List UInt8
  | .flag value => [if value then 1 else 0]
  | .text value => fixedBytes 8 (Text.Utf8.encode value).length ++ Text.Utf8.encode value
  | .absent => [0]
  | .present value => 1 :: value.bytes
  | .list items => fixedBytes 8 items.length ++ bytesOfAll items
  | .fields items => bytesOfAll items
  | .variant tag items => fixedBytes 4 tag ++ bytesOfAll items

/-- The bytes of several data, one after the other. -/
def bytesOfAll : List Datum → List UInt8
  | [] => []
  | item :: rest => item.bytes ++ bytesOfAll rest

end

mutual

/-- The lengths of all texts and lists in a datum. -/
def Datum.lengths : Datum → List Nat
  | .text value => [(Text.Utf8.encode value).length]
  | .flag _ | .absent => []
  | .present value => value.lengths
  | .list items => items.length :: lengthsOfAll items
  | .fields items | .variant _ items => lengthsOfAll items

/-- The lengths of all texts and lists in several data. -/
def lengthsOfAll : List Datum → List Nat
  | [] => []
  | item :: rest => item.lengths ++ lengthsOfAll rest

end

/-- A type whose values have a form on the wire. -/
class Described (α : Type) where
  datum : α → Datum

export Described (datum)

/-- Every length in the value can be written in eight bytes. -/
def Fits {α : Type} [Described α] (a : α) : Prop :=
  ∀ n ∈ (datum a).lengths, n < 2 ^ 64

/-- The codec writes the bytes of the value's datum and reads them canonically. -/
class LawfulCodec (α : Type) [Codec α] [Described α] : Prop where
  encode_eq : ∀ a : α, encode a = (datum a).bytes
  canonical : Canonical (encode : α → List UInt8) Fits decode

theorem fixedBytes_eq (width n : Nat) : fixedBytes width n = littleEndian width n := by
  induction width generalizing n with
  | zero => rfl
  | succ width ih =>
      rw [littleEndian, ← ih, fixedBytes, fixedBytes, List.range_succ_eq_map, List.map_cons,
        List.map_map, Nat.pow_zero, Nat.div_one]
      congr 1
      refine List.map_congr_left fun place _ => ?_
      rw [Function.comp_apply, Nat.pow_succ, Nat.mul_comm, ← Nat.div_div_eq_div_mul]

theorem bytesOfAll_map {α : Type} [Codec α] [Described α] [LawfulCodec α] (values : List α) :
    bytesOfAll (values.map datum) = values.flatMap encode := by
  induction values with
  | nil => rfl
  | cons a values ih =>
      rw [List.map_cons, bytesOfAll, ih, List.flatMap_cons, LawfulCodec.encode_eq a]

theorem load_encode {α : Type} [Codec α] [Described α] [LawfulCodec α] {a : α}
    (h : Fits a) : load (encode a) = .ok a := by
  have hread := LawfulCodec.canonical.read_write a [] h
  rw [List.append_nil] at hread
  rw [load, hread]

/-! ## Truth values, texts, lists and choices -/

instance : Described Bool := ⟨.flag⟩
instance : Described String := ⟨.text⟩

instance {α : Type} [Described α] : Described (List α) :=
  ⟨fun values => .list (values.map datum)⟩

instance {α : Type} [Described α] : Described (Option α) where
  datum
    | none => .absent
    | some a => .present (datum a)

instance {α β : Type} [Described α] [Described β] : Described (α × β) :=
  ⟨fun pair => .fields [datum pair.1, datum pair.2]⟩

theorem fits_bool (b : Bool) : Fits b := by
  intro n hn
  cases hn

theorem fits_string {s : String} : Fits s ↔ (Text.Utf8.encode s).length < 2 ^ 64 := by
  simp [Fits, datum, Datum.lengths]

theorem mem_lengthsOfAll {items : List Datum} {n : Nat} :
    n ∈ lengthsOfAll items ↔ ∃ item ∈ items, n ∈ item.lengths := by
  induction items with
  | nil => simp [lengthsOfAll]
  | cons item rest ih => simp [lengthsOfAll, ih]

theorem fits_list {α : Type} [Described α] {values : List α} :
    Fits values ↔ values.length < 2 ^ 64 ∧ ∀ a ∈ values, Fits a := by
  simp only [Fits, datum, Datum.lengths, List.length_map, List.forall_mem_cons]
  refine and_congr_right fun _ => ?_
  constructor
  · intro h a ha n hn
    exact h n (mem_lengthsOfAll.mpr ⟨datum a, List.mem_map_of_mem ha, hn⟩)
  · intro h n hn
    obtain ⟨item, hitem, hlen⟩ := mem_lengthsOfAll.mp hn
    obtain ⟨a, ha, rfl⟩ := List.mem_map.mp hitem
    exact h a ha n hlen

theorem fits_none {α : Type} [Described α] : Fits (none : Option α) := by
  intro n hn
  cases hn

theorem fits_some {α : Type} [Described α] {a : α} : Fits (some a) ↔ Fits a := Iff.rfl

theorem fits_pair {α β : Type} [Described α] [Described β] {p : α × β} :
    Fits p ↔ Fits p.1 ∧ Fits p.2 := by
  simp [Fits, datum, Datum.lengths, lengthsOfAll, or_imp, forall_and]

instance : LawfulCodec Bool where
  encode_eq b := by
    show littleEndian 1 b.toNat = Datum.bytes (.flag b)
    rw [Datum.bytes]
    cases b <;> rfl
  canonical := by
    refine ((canonical_littleEndian 1).bind Bool.toNat (fun _ => []) (fun _ => True)
      ?_).congr (fun b _ => (List.append_nil _).symm) ?_
    · intro n _
      match n with
      | 0 => exact (Canonical.pure false).congr (fun _ _ => rfl) (by decide)
      | 1 => exact (Canonical.pure true).congr (fun _ _ => rfl) (by decide)
      | n + 2 => exact Canonical.fail (by rintro (_ | _) <;> simp) _
    · intro b
      exact ⟨fun _ => by cases b <;> decide, fun _ => fits_bool b⟩

/-- So many bytes are read as the text they spell. -/
theorem canonical_text (n : Nat) :
    Canonical Text.Utf8.encode (fun s => (Text.Utf8.encode s).length = n) (do
      let bytes ← takeBytes n
      match decodeText bytes with
      | .ok s => return s
      | .error e => .fail e) := by
  refine ((canonical_takeBytes n).bind Text.Utf8.encode (fun _ => []) (fun _ => True)
    ?_).congr (fun s _ => (List.append_nil _).symm) ?_
  · intro bytes _
    cases hs : Text.Utf8.decode? bytes with
    | some s =>
        rw [show decodeText bytes = .ok s by rw [decodeText, hs]]
        refine (Canonical.pure s).congr (fun _ _ => rfl) fun t => ?_
        constructor
        · rintro ⟨ht, -⟩
          rw [← ht, Text.Utf8.decode?_encode] at hs
          exact Option.some.inj hs
        · rintro rfl
          exact ⟨Text.Utf8.encode_of_decode? hs, trivial⟩
    | none =>
        rw [show decodeText bytes = .error (.invalidUtf8
          ((Text.Utf8.fault bytes).getD ⟨0, none⟩)) by rw [decodeText, hs]]
        refine Canonical.fail (fun t ht => ?_) _
        rw [← ht.1, Text.Utf8.decode?_encode] at hs
        cases hs
  · intro s
    simp

instance : LawfulCodec String where
  encode_eq s := by
    show encodeLength _ ++ _ = Datum.bytes (.text s)
    rw [Datum.bytes, fixedBytes_eq, encodeLength]
  canonical :=
    ((canonical_littleEndian 8).bind (fun s => (Text.Utf8.encode s).length) Text.Utf8.encode
      (fun _ => True) fun n _ =>
        (canonical_text n).congr (fun _ _ => rfl) fun s => by simp).congr (fun _ _ => rfl)
      fun s => by rw [fits_string]; simp

/-- So many values are read one after the other. -/
theorem canonical_decodeMany {α : Type} {write : α → List UInt8} {fits : α → Prop}
    {read : Decoder α} (h : Canonical write fits read) (n : Nat) :
    Canonical (fun values : List α => values.flatMap write)
      (fun values => values.length = n ∧ ∀ a ∈ values, fits a) (decodeMany read n) := by
  induction n with
  | zero =>
      refine (Canonical.pure []).congr ?_ fun values => ?_
      · rintro values rfl
        exact List.flatMap_nil
      · rw [List.length_eq_zero_iff]
        exact ⟨And.left, by rintro rfl; simp⟩
  | succ n ih =>
      refine h.map₂ ih (fun a rest => List.flatMap_cons) fun values => ?_
      constructor
      · rintro ⟨hlen, hfits⟩
        obtain ⟨a, rest, rfl⟩ := List.exists_cons_of_length_eq_add_one hlen
        rw [List.forall_mem_cons] at hfits
        exact ⟨a, rest, rfl, hfits.1, Nat.succ.inj hlen, hfits.2⟩
      · rintro ⟨a, rest, rfl, ha, hlen, hrest⟩
        exact ⟨congrArg Nat.succ hlen, List.forall_mem_cons.mpr ⟨ha, hrest⟩⟩

instance {α : Type} [Codec α] [Described α] [LawfulCodec α] : LawfulCodec (List α) where
  encode_eq values := by
    show encodeLength values.length ++ values.flatMap encode =
      Datum.bytes (.list (values.map datum))
    rw [Datum.bytes, fixedBytes_eq, bytesOfAll_map, List.length_map, encodeLength]
  canonical :=
    ((canonical_littleEndian 8).bind List.length _ (fun values : List α =>
      ∀ a ∈ values, Fits a) fun n _ =>
        canonical_decodeMany LawfulCodec.canonical n).congr (fun _ _ => rfl)
      fun _ => fits_list

instance {α : Type} [Codec α] [Described α] [LawfulCodec α] : LawfulCodec (Option α) where
  encode_eq a := by
    cases a with
    | none =>
        show littleEndian 1 0 = Datum.bytes .absent
        rw [Datum.bytes]
        rfl
    | some a =>
        show littleEndian 1 1 ++ encode a = Datum.bytes (.present (datum a))
        rw [Datum.bytes, LawfulCodec.encode_eq a]
        rfl
  canonical := by
    refine ((canonical_littleEndian 1).bind (fun a => a.isSome.toNat)
      (fun a => a.elim [] encode) Fits ?_).congr ?_ fun a => ?_
    · intro n _
      match n with
      | 0 =>
          refine (Canonical.pure none).congr ?_ ?_
          · rintro a rfl
            rfl
          · intro a
            cases a with
            | none => exact ⟨fun _ => rfl, fun _ => ⟨rfl, fits_none⟩⟩
            | some a => simp
      | 1 =>
          refine LawfulCodec.canonical.map (fun _ _ => rfl) fun a => ?_
          cases a with
          | none => simp
          | some a => simp [fits_some]
      | n + 2 =>
          refine Canonical.fail (fun a ha => ?_) _
          have hle := Bool.toNat_le a.isSome
          omega
    · intro a _
      cases a with
      | none => rfl
      | some a => rfl
    · have hle := Bool.toNat_le a.isSome
      exact ⟨fun h => ⟨by omega, h⟩, And.right⟩

instance {α β : Type} [Codec α] [Described α] [LawfulCodec α] [Codec β] [Described β]
    [LawfulCodec β] : LawfulCodec (α × β) where
  encode_eq pair := by
    show encode pair.1 ++ encode pair.2 = Datum.bytes (.fields [datum pair.1, datum pair.2])
    simp [Datum.bytes, bytesOfAll, LawfulCodec.encode_eq]
  canonical :=
    (LawfulCodec.canonical.pair LawfulCodec.canonical).congr (fun _ _ => rfl)
      fun _ => fits_pair

end Syllogistic.Wire
