import Mathlib.Algebra.Group.Nat.Defs
import Syllogistic.Wire.Codec

/-!
# Decoders that read exactly what is written

A decoder is canonical for a way of writing values if three things hold. What
is written is read back, whatever follows it. What is read was written: the
bytes that were taken are those of the value that came out, so no value has two
spellings. And what is cut short is not read at all: the decoder runs out of
bytes, and it never asks for more bytes at once than the whole writing has.

The three are proved together, because the second is what makes the third go
through a sequence: a cut falls either into the first part or behind it, and
behind it the first part is read as it was written.
-/

namespace Syllogistic.Wire

/-- A beginning of some bytes that is not all of them. -/
def Cut (bytes part : List UInt8) : Prop := part <+: bytes ∧ part ≠ bytes

/-- The decoder reads what is written of the values that fit, that only, and no
part of it. -/
structure Canonical {α : Type} (write : α → List UInt8) (fits : α → Prop)
    (read : Decoder α) : Prop where
  read_write : ∀ a rest, fits a → read (write a ++ rest) = .ok (a, rest)
  write_of_read : ∀ bytes a rest, read bytes = .ok (a, rest) →
    write a ++ rest = bytes ∧ fits a
  read_cut : ∀ a part, fits a → Cut (write a) part →
    ∃ wanted, wanted ≤ (write a).length ∧ read part = .error (.outOfBytes wanted)

/-! ## Cuts -/

theorem not_cut_nil {part : List UInt8} : ¬ Cut [] part := by
  rintro ⟨hbegin, hne⟩
  exact hne (List.prefix_nil.mp hbegin)

/-- A cut through two pieces is a cut through the first, or it takes the whole of
the first and cuts the second. -/
theorem Cut.append {first second part : List UInt8} (h : Cut (first ++ second) part) :
    Cut first part ∨ ∃ more, part = first ++ more ∧ Cut second more := by
  obtain ⟨hbegin, hne⟩ := h
  rcases List.prefix_or_prefix_of_prefix hbegin (List.prefix_append first second) with
    hshort | hlong
  · by_cases heq : part = first
    · refine Or.inr ⟨[], by rw [heq, List.append_nil], List.nil_prefix, ?_⟩
      intro hnil
      exact hne (by rw [heq, ← hnil, List.append_nil])
    · exact Or.inl ⟨hshort, heq⟩
  · obtain ⟨more, rfl⟩ := hlong
    refine Or.inr ⟨more, rfl, (List.prefix_append_right_inj first).mp hbegin, ?_⟩
    intro heq
    exact hne (by rw [heq])

theorem Cut.length_lt {bytes part : List UInt8} (h : Cut bytes part) :
    part.length < bytes.length := by
  obtain ⟨⟨more, rfl⟩, hne⟩ := h
  rw [List.length_append]
  cases more with
  | nil => exact absurd (List.append_nil part).symm hne
  | cons b more => simp

/-! ## Decoders in sequence

Canonical decoders are closed under doing one after the other, under maps that
can be undone, and under choices on what was read; these are all the ways in which
the decoders of the format are made. -/

namespace Decoder

variable {α β : Type}

theorem pure_apply (a : α) (bytes : List UInt8) :
    (pure a : Decoder α) bytes = .ok (a, bytes) := rfl

theorem bind_apply (x : Decoder α) (f : α → Decoder β) (bytes : List UInt8) :
    (x >>= f) bytes = (x bytes).bind fun read => f read.1 read.2 := by
  dsimp only [bind]
  cases x bytes <;> rfl

theorem bind_ok {x : Decoder α} {f : α → Decoder β} {bytes rest : List UInt8} {a : α}
    (h : x bytes = .ok (a, rest)) : (x >>= f) bytes = f a rest := by
  rw [bind_apply, h]
  rfl

theorem bind_error {x : Decoder α} {f : α → Decoder β} {bytes : List UInt8} {e : Error}
    (h : x bytes = .error e) : (x >>= f) bytes = .error e := by
  rw [bind_apply, h]
  rfl

/-- Only what the first decoder leaves is asked of the second. -/
theorem bind_congr {x x' : Decoder α} {f f' : α → Decoder β} {bytes : List UInt8}
    (hx : x bytes = x' bytes)
    (hf : ∀ a rest, x bytes = .ok (a, rest) → f a rest = f' a rest) :
    (x >>= f) bytes = (x' >>= f') bytes := by
  cases hread : x bytes with
  | error e => rw [bind_error hread, bind_error (hx ▸ hread)]
  | ok read =>
      rw [bind_ok hread, bind_ok (hx ▸ hread)]
      exact hf read.1 read.2 hread

theorem bind_eq_ok {x : Decoder α} {f : α → Decoder β} {bytes rest : List UInt8} {b : β}
    (h : (x >>= f) bytes = .ok (b, rest)) :
    ∃ a more, x bytes = .ok (a, more) ∧ f a more = .ok (b, rest) := by
  rw [bind_apply] at h
  cases hx : x bytes with
  | error e =>
      rw [hx] at h
      cases h
  | ok read =>
      rw [hx] at h
      exact ⟨read.1, read.2, rfl, h⟩

theorem map_pair {γ : Type} (x : Decoder α) (y : Decoder β) (build : α → β → γ) :
    (x >>= fun a => y >>= fun b => pure (build a b)) =
      ((x >>= fun a => y >>= fun b => pure (a, b)) >>= fun p => pure (build p.1 p.2)) := by
  funext bytes
  cases hx : x bytes with
  | error e => rw [bind_error hx, bind_error (bind_error hx)]
  | ok first =>
      rw [bind_ok hx]
      cases hy : y first.2 with
      | error e =>
          have hpair : (x >>= fun a => y >>= fun b => pure (a, b)) bytes = .error e := by
            rw [bind_ok hx, bind_error hy]
          rw [bind_error hy, bind_error hpair]
      | ok second =>
          have hpair : (x >>= fun a => y >>= fun b => pure (a, b)) bytes =
              .ok ((first.1, second.1), second.2) := by
            rw [bind_ok hx, bind_ok hy, pure_apply]
          rw [bind_ok hy, bind_ok hpair, pure_apply]

theorem transform_eq (f : α → β) (x : Decoder α) :
    x.transform f = (do return f (← x)) := rfl

end Decoder

namespace Canonical

variable {α β : Type}

/-- Another way to say what is written and which values fit. -/
theorem congr {write write' : α → List UInt8} {fits fits' : α → Prop} {read : Decoder α}
    (h : Canonical write fits read) (hwrite : ∀ a, fits a → write' a = write a)
    (hfits : ∀ a, fits' a ↔ fits a) : Canonical write' fits' read where
  read_write a rest ha := by
    have hfit := (hfits a).mp ha
    rw [hwrite a hfit]
    exact h.read_write a rest hfit
  write_of_read bytes a rest hread := by
    obtain ⟨heq, hfit⟩ := h.write_of_read bytes a rest hread
    exact ⟨by rw [hwrite a hfit, heq], (hfits a).mpr hfit⟩
  read_cut a part ha hcut := by
    have hfit := (hfits a).mp ha
    rw [hwrite a hfit] at hcut ⊢
    exact h.read_cut a part hfit hcut

/-- What stands for another value is read by reading that value. -/
theorem map {write : β → List UInt8} {fits : β → Prop} {read : Decoder β}
    (h : Canonical write fits read) {write' : α → List UInt8} {fits' : α → Prop}
    {build : β → α} (hwrite : ∀ b, fits b → write' (build b) = write b)
    (hfits : ∀ a, fits' a ↔ ∃ b, build b = a ∧ fits b) :
    Canonical write' fits' (do return build (← read)) where
  read_write a rest ha := by
    obtain ⟨b, rfl, hb⟩ := (hfits a).mp ha
    rw [hwrite b hb, Decoder.bind_ok (h.read_write b rest hb)]
    rfl
  write_of_read bytes a rest hread := by
    obtain ⟨b, more, hb, hpure⟩ := Decoder.bind_eq_ok hread
    rw [Decoder.pure_apply] at hpure
    cases hpure
    obtain ⟨heq, hfit⟩ := h.write_of_read bytes b rest hb
    exact ⟨by rw [hwrite b hfit, heq], (hfits _).mpr ⟨b, rfl, hfit⟩⟩
  read_cut a part ha hcut := by
    obtain ⟨b, rfl, hb⟩ := (hfits a).mp ha
    rw [hwrite b hb] at hcut ⊢
    obtain ⟨wanted, hle, herror⟩ := h.read_cut b part hb hcut
    exact ⟨wanted, hle, Decoder.bind_error herror⟩

/-- First a part of the value is read, then the rest of it by a reader for that
part. -/
theorem bind {write : β → List UInt8} {fits : β → Prop} {read : Decoder β}
    (h : Canonical write fits read) (tag : α → β) (body : α → List UInt8) (fits' : α → Prop)
    {next : β → Decoder α}
    (hnext : ∀ b, fits b → Canonical body (fun a => tag a = b ∧ fits' a) (next b)) :
    Canonical (fun a => write (tag a) ++ body a) (fun a => fits (tag a) ∧ fits' a)
      (read >>= next) where
  read_write a rest ha := by
    rw [List.append_assoc, Decoder.bind_ok (h.read_write (tag a) (body a ++ rest) ha.1)]
    exact (hnext (tag a) ha.1).read_write a rest ⟨rfl, ha.2⟩
  write_of_read bytes a rest hread := by
    obtain ⟨b, more, hb, ha⟩ := Decoder.bind_eq_ok hread
    obtain ⟨hbytes, hfit⟩ := h.write_of_read bytes b more hb
    obtain ⟨hmore, rfl, hfit'⟩ := (hnext b hfit).write_of_read more a rest ha
    exact ⟨by rw [List.append_assoc, hmore, hbytes], hfit, hfit'⟩
  read_cut a part ha hcut := by
    have hnexta := hnext (tag a) ha.1
    rcases hcut.append with hfirst | ⟨more, rfl, hsecond⟩
    · obtain ⟨wanted, hle, herror⟩ := h.read_cut (tag a) part ha.1 hfirst
      exact ⟨wanted, by rw [List.length_append]; omega, Decoder.bind_error herror⟩
    · obtain ⟨wanted, hle, herror⟩ := hnexta.read_cut a more ⟨rfl, ha.2⟩ hsecond
      refine ⟨wanted, by rw [List.length_append]; omega, ?_⟩
      rw [Decoder.bind_ok (h.read_write (tag a) more ha.1)]
      exact herror

/-- A value that is told by what came before takes no bytes. -/
theorem pure (a : α) : Canonical (fun _ => []) (· = a) (Pure.pure a) where
  read_write b rest hb := by rw [hb]; rfl
  write_of_read bytes b rest hread := by
    rw [Decoder.pure_apply] at hread
    cases hread
    exact ⟨rfl, rfl⟩
  read_cut _ _ _ hcut := absurd hcut not_cut_nil

/-- Where no value can be, nothing is read. -/
theorem fail {write : α → List UInt8} {fits : α → Prop} (h : ∀ a, ¬ fits a)
    (error : Error) : Canonical write fits (Decoder.fail error) where
  read_write a _ ha := absurd ha (h a)
  write_of_read _ _ _ hread := by cases hread
  read_cut a _ ha := absurd ha (h a)

/-- Two values, one after the other. -/
theorem pair {write : α → List UInt8} {fits : α → Prop} {read : Decoder α}
    {write' : β → List UInt8} {fits' : β → Prop} {read' : Decoder β}
    (h : Canonical write fits read) (h' : Canonical write' fits' read') :
    Canonical (fun p : α × β => write p.1 ++ write' p.2) (fun p => fits p.1 ∧ fits' p.2)
      (do let a ← read; let b ← read'; return (a, b)) := by
  refine h.bind Prod.fst (fun p => write' p.2) (fun p => fits' p.2) fun a _ => ?_
  refine h'.map (fun _ _ => rfl) fun p => ?_
  constructor
  · rintro ⟨rfl, hp⟩
    exact ⟨p.2, rfl, hp⟩
  · rintro ⟨b, rfl, hb⟩
    exact ⟨rfl, hb⟩

/-- What two values stand for is read by reading them one after the other. -/
theorem map₂ {γ : Type} {write : α → List UInt8} {fits : α → Prop} {read : Decoder α}
    {write' : β → List UInt8} {fits' : β → Prop} {read' : Decoder β}
    (h : Canonical write fits read) (h' : Canonical write' fits' read')
    {write'' : γ → List UInt8} {fits'' : γ → Prop} {build : α → β → γ}
    (hwrite : ∀ a b, write'' (build a b) = write a ++ write' b)
    (hfits : ∀ c, fits'' c ↔ ∃ a b, build a b = c ∧ fits a ∧ fits' b) :
    Canonical write'' fits'' (do let a ← read; let b ← read'; return build a b) := by
  rw [Decoder.map_pair]
  refine (h.pair h').map (fun p _ => hwrite p.1 p.2) fun c => ?_
  rw [hfits]
  constructor
  · rintro ⟨a, b, hab, ha, hb⟩
    exact ⟨(a, b), hab, ha, hb⟩
  · rintro ⟨p, hp, ha, hb⟩
    exact ⟨p.1, p.2, hp, ha, hb⟩

end Canonical

/-! ## Bytes and numbers -/

theorem splitBytes?_append (taken rest : List UInt8) :
    splitBytes? taken.length (taken ++ rest) = some (taken, rest) := by
  induction taken with
  | nil => rfl
  | cons b taken ih =>
      rw [List.length_cons, List.cons_append, splitBytes?, ih]
      rfl

theorem append_of_splitBytes? {n : Nat} {bytes taken rest : List UInt8}
    (h : splitBytes? n bytes = some (taken, rest)) :
    taken ++ rest = bytes ∧ taken.length = n := by
  induction n generalizing bytes taken with
  | zero =>
      rw [splitBytes?] at h
      cases h
      exact ⟨rfl, rfl⟩
  | succ n ih =>
      cases bytes with
      | nil => rw [splitBytes?] at h; cases h
      | cons b bytes =>
          rw [splitBytes?, Option.map_eq_some_iff] at h
          obtain ⟨⟨more, rest'⟩, hsplit, heq⟩ := h
          cases heq
          obtain ⟨hbytes, hlen⟩ := ih hsplit
          exact ⟨by rw [List.cons_append, hbytes], by rw [List.length_cons, hlen]⟩

theorem splitBytes?_eq_none {n : Nat} {bytes : List UInt8} (h : bytes.length < n) :
    splitBytes? n bytes = none := by
  cases hsplit : splitBytes? n bytes with
  | none => rfl
  | some split =>
      obtain ⟨hbytes, hlen⟩ := append_of_splitBytes? hsplit
      rw [← hbytes, List.length_append] at h
      omega

/-- A known number of bytes is read as it stands. -/
theorem canonical_takeBytes (n : Nat) :
    Canonical id (fun bytes : List UInt8 => bytes.length = n) (takeBytes n) where
  read_write taken rest hlen := by
    subst hlen
    rw [takeBytes, id, splitBytes?_append]
  write_of_read bytes taken rest hread := by
    rw [takeBytes] at hread
    split at hread
    · next split hsplit =>
        cases hread
        exact append_of_splitBytes? hsplit
    · cases hread
  read_cut taken part hlen hcut := by
    have hlt := hcut.length_lt
    simp only [id] at hlt ⊢
    refine ⟨n, by omega, ?_⟩
    rw [takeBytes, splitBytes?_eq_none (by omega)]

theorem length_littleEndian (width n : Nat) : (littleEndian width n).length = width := by
  induction width generalizing n with
  | zero => rfl
  | succ width ih => rw [littleEndian, List.length_cons, ih]

theorem ofLittleEndian_littleEndian {width n : Nat} (h : n < 256 ^ width) :
    ofLittleEndian (littleEndian width n) = n := by
  induction width generalizing n with
  | zero => rw [Nat.pow_zero] at h; rw [littleEndian, ofLittleEndian]; omega
  | succ width ih =>
      rw [Nat.pow_succ] at h
      have hlow : (UInt8.ofNat n).toNat = n % 256 := UInt8.toNat_ofNat'
      rw [littleEndian, ofLittleEndian, ih (by omega), hlow]
      omega

theorem littleEndian_ofLittleEndian (bytes : List UInt8) :
    littleEndian bytes.length (ofLittleEndian bytes) = bytes := by
  induction bytes with
  | nil => rfl
  | cons b bytes ih =>
      have hb : b.toNat < 256 := b.toNat_lt
      have hlow : UInt8.ofNat (b.toNat + 256 * ofLittleEndian bytes) = b := by
        rw [← UInt8.toNat_inj, UInt8.toNat_ofNat']
        omega
      have hhigh : (b.toNat + 256 * ofLittleEndian bytes) / 256 = ofLittleEndian bytes := by
        omega
      rw [List.length_cons, ofLittleEndian, littleEndian, hlow, hhigh, ih]

theorem ofLittleEndian_lt (bytes : List UInt8) :
    ofLittleEndian bytes < 256 ^ bytes.length := by
  induction bytes with
  | nil => exact Nat.one_pos
  | cons b bytes ih =>
      have hb : b.toNat < 256 := b.toNat_lt
      rw [List.length_cons, ofLittleEndian, Nat.pow_succ]
      omega

/-- A number of fixed width is read if it has no more digits than bytes. -/
theorem canonical_littleEndian (width : Nat) :
    Canonical (littleEndian width) (· < 256 ^ width) (readLittleEndian width) := by
  rw [readLittleEndian, Decoder.transform_eq]
  refine (canonical_takeBytes width).map ?_ fun n => ?_
  · rintro bytes rfl
    exact littleEndian_ofLittleEndian bytes
  · constructor
    · intro hn
      exact ⟨littleEndian width n, ofLittleEndian_littleEndian hn,
        length_littleEndian width n⟩
    · rintro ⟨bytes, rfl, rfl⟩
      exact ofLittleEndian_lt bytes

end Syllogistic.Wire
