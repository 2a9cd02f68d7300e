/-!
# Reading UTF-8

Bytes are read as characters one at a time. Where the bytes are no character,
the reading tells how many of them begin one, which is what both users need: a
lenient reader writes one replacement character for that many bytes, and a
strict reader reports where the first fault is.
-/

namespace Syllogistic.Text.Utf8

/-- What the bytes at some place begin with: a character, or `width` bytes that
cannot be continued to one, because another byte follows them or because the
text ends (`cut`). -/
inductive Reading where
  | char (c : Char) (width : Nat)
  | broken (width : Nat) (cut : Bool)

/-- Reads `more` continuation bytes onto a value of which `seen` bytes are read. -/
def readTail (value seen : Nat) : Nat → List UInt8 → Reading
  | 0, _ => .char (Char.ofNat value) seen
  | _ + 1, [] => .broken seen true
  | more + 1, b :: rest =>
    if 0x80 ≤ b && b ≤ 0xBF then readTail (value * 64 + (b.toNat - 0x80)) (seen + 1) more rest
    else .broken seen false

/-- Reads the second byte, which has bounds of its own, and those after it. -/
def readSecond (value : Nat) (low high : UInt8) (more : Nat) : List UInt8 → Reading
  | [] => .broken 1 true
  | b :: rest =>
    if low ≤ b && b ≤ high then readTail (value * 64 + (b.toNat - 0x80)) 2 more rest
    else .broken 1 false

/-- Reads one character that starts with byte `a`. The bounds of the second byte
keep out overlong forms, surrogates and code points past the last one. -/
def read (a : UInt8) (rest : List UInt8) : Reading :=
  if a < 0x80 then .char (Char.ofNat a.toNat) 1
  else if a < 0xC2 then .broken 1 false
  else if a < 0xE0 then readSecond (a.toNat - 0xC0) 0x80 0xBF 0 rest
  else if a = 0xE0 then readSecond 0 0xA0 0xBF 1 rest
  else if a = 0xED then readSecond 0xD 0x80 0x9F 1 rest
  else if a < 0xF0 then readSecond (a.toNat - 0xE0) 0x80 0xBF 1 rest
  else if a = 0xF0 then readSecond 0 0x90 0xBF 2 rest
  else if a < 0xF4 then readSecond (a.toNat - 0xF0) 0x80 0xBF 2 rest
  else if a = 0xF4 then readSecond 4 0x80 0x8F 2 rest
  else .broken 1 false

/-- The characters of the bytes after the first `skip`, with one replacement
character for each stretch that begins a character and does not end it. -/
def lenientFrom : Nat → List UInt8 → List Char
  | _, [] => []
  | skip + 1, _ :: rest => lenientFrom skip rest
  | 0, a :: rest =>
    match read a rest with
    | .char c width => c :: lenientFrom (width - 1) rest
    | .broken width _ => '\uFFFD' :: lenientFrom (width - 1) rest

/-- The text of the bytes, whatever they are. -/
def lenient (bytes : List UInt8) : String :=
  String.ofList (lenientFrom 0 bytes)

/-- The place of the first fault: how many bytes before it are text, and how
many bytes are at fault, unless it is the end of the text that comes too soon. -/
structure Fault where
  valid : Nat
  width : Option Nat
  deriving DecidableEq, Repr

/-- The first fault after `valid` bytes of text and `skip` more bytes. -/
def faultFrom (valid : Nat) : Nat → List UInt8 → Option Fault
  | _, [] => none
  | skip + 1, _ :: rest => faultFrom (valid + 1) skip rest
  | 0, a :: rest =>
    match read a rest with
    | .char _ width => faultFrom (valid + 1) (width - 1) rest
    | .broken width cut => some ⟨valid, if cut then none else some width⟩

/-- The first fault of the bytes, if they are not UTF-8. -/
def fault (bytes : List UInt8) : Option Fault :=
  faultFrom 0 0 bytes

/-- The bytes of a text. -/
def encode (s : String) : List UInt8 :=
  s.toUTF8.data.toList

/-- The text that the bytes spell, if they are UTF-8. -/
def decode? (bytes : List UInt8) : Option String :=
  String.fromUTF8? ⟨bytes.toArray⟩

/-- Says where the fault is. -/
def Fault.message (fault : Fault) : String :=
  match fault.width with
  | some width =>
    "invalid utf-8 sequence of " ++ toString width ++ " bytes from index " ++ toString fault.valid
  | none => "incomplete utf-8 byte sequence from index " ++ toString fault.valid

theorem decode?_encode (s : String) : decode? (encode s) = some s := by
  have h : (⟨s.toUTF8.data.toList.toArray⟩ : ByteArray) = s.toByteArray := rfl
  rw [decode?, encode, h, String.fromUTF8?, dif_pos s.isValidUTF8]
  rfl

theorem encode_of_decode? {bytes : List UInt8} {s : String} (h : decode? bytes = some s) :
    encode s = bytes := by
  rw [decode?, String.fromUTF8?] at h
  split at h
  · cases h
    rfl
  · exact absurd h (by simp)

end Syllogistic.Text.Utf8
