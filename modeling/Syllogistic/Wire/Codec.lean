import Syllogistic.Memory
import Syllogistic.Text.Utf8

/-!
# A binary form for values

The bytes in which formula sets are stored and messages travel: whole numbers of
fixed width with the lowest byte first, lengths in eight bytes, the number of an
alternative in four, one byte for a truth value or the presence of a value. A
decoder takes a value off the front of the bytes and hands back the rest, so
decoders follow each other as the encoders do; bytes after the last value are
nobody's concern.
-/

namespace Syllogistic.Wire

/-- Why bytes do not begin with a value. -/
inductive Error where
  /-- There are fewer bytes than the next part takes. -/
  | outOfBytes (wanted : Nat)
  | invalidUtf8 (fault : Text.Utf8.Fault)
  | invalidBool (found : Nat)
  | invalidTag (found : Nat)
  | unknownVariant (found count : Nat)
  deriving DecidableEq, Repr

def Error.message : Error → String
  | outOfBytes _ => "io error: failed to fill whole buffer"
  | invalidUtf8 fault => "string is not valid utf8: " ++ fault.message
  | invalidBool found => "invalid u8 while decoding bool, expected 0 or 1, found " ++ toString found
  | invalidTag found => "tag for enum is not valid, found " ++ toString found
  | unknownVariant found count =>
    "invalid value: integer `" ++ toString found ++ "`, expected variant index 0 <= i < " ++
      toString count

/-- Takes a value off the front of the bytes. -/
def Decoder (α : Type) : Type := List UInt8 → Except Error (α × List UInt8)

namespace Decoder

instance : Monad Decoder where
  pure a := fun bytes => .ok (a, bytes)
  bind x f := fun bytes =>
    match x bytes with
    | .error e => .error e
    | .ok (a, rest) => f a rest

/-- Refuses whatever the bytes are. -/
def fail {α : Type} (error : Error) : Decoder α := fun _ => .error error

/-- Applies a map to the value. -/
def transform {α β : Type} (f : α → β) (decoder : Decoder α) : Decoder β := fun bytes =>
  match decoder bytes with
  | .error e => .error e
  | .ok (a, rest) => .ok (f a, rest)

end Decoder

/-- A type with a binary form. -/
class Codec (α : Type) where
  encode : α → List UInt8
  decode : Decoder α

export Codec (encode decode)

/-- The value that the bytes begin with. -/
def load {α : Type} [Codec α] (bytes : List UInt8) : Except Error α :=
  match (decode : Decoder α) bytes with
  | .error e => .error e
  | .ok (a, _) => .ok a

/-! ## Bytes and numbers -/

/-- The first `n` bytes and what follows them, if there are so many. -/
def splitBytes? : Nat → List UInt8 → Option (List UInt8 × List UInt8)
  | 0, bytes => some ([], bytes)
  | _ + 1, [] => none
  | n + 1, b :: rest => (splitBytes? n rest).map fun (taken, rest) => (b :: taken, rest)

/-- The first `n` bytes. -/
def takeBytes (n : Nat) : Decoder (List UInt8) := fun bytes =>
  match splitBytes? n bytes with
  | some split => .ok split
  | none => .error (.outOfBytes n)

/-- The lowest `width` bytes of a number, the lowest first. -/
def littleEndian : Nat → Nat → List UInt8
  | 0, _ => []
  | width + 1, n => UInt8.ofNat n :: littleEndian width (n / 256)

/-- The number whose bytes these are, the lowest first. -/
def ofLittleEndian : List UInt8 → Nat
  | [] => 0
  | b :: rest => b.toNat + 256 * ofLittleEndian rest

/-- A number of `width` bytes, the lowest first. -/
def readLittleEndian (width : Nat) : Decoder Nat := (takeBytes width).transform ofLittleEndian

/-- The bytes of a length. -/
def encodeLength (n : Nat) : List UInt8 := littleEndian 8 n

/-- A length. -/
def decodeLength : Decoder Nat := readLittleEndian 8

instance : Codec UInt8 where
  encode n := littleEndian 1 n.toNat
  decode := (readLittleEndian 1).transform UInt8.ofNat

instance : Codec UInt64 where
  encode n := littleEndian 8 n.toNat
  decode := (readLittleEndian 8).transform UInt64.ofNat

instance : Codec Bool where
  encode b := littleEndian 1 b.toNat
  decode := do
    match ← readLittleEndian 1 with
    | 0 => return false
    | 1 => return true
    | n => .fail (.invalidBool n)

/-! ## Texts, lists and choices -/

/-- The text that some bytes spell. -/
def decodeText (bytes : List UInt8) : Except Error String :=
  match Text.Utf8.decode? bytes with
  | some s => .ok s
  | none => .error (.invalidUtf8 ((Text.Utf8.fault bytes).getD ⟨0, none⟩))

instance : Codec String where
  encode s := encodeLength (Text.Utf8.encode s).length ++ Text.Utf8.encode s
  decode := do
    let bytes ← takeBytes (← decodeLength)
    match decodeText bytes with
    | .ok s => return s
    | .error e => .fail e

/-- So many values, one after the other. -/
def decodeMany {α : Type} (decoder : Decoder α) : Nat → Decoder (List α)
  | 0 => pure []
  | n + 1 => do
    let a ← decoder
    let rest ← decodeMany decoder n
    return a :: rest

instance {α : Type} [Codec α] : Codec (List α) where
  encode values := encodeLength values.length ++ values.flatMap encode
  decode := do decodeMany decode (← decodeLength)

instance {α : Type} [Codec α] : Codec (Option α) where
  encode
    | none => littleEndian 1 0
    | some a => littleEndian 1 1 ++ encode a
  decode := do
    match ← readLittleEndian 1 with
    | 0 => return none
    | 1 => return some (← decode)
    | n => .fail (.invalidTag n)

instance {α β : Type} [Codec α] [Codec β] : Codec (α × β) where
  encode pair := encode pair.1 ++ encode pair.2
  decode := do
    let a ← decode
    let b ← decode
    return (a, b)

/-- The bytes of the number of an alternative. -/
def encodeTag (tag : Nat) : List UInt8 := littleEndian 4 tag

/-- The number of an alternative. -/
def decodeTag : Decoder Nat := readLittleEndian 4

/-- The binary form of a type with finitely many values: a value's place in the
list of them. -/
abbrev Codec.ofValues {α : Type} [BEq α] (values : List α) : Codec α where
  encode a := encodeTag (values.idxOf a)
  decode := do
    let tag ← decodeTag
    match values[tag]? with
    | some a => return a
    | none => .fail (.unknownVariant tag values.length)

/-- The binary form of a type whose values are those of another type. -/
abbrev Codec.through {α β : Type} [Codec β] (there : α → β) (back : β → α) : Codec α where
  encode a := encode (there a)
  decode := (decode : Decoder β).transform back

/-! ## Files -/

/-- Why the contents of a file are not a value. -/
inductive FileError where
  | content (error : Error)
  | noRoom (fault : MemoryFault)
  deriving DecidableEq, Repr

def FileError.message : FileError → String
  | content error => error.message
  | noRoom fault => fault.message

/-- What an error means in a file. Room is made there for the bytes of a part
before they are looked for, so where there can be none that comes first. -/
def FileError.ofError (memory : Memory) : Error → FileError
  | .outOfBytes wanted =>
    match memory.reserve (.items wanted 1) with
    | .ok _ => .content (.outOfBytes wanted)
    | .error fault => .noRoom fault
  | error => .content error

/-- The value that a file with these contents begins with. -/
def loadFile {α : Type} [Codec α] (memory : Memory) (contents : List UInt8) :
    Except FileError α :=
  (load contents).mapError (.ofError memory)

end Syllogistic.Wire
