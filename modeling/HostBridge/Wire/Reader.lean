import HostBridge.Bytes.BigEndian
import HostBridge.Bytes.Octets
import HostBridge.Wire.Error

/-!
# Reading bytes

A reader holds the bytes that are still to be read and counts those that were read. A read hands
back what it found together with the reader behind it; one that fails hands back no reader, so a
failed read consumes nothing, also where it is made of several steps.
-/

namespace HostBridge

/-- Bytes under reading. -/
structure Reader where
  /-- How many bytes have been read. -/
  position : Nat
  /-- The bytes still to be read. -/
  rest : List UInt8
  deriving DecidableEq, Repr

/-- A read: what it found and the reader behind it, or why there is nothing to find. -/
abbrev Read (α : Type) := StateT Reader (Except DecodeError) α

namespace Reader

/-- A reader in front of `bytes`. -/
def ofBytes (bytes : List UInt8) : Reader := ⟨0, bytes⟩

/-- How many bytes are left. -/
def remaining (reader : Reader) : Nat := reader.rest.length

/-- Whether any byte is left. -/
def hasMore (reader : Reader) : Bool := !reader.rest.isEmpty

end Reader

namespace Read

variable {α : Type}

/-- The next `count` bytes (`read_bytes`). -/
def bytes (count : Nat) : Read (List UInt8) := fun reader =>
  let found := reader.rest.take count
  if found.length = count then
    .ok (found, ⟨reader.position + count, reader.rest.drop count⟩)
  else .error (.unexpectedEof count reader.remaining)

/-- The next `width` bytes as a big-endian number (`read_be_uint`). -/
def nat (width : Nat) : Read Nat :=
  return BigEndian.ofBytes (← bytes width)

/-- A byte (`read_u8`). -/
def u8 : Read UInt8 := return UInt8.ofNat (← nat 1)

/-- Two bytes as a big-endian number (`read_u16`). -/
def u16 : Read UInt16 := return UInt16.ofNat (← nat 2)

/-- Four bytes as a big-endian number (`read_u32`). -/
def u32 : Read UInt32 := return UInt32.ofNat (← nat 4)

/-- Eight bytes as a big-endian number (`read_u64`). -/
def u64 : Read UInt64 := return UInt64.ofNat (← nat 8)

/-- The next `size` bytes as a byte string of that size (`read_array`). -/
def octets (size : Nat) : Read (Octets size) :=
  return Octets.ofBytes (← bytes size)

/-- A text behind its length in two bytes (`read_string`). Text that is not UTF-8 is reported at the
offset of its length. -/
def string : Read String := do
  let start := (← get).position
  let length ← u16
  match Utf8.decode? (← bytes length.toNat) with
  | some text => return text
  | none => throw (.invalidUtf8 start)

/-- Nothing, at the end of the bytes (`finish`). -/
def finish : Read Unit := fun reader =>
  if reader.hasMore then
    .error (.trailingBytes reader.position (reader.position + reader.remaining))
  else .ok ((), reader)

/-- What `read` finds, `count` times over. -/
def replicate : Nat → Read α → Read (List α)
  | 0, _ => return []
  | count + 1, read => do
    let found ← read
    return found :: (← replicate count read)

/-- Names the receipt field in which the bytes ended (`in_field`). -/
def within (field : Receipt.Field) (read : Read α) : Read α := fun reader =>
  match read reader with
  | .error (.unexpectedEof expected given) => .error (.truncatedReceipt field expected given)
  | result => result

/-- What `read` finds in `bytes`, if nothing is left behind it. -/
def all (read : Read α) (bytes : List UInt8) : Except DecodeError α :=
  (do let found ← read; finish; return found : Read α).run' (Reader.ofBytes bytes)

end Read

end HostBridge
