import HostBridge.Wire.Error

/-!
# Raw buffers

Byte buffers as they cross the boundary between the host and a VM: an address with a length and a
capacity. A raw buffer owns nothing. Which side must release it, and how often, is the business of
that side's allocator, and a breach of that contract is a `Violation`.
-/

namespace HostBridge

/-- The two sides of the boundary (`Provenance`). Each has an allocator of its own. -/
inductive Side where
  | host | vm
  deriving DecidableEq, Repr

namespace Side

/-- The name of a side in messages. -/
def name : Side → String
  | .host => "host"
  | .vm => "vm"

/-- The name of a side in listings. -/
def label : Side → String
  | .host => "Host"
  | .vm => "Vm"

end Side

/-- A buffer as it crosses the boundary. The address zero stands for no buffer. -/
structure RawBuffer where
  address : Nat
  length : Nat
  capacity : Nat
  deriving DecidableEq, Repr

namespace RawBuffer

/-- The buffer without bytes, for which nothing is allocated. -/
def empty : RawBuffer := ⟨0, 0, 0⟩

/-- Whether no block stands behind the buffer (`is_null`). -/
def isNull (raw : RawBuffer) : Bool := raw.address == 0

/-- Whether the buffer claims no bytes (`is_empty`). -/
def isEmpty (raw : RawBuffer) : Bool := raw.length == 0

/-- The greatest length of a buffer. -/
def maxLength : Nat := UInt32.size - 1

/-- A length, if a buffer can have it (`checked_len`). -/
def checkedLength (length : Nat) : Except EncodeError Nat :=
  if length ≤ maxLength then .ok length else .error (.bytesTooLong length maxLength)

/-- A view of the bytes that start at `address` (`borrowed`). No bytes are the empty buffer. -/
def borrowed (address : Nat) (bytes : List UInt8) : Except EncodeError RawBuffer :=
  if bytes.isEmpty then .ok empty
  else do
    let length ← checkedLength bytes.length
    return ⟨address, length, length⟩

@[simp] theorem isNull_empty : empty.isNull = true := rfl

/-- Only the address decides whether a buffer is null. -/
theorem isNull_iff {raw : RawBuffer} : raw.isNull = true ↔ raw.address = 0 := beq_iff_eq

/-- A buffer at any other address is not null. -/
theorem isNull_eq_false_iff {raw : RawBuffer} : raw.isNull = false ↔ raw.address ≠ 0 :=
  beq_eq_false_iff_ne

end RawBuffer

/-- A breach of the contract on who releases a buffer (`OwnershipViolation`). -/
inductive Violation where
  /-- This allocator has released the buffer before. -/
  | doubleFree (address : Nat) (side : Side)
  /-- This allocator never handed the buffer out. -/
  | notAllocated (address : Nat) (side : Side)
  deriving DecidableEq, Repr

namespace Violation

/-- What is said about a breach, with the address written as given. -/
def describe (address : String) : Violation → String
  | .doubleFree _ side => "double free of buffer " ++ address ++ " by the " ++ side.name
      ++ " allocator"
  | .notAllocated _ side => "buffer " ++ address ++ " was not allocated by the " ++ side.name
      ++ " allocator"

/-- The address that a breach is about. -/
def address : Violation → Nat
  | .doubleFree address _ => address
  | .notAllocated address _ => address

/-- What is said about a breach. Addresses are written in lower-case hex. -/
def message (violation : Violation) : String :=
  violation.describe ("0x" ++ String.ofList (Nat.toDigits 16 violation.address))

end Violation

end HostBridge
