import HostBridge.Bytes.Octets

/-!
# Operations of the state store

The state of a VM's apps lies in a store of the host's, as values of 32 bytes under keys of any
length. Five operations lead to it, and each is served by a handler in a slot of its own. A handler
may answer anything; `check` lets an answer pass only if its size is right.
-/

namespace HostBridge.StateStore

/-- The operations of the state store. -/
inductive Slot where
  /-- Looks a key up. -/
  | get
  /-- Stores a value under a key. -/
  | set
  /-- Drops what was not committed. -/
  | discard
  /-- Commits, and tells the new root. -/
  | checkpoint
  /-- Tells the current root. -/
  | head
  deriving DecidableEq, Repr

namespace Slot

/-- The name of an operation in messages. -/
def name : Slot → String
  | .get => "get"
  | .set => "set"
  | .discard => "discard"
  | .checkpoint => "checkpoint"
  | .head => "head"

/-- What a handler is given: a key, a key and a value, or nothing. -/
abbrev Request : Slot → Type
  | .get => List UInt8
  | .set => List UInt8 × List UInt8
  | .discard | .checkpoint | .head => Unit

/-- What a handler answers. -/
abbrev Answer : Slot → Type
  | .get => Option (List UInt8)
  | .set | .discard => Unit
  | .checkpoint | .head => List UInt8

/-- What an operation hands out if the answer of its handler passes. -/
abbrev Result : Slot → Type
  | .get => Option (Octets 32)
  | .set | .discard => Unit
  | .checkpoint | .head => StateRoot

/-- What an operation hands out, in messages. -/
def yields : Slot → String
  | .get => "value"
  | _ => "state"

end Slot

/-- Why an operation fails (`StateKvViolation`). -/
inductive Fault where
  /-- There is no handler in the slot. -/
  | missingHandler (slot : Slot)
  /-- The handler's answer has another size than 32 bytes. -/
  | wrongSize (slot : Slot) (size : Nat)
  deriving DecidableEq, Repr

/-- What is said about a fault. -/
def Fault.message : Fault → String
  | .missingHandler slot =>
    "\x60" ++ slot.name ++ "\x60 handler wasn't registered for the state KV"
  | .wrongSize slot size =>
    "\x60" ++ slot.name ++ "\x60 returned an invalid " ++ slot.yields
      ++ " size; expected: 32, got: " ++ toString size

/-- Bytes, if there are 32 of them (`check_size`). -/
def sized (slot : Slot) (bytes : List UInt8) : Except Fault (Octets 32) :=
  if h : bytes.length = 32 then .ok ⟨bytes, h⟩ else .error (.wrongSize slot bytes.length)

/-- Lets the answer of a handler pass if its size is right. -/
def check : (slot : Slot) → slot.Answer → Except Fault slot.Result
  | .get, none => .ok none
  | .get, some bytes => (sized .get bytes).map some
  | .set, _ => .ok ()
  | .discard, _ => .ok ()
  | .checkpoint, bytes => sized .checkpoint bytes
  | .head, bytes => sized .head bytes

/-- Bytes pass exactly if there are 32 of them, and then unchanged. -/
theorem sized_eq_ok_iff {slot : Slot} {bytes : List UInt8} {octets : Octets 32} :
    sized slot bytes = .ok octets ↔ bytes = octets.toList := by
  unfold sized
  constructor
  · intro h
    split at h
    · cases h; rfl
    · cases h
  · rintro rfl
    simp [octets.length_toList]

end HostBridge.StateStore
