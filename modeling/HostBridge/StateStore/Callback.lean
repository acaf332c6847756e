import HostBridge.StateStore.Service

/-!
# Callbacks of the state store

The operations as a VM reaches them: keys and values are lent at an address with a length, and what
is found is written into room that the VM provides. There is no way to tell the VM about a fault,
so a fault ends the process.
-/

namespace HostBridge.StateStore

/-- Bytes that the VM lends. -/
structure Lent where
  /-- The bytes at the address, if it is not null. -/
  bytes? : Option (List UInt8)
  length : Nat
  deriving DecidableEq, Repr

/-- The bytes that are lent. A null address lends none, whatever the length. -/
def Lent.contents (lent : Lent) : List UInt8 := (lent.bytes?.getD []).take lent.length

/-- Bytes, lent as they are. -/
def Lent.ofBytes (bytes : List UInt8) : Lent := ⟨some bytes, bytes.length⟩

@[simp] theorem Lent.contents_ofBytes (bytes : List UInt8) : (ofBytes bytes).contents = bytes := by
  simp [ofBytes, contents]

/-- The room that the VM provides for a value. -/
structure Room where
  value : Octets 32
  /-- How many bytes of the value count. -/
  length : UInt32
  deriving DecidableEq

/-- The room after a lookup. A key that is absent leaves the value as it was. -/
def Room.put (room : Room) : Option (Octets 32) → Room
  | some value => ⟨value, 32⟩
  | none => { room with length := 0 }

/-- The bytes in the room that count. -/
def Room.found? (room : Room) : Option (List UInt8) :=
  if room.length = 0 then none else some (room.value.toList.take room.length.toNat)

namespace Service

variable {σ : Type}

/-- Looks a key up for the VM (`svm_kv_get`). -/
def vmGet? (depth : Nat) (key : Lent) (room : Room) (service : Service σ) :
    Option (Except Fault Room × Service σ) :=
  (perform? depth .get key.contents service).map fun (result, after) =>
    (result.map room.put, after)

/-- Stores a value for the VM (`svm_kv_set`). -/
def vmSet? (depth : Nat) (key value : Lent) (service : Service σ) :
    Option (Except Fault Unit × Service σ) :=
  perform? depth .set (key.contents, value.contents) service

/-- Drops for the VM what was not committed (`svm_kv_discard`). -/
def vmDiscard? (depth : Nat) (service : Service σ) : Option (Except Fault Unit × Service σ) :=
  perform? depth .discard () service

/-- Commits for the VM (`svm_kv_checkpoint`). The root fills the room that the VM provides. -/
def vmCheckpoint? (depth : Nat) (service : Service σ) :
    Option (Except Fault StateRoot × Service σ) :=
  perform? depth .checkpoint () service

/-- Tells the VM the current root (`svm_kv_head`). It fills the room that the VM provides. -/
def vmHead? (depth : Nat) (service : Service σ) :
    Option (Except Fault StateRoot × Service σ) :=
  perform? depth .head () service

end Service

end HostBridge.StateStore
