import HostBridge.Ownership.Ledger
import HostBridge.Ownership.Memory

/-!
# The boundary

The memory that both sides share and the ledgers that the host keeps of both allocators. The VM's
allocator has a record of its own, which the host does not see: the blocks that it has handed out,
and a count of the requests to free a block that is none of them.

A release checks and updates the host's ledger first. An operation that breaches the ownership
contract is refused with a `Violation`, and nothing has changed then.
-/

namespace HostBridge

/-- The state of both sides of the boundary. -/
structure Boundary where
  placement : Placement
  memory : Memory
  /-- The ledger of the host's own allocator. -/
  host : Ledger
  /-- The ledger that the host keeps of the VM's allocator. -/
  vm : Ledger
  /-- The blocks that the VM's allocator has handed out and not freed. -/
  vmBlocks : List Nat
  /-- How often the VM was asked to free a block that it had not handed out. -/
  badFrees : Nat

namespace Boundary

/-- Nothing is allocated. -/
def new (placement : Placement) : Boundary :=
  ⟨placement, .empty, .new .host, .new .vm, [], 0⟩

/-- The ledger of a side's allocator. -/
def ledger (boundary : Boundary) : Side → Ledger
  | .host => boundary.host
  | .vm => boundary.vm

/-- The bytes that a buffer claims. The null buffer has none, whatever length it claims. -/
def contents (boundary : Boundary) (raw : RawBuffer) : List UInt8 :=
  if raw.isNull then [] else ((boundary.memory.block? raw.address).getD []).take raw.length

/-- Allocates a block that holds `bytes`. -/
def allocate (boundary : Boundary) (bytes : List UInt8) : RawBuffer × Boundary :=
  let address := boundary.placement.place boundary.memory
  (⟨address, bytes.length, bytes.length⟩,
    { boundary with memory := boundary.memory.allocate address bytes })

/-! ## The VM's own side -/

/-- The VM allocates a block that holds `bytes`. The host is not told. -/
def vmAllocateBlock (boundary : Boundary) (bytes : List UInt8) : RawBuffer × Boundary :=
  let (raw, after) := boundary.allocate bytes
  (raw, { after with vmBlocks := raw.address :: after.vmBlocks })

/-- The VM allocates a buffer that holds `bytes` (`byte_array_alloc`). No bytes are the empty
buffer. -/
def vmAllocate (boundary : Boundary) (bytes : List UInt8) : RawBuffer × Boundary :=
  if bytes.isEmpty then (.empty, boundary) else boundary.vmAllocateBlock bytes

/-- The VM is asked to free a buffer (`byte_array_destroy`). The null buffer is ignored, and a block
that is not the VM's to free is counted and kept. -/
def vmDestroy (boundary : Boundary) (raw : RawBuffer) : Boundary :=
  if raw.isNull then boundary
  else if raw.address ∈ boundary.vmBlocks then
    { boundary with
      vmBlocks := boundary.vmBlocks.erase raw.address
      memory := boundary.memory.free raw.address }
  else { boundary with badFrees := boundary.badFrees + 1 }

/-! ## The host's side -/

/-- Allocates a buffer that holds `bytes` on a side and enters it into the ledger (`allocate`). No
bytes are the empty buffer, which is never entered. -/
def provide (boundary : Boundary) (side : Side) (bytes : List UInt8) : RawBuffer × Boundary :=
  if bytes.isEmpty then (.empty, boundary)
  else
    match side with
    | .host =>
      let (raw, after) := boundary.allocate bytes
      (raw, { after with host := after.host.track raw })
    | .vm =>
      let (raw, after) := boundary.vmAllocateBlock bytes
      (raw, { after with vm := after.vm.track raw })

/-- Takes over a buffer that the VM handed out (`adopt`). -/
def adopt (boundary : Boundary) (raw : RawBuffer) : Boundary :=
  { boundary with vm := boundary.vm.track raw }

/-- Releases a buffer through a side's allocator (`release`; on the host's side this is
`svm_host_byte_array_destroy` as well). The null buffer is ignored, and a block of the VM's is freed
by the VM (`byte_array_destroy`). -/
def release (boundary : Boundary) (side : Side) (raw : RawBuffer) :
    Except Violation Boundary :=
  if raw.isNull then .ok boundary
  else
    match side with
    | .host =>
      match boundary.host.release raw with
      | (.ok _, ledger) =>
        .ok { boundary with host := ledger, memory := boundary.memory.free raw.address }
      | (.error violation, _) => .error violation
    | .vm =>
      match boundary.vm.release raw with
      | (.ok _, ledger) => .ok ({ boundary with vm := ledger }.vmDestroy raw)
      | (.error violation, _) => .error violation

/-- Hands a buffer across (`relinquish`). The VM frees its own buffers by itself, so they leave the
ledger; a host buffer stays in it until the VM hands it back. -/
def relinquish (boundary : Boundary) (side : Side) (raw : RawBuffer) :
    Except Violation Boundary :=
  match side with
  | .host => .ok boundary
  | .vm =>
    match boundary.vm.forget raw with
    | (.ok _, ledger) => .ok { boundary with vm := ledger }
    | (.error violation, _) => .error violation

/-- Overwrites the bytes of a buffer from `offset` on, if `bytes` do not run past its end. -/
def overwrite (boundary : Boundary) (raw : RawBuffer) (offset : Nat) (bytes : List UInt8) :
    Option Boundary :=
  let before := boundary.contents raw
  if offset + bytes.length ≤ before.length then
    let after := before.take offset ++ bytes ++ before.drop (offset + bytes.length)
    some { boundary with memory := boundary.memory.store raw.address after }
  else none

/-! ## Views -/

/-- What there is to see at one place of a view. -/
inductive Sight where
  | byte (value : UInt8)
  /-- The place is past the end. -/
  | outside
  /-- The view claims a byte there, but no block stands behind it. -/
  | nothing
  deriving DecidableEq, Repr

/-- Looks at one place of a view (`get`). Only the claimed length is checked. -/
def look (boundary : Boundary) (view : RawBuffer) (index : Nat) : Sight :=
  if view.length ≤ index then .outside
  else
    match (boundary.contents view)[index]? with
    | some value => .byte value
    | none => .nothing

/-- The bytes that are seen one by one. -/
def lookAll (boundary : Boundary) (view : RawBuffer) : List UInt8 :=
  let bytes := (boundary.contents view).toArray
  (List.range view.length).filterMap fun index => bytes[index]?

/-- A buffer never has more bytes than it claims. -/
theorem length_contents_le (boundary : Boundary) (raw : RawBuffer) :
    (boundary.contents raw).length ≤ raw.length := by
  unfold contents
  split
  · simp
  · exact List.length_take_le ..

end Boundary

end HostBridge
