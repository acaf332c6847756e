import HostBridge.Proofs.Ownership.Dues

/-!
# What buffers hold

A new buffer holds the bytes that it was made with, and allocating it changes no other buffer. From
this follows what the VM cannot do: whatever it allocates and frees while the host waits for it, the
host's own buffers stay live and hold the same bytes (`Boundary.Untouched`).
-/

namespace HostBridge.Boundary

variable {boundary before between after : Boundary} {raw : RawBuffer} {buffers : List Buffer}

/-! ## Contents -/

/-- The null buffer has no bytes, whatever it claims. -/
theorem contents_of_isNull (h : raw.isNull = true) : boundary.contents raw = [] := by
  simp [contents, h]

/-- What a buffer holds depends on its block only. -/
theorem contents_eq_of_block? (h : after.memory.block? raw.address = before.memory.block? raw.address) :
    after.contents raw = before.contents raw := by
  simp only [contents, h]

/-- A new block holds its bytes. -/
theorem contents_allocate (boundary : Boundary) (bytes : List UInt8) :
    (boundary.allocate bytes).2.contents (boundary.allocate bytes).1 = bytes := by
  have hnull : (boundary.allocate bytes).1.isNull = false :=
    RawBuffer.isNull_eq_false_iff.2 (boundary.placement.place_ne_zero _)
  have hblock : (boundary.allocate bytes).2.memory.block? (boundary.allocate bytes).1.address =
      some bytes :=
    (Memory.block?_allocate ..).trans (if_pos rfl)
  rw [contents, hnull, hblock]
  exact List.take_length

/-- Where there is a block, no other is put. -/
theorem contents_allocate_of_mem (h : raw.address ∈ boundary.memory.addresses) (bytes : List UInt8) :
    (boundary.allocate bytes).2.contents raw = boundary.contents raw := by
  have hne : raw.address ≠ boundary.placement.place boundary.memory := fun heq =>
    boundary.placement.place_not_mem boundary.memory (heq ▸ h)
  exact contents_eq_of_block? ((Memory.block?_allocate ..).trans (if_neg hne))

/-- What is provided holds its bytes. -/
theorem contents_provide (boundary : Boundary) (side : Side) (bytes : List UInt8) :
    (boundary.provide side bytes).2.contents (boundary.provide side bytes).1 = bytes := by
  unfold Boundary.provide
  split
  · next hbytes =>
    rw [List.isEmpty_iff.1 hbytes]
    exact contents_of_isNull rfl
  · cases side with
    | host => exact contents_allocate boundary bytes
    | vm => exact contents_allocate boundary bytes

/-- What a side provides does not touch the blocks that are there. -/
theorem contents_provide_of_mem (h : raw.address ∈ boundary.memory.addresses) (side : Side)
    (bytes : List UInt8) : (boundary.provide side bytes).2.contents raw = boundary.contents raw := by
  unfold Boundary.provide
  split
  · rfl
  · cases side with
    | host => exact contents_allocate_of_mem h bytes
    | vm => exact contents_allocate_of_mem h bytes

/-! ## The host's own buffers -/

/-- The host's live buffers are still live, and hold what they held. -/
structure Untouched (before after : Boundary) : Prop where
  host_eq : after.host = before.host
  contents_eq : ∀ raw, raw.address ∈ before.host.live.keys →
    after.contents raw = before.contents raw

namespace Untouched

/-- Nothing was done. -/
theorem refl (boundary : Boundary) : boundary.Untouched boundary := ⟨rfl, fun _ _ => rfl⟩

/-- If neither of two steps touches the host's buffers, both together do not. -/
theorem trans (h : before.Untouched between) (h' : between.Untouched after) :
    before.Untouched after where
  host_eq := h'.host_eq.trans h.host_eq
  contents_eq raw hmem := (h'.contents_eq raw (h.host_eq ▸ hmem)).trans (h.contents_eq raw hmem)

end Untouched

namespace Owes

/-- A live buffer of the host's is in memory. -/
theorem mem_memory (h : boundary.Owes buffers) {address : Nat}
    (hmem : address ∈ boundary.host.live.keys) : address ∈ boundary.memory.addresses :=
  h.blocks.mem_iff.2 (List.mem_append_left _ hmem)

/-- Behind a buffer that is owed there is a block. -/
theorem mem_memory_of_mem (h : boundary.Owes buffers) {buffer : Buffer} (hmem : buffer ∈ buffers)
    (hnull : buffer.raw.isNull = false) : buffer.raw.address ∈ boundary.memory.addresses := by
  obtain ⟨side, raw⟩ := buffer
  have hdue : raw.address ∈ dues side buffers :=
    List.mem_filterMap.2 ⟨_, hmem, by simpa [Buffer.due?] using hnull⟩
  cases side with
  | host => exact h.mem_memory (h.hostLive.mem_iff.2 hdue)
  | vm =>
    have hblock := h.vmLive_subset (h.vmLive.mem_iff.2 hdue)
    exact h.blocks.mem_iff.2 (List.mem_append_right _ hblock)

/-- What is owed keeps its bytes where nothing in memory is changed. -/
theorem contents_eq_of_memory (h : before.Owes buffers) {buffer : Buffer} (hmem : buffer ∈ buffers)
    (hkept : ∀ other : RawBuffer, other.address ∈ before.memory.addresses →
      after.contents other = before.contents other) :
    after.contents buffer.raw = before.contents buffer.raw := by
  cases hnull : buffer.raw.isNull with
  | true => rw [contents_of_isNull hnull, contents_of_isNull hnull]
  | false => exact hkept buffer.raw (h.mem_memory_of_mem hmem hnull)

/-- What the host holds and lends keeps its bytes while its own buffers are left alone. -/
theorem contents_eq (h : before.Owes buffers) (huntouched : before.Untouched after)
    (hmem : ⟨.host, raw⟩ ∈ buffers) : after.contents raw = before.contents raw := by
  cases hnull : raw.isNull with
  | true => rw [contents_of_isNull hnull, contents_of_isNull hnull]
  | false =>
    have hdue : raw.address ∈ dues .host buffers :=
      List.mem_filterMap.2 ⟨_, hmem, by simpa [Buffer.due?] using hnull⟩
    exact huntouched.contents_eq raw (h.hostLive.mem_iff.2 hdue)

/-- What the VM allocates does not touch the host's buffers. -/
theorem untouched_vmAllocate (h : boundary.Owes buffers) (bytes : List UInt8) :
    boundary.Untouched (boundary.vmAllocate bytes).2 := by
  unfold Boundary.vmAllocate
  split
  · exact .refl _
  · exact ⟨rfl, fun raw hmem => contents_allocate_of_mem (h.mem_memory hmem) bytes⟩

/-- Whatever the VM is asked to free, the host's buffers stay. -/
theorem untouched_vmDestroy (h : boundary.Owes buffers) (raw : RawBuffer) :
    boundary.Untouched (boundary.vmDestroy raw) := by
  unfold Boundary.vmDestroy
  split
  · exact .refl _
  split
  · next hvm =>
    refine ⟨rfl, fun other hmem => contents_eq_of_block? ?_⟩
    have hne : other.address ≠ raw.address := fun heq => h.not_mem_vmBlocks hmem (heq ▸ hvm)
    exact (Memory.block?_free ..).trans (if_neg hne)
  · exact ⟨rfl, fun _ _ => rfl⟩

/-- What is provided on the VM's side does not touch the host's buffers. -/
theorem untouched_provide_vm (h : boundary.Owes buffers) (bytes : List UInt8) :
    boundary.Untouched (boundary.provide .vm bytes).2 := by
  refine ⟨?_, fun raw hmem => contents_provide_of_mem (h.mem_memory hmem) .vm bytes⟩
  unfold Boundary.provide
  split <;> rfl

end Owes

/-- Handing a buffer across changes the ledger of the VM's side at most. -/
theorem intoRaw_eq_ok {buffer : Buffer} (h : buffer.intoRaw before = .ok (raw, after)) :
    raw = buffer.raw ∧ ∃ ledger, after = { before with vm := ledger } := by
  cases hside : buffer.side with
  | host =>
    simp [Buffer.intoRaw, relinquish, hside] at h
    obtain ⟨rfl, rfl⟩ := h
    exact ⟨rfl, before.vm, rfl⟩
  | vm =>
    cases hforget : before.vm.forget buffer.raw with
    | mk answer ledger =>
    cases answer with
    | error violation => simp [Buffer.intoRaw, relinquish, hside, hforget] at h
    | ok _ =>
      simp [Buffer.intoRaw, relinquish, hside, hforget] at h
      obtain ⟨rfl, rfl⟩ := h
      exact ⟨rfl, ledger, rfl⟩

/-- A buffer that is handed across leaves the host's buffers as they are. -/
theorem untouched_intoRaw {buffer : Buffer} (h : buffer.intoRaw before = .ok (raw, after)) :
    before.Untouched after := by
  obtain ⟨-, ledger, rfl⟩ := intoRaw_eq_ok h
  exact ⟨rfl, fun _ _ => rfl⟩

end HostBridge.Boundary
