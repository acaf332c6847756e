import HostBridge.Proofs.Ownership.Contents

/-!
# What stands behind a buffer

Every operation changes the block at one address at most (`Boundary.ChangesOnly`), so a buffer is
backed by the same bytes until something is done at its own address (`Boundary.Backs`). A buffer
that is as long as the bytes behind it shows just these, in every way that it can be read
(`Boundary.Shows`).
-/

namespace HostBridge.Boundary

variable {boundary before between after : Boundary} {raw : RawBuffer} {buffer : Buffer}
  {bytes patch : List UInt8} {address offset : Nat}

/-! ## One block at a time -/

/-- Blocks at other addresses keep their bytes, and the VM keeps those that are its own. -/
structure ChangesOnly (address : Nat) (before after : Boundary) : Prop where
  block?_eq : ∀ other, other ≠ address → after.memory.block? other = before.memory.block? other
  mem_vmBlocks : ∀ other, other ≠ address → other ∈ before.vmBlocks → other ∈ after.vmBlocks

namespace ChangesOnly

/-- Nothing was done. -/
theorem refl (address : Nat) (boundary : Boundary) : ChangesOnly address boundary boundary :=
  ⟨fun _ _ => rfl, fun _ _ hmem => hmem⟩

/-- Two changes at one address are one. -/
theorem trans (h : ChangesOnly address before between) (h' : ChangesOnly address between after) :
    ChangesOnly address before after where
  block?_eq other hne := (h'.block?_eq other hne).trans (h.block?_eq other hne)
  mem_vmBlocks other hne hmem := h'.mem_vmBlocks other hne (h.mem_vmBlocks other hne hmem)

end ChangesOnly

/-- The ledgers are no blocks. -/
theorem changesOnly_vm (address : Nat) (boundary : Boundary) (ledger : Ledger) :
    ChangesOnly address boundary { boundary with vm := ledger } :=
  ⟨fun _ _ => rfl, fun _ _ hmem => hmem⟩

/-- A new block changes its own address only. -/
theorem changesOnly_allocate (boundary : Boundary) (bytes : List UInt8) :
    ChangesOnly (boundary.allocate bytes).1.address boundary (boundary.allocate bytes).2 where
  block?_eq _ hne := (Memory.block?_allocate ..).trans (if_neg hne)
  mem_vmBlocks _ _ hmem := hmem

/-- So does a new block of the VM's. -/
theorem changesOnly_vmAllocateBlock (boundary : Boundary) (bytes : List UInt8) :
    ChangesOnly (boundary.vmAllocateBlock bytes).1.address boundary
      (boundary.vmAllocateBlock bytes).2 where
  block?_eq := (changesOnly_allocate boundary bytes).block?_eq
  mem_vmBlocks _ _ hmem := .tail _ hmem

/-- So does a buffer that a side provides. Without bytes it changes nothing. -/
theorem changesOnly_provide (boundary : Boundary) (side : Side) (bytes : List UInt8) :
    ChangesOnly (boundary.provide side bytes).1.address boundary
      (boundary.provide side bytes).2 := by
  unfold provide
  split
  · exact .refl ..
  cases side with
  | host =>
    have h := changesOnly_allocate boundary bytes
    exact ⟨h.block?_eq, h.mem_vmBlocks⟩
  | vm =>
    have h := changesOnly_vmAllocateBlock boundary bytes
    exact ⟨h.block?_eq, h.mem_vmBlocks⟩

/-- What the VM frees, or counts as no block of its own, is at the buffer's address. -/
theorem changesOnly_vmDestroy (boundary : Boundary) (raw : RawBuffer) :
    ChangesOnly raw.address boundary (boundary.vmDestroy raw) := by
  unfold vmDestroy
  split
  · exact .refl ..
  split
  · exact
      { block?_eq := fun _ hne => (Memory.block?_free ..).trans (if_neg hne)
        mem_vmBlocks := fun _ hne hmem => (List.mem_erase_of_ne hne).2 hmem }
  · exact ⟨fun _ _ => rfl, fun _ _ hmem => hmem⟩

/-- A release changes the address of the buffer only, on either side. -/
theorem changesOnly_release {side : Side} (h : before.release side raw = .ok after) :
    ChangesOnly raw.address before after := by
  unfold release at h
  split at h
  · cases h
    exact .refl ..
  cases side with
  | host =>
    simp only at h
    split at h
    · cases h
      exact
        { block?_eq := fun _ hne => (Memory.block?_free ..).trans (if_neg hne)
          mem_vmBlocks := fun _ _ hmem => hmem }
    · cases h
  | vm =>
    simp only at h
    split at h
    · cases h
      exact (changesOnly_vm ..).trans (changesOnly_vmDestroy ..)
    · cases h

/-- A write changes the block that stands behind the buffer only. -/
theorem changesOnly_overwrite (h : before.overwrite raw offset bytes = some after) :
    ChangesOnly raw.address before after := by
  simp only [overwrite] at h
  split at h
  · cases h
    exact
      { block?_eq := fun _ hne => (Memory.block?_store ..).trans (if_neg hne)
        mem_vmBlocks := fun _ _ hmem => hmem }
  · cases h

/-! ## Backing -/

/-- What stands behind a buffer: nothing, or a block of the VM's if the buffer is the VM's. -/
inductive Backs (boundary : Boundary) : Buffer → List UInt8 → Prop where
  | null {buffer : Buffer} : buffer.raw.isNull = true → Backs boundary buffer []
  | block {buffer : Buffer} {bytes : List UInt8} : buffer.raw.isNull = false →
      boundary.memory.block? buffer.raw.address = some bytes →
      buffer.raw.length = bytes.length →
      (buffer.side = .vm → buffer.raw.address ∈ boundary.vmBlocks) → Backs boundary buffer bytes

namespace Backs

/-- A buffer holds what stands behind it. -/
theorem contents_eq (h : boundary.Backs buffer bytes) : boundary.contents buffer.raw = bytes := by
  cases h with
  | null hnull => exact contents_of_isNull hnull
  | block hnull hblock hlength =>
    rw [contents, hnull, hblock, hlength]
    exact List.take_length

/-- A block is as long as the buffer in front of it. -/
theorem length_eq (h : boundary.Backs buffer bytes)
    (hlength : buffer.raw.isNull = true → buffer.raw.length = 0) :
    buffer.raw.length = bytes.length := by
  cases h with
  | null hnull => exact hlength hnull
  | block _ _ hlength => exact hlength

/-- A buffer keeps its bytes while something is done elsewhere. -/
theorem of_changesOnly (h : before.Backs buffer bytes) (hchanges : ChangesOnly address before after)
    (hne : buffer.raw.isNull = false → buffer.raw.address ≠ address) :
    after.Backs buffer bytes := by
  cases h with
  | null hnull => exact .null hnull
  | block hnull hblock hlength hvm =>
    refine .block hnull ?_ hlength fun hside => ?_
    · rw [hchanges.block?_eq _ (hne hnull), hblock]
    · exact hchanges.mem_vmBlocks _ (hne hnull) (hvm hside)

/-- Nothing changes behind a buffer when it goes into a ledger or out of it. -/
theorem of_vm (h : boundary.Backs buffer bytes) (ledger : Ledger) :
    { boundary with vm := ledger }.Backs buffer bytes :=
  h.of_changesOnly (changesOnly_vm (buffer.raw.address + 1) boundary ledger) fun _ => by omega

/-- What is provided has a block of its bytes, and none if there are no bytes. -/
theorem provide (boundary : Boundary) (side : Side) (bytes : List UInt8) :
    (boundary.provide side bytes).2.Backs ⟨side, (boundary.provide side bytes).1⟩ bytes := by
  unfold Boundary.provide
  split
  · next hbytes =>
    rw [List.isEmpty_iff.1 hbytes]
    exact .null rfl
  have hnull : (boundary.allocate bytes).1.isNull = false :=
    RawBuffer.isNull_eq_false_iff.2 (boundary.placement.place_ne_zero _)
  have hblock : (boundary.allocate bytes).2.memory.block? (boundary.allocate bytes).1.address =
      some bytes := (Memory.block?_allocate ..).trans (if_pos rfl)
  cases side with
  | host => exact .block hnull hblock rfl nofun
  | vm => exact .block hnull hblock rfl fun _ => .head _

/-- A block of the VM's stands behind the buffer that the VM made of it. -/
theorem vmAllocateBlock (boundary : Boundary) (bytes : List UInt8) (capacity : Nat) :
    (boundary.vmAllocateBlock bytes).2.Backs
      ⟨.vm, { (boundary.vmAllocateBlock bytes).1 with capacity := capacity }⟩ bytes :=
  .block (RawBuffer.isNull_eq_false_iff.2 (boundary.placement.place_ne_zero _))
    ((Memory.block?_allocate ..).trans (if_pos rfl)) rfl fun _ => .head _

/-- Bytes are overwritten if they do not run past the end, and where they are put only. -/
theorem overwrite (h : before.Backs buffer bytes)
    (hafter : before.overwrite buffer.raw offset patch = some after) :
    after.Backs buffer (bytes.take offset ++ patch ++ bytes.drop (offset + patch.length)) := by
  have hcontents := h.contents_eq
  simp only [Boundary.overwrite, hcontents] at hafter
  split at hafter
  next hle =>
    cases hafter
    cases h with
    | null hnull =>
      rw [List.length_nil, Nat.le_zero, Nat.add_eq_zero_iff] at hle
      obtain rfl := List.length_eq_zero_iff.1 hle.2
      simpa using .null hnull
    | block hnull hblock hlength hvm =>
      refine .block hnull ?_ ?_ hvm
      · exact (Memory.block?_store ..).trans (by rw [if_pos rfl, hblock]; rfl)
      · simp
        omega
  · cases hafter

/-- A write that is done does not run past the bytes behind the buffer. -/
theorem le_of_overwrite (h : before.Backs buffer bytes)
    (hafter : before.overwrite buffer.raw offset patch = some after) :
    offset + patch.length ≤ bytes.length := by
  simp only [Boundary.overwrite, h.contents_eq] at hafter
  split at hafter
  · next hle => exact hle
  · cases hafter

end Backs

/-! ## New blocks -/

/-- What is provided is in a place where there was no block. -/
theorem Sound.provide_not_mem (h : boundary.Sound) (side : Side) (bytes : List UInt8) :
    (boundary.provide side bytes).1.address ∉ boundary.memory.addresses := by
  unfold Boundary.provide
  split
  · exact fun hmem => h.ne_zero _ hmem rfl
  · cases side with
    | host => exact boundary.placement.place_not_mem boundary.memory
    | vm => exact boundary.placement.place_not_mem boundary.memory

/-- Only the empty buffer is provided without a block. -/
theorem provide_eq_empty {side : Side} (h : (boundary.provide side bytes).1.isNull = true) :
    (boundary.provide side bytes).1 = .empty := by
  unfold Boundary.provide at h ⊢
  split
  · rfl
  · next hbytes =>
    rw [if_neg hbytes] at h
    have hplace := boundary.placement.place_ne_zero boundary.memory
    cases side with
    | host => exact absurd (RawBuffer.isNull_iff.1 h) hplace
    | vm => exact absurd (RawBuffer.isNull_iff.1 h) hplace

/-- A write is refused just if it runs past the bytes of the buffer. -/
theorem overwrite_eq_none_iff :
    boundary.overwrite raw offset patch = none ↔
      (boundary.contents raw).length < offset + patch.length := by
  simp only [overwrite]
  split
  · next hle => simpa using hle
  · next hlt => simpa using hlt

/-! ## Ways to read -/

/-- All ways to read a view show the same bytes, and none reads where there is nothing. -/
structure Shows (boundary : Boundary) (view : RawBuffer) (bytes : List UInt8) : Prop where
  length_eq : view.length = bytes.length
  isEmpty_iff : view.isEmpty = true ↔ bytes = []
  contents_eq : boundary.contents view = bytes
  look_eq_byte_iff : ∀ index byte, boundary.look view index = .byte byte ↔
    ∃ h : index < bytes.length, bytes[index] = byte
  look_eq_outside_iff : ∀ index, boundary.look view index = .outside ↔ bytes.length ≤ index
  look_ne_nothing : ∀ index, boundary.look view index ≠ .nothing
  lookAll_eq : boundary.lookAll view = bytes

/-- Bytes that are looked up one by one, as far as any number that covers them, are all found. -/
theorem filterMap_getElem?_range {count : Nat} (h : bytes.length ≤ count) :
    (List.range count).filterMap (bytes[·]?) = bytes := by
  induction bytes generalizing count with
  | nil => simp
  | cons byte rest ih =>
    cases count with
    | zero => simp at h
    | succ count =>
      rw [List.length_cons, Nat.add_le_add_iff_right] at h
      simpa [List.range_succ_eq_map, List.filterMap_map, Function.comp_def] using ih h

/-- One by one, just the contents are seen. -/
theorem lookAll_eq_contents (boundary : Boundary) (view : RawBuffer) :
    boundary.lookAll view = boundary.contents view := by
  simpa [lookAll] using filterMap_getElem?_range (boundary.length_contents_le view)

/-- A view shows the bytes behind it just if it is as long as they are. -/
theorem shows_iff : boundary.Shows raw bytes ↔
    boundary.contents raw = bytes ∧ raw.length = bytes.length := by
  refine ⟨fun h => ⟨h.contents_eq, h.length_eq⟩, fun ⟨hcontents, hlength⟩ => ?_⟩
  have hinside : ∀ (index : Nat) (h : index < bytes.length),
      boundary.look raw index = .byte bytes[index] := by
    intro index h
    rw [look, if_neg (by omega), hcontents, List.getElem?_eq_getElem h]
  have houtside : ∀ index, bytes.length ≤ index → boundary.look raw index = .outside :=
    fun index h => if_pos (by omega)
  refine
    { length_eq := hlength
      isEmpty_iff := by rw [RawBuffer.isEmpty, beq_iff_eq, hlength, List.length_eq_zero_iff]
      contents_eq := hcontents
      look_eq_byte_iff := fun index byte => ?_
      look_eq_outside_iff := fun index => ?_
      look_ne_nothing := fun index => ?_
      lookAll_eq := (lookAll_eq_contents boundary raw).trans hcontents }
  all_goals
    rcases Nat.lt_or_ge index bytes.length with h | h
    · simp [hinside index h, h]
    · simp [houtside index h, h, show ¬ index < bytes.length by omega]

end HostBridge.Boundary
