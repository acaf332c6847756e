import HostBridge.Ownership.Buffer
import Mathlib.Data.List.Perm.Basic
import Mathlib.Data.List.Perm.Subperm

/-!
# What the host owes

A boundary `Owes` a list of buffers if its two ledgers hold exactly the buffers of that list that
are not null, each in the ledger of its side, and if every block in memory is accounted for: as a
live buffer of the host's or as a block of the VM's, and never as both.

There is one lemma for each operation. What allocates or takes over puts a buffer in front of the
list (`Owes.provide`, `Owes.adopt`), what releases or hands across takes one away (`Owes.drop`,
`Owes.intoRaw`), and no release of a buffer on the list is refused. The VM may meanwhile allocate,
and free whatever is not on the list (`Owes.vmAllocate`, `Owes.vmDestroy`).
-/

namespace HostBridge

/-! ## Dues -/

/-- The address that a side's allocator must release, unless the buffer is null. -/
def Buffer.due? (side : Side) (buffer : Buffer) : Option Nat :=
  if buffer.side = side ∧ buffer.raw.isNull = false then some buffer.raw.address else none

/-- The addresses that a side's allocator must release. -/
def dues (side : Side) (buffers : List Buffer) : List Nat := buffers.filterMap (Buffer.due? side)

section dues

variable {side : Side} {buffer : Buffer} {buffers others : List Buffer}

@[simp] theorem dues_nil : dues side [] = [] := rfl

@[simp] theorem dues_append : dues side (buffers ++ others) = dues side buffers ++ dues side others :=
  List.filterMap_append ..

/-- A null buffer is owed to nobody. -/
theorem dues_cons_of_isNull (h : buffer.raw.isNull = true) :
    dues side (buffer :: buffers) = dues side buffers :=
  List.filterMap_cons_none (by simp [Buffer.due?, h])

/-- A buffer of the other side is not owed to this one. -/
theorem dues_cons_of_ne {raw : RawBuffer} {other : Side} (h : other ≠ side) :
    dues side (⟨other, raw⟩ :: buffers) = dues side buffers :=
  List.filterMap_cons_none (by simp [Buffer.due?, h])

/-- A buffer of a side is owed to it, unless it is null. -/
theorem dues_cons_self {raw : RawBuffer} (h : raw.isNull = false) :
    dues side (⟨side, raw⟩ :: buffers) = raw.address :: dues side buffers :=
  List.filterMap_cons_some (by simp [Buffer.due?, h])

/-- What is owed does not depend on the order of the buffers. -/
theorem dues_perm (h : buffers.Perm others) : (dues side buffers).Perm (dues side others) :=
  h.filterMap _

/-- Dues that stand in front of other addresses can be taken away again. -/
theorem dues_append_diff (side : Side) (buffers : List Buffer) (addresses : List Nat) :
    (dues side buffers ++ addresses).diff (dues side buffers) = addresses := by
  induction dues side buffers with
  | nil => rfl
  | cons address rest ih => rw [List.cons_append, List.diff_cons, List.erase_cons_head, ih]

/-- The dues of a side are its buffers that are not null. -/
theorem length_dues : (dues side buffers).length =
    buffers.countP fun buffer => buffer.side = side ∧ buffer.raw.isNull = false := by
  rw [dues, List.length_filterMap_eq_countP]
  refine List.countP_congr fun buffer _ => ?_
  unfold Buffer.due?
  split <;> simp_all

end dues

/-! ## Ledgers -/

namespace Ledger

variable {ledger : Ledger} {raw : RawBuffer}

/-- A buffer that is not null becomes live, if it was not before. -/
theorem live_track_perm (h : raw.isNull = false) (hfresh : raw.address ∉ ledger.live.keys) :
    (ledger.track raw).live.keys.Perm (raw.address :: ledger.live.keys) := by
  rw [track, if_neg (by simp [h])]
  exact Book.keys_insert_perm hfresh raw.capacity

/-- Where nothing is live, nothing is counted. -/
theorem liveCount_eq_zero (h : ledger.live.keys = []) : ledger.liveCount = 0 := by
  have hlength := congrArg List.length h
  rwa [Std.ExtTreeMap.length_keys] at hlength

/-- The release of a live buffer strikes it out. -/
theorem release_of_mem (h : raw.address ∈ ledger.live.keys) :
    ∃ capacity after, ledger.release raw = (.ok capacity, after) ∧
      after.live = ledger.live.erase raw.address := by
  obtain ⟨capacity, hcapacity⟩ := Option.isSome_iff_exists.1 (Book.isSome_getElem?_iff.2 h)
  exact ⟨capacity, _, release_of_some hcapacity, rfl⟩

/-- A live buffer can be forgotten, and is struck out then. -/
theorem forget_of_mem (hraw : raw.isNull = false) (h : raw.address ∈ ledger.live.keys) :
    ledger.forget raw = (.ok (), { ledger with live := ledger.live.erase raw.address }) := by
  obtain ⟨capacity, hcapacity⟩ := Option.isSome_iff_exists.1 (Book.isSome_getElem?_iff.2 h)
  exact forget_of_some hraw hcapacity

end Ledger

/-! ## Accounts -/

/-- Every block in memory is accounted for. -/
structure Boundary.Sound (boundary : Boundary) : Prop where
  /-- A block is a live buffer of the host's, or it is the VM's. -/
  blocks : boundary.memory.addresses.Perm (boundary.host.live.keys ++ boundary.vmBlocks)
  /-- No block is null. -/
  ne_zero : ∀ address ∈ boundary.memory.addresses, address ≠ 0

/-- Every block is accounted for, and the ledgers hold the given buffers. -/
structure Boundary.Owes (boundary : Boundary) (buffers : List Buffer) : Prop
    extends Sound boundary where
  hostLive : boundary.host.live.keys.Perm (dues .host buffers)
  vmLive : boundary.vm.live.keys.Perm (dues .vm buffers)
  /-- What the host holds of the VM's has not been freed by the VM. -/
  vmLive_subset : boundary.vm.live.keys ⊆ boundary.vmBlocks

namespace Boundary

/-! ### Requests to free -/

/-- Nothing is freed where something is allocated. -/
theorem badFrees_vmAllocate (boundary : Boundary) (bytes : List UInt8) :
    (boundary.vmAllocate bytes).2.badFrees = boundary.badFrees := by
  unfold vmAllocate
  split <;> rfl

/-- A request to free a block that the VM has handed out is in order. -/
theorem badFrees_vmDestroy {boundary : Boundary} {raw : RawBuffer}
    (h : raw.address ∈ boundary.vmBlocks) :
    (boundary.vmDestroy raw).badFrees = boundary.badFrees := by
  unfold vmDestroy
  rw [if_pos h]
  split <;> rfl

/-- Nothing is freed where a side provides a buffer. -/
theorem badFrees_provide (boundary : Boundary) (side : Side) (bytes : List UInt8) :
    (boundary.provide side bytes).2.badFrees = boundary.badFrees := by
  unfold provide
  split
  · rfl
  · cases side <;> rfl

/-! ### The VM's blocks -/

/-- A buffer that the VM allocates is one more block of its own. -/
theorem vmBlocks_vmAllocate (boundary : Boundary) (bytes : List UInt8) :
    (boundary.vmAllocate bytes).2.vmBlocks =
      dues .vm [⟨.vm, (boundary.vmAllocate bytes).1⟩] ++ boundary.vmBlocks := by
  unfold vmAllocate
  split
  · rw [dues_cons_of_isNull rfl]
    rfl
  · have hnull : (boundary.vmAllocateBlock bytes).1.isNull = false :=
      RawBuffer.isNull_eq_false_iff.2 (boundary.placement.place_ne_zero _)
    rw [dues_cons_self hnull]
    rfl

/-- A buffer that the VM is asked to free is no longer one of its blocks. -/
theorem vmBlocks_vmDestroy (boundary : Boundary) (raw : RawBuffer) :
    (boundary.vmDestroy raw).vmBlocks = boundary.vmBlocks.diff (dues .vm [⟨.vm, raw⟩]) := by
  unfold vmDestroy
  split
  · next hnull => rw [dues_cons_of_isNull hnull]; rfl
  next hnull =>
  rw [dues_cons_self (Bool.of_not_eq_true hnull), List.diff_cons, dues_nil, List.diff_nil]
  split
  · rfl
  · next hblock => exact (List.erase_of_not_mem hblock).symm

/-- What the host has its VM's allocator provide is one more block of the VM's. -/
theorem vmBlocks_provide (boundary : Boundary) (side : Side) (bytes : List UInt8) :
    (boundary.provide side bytes).2.vmBlocks =
      dues .vm [⟨side, (boundary.provide side bytes).1⟩] ++ boundary.vmBlocks := by
  unfold provide
  split
  · rw [dues_cons_of_isNull rfl]
    rfl
  · cases side with
    | host =>
      rw [dues_cons_of_ne (by simp)]
      rfl
    | vm =>
      have hnull : (boundary.vmAllocateBlock bytes).1.isNull = false :=
        RawBuffer.isNull_eq_false_iff.2 (boundary.placement.place_ne_zero _)
      rw [dues_cons_self hnull]
      rfl

/-- A buffer of the VM's that the host drops is freed by the VM, and no other block is. -/
theorem vmBlocks_drop {boundary after : Boundary} {buffer : Buffer}
    (h : buffer.drop boundary = .ok after) :
    after.vmBlocks = boundary.vmBlocks.diff (dues .vm [buffer]) := by
  obtain ⟨side, raw⟩ := buffer
  simp only [Buffer.drop, release] at h
  split at h
  · next hnull =>
    cases h
    rw [dues_cons_of_isNull hnull]
    rfl
  cases side with
  | host =>
    simp only at h
    split at h
    · cases h
      rw [dues_cons_of_ne (by simp)]
      rfl
    · cases h
  | vm =>
    simp only at h
    split at h
    · cases h
      exact vmBlocks_vmDestroy ..
    · cases h

/-- To hand a buffer across frees no block. -/
theorem vmBlocks_intoRaw {boundary after : Boundary} {buffer : Buffer} {raw : RawBuffer}
    (h : buffer.intoRaw boundary = .ok (raw, after)) : after.vmBlocks = boundary.vmBlocks := by
  obtain ⟨side, inner⟩ := buffer
  cases side with
  | host =>
    cases h
    rfl
  | vm =>
    simp only [Buffer.intoRaw, relinquish] at h
    split at h <;> cases h
    rfl

/-- To overwrite bytes frees no block. -/
theorem vmBlocks_overwrite {boundary after : Boundary} {raw : RawBuffer} {offset : Nat}
    {bytes : List UInt8} (h : boundary.overwrite raw offset bytes = some after) :
    after.vmBlocks = boundary.vmBlocks := by
  simp only [overwrite] at h
  split at h <;> cases h
  rfl

/-! ### Accounts of a new boundary -/

/-- Nothing is owed at first. -/
theorem owes_new (placement : Placement) : (new placement).Owes [] where
  blocks := .refl _
  ne_zero _ h := absurd h List.not_mem_nil
  hostLive := .refl _
  vmLive := .refl _
  vmLive_subset := List.Subset.refl _

/-- Where the host holds nothing of the VM's, it owes just its own live buffers. -/
theorem Sound.owes {boundary : Boundary} (h : boundary.Sound)
    (hvm : boundary.vm.live.keys = []) :
    boundary.Owes (boundary.host.live.keys.map fun address => ⟨.host, ⟨address, 0, 0⟩⟩) := by
  have hne : ∀ address ∈ boundary.host.live.keys, address ≠ 0 := fun address hmem =>
    h.ne_zero address (h.blocks.mem_iff.2 (List.mem_append_left _ hmem))
  refine { h with hostLive := ?_, vmLive := ?_, vmLive_subset := ?_ }
  · generalize boundary.host.live.keys = addresses at hne
    induction addresses with
    | nil => exact .refl _
    | cons address rest ih =>
      obtain ⟨hhead, hrest⟩ := List.forall_mem_cons.1 hne
      rw [List.map_cons, dues_cons_self (RawBuffer.isNull_eq_false_iff.2 hhead)]
      exact (ih hrest).cons _
  · rw [hvm, dues, List.filterMap_map, List.filterMap_eq_nil_iff.2 fun _ _ => by simp [Buffer.due?]]
  · rw [hvm]
    exact List.nil_subset _

namespace Owes

variable {boundary : Boundary} {buffer : Buffer} {buffers others : List Buffer} {raw : RawBuffer}
  {ledger : Ledger}

/-- In which order the buffers are owed does not matter. -/
theorem perm (h : boundary.Owes buffers) (hperm : buffers.Perm others) : boundary.Owes others :=
  { h with
    hostLive := h.hostLive.trans (dues_perm hperm)
    vmLive := h.vmLive.trans (dues_perm hperm) }

/-- A null buffer does not count. -/
theorem cons_of_isNull (hnull : buffer.raw.isNull = true) :
    boundary.Owes (buffer :: buffers) ↔ boundary.Owes buffers := by
  have hdues : ∀ side, dues side (buffer :: buffers) = dues side buffers := fun _ =>
    dues_cons_of_isNull hnull
  constructor
  · intro h
    exact { h with hostLive := hdues .host ▸ h.hostLive, vmLive := hdues .vm ▸ h.vmLive }
  · intro h
    exact { h with
      hostLive := (hdues .host).symm ▸ h.hostLive
      vmLive := (hdues .vm).symm ▸ h.vmLive }

/-- The host's ledger counts the buffers of the host that are owed. -/
theorem host_liveCount (h : boundary.Owes buffers) :
    boundary.host.liveCount = (dues .host buffers).length := by
  rw [← h.hostLive.length_eq, Std.ExtTreeMap.length_keys]
  rfl

/-- The ledger of the VM's allocator counts the buffers of the VM that are owed. -/
theorem vm_liveCount (h : boundary.Owes buffers) :
    boundary.vm.liveCount = (dues .vm buffers).length := by
  rw [← h.vmLive.length_eq, Std.ExtTreeMap.length_keys]
  rfl

/-- No buffer of the VM's is owed twice. -/
theorem nodup_vmDues (h : boundary.Owes buffers) : (dues .vm buffers).Nodup :=
  h.vmLive.nodup_iff.1 Std.ExtTreeMap.nodup_keys

/-- Two buffers of the VM's that are owed do not share a block. -/
theorem address_ne {first second : RawBuffer}
    (h : boundary.Owes (⟨.vm, first⟩ :: ⟨.vm, second⟩ :: buffers)) (hnull : second.isNull = false) :
    second.address ≠ first.address := by
  intro heq
  have hfirst : first.isNull = false := by
    rw [RawBuffer.isNull_eq_false_iff] at hnull ⊢
    exact heq ▸ hnull
  have hnodup := h.nodup_vmDues
  rw [dues_cons_self hfirst, dues_cons_self hnull, List.nodup_cons] at hnodup
  exact hnodup.1 (heq ▸ .head _)

/-- No block is both a live buffer of the host's and the VM's. -/
theorem not_mem_vmBlocks (h : boundary.Owes buffers) {address : Nat}
    (hmem : address ∈ boundary.host.live.keys) : address ∉ boundary.vmBlocks := by
  have hnodup := h.blocks.nodup_iff.1 Std.ExtTreeMap.nodup_keys
  exact fun hvm => (List.nodup_append.1 hnodup).2.2 _ hmem _ hvm rfl

/-! ### The VM's own side -/

/-- A new block of the VM's is nobody else's. -/
theorem vmAllocateBlock (h : boundary.Owes buffers) (bytes : List UInt8) :
    (boundary.vmAllocateBlock bytes).2.Owes buffers := by
  have hmemory :=
    Memory.addresses_allocate_perm (boundary.placement.place_not_mem boundary.memory) bytes
  refine
    { h with
      blocks := ?_
      ne_zero := fun address hmem => ?_
      vmLive_subset := fun address hlive => .tail _ (h.vmLive_subset hlive) }
  · exact hmemory.trans ((h.blocks.cons _).trans List.perm_middle.symm)
  · obtain rfl | hmem := List.mem_cons.1 (hmemory.mem_iff.1 hmem)
    · exact boundary.placement.place_ne_zero _
    · exact h.ne_zero address hmem

/-- What the VM allocates changes nothing about what the host owes. -/
theorem vmAllocate (h : boundary.Owes buffers) (bytes : List UInt8) :
    (boundary.vmAllocate bytes).2.Owes buffers := by
  unfold Boundary.vmAllocate
  split
  · exact h
  · exact h.vmAllocateBlock bytes

/-- The VM may free whatever the host does not hold. -/
theorem vmDestroy (h : boundary.Owes buffers)
    (hraw : raw.isNull = true ∨ raw.address ∉ dues .vm buffers) :
    (boundary.vmDestroy raw).Owes buffers := by
  unfold Boundary.vmDestroy
  split
  · exact h
  next hnull =>
  split
  · next hmem =>
    have hvm : raw.address ∉ boundary.vm.live.keys := fun hlive =>
      hraw.resolve_left hnull (h.vmLive.mem_iff.1 hlive)
    have hhost : raw.address ∉ boundary.host.live.keys := fun hlive =>
      h.not_mem_vmBlocks hlive hmem
    refine
      { h with
        blocks := ?_
        ne_zero := fun address hfree => ?_
        vmLive_subset := fun address hlive => ?_ }
    · rw [Memory.addresses_free, ← List.erase_append_right _ hhost]
      exact h.blocks.erase _
    · rw [Memory.addresses_free] at hfree
      exact h.ne_zero address (List.mem_of_mem_erase hfree)
    · exact (List.mem_erase_of_ne (ne_of_mem_of_not_mem hlive hvm)).2 (h.vmLive_subset hlive)
  · exact { h with }

/-! ### The host's side -/

/-- A block of the VM's that the host does not hold can be taken over. -/
theorem adopt (h : boundary.Owes buffers)
    (hraw : raw.isNull = true ∨ raw.address ∈ boundary.vmBlocks ∧ raw.address ∉ dues .vm buffers) :
    (boundary.adopt raw).Owes (⟨.vm, raw⟩ :: buffers) := by
  cases hnull : raw.isNull with
  | true =>
    have htrack : boundary.adopt raw = boundary := by simp [Boundary.adopt, Ledger.track, hnull]
    rw [htrack]
    exact (cons_of_isNull hnull).2 h
  | false =>
    obtain ⟨hblock, hdue⟩ := hraw.resolve_left (by simp [hnull])
    have hlive : (boundary.adopt raw).vm.live.keys.Perm (raw.address :: boundary.vm.live.keys) :=
      Ledger.live_track_perm hnull fun hmem => hdue (h.vmLive.mem_iff.1 hmem)
    refine { h with hostLive := ?_, vmLive := ?_, vmLive_subset := ?_ }
    · rw [dues_cons_of_ne (by simp)]
      exact h.hostLive
    · rw [dues_cons_self hnull]
      exact hlive.trans (h.vmLive.cons _)
    · exact fun other hmem =>
        List.cons_subset.2 ⟨hblock, h.vmLive_subset⟩ (hlive.subset hmem)

/-- A new block that the host enters into its ledger is owed by it. -/
theorem allocate_host (h : boundary.Owes buffers) (bytes : List UInt8) :
    { (boundary.allocate bytes).2 with
      host := boundary.host.track (boundary.allocate bytes).1 }.Owes
        (⟨.host, (boundary.allocate bytes).1⟩ :: buffers) := by
  have hplace := boundary.placement.place_not_mem boundary.memory
  have hmemory : (boundary.allocate bytes).2.memory.addresses.Perm
      ((boundary.allocate bytes).1.address :: boundary.memory.addresses) :=
    Memory.addresses_allocate_perm hplace bytes
  have hnull : (boundary.allocate bytes).1.isNull = false :=
    RawBuffer.isNull_eq_false_iff.2 (boundary.placement.place_ne_zero _)
  have hfresh : (boundary.allocate bytes).1.address ∉ boundary.host.live.keys := fun hmem =>
    hplace (h.blocks.mem_iff.2 (List.mem_append_left _ hmem))
  have hlive : (boundary.host.track (boundary.allocate bytes).1).live.keys.Perm
      ((boundary.allocate bytes).1.address :: boundary.host.live.keys) :=
    Ledger.live_track_perm hnull hfresh
  refine
    { blocks := ?_
      ne_zero := fun address hmem => ?_
      hostLive := ?_
      vmLive := ?_
      vmLive_subset := h.vmLive_subset }
  · exact hmemory.trans ((h.blocks.cons _).trans (hlive.append_right _).symm)
  · obtain rfl | hmem := List.mem_cons.1 (hmemory.mem_iff.1 hmem)
    · exact boundary.placement.place_ne_zero _
    · exact h.ne_zero address hmem
  · rw [dues_cons_self hnull]
    exact hlive.trans (h.hostLive.cons _)
  · rw [dues_cons_of_ne (by simp)]
    exact h.vmLive

/-- What is provided is owed from then on. -/
theorem provide (h : boundary.Owes buffers) (side : Side) (bytes : List UInt8) :
    (boundary.provide side bytes).2.Owes (⟨side, (boundary.provide side bytes).1⟩ :: buffers) := by
  cases hbytes : bytes.isEmpty with
  | true =>
    have hprovide : boundary.provide side bytes = (.empty, boundary) := by
      simp [Boundary.provide, hbytes]
    rw [hprovide]
    exact (cons_of_isNull rfl).2 h
  | false =>
  cases side with
  | host =>
    have hprovide : boundary.provide .host bytes = ((boundary.allocate bytes).1,
        { (boundary.allocate bytes).2 with
          host := boundary.host.track (boundary.allocate bytes).1 }) := by
      simp [Boundary.provide, hbytes, allocate]
    rw [hprovide]
    exact h.allocate_host bytes
  | vm =>
    have hprovide : boundary.provide .vm bytes = ((boundary.vmAllocateBlock bytes).1,
        (boundary.vmAllocateBlock bytes).2.adopt (boundary.vmAllocateBlock bytes).1) := by
      simp [Boundary.provide, hbytes, Boundary.adopt]
    have hfresh := boundary.placement.place_not_mem boundary.memory
    rw [h.blocks.mem_iff, List.mem_append, not_or] at hfresh
    rw [hprovide]
    refine (h.vmAllocateBlock bytes).adopt (.inr ⟨.head _, fun hdue => ?_⟩)
    exact hfresh.2 (h.vmLive_subset (h.vmLive.mem_iff.2 hdue))

/-- A new buffer is owed from then on. -/
theorem ofBytes (h : boundary.Owes buffers) {side : Side} {bytes : List UInt8} {after : Boundary}
    (hnew : Buffer.ofBytes boundary side bytes = .ok (buffer, after)) :
    after.Owes (buffer :: buffers) ∧ after.badFrees = boundary.badFrees := by
  obtain ⟨rfl, rfl⟩ := Buffer.ofBytes_eq_ok hnew
  exact ⟨h.provide side bytes, badFrees_provide ..⟩

/-- A buffer of the VM's that was struck out is no longer owed. -/
theorem strike_vm (h : boundary.Owes (⟨.vm, raw⟩ :: buffers)) (hnull : raw.isNull = false)
    (hledger : ledger.live = boundary.vm.live.erase raw.address) :
    { boundary with vm := ledger }.Owes buffers ∧ raw.address ∉ dues .vm buffers := by
  have hvmLive := h.vmLive
  have hhostLive := h.hostLive
  have hnodup := h.nodup_vmDues
  rw [dues_cons_self hnull] at hvmLive hnodup
  rw [dues_cons_of_ne (by simp)] at hhostLive
  have hlive : ledger.live.keys = boundary.vm.live.keys.erase raw.address := by
    rw [hledger, Book.keys_erase]
  refine ⟨{ h with hostLive := hhostLive, vmLive := ?_, vmLive_subset := ?_ },
    (List.nodup_cons.1 hnodup).1⟩
  · show ledger.live.keys.Perm _
    rw [hlive]
    simpa using hvmLive.erase raw.address
  · show ledger.live.keys ⊆ _
    rw [hlive]
    exact fun address hmem => h.vmLive_subset (List.mem_of_mem_erase hmem)

/-- A buffer of the host's that was struck out and freed is no longer owed. -/
theorem free_host (h : boundary.Owes (⟨.host, raw⟩ :: buffers)) (hnull : raw.isNull = false)
    (hledger : ledger.live = boundary.host.live.erase raw.address) :
    { boundary with host := ledger, memory := boundary.memory.free raw.address }.Owes buffers := by
  have hhostLive := h.hostLive
  have hvmLive := h.vmLive
  rw [dues_cons_self hnull] at hhostLive
  rw [dues_cons_of_ne (by simp)] at hvmLive
  have hmem : raw.address ∈ boundary.host.live.keys := hhostLive.mem_iff.2 (.head _)
  have hlive : ledger.live.keys = boundary.host.live.keys.erase raw.address := by
    rw [hledger, Book.keys_erase]
  refine
    { blocks := ?_
      ne_zero := fun address hfree => ?_
      hostLive := ?_
      vmLive := hvmLive
      vmLive_subset := h.vmLive_subset }
  · show (boundary.memory.free raw.address).addresses.Perm (ledger.live.keys ++ _)
    rw [hlive, Memory.addresses_free, ← List.erase_append_left _ hmem]
    exact h.blocks.erase _
  · rw [Memory.addresses_free] at hfree
    exact h.ne_zero address (List.mem_of_mem_erase hfree)
  · show ledger.live.keys.Perm _
    rw [hlive]
    simpa using hhostLive.erase raw.address

/-- A buffer that is owed is live on its side. -/
theorem mem_live {side : Side} (h : boundary.Owes (⟨side, raw⟩ :: buffers))
    (hnull : raw.isNull = false) : raw.address ∈ (boundary.ledger side).live.keys := by
  have hmem : raw.address ∈ dues side (⟨side, raw⟩ :: buffers) := by
    rw [dues_cons_self hnull]
    exact .head _
  cases side with
  | host => exact h.hostLive.mem_iff.2 hmem
  | vm => exact h.vmLive.mem_iff.2 hmem

/-- The release of a buffer that is owed is not refused, and the VM is asked to free none but its
own. -/
theorem drop (h : boundary.Owes (buffer :: buffers)) :
    ∃ after, buffer.drop boundary = .ok after ∧ after.Owes buffers ∧
      after.badFrees = boundary.badFrees := by
  obtain ⟨side, raw⟩ := buffer
  cases hnull : raw.isNull with
  | true =>
    exact ⟨boundary, by simp [Buffer.drop, release, hnull], (cons_of_isNull hnull).1 h, rfl⟩
  | false =>
  obtain ⟨capacity, ledger, hrelease, hledger⟩ := Ledger.release_of_mem (h.mem_live hnull)
  cases side with
  | host =>
    have hdrop : (⟨.host, raw⟩ : Buffer).drop boundary = .ok
        { boundary with host := ledger, memory := boundary.memory.free raw.address } := by
      rw [Boundary.ledger] at hrelease
      simp [Buffer.drop, release, hnull, hrelease]
    exact ⟨_, hdrop, h.free_host hnull hledger, rfl⟩
  | vm =>
    have hdrop : (⟨.vm, raw⟩ : Buffer).drop boundary =
        .ok ({ boundary with vm := ledger }.vmDestroy raw) := by
      rw [Boundary.ledger] at hrelease
      simp [Buffer.drop, release, hnull, hrelease]
    have hblock : raw.address ∈ { boundary with vm := ledger }.vmBlocks :=
      h.vmLive_subset (h.mem_live hnull)
    obtain ⟨hafter, hdue⟩ := h.strike_vm hnull hledger
    exact ⟨_, hdrop, hafter.vmDestroy (.inr hdue), badFrees_vmDestroy hblock⟩

/-- A buffer that is owed can be handed across. The host still owes the release of its own. -/
theorem intoRaw (h : boundary.Owes (buffer :: buffers)) :
    ∃ after, buffer.intoRaw boundary = .ok (buffer.raw, after) ∧
      after.Owes (if buffer.side = .host then buffer :: buffers else buffers) ∧
      after.badFrees = boundary.badFrees := by
  obtain ⟨side, raw⟩ := buffer
  cases side with
  | host => exact ⟨boundary, rfl, h, rfl⟩
  | vm =>
    cases hnull : raw.isNull with
    | true =>
      have hforget : boundary.relinquish .vm raw = .ok boundary := by
        simp [relinquish, Ledger.forget_of_isNull hnull]
      exact ⟨boundary, by simp [Buffer.intoRaw, hforget], (cons_of_isNull hnull).1 h, rfl⟩
    | false =>
      have hforget := Ledger.forget_of_mem hnull (h.mem_live hnull)
      rw [Boundary.ledger] at hforget
      refine ⟨{ boundary with
          vm := { boundary.vm with live := boundary.vm.live.erase raw.address } }, ?_,
        (h.strike_vm hnull rfl).1, rfl⟩
      simp [Buffer.intoRaw, relinquish, hforget]

/-- Bytes are overwritten in place. -/
theorem overwrite (h : boundary.Owes buffers) {offset : Nat} {bytes : List UInt8}
    {after : Boundary} (hafter : boundary.overwrite raw offset bytes = some after) :
    after.Owes buffers ∧ after.badFrees = boundary.badFrees := by
  simp only [Boundary.overwrite] at hafter
  split at hafter
  · cases hafter
    refine ⟨{ h with blocks := ?_, ne_zero := ?_ }, rfl⟩
    · rw [Memory.addresses_store]
      exact h.blocks
    · rw [Memory.addresses_store]
      exact h.ne_zero
  · cases hafter

end Owes

end Boundary

end HostBridge
