import HostBridge.Host.Stock
import HostBridge.Proofs.Host.Dispatch
import HostBridge.Proofs.Ownership.Contents

/-!
# Callbacks

What a VM gets back when it calls a host function. The answer of the call reaches it in a buffer of
its own allocator, and the host's ledgers are as they were before the call
(`callback_exact`).
-/

namespace HostBridge

/-! ## Buffers given to the VM -/

/-- The VM has got a buffer that holds `bytes`, and the host answers for no more than before. -/
structure Boundary.Gives (before after : Boundary) (raw : RawBuffer) (bytes : List UInt8) :
    Prop where
  contents_eq : after.contents raw = bytes
  length_eq : raw.length = bytes.length
  /-- A new block of the VM's stands behind the buffer, unless it is empty. -/
  fresh : bytes ≠ [] → raw.isNull = false ∧ raw.address ∉ before.memory.addresses ∧
    after.vmBlocks = raw.address :: before.vmBlocks
  host_eq : after.host = before.host
  /-- The host does not wait for the VM's buffer either. -/
  live_eq : before.vm.live.keys ⊆ before.memory.addresses → after.vm.live = before.vm.live
  badFrees_eq : after.badFrees = before.badFrees
  kept : ∀ other : RawBuffer, other.address ∈ before.memory.addresses →
    after.contents other = before.contents other

namespace Boundary

variable {boundary : Boundary} {bytes : List UInt8}

/-- What the VM allocates by itself is its own. -/
theorem gives_vmAllocate (boundary : Boundary) (bytes : List UInt8) :
    boundary.Gives (boundary.vmAllocate bytes).2 (boundary.vmAllocate bytes).1 bytes := by
  unfold vmAllocate
  split
  · next hnil =>
    rw [List.isEmpty_iff.1 hnil]
    exact ⟨contents_of_isNull rfl, rfl, fun h => absurd rfl h, rfl, fun _ => rfl, rfl,
      fun _ _ => rfl⟩
  · exact {
      contents_eq := contents_allocate boundary bytes
      length_eq := rfl
      fresh := fun _ => ⟨RawBuffer.isNull_eq_false_iff.2 (boundary.placement.place_ne_zero _),
        boundary.placement.place_not_mem _, rfl⟩
      host_eq := rfl
      live_eq := fun _ => rfl
      badFrees_eq := rfl
      kept := fun _ hmem => contents_allocate_of_mem hmem bytes }

/-- What the host allocates for the VM and hands across is the VM's. -/
theorem gives_intoRaw (boundary : Boundary) (hbytes : bytes ≠ [])
    (hlength : bytes.length ≤ RawBuffer.maxLength) :
    ∃ buffer provided raw after, Buffer.ofBytes boundary .vm bytes = .ok (buffer, provided) ∧
      buffer.intoRaw provided = .ok (raw, after) ∧ boundary.Gives after raw bytes := by
  let raw := (boundary.vmAllocateBlock bytes).1
  let allocated := (boundary.vmAllocateBlock bytes).2
  have hnull : raw.isNull = false :=
    RawBuffer.isNull_eq_false_iff.2 (boundary.placement.place_ne_zero _)
  have hprovide : boundary.provide .vm bytes =
      (raw, { allocated with vm := boundary.vm.track raw }) := by
    rw [provide, if_neg (by simpa using hbytes)]
    rfl
  have hofBytes : Buffer.ofBytes boundary .vm bytes =
      .ok (⟨.vm, raw⟩, { allocated with vm := boundary.vm.track raw }) := by
    rw [Buffer.ofBytes_of_le hlength, hprovide]
  have hfind : (boundary.vm.track raw).capacity? raw.address = some raw.capacity := by
    simp [Ledger.track, hnull, Ledger.capacity?]
  let forgotten : Ledger :=
    { boundary.vm.track raw with live := (boundary.vm.track raw).live.erase raw.address }
  have hinto : Buffer.intoRaw ⟨.vm, raw⟩ { allocated with vm := boundary.vm.track raw } =
      .ok (raw, { allocated with vm := forgotten }) := by
    simp only [Buffer.intoRaw, relinquish, Ledger.forget_of_some hnull hfind]
    rfl
  refine ⟨_, _, _, _, hofBytes, hinto, ?_⟩
  exact {
    contents_eq := contents_allocate boundary bytes
    length_eq := rfl
    fresh := fun _ => ⟨hnull, boundary.placement.place_not_mem _, rfl⟩
    host_eq := rfl
    live_eq := fun hsubset => by
      have hnone : boundary.vm.live[raw.address]? = none := by
        rw [← Option.not_isSome_iff_eq_none, Book.isSome_getElem?_iff]
        exact fun hmem => boundary.placement.place_not_mem _ (hsubset hmem)
      change (boundary.vm.track raw).live.erase raw.address = boundary.vm.live
      rw [Ledger.track, hnull]
      exact (Book.erase_insert ..).trans (Book.erase_of_getElem?_eq_none hnone)
    badFrees_eq := rfl
    kept := fun _ hmem => contents_allocate_of_mem hmem bytes }

end Boundary

/-! ## Callbacks -/

namespace Binding

/-- What the VM gets: the encoded results, or a trap with its message, unless that is too long for
a buffer. -/
inductive HandedOver (before after : Boundary) : Except Trap (List UInt8) → Reply → Prop where
  | results {bytes : List UInt8} {raw : RawBuffer} :
    bytes ≠ [] → before.Gives after raw bytes → HandedOver before after (.ok bytes) (.results raw)
  | trap {trap : Trap} {raw : RawBuffer} :
    before.Gives after raw (if (Utf8.encode trap.message).length ≤ RawBuffer.maxLength
      then Utf8.encode trap.message else Utf8.encode "host error message too long") →
    HandedOver before after (.error trap) (.trap raw)

variable {binding : Binding} {function : HostFunction} {host : Host}

/-- A trap is handed over as its message, in a block of the VM's. -/
theorem handOver_error (host : Host) (trap : Trap) :
    ∃ reply last, handOver host (.error trap) = .ok (reply, last) ∧
      last.functions = host.functions ∧
      HandedOver host.boundary last.boundary (.error trap) reply :=
  ⟨_, _, rfl, rfl, .trap (Boundary.gives_vmAllocate ..)⟩

/-- Results are handed over as their bytes, in a block of the VM's that the host has struck out. -/
theorem handOver_bytes (host : Host) {results : List Value} {bytes : List UInt8}
    (h : Value.decodeList bytes = .ok results) :
    ∃ reply last, handOver host (.ok bytes) = .ok (reply, last) ∧
      last.functions = host.functions ∧
      HandedOver host.boundary last.boundary (.ok bytes) reply := by
  obtain ⟨hpos, hmost⟩ := Value.length_of_encodeList (Value.decodeList_eq_ok_iff.1 h)
  have hbytes : bytes ≠ [] := List.ne_nil_of_length_pos hpos
  have hlength : bytes.length ≤ RawBuffer.maxLength := Nat.le_trans hmost (by decide)
  obtain ⟨buffer, provided, raw, after, hofBytes, hinto, hgives⟩ :=
    Boundary.gives_intoRaw host.boundary hbytes hlength
  refine ⟨.results raw, { host with boundary := after }, ?_, rfl, .results hbytes hgives⟩
  simp only [handOver, hofBytes, hinto]
  rfl

/-- The answer of a call reaches the VM. -/
theorem exists_callback {arguments : Option (List UInt8)} {answer : Except Trap (List UInt8)}
    {after : Registry}
    (hdispatch : binding.dispatch host.functions (arguments.getD []) = .ok (answer, after)) :
    ∃ reply last, binding.callback host arguments = .ok (reply, last) ∧
      last.functions = after ∧ HandedOver host.boundary last.boundary answer reply := by
  have hcallback :
      binding.callback host arguments = handOver { host with functions := after } answer := by
    unfold callback
    rw [hdispatch]
    rfl
  rw [hcallback]
  cases answer with
  | error trap => exact handOver_error { host with functions := after } trap
  | ok bytes =>
    cases hlookup : host.functions.lookup binding.index with
    | none =>
      simp only [dispatch, hlookup] at hdispatch
      cases hdispatch
    | some function =>
      obtain ⟨answer, after', hdispatch', hexact⟩ := exists_exact hlookup (arguments.getD [])
      rw [hdispatch] at hdispatch'
      cases hdispatch'
      obtain ⟨_, results, -, -, hdecode⟩ := (hexact.ok_iff bytes).1 rfl
      exact handOver_bytes { host with functions := after } hdecode

/-- **A host function is called as it should be.** Whatever the function does and whatever bytes it
is called with, the call is answered (`Exact`), and the VM gets the answer in a buffer of its own
(`HandedOver`). -/
theorem callback_exact (hlookup : host.functions.lookup binding.index = some function)
    (arguments : Option (List UInt8)) :
    ∃ answer after reply last,
      binding.dispatch host.functions (arguments.getD []) = .ok (answer, after) ∧
      binding.Exact function host.functions (arguments.getD []) answer after ∧
      binding.callback host arguments = .ok (reply, last) ∧
      last.functions = after ∧ HandedOver host.boundary last.boundary answer reply := by
  obtain ⟨answer, after, hdispatch, hexact⟩ := exists_exact hlookup (arguments.getD [])
  obtain ⟨reply, last, hcallback, hfunctions, hhanded⟩ := exists_callback hdispatch
  exact ⟨answer, after, reply, last, hdispatch, hexact, hcallback, hfunctions, hhanded⟩

/-- The VM gets back what it sends to a function that returns its arguments. -/
theorem callback_of_echo :
    let host : Host := { Host.new with functions := (Registry.empty.register Stock.echo).2 }
    let binding : Binding := ⟨0, "echo", [.i32], [.i32]⟩
    host.functions.lookup binding.index = some Stock.echo ∧
      ∃ raw last, binding.callback host (some [1, 0, 0, 0, 0, 7]) = .ok (.results raw, last) ∧
        last.boundary.contents raw = [1, 0, 0, 0, 0, 7] := by
  intro host binding
  have hlookup : host.functions.lookup binding.index = some Stock.echo := rfl
  refine ⟨hlookup, ?_⟩
  obtain ⟨answer, after, reply, last, hdispatch, -, hcallback, -, hhanded⟩ :=
    callback_exact hlookup (some [1, 0, 0, 0, 0, 7])
  have hanswer : binding.dispatch host.functions [1, 0, 0, 0, 0, 7] =
      .ok (.ok [1, 0, 0, 0, 0, 7], host.functions) := by
    rfl
  rw [Option.getD_some, hanswer] at hdispatch
  cases hdispatch
  cases hhanded with
  | results _ hgives => exact ⟨_, last, hcallback, hgives.contents_eq⟩

end Binding

end HostBridge
