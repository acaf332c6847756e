import HostBridge.Proofs.Vm.Run

/-!
# Buffers that go back and forth

What the host does with buffers around an entry point, each step with what it leaves behind: bytes
are lent, out-buffers are taken over and read, and every buffer is released. `settle_run` is the
summary for the out-buffers: the host learns what the VM put into them, and has each of them freed
once, so that the VM's allocator has the blocks that it had before (`World.Settles`).
-/

namespace HostBridge

/-! ## Answers -/

namespace Vm

/-- An out-buffer as the VM left it: empty, or a block with these bytes. -/
structure OutBuffer.Holds (out : OutBuffer) (bytes : Option (List UInt8)) : Prop where
  contents_eq : out.contents = bytes.getD []
  isNull_iff : out.raw.isNull = true ↔ bytes = none

/-- The host has learnt what the VM replied. -/
structure Answer.Reports (answer : Answer) (reply : Reply) : Prop where
  code_eq : answer.code = reply.code
  receipt : answer.receipt.Holds reply.receipt
  error : answer.error.Holds reply.error
  /-- The out-buffers do not share a block. -/
  ne : answer.receipt.raw.isNull = false → answer.receipt.raw.address ≠ answer.error.raw.address

/-- The calls by which a buffer of the VM's is freed. There is none for the null buffer. -/
def destroyed (raw : RawBuffer) : List Call := if raw.isNull then [] else [.destroyBuffer raw]

/-- What passes from the return of an entry point on: the answer, and the release of the error and of
the receipt. -/
def Answer.calls (answer : Answer) : List Call :=
  .answer answer :: (destroyed answer.error.raw ++ destroyed answer.receipt.raw)

/-- A buffer that is not null is destroyed once where it is dropped. -/
theorem count_destroyed (raw : RawBuffer) {other : RawBuffer} (hother : other.isNull = false) :
    (destroyed raw).count (.destroyBuffer other) = if raw = other then 1 else 0 := by
  unfold destroyed
  cases hnull : raw.isNull with
  | true =>
    have hne : raw ≠ other := fun heq => by simp [← heq, hnull] at hother
    simp [hne]
  | false => simp [List.count_singleton]

/-- Each out-buffer that is not empty is freed once. -/
theorem Answer.Reports.count_destroyBuffer {answer : Answer} {reply : Reply}
    (h : answer.Reports reply) {out : OutBuffer} (hout : out ∈ [answer.receipt, answer.error])
    (hnull : out.raw.isNull = false) : answer.calls.count (.destroyBuffer out.raw) = 1 := by
  have hcount : answer.calls.count (.destroyBuffer out.raw) =
      (if answer.error.raw = out.raw then 1 else 0) +
        if answer.receipt.raw = out.raw then 1 else 0 := by
    rw [Answer.calls, List.count_cons_of_ne (by simp), List.count_append,
      count_destroyed _ hnull, count_destroyed _ hnull]
  rw [hcount]
  obtain rfl | hout := List.mem_cons.1 hout
  · have hne : answer.error.raw ≠ answer.receipt.raw := fun heq =>
      h.ne hnull (congrArg RawBuffer.address heq.symm)
    simp [hne]
  · obtain rfl := List.mem_singleton.1 hout
    have hne : answer.receipt.raw ≠ answer.error.raw := by
      intro heq
      exact h.ne (heq ▸ hnull) (congrArg RawBuffer.address heq)
    simp [hne]

end Vm

/-- The world when something more has passed between host and VM. -/
def World.noted {σ : Type} (world : World σ) (call : Vm.Call) : World σ :=
  { world with calls := world.calls ++ [call] }

/-- From one world to the other the host has settled a reply: it was told the answer, and goes on
with the VM and the functions as they were. The out-buffers have come and gone. -/
structure World.Settles {σ : Type} (returned : World σ) (reply : Vm.Reply) (answer : Vm.Answer)
    (after : World σ) : Prop where
  reports : answer.Reports reply
  calls_eq : after.calls = returned.calls ++ answer.calls
  vm_eq : after.vm = returned.vm
  functions_eq : after.host.functions = returned.host.functions
  /-- The VM has the blocks that it had. -/
  vmBlocks_eq : after.host.boundary.vmBlocks = returned.host.boundary.vmBlocks
  /-- The out-buffers are none of them. -/
  not_mem_vmBlocks : ∀ out ∈ [answer.receipt, answer.error], out.raw.isNull = false →
    out.raw.address ∉ after.host.boundary.vmBlocks
  badFrees_eq : after.host.boundary.badFrees = returned.host.boundary.badFrees

/-- The host may release buffers of its own when it has settled a reply. -/
theorem World.Settles.withBoundary {σ : Type} {returned after : World σ} {reply : Vm.Reply}
    {answer : Vm.Answer} (h : returned.Settles reply answer after) {boundary : Boundary}
    (hblocks : boundary.vmBlocks = after.host.boundary.vmBlocks)
    (hbad : boundary.badFrees = after.host.boundary.badFrees) :
    returned.Settles reply answer (after.withBoundary boundary) :=
  { h with
    vmBlocks_eq := hblocks.trans h.vmBlocks_eq
    not_mem_vmBlocks := fun out hout hnull => hblocks ▸ h.not_mem_vmBlocks out hout hnull
    badFrees_eq := hbad.trans h.badFrees_eq }

/-- An entry point was called in a world, and what it replied was settled. -/
inductive World.Exchanges {σ : Type} (world : World σ) (call : Vm.Call)
    (program : VmProgram σ Vm.Reply) (counted : Vm.Reply → Vm.Reply) (answer : Vm.Answer)
    (after : World σ) : Prop where
  | intro {reply : Vm.Reply} {returned : World σ}
    (run_eq : program.run (world.noted call) = .ok (reply, returned))
    (settles : returned.Settles (counted reply) answer after)

namespace InWorld

variable {σ : Type} {world : World σ} {raw : RawBuffer} {buffers : List Buffer}

/-- What looks at the boundary goes on with it. -/
theorem bind_boundary {α : Type} (next : Boundary → InWorld σ α) (world : World σ) :
    (boundary >>= next) world = next world.host.boundary world := rfl

/-- What goes on behind a record finds it at the end. -/
theorem bind_record {α : Type} (call : Vm.Call) (next : Unit → InWorld σ α) (world : World σ) :
    (record call >>= next) world = next () { world with calls := world.calls ++ [call] } := rfl

/-- What reads a buffer goes on with its bytes. -/
theorem bind_contents {α : Type} (raw : RawBuffer) (next : List UInt8 → InWorld σ α)
    (world : World σ) :
    (contents raw >>= next) world = next (world.host.boundary.contents raw) world := rfl

/-- Bytes that are not too long can be lent, and the VM will find them in the buffer. -/
theorem lend_run (h : world.host.boundary.Owes buffers) {bytes : List UInt8}
    (hlength : bytes.length ≤ RawBuffer.maxLength) :
    ∃ raw after, lend bytes world = .ok (.ok ⟨.host, raw⟩, world.withBoundary after) ∧
      after.Owes (⟨.host, raw⟩ :: buffers) ∧ after.contents raw = bytes ∧
      ∀ other : RawBuffer, other.address ∈ world.host.boundary.memory.addresses →
        after.contents other = world.host.boundary.contents other := by
  refine ⟨_, _, ?_, h.provide .host bytes, Boundary.contents_provide ..,
    fun other hmem => Boundary.contents_provide_of_mem hmem .host bytes⟩
  simp only [lend]
  rw [bind_boundary, Buffer.ofBytes_of_le hlength]
  rfl

/-- Bytes that are too long are not lent. -/
theorem lend_of_tooLong {bytes : List UInt8} (hlength : RawBuffer.maxLength < bytes.length) :
    lend bytes world = .ok (.error (.bytesTooLong bytes.length RawBuffer.maxLength), world) := by
  simp only [lend]
  rw [bind_boundary, Buffer.ofBytes_of_lt hlength]
  rfl

/-- A buffer of the host's can be released, and the VM hears nothing of it. -/
theorem drop_host_run (h : world.host.boundary.Owes (⟨.host, raw⟩ :: buffers)) :
    ∃ after, drop ⟨.host, raw⟩ world = .ok ((), world.withBoundary after) ∧
      after.Owes buffers ∧ after.badFrees = world.host.boundary.badFrees ∧
      after.vmBlocks = world.host.boundary.vmBlocks := by
  obtain ⟨after, hdrop, howes, hbad⟩ := h.drop
  have hblocks := Boundary.vmBlocks_drop hdrop
  rw [dues_cons_of_ne (by simp), dues_nil, List.diff_nil] at hblocks
  refine ⟨after, ?_, howes, hbad, hblocks⟩
  simp only [drop]
  rw [bind_boundary, hdrop]
  rfl

/-- A buffer of the VM's can be released, and the VM is called to free it. -/
theorem drop_vm_run (h : world.host.boundary.Owes (⟨.vm, raw⟩ :: buffers)) :
    ∃ after, drop ⟨.vm, raw⟩ world = .ok ((),
        { world.withBoundary after with calls := world.calls ++ Vm.destroyed raw }) ∧
      after.Owes buffers ∧ after.badFrees = world.host.boundary.badFrees ∧
      after.vmBlocks = world.host.boundary.vmBlocks.diff (dues .vm [⟨.vm, raw⟩]) := by
  obtain ⟨after, hdrop, howes, hbad⟩ := h.drop
  refine ⟨after, ?_, howes, hbad, Boundary.vmBlocks_drop hdrop⟩
  simp only [drop]
  rw [bind_boundary, hdrop]
  cases hnull : raw.isNull with
  | true =>
    simp only [Vm.destroyed, hnull, List.append_nil, if_true]
    rfl
  | false =>
    simp only [Vm.destroyed, hnull]
    rfl

/-- An out-buffer can be taken over, and holds what the VM put into it. Its block is a new one. -/
theorem takeOut_run (h : world.host.boundary.Owes buffers) (bytes : Option (List UInt8)) :
    ∃ raw after, takeOut bytes world = .ok (⟨.vm, raw⟩, world.withBoundary after) ∧
      after.Owes (⟨.vm, raw⟩ :: buffers) ∧ after.badFrees = world.host.boundary.badFrees ∧
      after.vmBlocks = dues .vm [⟨.vm, raw⟩] ++ world.host.boundary.vmBlocks ∧
      (raw.isNull = false → raw.address ∉ world.host.boundary.vmBlocks) ∧
      (⟨raw, after.contents raw⟩ : Vm.OutBuffer).Holds bytes ∧
      ∀ other : RawBuffer, other.address ∈ world.host.boundary.memory.addresses →
        after.contents other = world.host.boundary.contents other := by
  cases bytes with
  | none =>
    refine ⟨.empty, world.host.boundary.adopt .empty, rfl, h.adopt (.inl rfl), rfl, ?_,
      fun hnull => ?_, ⟨?_, ?_⟩, ?_⟩
    · rw [dues_cons_of_isNull rfl]
      rfl
    · cases hnull
    · exact (Boundary.contents_of_isNull RawBuffer.isNull_empty :
        (world.host.boundary.adopt .empty).contents .empty = [])
    · simp
    · exact fun _ _ => rfl
  | some bytes =>
    have hplace := world.host.boundary.placement.place_not_mem world.host.boundary.memory
    have hnull : (world.host.boundary.allocate bytes).1.isNull = false :=
      RawBuffer.isNull_eq_false_iff.2 (world.host.boundary.placement.place_ne_zero _)
    have hblock : world.host.boundary.placement.place world.host.boundary.memory ∉
        world.host.boundary.vmBlocks :=
      fun hblock => hplace (h.blocks.mem_iff.2 (List.mem_append_right _ hblock))
    have hdue : world.host.boundary.placement.place world.host.boundary.memory ∉
        dues .vm buffers :=
      fun hdue => hblock (h.vmLive_subset (h.vmLive.mem_iff.2 hdue))
    refine ⟨(world.host.boundary.allocate bytes).1,
      (world.host.boundary.vmAllocateBlock bytes).2.adopt (world.host.boundary.allocate bytes).1,
      rfl, (h.vmAllocateBlock bytes).adopt (.inr ⟨.head _, hdue⟩), rfl, ?_, fun _ => hblock,
      ⟨?_, ?_⟩, ?_⟩
    · rw [dues_cons_self hnull]
      rfl
    · exact Boundary.contents_allocate ..
    · simp [hnull]
    · exact fun other hmem => Boundary.contents_allocate_of_mem hmem bytes

/-- Both out-buffers are taken over, the receipt first, and hold what the VM put into them. -/
theorem takeBoth_run (h : world.host.boundary.Owes buffers) (reply : Vm.Reply) :
    ∃ receipt error first both,
      takeOut reply.receipt world = .ok (⟨.vm, receipt⟩, world.withBoundary first) ∧
      takeOut reply.error (world.withBoundary first) =
        .ok (⟨.vm, error⟩, world.withBoundary both) ∧
      both.Owes (⟨.vm, error⟩ :: ⟨.vm, receipt⟩ :: buffers) ∧
      both.badFrees = world.host.boundary.badFrees ∧
      both.vmBlocks = dues .vm [⟨.vm, error⟩] ++
        (dues .vm [⟨.vm, receipt⟩] ++ world.host.boundary.vmBlocks) ∧
      (∀ raw ∈ [receipt, error], raw.isNull = false →
        raw.address ∉ world.host.boundary.vmBlocks) ∧
      (⟨receipt, both.contents receipt⟩ : Vm.OutBuffer).Holds reply.receipt ∧
      (⟨error, both.contents error⟩ : Vm.OutBuffer).Holds reply.error := by
  obtain ⟨receipt, first, htakeReceipt, howes, hbad, hblocks, hnew, hreceipt, -⟩ :=
    takeOut_run h reply.receipt
  have hfirst : (world.withBoundary first).host.boundary.Owes (⟨.vm, receipt⟩ :: buffers) := howes
  obtain ⟨error, both, htakeError, howes', hbad', hblocks', hnew', herror, hkept⟩ :=
    takeOut_run hfirst reply.error
  -- the receipt still holds its bytes when the error has been taken over
  have hcontents : both.contents receipt = first.contents receipt :=
    howes.contents_eq_of_memory (.head _) hkept
  have hgone : error.isNull = false → error.address ∉ world.host.boundary.vmBlocks :=
    fun hnull hmem => hnew' hnull (hblocks ▸ List.mem_append_right _ hmem)
  rw [← hcontents] at hreceipt
  exact ⟨receipt, error, first, both, htakeReceipt, htakeError, howes', hbad'.trans hbad,
    hblocks'.trans (congrArg _ hblocks),
    List.forall_mem_cons.2 ⟨hnew, List.forall_mem_singleton.2 hgone⟩, hreceipt, herror⟩

/-- Both out-buffers are freed, the error first, and the VM is left with the blocks that it had
besides. -/
theorem freeBoth_run {receipt error : RawBuffer} {blocks : List Nat}
    (h : world.host.boundary.Owes (⟨.vm, error⟩ :: ⟨.vm, receipt⟩ :: buffers))
    (hblocks : world.host.boundary.vmBlocks =
      dues .vm [⟨.vm, error⟩] ++ (dues .vm [⟨.vm, receipt⟩] ++ blocks)) :
    ∃ between after, drop ⟨.vm, error⟩ world = .ok ((), between) ∧
      drop ⟨.vm, receipt⟩ between = .ok ((), { world.withBoundary after with
        calls := world.calls ++ Vm.destroyed error ++ Vm.destroyed receipt }) ∧
      after.Owes buffers ∧ after.badFrees = world.host.boundary.badFrees ∧
      after.vmBlocks = blocks := by
  obtain ⟨first, hdropError, howes, hbad, hfirst⟩ := drop_vm_run h
  rw [hblocks, dues_append_diff] at hfirst
  let between : World σ :=
    { world.withBoundary first with calls := world.calls ++ Vm.destroyed error }
  have hbetween : between.host.boundary.Owes (⟨.vm, receipt⟩ :: buffers) := howes
  obtain ⟨last, hdropReceipt, howes', hbad', hlast⟩ := drop_vm_run hbetween
  have hleft : last.vmBlocks = blocks :=
    hlast.trans ((congrArg (List.diff · _) hfirst).trans (dues_append_diff ..))
  exact ⟨between, last, hdropError, hdropReceipt, howes', hbad'.trans hbad, hleft⟩

/-- The out-buffers are taken over, read, and freed once each. -/
theorem settle_run (h : world.host.boundary.Owes buffers) (reply : Vm.Reply) :
    ∃ answer after, settle reply world = .ok (answer, after) ∧ after.host.boundary.Owes buffers ∧
      world.Settles reply answer after := by
  obtain ⟨receipt, error, first, both, htakeReceipt, htakeError, howes, hbad, hblocks, hnew,
    hreceipt, herror⟩ := takeBoth_run h reply
  let answer : Vm.Answer :=
    ⟨reply.code, ⟨receipt, both.contents receipt⟩, ⟨error, both.contents error⟩⟩
  let told : World σ :=
    { world.withBoundary both with calls := world.calls ++ [.answer answer] }
  have htold : told.host.boundary.Owes (⟨.vm, error⟩ :: ⟨.vm, receipt⟩ :: buffers) := howes
  obtain ⟨between, last, hdropError, hdropReceipt, howes', hbad', hlast⟩ :=
    freeBoth_run htold hblocks
  have hcalls : told.calls ++ Vm.destroyed error ++ Vm.destroyed receipt =
      world.calls ++ answer.calls := by
    simp [told, answer, Vm.Answer.calls]
  rw [hcalls] at hdropReceipt
  refine ⟨answer, { world.withBoundary last with calls := world.calls ++ answer.calls }, ?_, howes',
    { reports := ⟨rfl, hreceipt, herror, howes.address_ne⟩
      calls_eq := rfl
      vm_eq := rfl
      functions_eq := rfl
      vmBlocks_eq := hlast
      not_mem_vmBlocks := ?_
      badFrees_eq := hbad'.trans hbad }⟩
  · simp only [settle]
    rw [bind_of_ok htakeReceipt, bind_of_ok htakeError, bind_contents, bind_contents, bind_record]
    exact (bind_of_ok hdropError).trans (bind_of_ok hdropReceipt)
  · intro out hout
    show _ → _ ∉ last.vmBlocks
    rw [hlast]
    exact hnew out.raw (List.mem_map_of_mem (f := Vm.OutBuffer.raw) hout)

/-- Whatever the VM replies is learnt, and its buffers are freed. Meanwhile the host's own buffers
are as they were. -/
theorem exchange_cases (h : world.Owes buffers) (call : Vm.Call)
    (program : VmProgram σ Vm.Reply) (counted : Vm.Reply → Vm.Reply) :
    (∃ index, program.run (world.noted call) = .error (.unknownFunction index) ∧
      exchange call program counted world = .error (.unknownFunction index) ∧
      world.host.functions.size ≤ index) ∨
    ∃ reply returned answer after, program.run (world.noted call) = .ok (reply, returned) ∧
      (world.noted call).Follows returned ∧
      exchange call program counted world = .ok (answer, after) ∧
      after.host.boundary.Owes buffers ∧ returned.Settles (counted reply) answer after := by
  have howes : (world.noted call).Owes buffers := ⟨h.owes, h.side_eq⟩
  have hends := program.run_ends howes
  unfold exchange
  rw [bind_record]
  change (∃ index, _ ∧ (program.run >>= _) (world.noted call) = _ ∧ _) ∨
    ∃ reply returned answer after, _ ∧ _ ∧ (program.run >>= _) (world.noted call) = _ ∧ _
  cases hrun : program.run (world.noted call) with
  | error breach =>
    rw [hrun] at hends
    obtain ⟨index, rfl, hindex⟩ := hends
    exact .inl ⟨index, rfl, bind_of_error hrun, hindex⟩
  | ok done =>
    obtain ⟨reply, returned⟩ := done
    rw [hrun] at hends
    obtain ⟨hreturned, hfollows⟩ := hends
    obtain ⟨answer, after, hsettle, hafter, hsettles⟩ := settle_run hreturned.owes (counted reply)
    exact .inr ⟨reply, returned, answer, after, rfl, hfollows, (bind_of_ok hrun).trans hsettle,
      hafter, hsettles⟩

end InWorld

end HostBridge
