import HostBridge.Proofs.Ownership.Dues

/-!
# Custody

Buffers come into the host's hands by being allocated on either side or by being taken over from
the VM, and leave them by being dropped or handed across, in any order. Handed across, a buffer of
the VM's is the VM's again, and a buffer of the host's is owed until the VM gives it back. An action
is permitted to whoever keeps to the contract: only blocks of the VM's that nobody holds are taken
over, and only such blocks are freed by the VM.

Beside the boundary stands what each side is answerable for: the host for what it holds and for what
it handed out of its own, the VM for its loose blocks. These lists are kept by the actions alone and
never read off the boundary. A buffer that is dropped leaves the host's list and goes into no other,
so what the lists say is in memory is what should be there after each buffer was released once.

`Reachable.balanced` says that while the contract is kept the boundary agrees with the lists. The
invariant behind it is `Custody.Kept`.
-/

namespace HostBridge

/-- The buffers at the boundary, each with whoever must have it released. -/
structure Custody where
  boundary : Boundary
  /-- The buffers in the host's hands. -/
  held : List Buffer
  /-- The host's buffers that were handed across and have not been given back. -/
  handedOut : List RawBuffer
  /-- The blocks that the VM must free by itself: those that it allocated and those that were handed
  across to it, without those that the host took over. -/
  loose : List Nat
  /-- The violations that were raised. -/
  violations : List Violation

namespace Custody

/-- Nobody has anything. -/
def new (placement : Placement) : Custody := ⟨.new placement, [], [], [], []⟩

/-- What is done at the boundary. Buffers are named by their place among those held, or among those
handed out. -/
inductive Action where
  | zeros (side : Side) (length : Nat)
  | ofBytes (side : Side) (bytes : List UInt8)
  | cloneInto (index : Nat) (side : Side)
  /-- Takes over a buffer that the VM handed out. -/
  | adopt (raw : RawBuffer)
  | write (index offset : Nat) (bytes : List UInt8)
  | intoRaw (index : Nat)
  | drop (index : Nat)
  /-- The VM allocates a buffer without telling the host. -/
  | vmAllocate (bytes : List UInt8)
  /-- The VM frees a buffer. -/
  | vmFree (raw : RawBuffer)
  /-- The VM gives a buffer of the host's back. -/
  | hostDestroy (index : Nat)
  deriving DecidableEq, Repr

/-- Holds a new buffer, if it could be had. -/
def hold (custody : Custody) : Except EncodeError (Buffer × Boundary) → Custody
  | .ok (buffer, after) => { custody with boundary := after, held := buffer :: custody.held }
  | .error _ => custody

/-- Goes on with another boundary, or with a violation. -/
def cross (custody : Custody) : Except Violation Boundary → Custody
  | .ok after => { custody with boundary := after }
  | .error violation => { custody with violations := violation :: custody.violations }

/-- The VM has to free a buffer from now on, if it is one of its own and not null. -/
def loosen (custody : Custody) (buffer : Buffer) : Custody :=
  { custody with loose := dues .vm [buffer] ++ custody.loose }

/-- The VM no longer has to free a buffer. -/
def claim (custody : Custody) (buffer : Buffer) : Custody :=
  { custody with loose := custody.loose.diff (dues .vm [buffer]) }

/-- Does something. What is out of range or too long does nothing. -/
def perform (custody : Custody) : Action → Custody
  | .zeros side length => custody.hold (Buffer.zeros custody.boundary side length)
  | .ofBytes side bytes => custody.hold (Buffer.ofBytes custody.boundary side bytes)
  | .cloneInto index side =>
    match custody.held[index]? with
    | none => custody
    | some buffer => custody.hold (buffer.cloneInto custody.boundary side)
  | .adopt raw => (custody.claim ⟨.vm, raw⟩).hold (.ok (Buffer.adopt custody.boundary raw))
  | .write index offset bytes =>
    match custody.held[index]? with
    | none => custody
    | some buffer =>
      match buffer.write custody.boundary offset bytes with
      | none => custody
      | some after => { custody with boundary := after }
  | .intoRaw index =>
    match custody.held[index]? with
    | none => custody
    | some buffer =>
      let handedOut := if buffer.side = .host then [buffer.raw] else []
      ({ custody with
        held := custody.held.eraseIdx index
        handedOut := handedOut ++ custody.handedOut }.loosen buffer).cross
          ((buffer.intoRaw custody.boundary).map Prod.snd)
  | .drop index =>
    match custody.held[index]? with
    | none => custody
    | some buffer =>
      { custody with held := custody.held.eraseIdx index }.cross (buffer.drop custody.boundary)
  | .vmAllocate bytes =>
    let (raw, after) := custody.boundary.vmAllocate bytes
    { custody with boundary := after }.loosen ⟨.vm, raw⟩
  | .vmFree raw =>
    { custody with boundary := custody.boundary.vmDestroy raw }.claim ⟨.vm, raw⟩
  | .hostDestroy index =>
    match custody.handedOut[index]? with
    | none => custody
    | some raw =>
      { custody with handedOut := custody.handedOut.eraseIdx index }.cross
        (custody.boundary.release .host raw)

/-- A block of the VM's that is not in the host's hands. -/
def Loose (custody : Custody) (raw : RawBuffer) : Prop :=
  raw.address ∈ custody.boundary.vmBlocks ∧ raw.address ∉ dues .vm custody.held

/-- What the contract permits. It limits what is taken over and what the VM frees. -/
def Permits (custody : Custody) : Action → Prop
  | .adopt raw => raw.isNull = true ∨ custody.Loose raw
  | .vmFree raw => custody.Loose raw
  | _ => True

/-- What may come about if the contract is kept. -/
inductive Reachable : Custody → Prop where
  | new (placement : Placement) : Reachable (.new placement)
  | perform {custody : Custody} (action : Action) :
    Reachable custody → custody.Permits action → Reachable (custody.perform action)
  /-- From any moment on, blocks may go to other places. -/
  | place {custody : Custody} (placement : Placement) :
    Reachable custody →
    Reachable { custody with boundary := { custody.boundary with placement := placement } }

/-- The next block may go to any place that is free, one that was released before included. -/
theorem Reachable.exists_place {custody : Custody} (h : Reachable custody) {address : Nat}
    (hzero : address ≠ 0) (hfree : address ∉ custody.boundary.memory.addresses) :
    ∃ placement : Placement, placement.place custody.boundary.memory = address ∧
      Reachable { custody with boundary := { custody.boundary with placement := placement } } := by
  let placement : Placement :=
    { place := fun memory =>
        if memory = custody.boundary.memory then address else Placement.ascending.place memory
      place_ne_zero := fun memory => by
        split
        · exact hzero
        · exact Placement.ascending.place_ne_zero memory
      place_not_mem := fun memory => by
        split
        · next heq => exact heq ▸ hfree
        · exact Placement.ascending.place_not_mem memory }
  exact ⟨placement, if_pos rfl, h.place placement⟩

/-! ## The invariant -/

/-- What the host must have released: what it holds, and what it has handed out of its own. -/
def owed (custody : Custody) : List Buffer :=
  custody.held ++ custody.handedOut.map fun raw => ⟨.host, raw⟩

/-- Nothing has gone wrong so far, the host owes just what it holds and has handed out, and the VM's
allocator has just what the host holds of the VM's and what is loose. -/
structure Kept (custody : Custody) : Prop where
  owes : custody.boundary.Owes custody.owed
  vmBlocks_perm : custody.boundary.vmBlocks.Perm (dues .vm custody.held ++ custody.loose)
  violations_eq : custody.violations = []
  badFrees_eq : custody.boundary.badFrees = 0

/-- Where nobody has anything, all is in order. -/
theorem kept_new (placement : Placement) : (new placement).Kept :=
  ⟨Boundary.owes_new placement, .refl _, rfl, rfl⟩

variable {custody : Custody} {buffer : Buffer} {raw : RawBuffer}

/-- A buffer can be put in front of the others that are held. -/
theorem held_perm {index : Nat} (h : custody.held[index]? = some buffer) :
    custody.held.Perm (buffer :: custody.held.eraseIdx index) := by
  obtain ⟨hlt, rfl⟩ := List.getElem?_eq_some_iff.1 h
  exact (List.getElem_cons_eraseIdx_perm hlt).symm

/-- A buffer that is held can be put in front of all that is owed. -/
theorem owed_perm {index : Nat} (h : custody.held[index]? = some buffer) :
    custody.owed.Perm
      (buffer :: { custody with held := custody.held.eraseIdx index }.owed) :=
  (held_perm h).append_right _

/-- A buffer can be put in front of the others that are handed out. -/
theorem handedOut_perm {index : Nat} (h : custody.handedOut[index]? = some raw) :
    custody.owed.Perm
      (⟨.host, raw⟩ :: { custody with handedOut := custody.handedOut.eraseIdx index }.owed) := by
  obtain ⟨hlt, rfl⟩ := List.getElem?_eq_some_iff.1 h
  exact (((List.getElem_cons_eraseIdx_perm hlt).symm.map _).append_left _).trans List.perm_middle

/-- The dues of the VM's side are what is held of the VM's. -/
theorem vmDues_owed (custody : Custody) : dues .vm custody.owed = dues .vm custody.held := by
  have hnone : dues .vm (custody.handedOut.map fun raw => ⟨.host, raw⟩) = [] := by
    rw [dues, List.filterMap_map, List.filterMap_eq_nil_iff]
    intro raw _
    simp [Buffer.due?]
  rw [owed, dues_append, hnone, List.append_nil]

namespace Kept

/-- What may be taken over or freed is a loose block. -/
theorem mem_loose (h : custody.Kept) (hraw : custody.Loose raw) : raw.address ∈ custody.loose :=
  (List.mem_append.1 (h.vmBlocks_perm.mem_iff.1 hraw.1)).resolve_left hraw.2

/-- The block of a buffer that is held can be put in front of the VM's other blocks. -/
theorem vmBlocks_perm_eraseIdx (h : custody.Kept) {index : Nat}
    (hindex : custody.held[index]? = some buffer) :
    custody.boundary.vmBlocks.Perm
      (dues .vm [buffer] ++ (dues .vm (custody.held.eraseIdx index) ++ custody.loose)) := by
  rw [← List.append_assoc, ← dues_append]
  exact h.vmBlocks_perm.trans ((dues_perm (held_perm hindex)).append_right _)

/-! ### What the host does -/

/-- A new buffer is owed as soon as it is held. -/
theorem hold (h : custody.Kept) {result : Except EncodeError (Buffer × Boundary)}
    (hnew : ∀ buffer after, result = .ok (buffer, after) → ∃ side bytes,
      Buffer.ofBytes custody.boundary side bytes = .ok (buffer, after)) :
    (custody.hold result).Kept := by
  cases result with
  | error error => exact h
  | ok new =>
    obtain ⟨side, bytes, hbytes⟩ := hnew new.1 new.2 rfl
    obtain ⟨howes, hbad⟩ := h.owes.ofBytes hbytes
    obtain ⟨hbuffer, hafter⟩ := Buffer.ofBytes_eq_ok hbytes
    refine ⟨howes, ?_, h.violations_eq, hbad.trans h.badFrees_eq⟩
    have hblocks : new.2.vmBlocks = dues .vm [new.1] ++ custody.boundary.vmBlocks := by
      rw [hbuffer, hafter, Boundary.vmBlocks_provide]
    show new.2.vmBlocks.Perm (dues .vm ([new.1] ++ custody.held) ++ custody.loose)
    rw [hblocks, dues_append, List.append_assoc]
    exact h.vmBlocks_perm.append_left _

/-- A loose block that the host takes over is one that it holds. -/
theorem adopt (h : custody.Kept) (hraw : raw.isNull = true ∨ custody.Loose raw) :
    (custody.perform (.adopt raw)).Kept := by
  refine ⟨h.owes.adopt ?_, ?_, h.violations_eq, h.badFrees_eq⟩
  · rw [vmDues_owed]
    exact hraw
  show custody.boundary.vmBlocks.Perm
    (dues .vm (⟨.vm, raw⟩ :: custody.held) ++ custody.loose.diff (dues .vm [⟨.vm, raw⟩]))
  cases hnull : raw.isNull with
  | true =>
    rw [dues_cons_of_isNull hnull, dues_cons_of_isNull hnull]
    exact h.vmBlocks_perm
  | false =>
    have hloose := h.mem_loose (hraw.resolve_left (by simp [hnull]))
    rw [dues_cons_self hnull, dues_cons_self hnull, dues_nil, List.diff_cons, List.diff_nil]
    calc
      List.Perm _ (dues .vm custody.held ++ custody.loose) := h.vmBlocks_perm
      List.Perm _ (dues .vm custody.held ++ raw.address :: custody.loose.erase raw.address) :=
        (List.perm_cons_erase hloose).append_left _
      List.Perm _ (raw.address :: dues .vm custody.held ++ custody.loose.erase raw.address) :=
        List.perm_middle

/-- Bytes are written in place. -/
theorem write (h : custody.Kept) (index offset : Nat) (bytes : List UInt8) :
    (custody.perform (.write index offset bytes)).Kept := by
  simp only [Custody.perform]
  split
  · exact h
  split
  · exact h
  next after hafter =>
  obtain ⟨howes, hbad⟩ := h.owes.overwrite hafter
  refine ⟨howes, ?_, h.violations_eq, hbad.trans h.badFrees_eq⟩
  exact (Boundary.vmBlocks_overwrite hafter).symm ▸ h.vmBlocks_perm

/-- A buffer of the VM's that is handed across is loose from then on, and one of the host's is
handed out. -/
theorem intoRaw (h : custody.Kept) (index : Nat) : (custody.perform (.intoRaw index)).Kept := by
  simp only [Custody.perform]
  split
  · exact h
  next buffer hindex =>
  obtain ⟨after, hinto, howes, hbad⟩ := (h.owes.perm (owed_perm hindex)).intoRaw
  rw [hinto]
  refine ⟨howes.perm ?_, ?_, h.violations_eq, hbad.trans h.badFrees_eq⟩
  · obtain ⟨side, raw⟩ := buffer
    cases side with
    | host => exact List.perm_middle.symm
    | vm => rfl
  · show after.vmBlocks.Perm
      (dues .vm (custody.held.eraseIdx index) ++ (dues .vm [buffer] ++ custody.loose))
    rw [Boundary.vmBlocks_intoRaw hinto]
    exact (h.vmBlocks_perm_eraseIdx hindex).trans (List.perm_append_comm_assoc ..)

/-- A buffer that is dropped is gone on both sides. -/
theorem drop (h : custody.Kept) (index : Nat) : (custody.perform (.drop index)).Kept := by
  simp only [Custody.perform]
  split
  · exact h
  next buffer hindex =>
  obtain ⟨after, hdrop, howes, hbad⟩ := (h.owes.perm (owed_perm hindex)).drop
  rw [hdrop]
  refine ⟨howes, ?_, h.violations_eq, hbad.trans h.badFrees_eq⟩
  show after.vmBlocks.Perm (dues .vm (custody.held.eraseIdx index) ++ custody.loose)
  rw [Boundary.vmBlocks_drop hdrop]
  have hrest := (h.vmBlocks_perm_eraseIdx hindex).diff_right (dues .vm [buffer])
  rwa [dues_append_diff] at hrest

/-! ### What the VM does -/

/-- What the VM allocates is loose. -/
theorem vmAllocate (h : custody.Kept) (bytes : List UInt8) :
    (custody.perform (.vmAllocate bytes)).Kept := by
  refine ⟨h.owes.vmAllocate bytes, ?_, h.violations_eq,
    (Boundary.badFrees_vmAllocate ..).trans h.badFrees_eq⟩
  show (custody.boundary.vmAllocate bytes).2.vmBlocks.Perm (dues .vm custody.held ++
    (dues .vm [⟨.vm, (custody.boundary.vmAllocate bytes).1⟩] ++ custody.loose))
  rw [Boundary.vmBlocks_vmAllocate]
  exact (h.vmBlocks_perm.append_left _).trans (List.perm_append_comm_assoc ..)

/-- A loose block that the VM frees is gone. -/
theorem vmFree (h : custody.Kept) (hraw : custody.Loose raw) :
    (custody.perform (.vmFree raw)).Kept := by
  refine ⟨h.owes.vmDestroy (.inr ?_), ?_, h.violations_eq,
    (Boundary.badFrees_vmDestroy hraw.1).trans h.badFrees_eq⟩
  · rw [vmDues_owed]
    exact hraw.2
  show (custody.boundary.vmDestroy raw).vmBlocks.Perm
    (dues .vm custody.held ++ custody.loose.diff (dues .vm [⟨.vm, raw⟩]))
  rw [Boundary.vmBlocks_vmDestroy]
  cases hnull : raw.isNull with
  | true =>
    rw [dues_cons_of_isNull hnull, dues_nil, List.diff_nil, List.diff_nil]
    exact h.vmBlocks_perm
  | false =>
    rw [dues_cons_self hnull, dues_nil, List.diff_cons, List.diff_nil, List.diff_cons,
      List.diff_nil, ← List.erase_append_right _ hraw.2]
    exact h.vmBlocks_perm.erase _

/-- A buffer of the host's that the VM gives back is gone. -/
theorem hostDestroy (h : custody.Kept) (index : Nat) :
    (custody.perform (.hostDestroy index)).Kept := by
  simp only [Custody.perform]
  split
  · exact h
  next raw hindex =>
  obtain ⟨after, hdrop, howes, hbad⟩ := (h.owes.perm (handedOut_perm hindex)).drop
  have hrelease : custody.boundary.release .host raw = .ok after := hdrop
  rw [hrelease]
  refine ⟨howes, ?_, h.violations_eq, hbad.trans h.badFrees_eq⟩
  have hblocks := Boundary.vmBlocks_drop hdrop
  rw [dues_cons_of_ne (by simp), dues_nil, List.diff_nil] at hblocks
  exact hblocks.symm ▸ h.vmBlocks_perm

/-- The contract is kept by whatever it permits. -/
theorem perform (h : custody.Kept) {action : Action} (hpermits : custody.Permits action) :
    (custody.perform action).Kept := by
  cases action with
  | zeros side length =>
    exact h.hold fun buffer after hnew =>
      ⟨side, List.replicate length 0, (Buffer.zeros_eq ..).symm.trans hnew⟩
  | ofBytes side bytes => exact h.hold fun buffer after hnew => ⟨side, bytes, hnew⟩
  | cloneInto index side =>
    simp only [Custody.perform]
    split
    · exact h
    · exact h.hold fun buffer after hnew => ⟨side, _, hnew⟩
  | adopt raw => exact h.adopt hpermits
  | write index offset bytes => exact h.write index offset bytes
  | intoRaw index => exact h.intoRaw index
  | drop index => exact h.drop index
  | vmAllocate bytes => exact h.vmAllocate bytes
  | vmFree raw => exact h.vmFree hpermits
  | hostDestroy index => exact h.hostDestroy index

end Kept

/-- The contract is kept in whatever may come about. -/
theorem Reachable.kept (h : Reachable custody) : custody.Kept := by
  induction h with
  | new placement => exact kept_new placement
  | perform action _ hpermits ih => exact ih.perform hpermits
  | place placement _ ih =>
    exact ⟨{ ih.owes with }, ih.vmBlocks_perm, ih.violations_eq, ih.badFrees_eq⟩

/-! ## The balance -/

/-- Every buffer is released by the allocator that it came from, and by it only, exactly once: never
twice, as no release was refused, and not less than once, as each allocator has just the buffers
whose release is still to come. -/
structure Balanced (custody : Custody) : Prop where
  /-- No operation was refused. -/
  violations_eq : custody.violations = []
  /-- The VM was never asked to free a block that it had not handed out. -/
  badFrees_eq : custody.boundary.badFrees = 0
  vm_liveCount_eq : custody.boundary.vm.liveCount =
    custody.held.countP fun buffer => buffer.side = .vm ∧ buffer.raw.isNull = false
  host_liveCount_eq : custody.boundary.host.liveCount =
    (custody.held.countP fun buffer => buffer.side = .host ∧ buffer.raw.isNull = false) +
      custody.handedOut.countP fun raw => raw.isNull = false
  /-- Every block in memory is either held, or handed out, or the VM's. -/
  blocks : custody.boundary.memory.addresses.Perm
    (dues .host custody.owed ++ custody.boundary.vmBlocks)
  /-- Every block of the VM's is either held or loose. One that was dropped is neither, so the VM has
  freed it. -/
  vmBlocks_perm : custody.boundary.vmBlocks.Perm (dues .vm custody.held ++ custody.loose)
  /-- When all is dropped and given back, nothing is left but what is loose. -/
  settled : custody.held = [] → (∀ raw ∈ custody.handedOut, raw.isNull = true) →
    custody.boundary.vm.liveCount = 0 ∧ custody.boundary.host.liveCount = 0 ∧
      custody.boundary.memory.addresses.Perm custody.boundary.vmBlocks ∧
      custody.boundary.vmBlocks.Perm custody.loose

/-- **Every buffer is released exactly once.** Whatever is done at the boundary, in any order and
wherever the blocks go: while the contract is kept, the books balance. -/
theorem Reachable.balanced (h : Reachable custody) : custody.Balanced := by
  have hkept := h.kept
  have hvm : custody.boundary.vm.liveCount = (dues .vm custody.held).length := by
    rw [← vmDues_owed, hkept.owes.vm_liveCount]
  have hhost : custody.boundary.host.liveCount = (dues .host custody.held).length +
      (dues .host (custody.handedOut.map fun raw => ⟨.host, raw⟩)).length := by
    rw [← List.length_append, ← dues_append, ← owed, hkept.owes.host_liveCount]
  have hhanded : (dues .host (custody.handedOut.map fun raw => ⟨.host, raw⟩)).length =
      custody.handedOut.countP fun raw => raw.isNull = false := by
    rw [length_dues, List.countP_map]
    simp [Function.comp_def]
  have hblocks := hkept.owes.blocks.trans (hkept.owes.hostLive.append_right _)
  refine
    { violations_eq := hkept.violations_eq
      badFrees_eq := hkept.badFrees_eq
      vm_liveCount_eq := by rw [hvm, length_dues]
      host_liveCount_eq := by rw [hhost, hhanded, length_dues]
      blocks := hblocks
      vmBlocks_perm := hkept.vmBlocks_perm
      settled := fun hheld hnull => ?_ }
  have hnone : custody.handedOut.countP (fun raw => raw.isNull = false) = 0 :=
    List.countP_eq_zero.2 fun raw hmem => by simp [hnull raw hmem]
  have hdues : dues .host custody.owed = [] := by
    rw [owed, hheld, List.nil_append]
    exact List.length_eq_zero_iff.1 (hhanded.trans hnone)
  refine ⟨by rw [hvm, hheld]; rfl, by rw [hhost, hheld, hhanded, hnone]; rfl, ?_, ?_⟩
  · rwa [hdues, List.nil_append] at hblocks
  · have hloose := hkept.vmBlocks_perm
    rwa [hheld, dues_nil, List.nil_append] at hloose

/-- A buffer of the VM's that goes across and is taken over again, and one of the host's that goes
across and is given back. -/
theorem balanced_after_roundTrips :
    ([.ofBytes .vm [7], .intoRaw 0, .adopt ⟨1, 1, 1⟩, .ofBytes .host [1, 2], .intoRaw 0, .drop 0,
      .hostDestroy 0].foldl perform (new .ascending)).Balanced := by
  have hgone := ((Reachable.new .ascending).perform (.ofBytes .vm [7]) trivial).perform
    (.intoRaw 0) trivial
  have hback := hgone.perform (.adopt ⟨1, 1, 1⟩) (.inr ⟨by decide, by decide⟩)
  have hhost := (hback.perform (.ofBytes .host [1, 2]) trivial).perform (.intoRaw 0) trivial
  exact Reachable.balanced ((hhost.perform (.drop 0) trivial).perform (.hostDestroy 0) trivial)

end Custody

end HostBridge
