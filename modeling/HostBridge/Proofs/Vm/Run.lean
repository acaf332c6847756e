import HostBridge.Proofs.Ownership.Contents
import HostBridge.Vm.Program

/-!
# What a VM can do

While the host waits for an entry point it owes buffers of its own only (`World.Owes`), and so it
finds them when the VM returns, whatever the VM did: its ledgers, the bytes that it lent and the
record of the calls are as they were (`World.Follows`). The one thing that can go wrong on the way
is that the VM calls a function that was never registered, which ends the process
(`VmProgram.run_ends`).
-/

namespace HostBridge

/-- The host owes these buffers, all of which are its own. -/
structure World.Owes {σ : Type} (world : World σ) (buffers : List Buffer) : Prop where
  owes : world.host.boundary.Owes buffers
  side_eq : ∀ buffer ∈ buffers, buffer.side = .host

/-- What a VM at work leaves as it is. -/
structure World.Follows {σ : Type} (before after : World σ) : Prop where
  calls_eq : after.calls = before.calls
  untouched : before.host.boundary.Untouched after.host.boundary
  /-- Functions are never taken back. -/
  size_le : before.host.functions.size ≤ after.host.functions.size

/-- The world with another state of the boundary. -/
def World.withBoundary {σ : Type} (world : World σ) (boundary : Boundary) : World σ :=
  { world with host := { world.host with boundary := boundary } }

section World

variable {σ : Type} {world before between after : World σ} {buffers : List Buffer}

/-- What stays as it was over each of two stretches of work stays so over both. -/
theorem World.Follows.trans (h : before.Follows between) (h' : between.Follows after) :
    before.Follows after where
  calls_eq := h'.calls_eq.trans h.calls_eq
  untouched := h.untouched.trans h'.untouched
  size_le := Nat.le_trans h.size_le h'.size_le

/-- The host has no buffer of the VM's in its hands. -/
theorem World.Owes.vmDues_eq_nil (h : world.Owes buffers) : dues .vm buffers = [] := by
  rw [dues, List.filterMap_eq_nil_iff]
  intro buffer hmem
  simp [Buffer.due?, h.side_eq buffer hmem]

/-- Between calls the host holds no buffer of the VM's. -/
theorem World.Owes.vmLive_eq_nil (h : world.Owes buffers) :
    world.host.boundary.vm.live.keys = [] := by
  have hperm := h.owes.vmLive
  rw [h.vmDues_eq_nil] at hperm
  exact hperm.eq_nil

end World

/-! ## Callbacks -/

namespace Binding

variable {binding : Binding} {host : Host} {buffers : List Buffer}

/-- A call registers functions at most. -/
theorem dispatch_cases (binding : Binding) (functions : Registry) (arguments : List UInt8) :
    (binding.dispatch functions arguments = .error (.unknownFunction binding.index) ∧
      functions.size ≤ binding.index) ∨
    ∃ answer after, binding.dispatch functions arguments = .ok (answer, after) ∧
      functions.size ≤ after.size := by
  unfold dispatch
  cases hlookup : functions.lookup binding.index with
  | none => exact .inl ⟨rfl, List.getElem?_eq_none_iff.1 hlookup⟩
  | some function =>
    right
    cases binding.readArguments arguments with
    | error trap => exact ⟨_, _, rfl, Nat.le_refl _⟩
    | ok values =>
      obtain ⟨added, hadded⟩ := HostProgram.run_extends (function values) functions
      refine ⟨_, _, rfl, ?_⟩
      simp [Registry.size, hadded]

/-- The outcome of a call can be handed over, and ends in no hands but the VM's. -/
theorem handOver_ok (h : host.boundary.Owes buffers) (answer : Except Trap (List UInt8)) :
    ∃ reply after, handOver host answer = .ok (reply, after) ∧ after.boundary.Owes buffers ∧
      host.boundary.Untouched after.boundary ∧ after.functions = host.functions := by
  -- a trap, and results that are too long, end as a message in a buffer that is the VM's own
  have hraise : ∀ message, (raise host message).2.boundary.Owes buffers ∧
      host.boundary.Untouched (raise host message).2.boundary ∧
      (raise host message).2.functions = host.functions := fun message =>
    ⟨h.vmAllocate _, h.untouched_vmAllocate _, rfl⟩
  cases answer with
  | error trap => exact ⟨_, _, rfl, hraise trap.message⟩
  | ok bytes =>
    cases hbytes : Buffer.ofBytes host.boundary .vm bytes with
    | error error => exact ⟨_, _, by simp only [handOver, hbytes]; rfl, hraise _⟩
    | ok new =>
      obtain ⟨buffer, provided⟩ := new
      obtain ⟨howes, -⟩ := h.ofBytes hbytes
      obtain ⟨after, hinto, hafter, -⟩ := howes.intoRaw
      obtain ⟨hside, hprovided⟩ := Buffer.ofBytes_eq_ok hbytes
      refine ⟨.results buffer.raw, { host with boundary := after }, ?_, ?_, ?_, rfl⟩
      · simp only [handOver, hbytes, hinto]
        rfl
      · simpa [hside] using hafter
      · have huntouched := h.untouched_provide_vm bytes
        rw [← hprovided] at huntouched
        exact huntouched.trans (Boundary.untouched_intoRaw hinto)

/-- A callback leaves the host's own buffers as they are, and no other in the host's hands. -/
theorem callback_cases (h : host.boundary.Owes buffers) (arguments : Option (List UInt8)) :
    (binding.callback host arguments = .error (.unknownFunction binding.index) ∧
      host.functions.size ≤ binding.index) ∨
    ∃ reply after, binding.callback host arguments = .ok (reply, after) ∧
      after.boundary.Owes buffers ∧ host.boundary.Untouched after.boundary ∧
      host.functions.size ≤ after.functions.size := by
  obtain ⟨hdispatch, hle⟩ | ⟨answer, functions, hdispatch, hle⟩ :=
    binding.dispatch_cases host.functions (arguments.getD [])
  · left
    refine ⟨?_, hle⟩
    unfold callback
    rw [hdispatch]
    rfl
  · right
    have hgrown : ({ host with functions := functions } : Host).boundary.Owes buffers := h
    obtain ⟨reply, after, hhand, howes, huntouched, hfunctions⟩ := handOver_ok hgrown answer
    refine ⟨reply, after, ?_, howes, huntouched, hfunctions ▸ hle⟩
    unfold callback
    rw [hdispatch]
    exact hhand

end Binding

/-! ## Programs -/

namespace VmProgram

variable {σ α : Type} {world between : World σ} {buffers : List Buffer}

/-- How a program ends: it has called a function that was not there, or the world follows. -/
def Ends (buffers : List Buffer) (world : World σ) : Except Breach (α × World σ) → Prop
  | .error breach => ∃ index, breach = .unknownFunction index ∧ world.host.functions.size ≤ index
  | .ok (_, after) => after.Owes buffers ∧ world.Follows after

/-- How something ends may be told from an earlier world on. -/
theorem Ends.of_follows {outcome : Except Breach (α × World σ)} (h : world.Follows between)
    (hends : Ends buffers between outcome) : Ends buffers world outcome := by
  cases outcome with
  | error breach =>
    obtain ⟨index, hbreach, hle⟩ := hends
    exact ⟨index, hbreach, Nat.le_trans h.size_le hle⟩
  | ok result => exact ⟨hends.1, h.trans hends.2⟩

/-- A call of an import goes on with what the callback leaves. -/
theorem run_call (binding : Binding) (arguments : Option (List UInt8))
    (next : Binding.Reply → VmProgram σ α) (world : World σ) :
    (call binding arguments next).run world =
      match binding.callback world.host arguments with
      | .error breach => .error breach
      | .ok (reply, host) => (next reply).run { world with host := host } := by
  have hget : (get : InWorld σ (World σ)) world = .ok (world, world) := rfl
  have hlift : (liftM (binding.callback world.host arguments) : InWorld σ _) world =
      (binding.callback world.host arguments).bind fun answer => .ok (answer, world) := rfl
  simp only [run]
  rw [InWorld.bind_of_ok hget]
  cases h : binding.callback world.host arguments with
  | error breach =>
    rw [h] at hlift
    exact InWorld.bind_of_error hlift
  | ok answer =>
    rw [h] at hlift
    exact InWorld.bind_of_ok hlift

/-- Whatever a VM does, the host's own buffers are as they were. -/
theorem run_ends (program : VmProgram σ α) (h : world.Owes buffers) :
    Ends buffers world (program.run world) := by
  induction program generalizing world with
  | finish result => exact ⟨h, rfl, .refl _, Nat.le_refl _⟩
  | observe next ih => exact ih world.vm h
  | update state next ih =>
    have hfollows : world.Follows { world with vm := state } := ⟨rfl, .refl _, Nat.le_refl _⟩
    have hnext : World.Owes { world with vm := state } buffers := ⟨h.owes, h.side_eq⟩
    exact (ih hnext).of_follows hfollows
  | load raw next ih => exact ih _ h
  | allocate bytes next ih =>
    have hfollows : world.Follows (world.withBoundary (world.host.boundary.vmAllocate bytes).2) :=
      ⟨rfl, h.owes.untouched_vmAllocate bytes, Nat.le_refl _⟩
    have hnext : (world.withBoundary (world.host.boundary.vmAllocate bytes).2).Owes buffers :=
      ⟨h.owes.vmAllocate bytes, h.side_eq⟩
    exact (ih _ hnext).of_follows hfollows
  | free raw next ih =>
    have hfollows : world.Follows (world.withBoundary (world.host.boundary.vmDestroy raw)) :=
      ⟨rfl, h.owes.untouched_vmDestroy raw, Nat.le_refl _⟩
    have hnext : (world.withBoundary (world.host.boundary.vmDestroy raw)).Owes buffers := by
      refine ⟨h.owes.vmDestroy (.inr ?_), h.side_eq⟩
      rw [h.vmDues_eq_nil]
      exact List.not_mem_nil
    exact (ih hnext).of_follows hfollows
  | call binding arguments next ih =>
    obtain ⟨hcall, hle⟩ | ⟨reply, host, hcall, howes, huntouched, hle⟩ :=
      Binding.callback_cases h.owes arguments
    · rw [run_call, hcall]
      exact ⟨_, rfl, hle⟩
    · rw [run_call, hcall]
      have hfollows : world.Follows { world with host := host } := ⟨rfl, huntouched, hle⟩
      have hnext : World.Owes { world with host := host } buffers := ⟨howes, h.side_eq⟩
      exact (ih reply hnext).of_follows hfollows

end VmProgram

end HostBridge
