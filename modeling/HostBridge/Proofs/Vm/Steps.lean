import HostBridge.Proofs.Host.Imports
import HostBridge.Proofs.Vm.Run

/-!
# VM programs step by step

What each thing that a VM can do makes of a world, and how programs run one after the other
(`VmProgram.run_bind`). Whatever a program does, it takes no host function back
(`VmProgram.run_extends`).
-/

namespace HostBridge.VmProgram

variable {σ α β : Type}

/-! ## Steps -/

section steps

variable (world : World σ)

/-- A VM that replaces its state goes on with the new one. -/
theorem run_update (state : σ) (rest : VmProgram σ α) :
    (update state rest).run world = rest.run { world with vm := state } := rfl

/-- A VM that allocates goes on with the new buffer. -/
theorem run_allocate (bytes : List UInt8) (rest : RawBuffer → VmProgram σ α) :
    (allocate bytes rest).run world = (rest (world.host.boundary.vmAllocate bytes).1).run
      (world.withBoundary (world.host.boundary.vmAllocate bytes).2) := rfl

/-- A VM that frees a buffer goes on without it. -/
theorem run_free (raw : RawBuffer) (rest : VmProgram σ α) :
    (free raw rest).run world =
      rest.run (world.withBoundary (world.host.boundary.vmDestroy raw)) := rfl

end steps

/-- Programs run one after the other. -/
theorem run_bind (program : VmProgram σ α) (next : α → VmProgram σ β) (world : World σ) :
    (program >>= next).run world =
      (program.run world).bind fun done => (next done.1).run done.2 := by
  induction program generalizing world with
  | finish result => rfl
  | observe rest ih => exact ih world.vm world
  | update state rest ih => exact ih _
  | load raw rest ih => exact ih _ world
  | allocate bytes rest ih => exact ih _ _
  | free raw rest ih => exact ih _
  | call binding arguments rest ih =>
    change (call binding arguments fun reply => rest reply >>= next).run world = _
    rw [run_call, run_call]
    cases binding.callback world.host arguments with
    | error breach => rfl
    | ok answer => exact ih _ _

/-- Behind a course of action that ends, the other one starts where it ended. -/
theorem run_bind_of_ok {program : VmProgram σ α} {next : α → VmProgram σ β}
    {world after : World σ} {result : α} (h : program.run world = .ok (result, after)) :
    (program >>= next).run world = (next result).run after := by
  rw [run_bind, h]
  rfl

/-- The call of an import is the callback of the host. -/
theorem run_callImport {binding : Binding} {arguments : Option (List UInt8)} {world : World σ}
    {reply : Binding.Reply} {host : Host}
    (h : binding.callback world.host arguments = .ok (reply, host)) :
    (callImport binding arguments : VmProgram σ Binding.Reply).run world =
      .ok (reply, { world with host := host }) := by
  rw [callImport, run_call, h]
  rfl

/-! ## The VM's state -/

/-- The program leaves the VM's own state as it is. -/
def LeavesState (program : VmProgram σ α) : Prop :=
  ∀ world result after, program.run world = .ok (result, after) → after.vm = world.vm

namespace LeavesState

/-- Handing back a result leaves the state. -/
theorem pure (result : α) : (Pure.pure result : VmProgram σ α).LeavesState := by
  intro world result after h
  cases h
  rfl

/-- Two courses of action that leave the state do so one after the other. -/
theorem bind {program : VmProgram σ α} {next : α → VmProgram σ β} (h : program.LeavesState)
    (hnext : ∀ result, (next result).LeavesState) : (program >>= next).LeavesState := by
  intro world result after hrun
  rw [run_bind] at hrun
  cases hfirst : program.run world with
  | error breach =>
    rw [hfirst] at hrun
    cases hrun
  | ok done =>
    obtain ⟨value, between⟩ := done
    rw [hfirst] at hrun
    exact (hnext value between result after hrun).trans (h world value between hfirst)

/-- Reading a buffer leaves the state. -/
theorem contents (raw : RawBuffer) : (VmProgram.contents raw : VmProgram σ _).LeavesState := by
  intro world result after h
  cases h
  rfl

/-- Freeing a buffer leaves the state. -/
theorem release (raw : RawBuffer) : (VmProgram.release raw : VmProgram σ _).LeavesState := by
  intro world result after h
  cases h
  rfl

/-- Calling an import leaves the state. -/
theorem callImport (binding : Binding) (arguments : Option (List UInt8)) :
    (VmProgram.callImport binding arguments : VmProgram σ _).LeavesState := by
  intro world result after h
  rw [VmProgram.callImport, run_call] at h
  cases hcallback : binding.callback world.host arguments with
  | error breach =>
    rw [hcallback] at h
    cases h
  | ok answer =>
    rw [hcallback] at h
    cases h
    rfl

end LeavesState

/-! ## Functions -/

/-- Whatever a program does, the host functions stay where they are. -/
theorem run_extends {program : VmProgram σ α} {world after : World σ} {result : α}
    (h : program.run world = .ok (result, after)) :
    world.host.functions.Extends after.host.functions := by
  induction program generalizing world with
  | finish result =>
    cases h
    exact .refl _
  | observe rest ih => exact ih _ h
  | update state rest ih =>
    rw [run_update] at h
    have hrest := ih h
    exact hrest
  | load raw rest ih => exact ih _ h
  | allocate bytes rest ih =>
    rw [run_allocate] at h
    have hrest := ih _ h
    exact hrest
  | free raw rest ih =>
    rw [run_free] at h
    have hrest := ih h
    exact hrest
  | call binding arguments rest ih =>
    rw [run_call] at h
    cases hcallback : binding.callback world.host arguments with
    | error breach =>
      rw [hcallback] at h
      cases h
    | ok answer =>
      obtain ⟨reply, host⟩ := answer
      rw [hcallback] at h
      exact (Binding.callback_extends hcallback).trans (ih reply h)

end HostBridge.VmProgram
