import HostBridge.Proofs.Session.Request
import HostBridge.Proofs.Vm.Steps

/-!
# Turns

What a request is to the VM and to the caller at once (`Session.Turn`): the VM runs its entry point
in a world where it finds what was asked for, the caller is told what the VM replied
(`Request.told`), and the session goes on with the state that the VM left and with the functions
that are there by then. A statement about a VM's entry points becomes one about its sessions by
this.
-/

namespace HostBridge

variable {σ : Type} {vm : Vm σ} {session : Session σ} {host : Host} {request : Request}

/-- What the caller is told when the VM replies. -/
def Request.told (reply : Vm.Reply) : Request → Except SessionError (Option Receipt)
  | .validate _ _ =>
    if reply.code = 0 then .ok none
    else .error (.vm .validate (VmError.decode (reply.error.getD [])))
  | .run kind _ _ _ _ =>
    if reply.code = 0 then
      ((Receipt.decodeOf kind .binary (reply.receipt.getD [])).mapError .decode).map some
    else .error (.vm (.run kind) (VmError.decode (reply.error.getD [])))

/-- The result of a request is what the reply says. -/
theorem Request.outcome_of_reports {answer : Vm.Answer} {reply : Vm.Reply}
    (h : answer.Reports (request.counted reply)) : request.outcome answer = request.told reply := by
  have hcode := h.code_eq
  have hreceipt := h.receipt.contents_eq
  have herror := h.error.contents_eq
  cases request with
  | validate kind transaction =>
    simp only [counted, Vm.Reply.withoutReceipt] at hcode herror
    simp only [outcome, told, hcode, herror]
  | run kind transaction address gasMetering gasLimit =>
    simp only [counted] at hcode hreceipt herror
    simp only [outcome, told, hcode, hreceipt, herror]

namespace Session

/-- A request, from the VM's side and from the caller's. -/
inductive Turn (vm : Vm σ) (session : Session σ) (host : Host) (request : Request) :
    Except Breach (Except SessionError (Option Receipt) × Session σ × Host) → Prop where
  /-- The VM is not called for a transaction that it cannot be shown. -/
  | tooLong {after : Session σ} {last : Host} :
    RawBuffer.maxLength < request.transaction.length →
    after.vm = session.vm → after.imports = session.imports → last.functions = host.functions →
    Turn vm session host request (.ok
      (.error (.encode (.bytesTooLong request.transaction.length RawBuffer.maxLength)), after,
        last))
  | ended {shown : World σ} {transaction address : RawBuffer} {breach : Breach} :
    request.Shown (session.world host) shown transaction address →
    (request.program vm transaction address).run shown = .error breach →
    Turn vm session host request (.error breach)
  | answered {shown returned : World σ} {transaction address : RawBuffer} {reply : Vm.Reply}
      {after : Session σ} {last : Host} :
    request.transaction.length ≤ RawBuffer.maxLength →
    request.Shown (session.world host) shown transaction address →
    (request.program vm transaction address).run shown = .ok (reply, returned) →
    after.vm = returned.vm → after.imports = session.imports →
    last.functions = returned.host.functions →
    Turn vm session host request (.ok (request.told reply, after, last))

/-- Every request of an idle session is one turn. -/
theorem turn (hidle : session.Idle host) (vm : Vm σ) (request : Request) :
    Turn vm session host request (session.ask vm host request) := by
  by_cases hlength : request.transaction.length ≤ RawBuffer.maxLength
  · have hserved : Served vm request host.own (session.world host) _ :=
      serve_served hidle.owes hlength
    generalize hserve : serve vm request (session.world host) = served at hserved
    cases hserved with
    | ended hshown hrun hindex =>
      rw [ask_of_error hserve]
      exact .ended hshown hrun
    | answered hshown hrun hlent hsize hsettles hafter hcalls =>
      rw [ask_of_ok hserve, Request.finish_verdict, Request.outcome_of_reports hsettles.reports]
      exact .answered hlength hshown hrun hsettles.vm_eq rfl hsettles.functions_eq
  · have hlong := Nat.lt_of_not_le hlength
    rw [ask_of_ok (serve_of_tooLong vm _ hlong)]
    cases request <;> exact .tooLong hlong rfl rfl rfl

/-- Nothing that is asked of a session takes a host function back. -/
theorem ask_extends (hidle : session.Idle host) {result : Except SessionError (Option Receipt)}
    {after : Session σ} {last : Host}
    (h : session.ask vm host request = .ok (result, after, last)) :
    host.functions.Extends last.functions := by
  have hturn := turn hidle vm request
  rw [h] at hturn
  cases hturn with
  | tooLong _ _ _ hfunctions => exact hfunctions ▸ .refl _
  | answered _ hshown hrun _ _ hfunctions =>
    rw [hfunctions]
    have hextends := VmProgram.run_extends hrun
    rwa [hshown.functions_eq] at hextends

/-- A session is idle again when a request was answered. -/
theorem Idle.ask (hidle : session.Idle host) {result : Except SessionError (Option Receipt)}
    {after : Session σ} {last : Host}
    (h : session.ask vm host request = .ok (result, after, last)) :
    after.Idle last := by
  have hkeeps := keeps_ask hidle vm request
  rw [h] at hkeeps
  exact hkeeps.1

end Session

end HostBridge
