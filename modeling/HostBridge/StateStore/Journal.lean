import HostBridge.StateStore.Callback

/-!
# A journal of the state store

How the state store is used from outside: handlers are installed and removed, and operations are
used, directly by the host or by the VM through its callbacks. A run of such uses can be made with a
journal, in which every handler that is installed, every operation and every handler that runs
leaves its mark, those inside other handlers too. Keeping it changes nothing about the run
(`Service.recordRun_snd`).
-/

namespace HostBridge.StateStore

/-! ## Uses of the store -/

/-- A use of an operation. -/
inductive Call where
  /-- By the host itself. -/
  | direct (slot : Slot) (request : slot.Request)
  | vmGet (key : Lent) (room : Room)
  | vmSet (key value : Lent)
  | vmDiscard
  | vmCheckpoint
  | vmHead

/-- What is done with the store. -/
inductive Action (σ : Type) where
  | install (slot : Slot) (handler : Handler σ slot)
  | clear
  | use (call : Call)

/-- What a use hands back. -/
inductive Reply where
  | quiet
  | result (slot : Slot) (result : Except Fault slot.Result)
  | room (room : Room)
  | root (root : StateRoot)
  /-- The VM cannot be told about this fault. The process ends. -/
  | fatal (fault : Fault)

namespace Reply

def isFatal : Reply → Bool
  | .fatal _ => true
  | .quiet | .result _ _ | .room _ | .root _ => false

/-- A reply is fatal just if it is a fault that the VM cannot be told about. -/
theorem isFatal_iff {reply : Reply} : reply.isFatal ↔ ∃ fault, reply = .fatal fault := by
  cases reply <;> simp [isFatal]

/-- What a callback hands back. -/
def ofResult {α : Type} (reply : α → Reply) : Except Fault α → Reply
  | .ok value => reply value
  | .error fault => .fatal fault

end Reply

namespace Call

/-- The operation that is used, with its request. -/
def operation : Call → (slot : Slot) × slot.Request
  | .direct slot request => ⟨slot, request⟩
  | .vmGet key _ => ⟨.get, key.contents⟩
  | .vmSet key value => ⟨.set, (key.contents, value.contents)⟩
  | .vmDiscard => ⟨.discard, ()⟩
  | .vmCheckpoint => ⟨.checkpoint, ()⟩
  | .vmHead => ⟨.head, ()⟩

/-- What is handed back for a result of the operation. -/
def reply : (call : Call) → Except Fault call.operation.1.Result → Reply
  | .direct slot _, result => .result slot result
  | .vmGet _ room, result => .ofResult (fun found => .room (room.put found)) result
  | .vmSet _ _, result | .vmDiscard, result => .ofResult (fun _ => .quiet) result
  | .vmCheckpoint, result | .vmHead, result => .ofResult .root result

end Call

namespace Service

variable {σ : Type}

/-- Uses an operation. -/
def call? (depth : Nat) (service : Service σ) : Call → Option (Reply × Service σ)
  | .direct slot request =>
    (perform? depth slot request service).map fun (result, after) => (.result slot result, after)
  | .vmGet key room =>
    (service.vmGet? depth key room).map fun (result, after) => (.ofResult .room result, after)
  | .vmSet key value =>
    (service.vmSet? depth key value).map fun (result, after) =>
      (.ofResult (fun _ => .quiet) result, after)
  | .vmDiscard =>
    (service.vmDiscard? depth).map fun (result, after) =>
      (.ofResult (fun _ => .quiet) result, after)
  | .vmCheckpoint =>
    (service.vmCheckpoint? depth).map fun (result, after) => (.ofResult .root result, after)
  | .vmHead => (service.vmHead? depth).map fun (result, after) => (.ofResult .root result, after)

/-- Does one thing with the store. -/
def act? (depth : Nat) (service : Service σ) : Action σ → Option (Reply × Service σ)
  | .install slot handler => some (.quiet, service.install slot handler)
  | .clear => some (.quiet, service.clear)
  | .use call => service.call? depth call

/-- Does one thing after the other, until the process ends. -/
def run? (depth : Nat) (service : Service σ) : List (Action σ) → Option (List Reply × Service σ)
  | [] => some ([], service)
  | action :: actions =>
    match service.act? depth action with
    | none => none
    | some (reply, after) =>
      if reply.isFatal then some ([reply], after)
      else (after.run? depth actions).map fun (replies, last) => (reply :: replies, last)

/-- Every use is one operation with what is made of its result. -/
theorem call?_eq (depth : Nat) (service : Service σ) (call : Call) :
    service.call? depth call =
      (perform? depth call.operation.1 call.operation.2 service).map fun (result, after) =>
        (call.reply result, after) := by
  cases call with
  | direct slot request => rfl
  | vmGet key room =>
    show Option.map _ (Option.map _ (perform? depth .get key.contents service)) = _
    rw [Option.map_map]
    congr 1
    funext ⟨result, after⟩
    cases result <;> rfl
  | vmSet key value => rfl
  | vmDiscard => rfl
  | vmCheckpoint => rfl
  | vmHead => rfl

end Service

/-! ## The journal -/

/-- A mark in the journal. -/
inductive Event (σ : Type) where
  | install (slot : Slot) (handler : Handler σ slot)
  | clear
  /-- An operation starts. -/
  | start (slot : Slot) (request : slot.Request)
  /-- A handler runs. -/
  | call (slot : Slot) (handler : Handler σ slot) (request : slot.Request)
  /-- It ends with this answer. -/
  | answer (slot : Slot) (answer : slot.Answer)
  /-- An operation ends. -/
  | finish (slot : Slot) (result : Except Fault slot.Result)

/-- The events so far, the latest one first. -/
abbrev Journal (σ : Type) := List (Event σ)

/-- A way to perform operations that keeps a journal, also of what does not end. -/
abbrev Recorder (σ : Type) :=
  (slot : Slot) → slot.Request → Service σ → Journal σ →
    Journal σ × Option (Except Fault slot.Result × Service σ)

/-- Runs the program of a handler with a journal. -/
def Program.record {σ : Type} (perform : Recorder σ) :
    {slot : Slot} → Program σ slot → Service σ → Journal σ →
      Journal σ × Option (slot.Answer × Service σ)
  | _, .finish answer, service, past => (past, some (answer, service))
  | _, .observe next, service, past => (next service.state).record perform service past
  | _, .update state next, service, past =>
    next.record perform { service with state := state } past
  | _, .install target handler next, service, past =>
    next.record perform (service.install target handler) (.install target handler :: past)
  | _, .clear next, service, past => next.record perform service.clear (.clear :: past)
  | _, .perform target request next, service, past =>
    match perform target request service past with
    | (now, none) => (now, none)
    | (now, some (result, after)) => (next result).record perform after now

namespace Service

variable {σ : Type}

/-- Performs an operation with a journal. -/
def record : Nat → Recorder σ
  | 0, _, _, _, past => (past, none)
  | depth + 1, slot, request, service, past =>
    match service.handlers slot with
    | none =>
      (.finish slot (.error (.missingHandler slot)) :: .start slot request :: past,
        some (.error (.missingHandler slot), service))
    | some handler =>
      match (handler request).record (record depth) service
          (.call slot handler request :: .start slot request :: past) with
      | (now, none) => (now, none)
      | (now, some (answer, after)) =>
        (.finish slot (check slot answer) :: .answer slot answer :: now,
          some (check slot answer, after))

/-- Does one thing with a journal. -/
def recordAct (depth : Nat) (service : Service σ) (past : Journal σ) :
    Action σ → Journal σ × Option (Reply × Service σ)
  | .install slot handler =>
    (.install slot handler :: past, some (.quiet, service.install slot handler))
  | .clear => (.clear :: past, some (.quiet, service.clear))
  | .use call =>
    let (now, out) := record depth call.operation.1 call.operation.2 service past
    (now, out.map fun (result, after) => (call.reply result, after))

/-- Does one thing after the other with a journal. -/
def recordRun (depth : Nat) (service : Service σ) (past : Journal σ) :
    List (Action σ) → Journal σ × Option (List Reply × Service σ)
  | [] => (past, some ([], service))
  | action :: actions =>
    match service.recordAct depth past action with
    | (now, none) => (now, none)
    | (now, some (reply, after)) =>
      if reply.isFatal then (now, some ([reply], after))
      else
        let (last, out) := after.recordRun depth now actions
        (last, out.map fun (replies, service) => (reply :: replies, service))

end Service

/-! ## A journal changes nothing -/

/-- A program with a journal runs as it does without one, if its operations do. -/
theorem Program.record_snd {σ : Type} {perform : Performer σ} {recorder : Recorder σ}
    (h : ∀ slot request service past,
      (recorder slot request service past).2 = perform slot request service)
    {slot : Slot} (program : Program σ slot) (service : Service σ) (past : Journal σ) :
    (program.record recorder service past).2 = program.run perform service := by
  induction program generalizing service past with
  | finish answer => rfl
  | observe next ih => exact ih _ service past
  | update state next ih => exact ih _ past
  | install target handler next _ ih => exact ih _ _
  | clear next ih => exact ih _ _
  | perform target request next ih =>
    have hperform := h target request service past
    unfold record run
    rcases hrecorded : recorder target request service past with ⟨now, _ | ⟨result, after⟩⟩
    · rw [← hperform, hrecorded]
    · rw [← hperform, hrecorded]
      exact ih result after now

namespace Service

variable {σ : Type}

/-- An operation with a journal is the operation itself. -/
theorem record_snd (depth : Nat) (slot : Slot) (request : slot.Request) (service : Service σ)
    (past : Journal σ) : (record depth slot request service past).2 =
      perform? depth slot request service := by
  induction depth generalizing slot service past with
  | zero => rfl
  | succ depth ih =>
    unfold record perform?
    cases service.handlers slot with
    | none => rfl
    | some handler =>
      have hrun := (handler request).record_snd ih service
        (.call slot handler request :: .start slot request :: past)
      dsimp only
      rcases hrecorded : (handler request).record (record depth) service
          (.call slot handler request :: .start slot request :: past) with
        ⟨now, _ | ⟨answer, after⟩⟩
      · rw [← hrun, hrecorded]
      · rw [← hrun, hrecorded]

/-- What is done with a journal is what is done without one. -/
theorem recordAct_snd (depth : Nat) (service : Service σ) (past : Journal σ)
    (action : Action σ) :
    (service.recordAct depth past action).2 = service.act? depth action := by
  cases action with
  | install slot handler => rfl
  | clear => rfl
  | use call =>
    show Option.map _ (record depth _ _ service past).2 = service.call? depth call
    rw [record_snd, call?_eq]

/-- A run with a journal is the run without it. -/
theorem recordRun_snd (depth : Nat) (service : Service σ) (past : Journal σ)
    (actions : List (Action σ)) :
    (service.recordRun depth past actions).2 = service.run? depth actions := by
  induction actions generalizing service past with
  | nil => rfl
  | cons action actions ih =>
    have hact := service.recordAct_snd depth past action
    unfold recordRun run?
    rcases hrecorded : service.recordAct depth past action with ⟨now, _ | ⟨reply, after⟩⟩
    · rw [← hact, hrecorded]
    · rw [← hact, hrecorded]
      dsimp only
      split
      · rfl
      · rw [← ih after now]

end Service

end HostBridge.StateStore
