import HostBridge.Host.Dispatch

/-!
# VM programs

What a VM may do while the host waits for one of its entry points: look at its own state and change
it, read buffers, allocate and free its own, and call imports. A `VmProgram` is any such course of
action, so a statement about all VM programs is one about every VM that keeps to the boundary.

A VM program runs in a `World`: the host, the VM's state, and a record of what passed between the
two.
-/

namespace HostBridge

namespace Vm

/-- What an entry point leaves behind: a result code, zero for success, and its out-buffers, each
either left empty or a block of the VM's that nobody else holds. -/
structure Reply where
  code : UInt32
  receipt : Option (List UInt8)
  error : Option (List UInt8)
  deriving DecidableEq, Repr

/-- The reply of an entry point that has no receipt to hand out. -/
def Reply.withoutReceipt (reply : Reply) : Reply := { reply with receipt := none }

/-- The contents of an out-buffer for which nothing is allocated if there is nothing in it. -/
def outBuffer (bytes : List UInt8) : Option (List UInt8) :=
  if bytes.isEmpty then none else some bytes

/-- An import that is offered to a VM. -/
structure Offer where
  space : List UInt8
  name : List UInt8
  params : List UInt8
  returns : List UInt8
  /-- What the VM calls the import by. -/
  binding : Binding
  deriving DecidableEq, Repr

/-- A transaction that a VM is asked to run. -/
structure Order where
  kind : TransactionKind
  transaction : RawBuffer
  address : RawBuffer
  gasMetering : Bool
  gasLimit : UInt64
  deriving DecidableEq, Repr

/-- An out-buffer that the host has taken over, and the bytes that it holds. -/
structure OutBuffer where
  raw : RawBuffer
  contents : List UInt8
  deriving DecidableEq, Repr

/-- What the host learns from an entry point: the result code and the out-buffers. -/
structure Answer where
  code : UInt32
  receipt : OutBuffer
  error : OutBuffer
  deriving DecidableEq, Repr

/-- What passes between the host and a VM: the calls of entry points, with the bytes that the VM was
shown, and what came back. -/
inductive Call where
  | allocateImports (count : Nat)
  | addImport (space name params returns : List UInt8)
  | destroyImports
  | create
  | destroy
  | validate (kind : TransactionKind) (transaction : List UInt8)
  | run (kind : TransactionKind) (transaction address : List UInt8) (gasMetering : Bool)
      (gasLimit : UInt64)
  /-- The VM was asked for a table of imports or for a runtime, and may have handed one out. -/
  | handle (given : Bool)
  /-- An entry point has returned. -/
  | answer (answer : Answer)
  /-- The host has a buffer of the VM's freed. -/
  | destroyBuffer (raw : RawBuffer)
  deriving DecidableEq, Repr

end Vm

/-- A course of action of a VM whose own state is a `σ`. -/
inductive VmProgram (σ α : Type) where
  | finish (result : α)
  /-- Looks at the VM's state. -/
  | observe (next : σ → VmProgram σ α)
  /-- Replaces the VM's state. -/
  | update (state : σ) (next : VmProgram σ α)
  /-- Reads a buffer. -/
  | load (raw : RawBuffer) (next : List UInt8 → VmProgram σ α)
  /-- Allocates a block of its own. -/
  | allocate (bytes : List UInt8) (next : RawBuffer → VmProgram σ α)
  /-- Frees a block of its own. -/
  | free (raw : RawBuffer) (next : VmProgram σ α)
  /-- Calls an import. The buffer in the reply is then the VM's to free. -/
  | call (binding : Binding) (arguments : Option (List UInt8))
      (next : Binding.Reply → VmProgram σ α)

namespace VmProgram

variable {σ α β : Type}

/-- One course of action, then another. -/
def bind : VmProgram σ α → (α → VmProgram σ β) → VmProgram σ β
  | .finish result, next => next result
  | .observe rest, next => .observe fun state => (rest state).bind next
  | .update state rest, next => .update state (rest.bind next)
  | .load raw rest, next => .load raw fun bytes => (rest bytes).bind next
  | .allocate bytes rest, next => .allocate bytes fun raw => (rest raw).bind next
  | .free raw rest, next => .free raw (rest.bind next)
  | .call binding arguments rest, next =>
    .call binding arguments fun reply => (rest reply).bind next

instance : Monad (VmProgram σ) where
  pure := .finish
  bind := bind

/-- Looks at the VM's state. -/
def state : VmProgram σ σ := .observe .finish

/-- Replaces the VM's state. -/
def setState (state : σ) : VmProgram σ Unit := .update state (.finish ())

/-- The bytes of a buffer. -/
def contents (raw : RawBuffer) : VmProgram σ (List UInt8) := .load raw .finish

/-- Frees a block. -/
def release (raw : RawBuffer) : VmProgram σ Unit := .free raw (.finish ())

/-- The reply of an import. -/
def callImport (binding : Binding) (arguments : Option (List UInt8)) :
    VmProgram σ Binding.Reply := .call binding arguments .finish

end VmProgram

/-- The entry points of a VM whose own state is a `σ` (`VmApi`). -/
structure Vm (σ : Type) where
  /-- Makes room for imports (`imports_alloc`). The answer tells whether there is a table now. -/
  allocateImports : Nat → VmProgram σ Bool
  /-- Adds an import to the table (`import_func_new`). -/
  addImport : Vm.Offer → VmProgram σ Vm.Reply
  /-- Destroys the table (`imports_destroy`). -/
  destroyImports : VmProgram σ Unit
  /-- Makes a runtime (`runtime_create`). The answer tells whether there is one now. -/
  create : VmProgram σ (Bool × Vm.Reply)
  /-- Destroys the runtime (`runtime_destroy`). -/
  destroy : VmProgram σ Unit
  /-- Validates a transaction (`validate`). -/
  validate : TransactionKind → RawBuffer → VmProgram σ Vm.Reply
  /-- Runs a transaction (`deploy`, `spawn` or `exec`, by its kind). -/
  run : Vm.Order → VmProgram σ Vm.Reply

/-- A host and a VM at work together. -/
structure World (σ : Type) where
  host : Host
  vm : σ
  /-- What passed between the two, in order. -/
  calls : List Vm.Call

/-- Something that happens in a world, unless a broken promise ends the process. -/
abbrev InWorld (σ α : Type) := StateT (World σ) (Except Breach) α

namespace InWorld

variable {σ α β : Type}

/-- What goes well is followed by the next thing. -/
theorem bind_of_ok {action : InWorld σ α} {next : α → InWorld σ β} {world after : World σ}
    {result : α} (h : action world = .ok (result, after)) :
    (action >>= next) world = next result after := by
  change (action world >>= fun done => next done.1 done.2) = _
  rw [h]
  rfl

/-- A breach ends everything. -/
theorem bind_of_error {action : InWorld σ α} {next : α → InWorld σ β} {world : World σ}
    {breach : Breach} (h : action world = .error breach) :
    (action >>= next) world = .error breach := by
  change (action world >>= fun done => next done.1 done.2) = _
  rw [h]
  rfl

/-- The state of the boundary. -/
def boundary : InWorld σ Boundary := return (← get).host.boundary

/-- Goes on with another state of the boundary. -/
def setBoundary (boundary : Boundary) : InWorld σ Unit :=
  modify fun world => { world with host := { world.host with boundary := boundary } }

/-- The bytes of a buffer. -/
def contents (raw : RawBuffer) : InWorld σ (List UInt8) := return (← boundary).contents raw

/-- Records what passes between host and VM. -/
def record (call : Vm.Call) : InWorld σ Unit :=
  modify fun world => { world with calls := world.calls ++ [call] }

/-- Lends bytes to the VM in a buffer of the host's (`lend`). -/
def lend (bytes : List UInt8) : InWorld σ (Except EncodeError Buffer) := do
  match Buffer.ofBytes (← boundary) .host bytes with
  | .error error => return .error error
  | .ok (buffer, after) =>
    setBoundary after
    return .ok buffer

/-- Takes over an out-buffer of the VM's (`adopt`). -/
def takeOut (bytes : Option (List UInt8)) : InWorld σ Buffer := do
  let before ← boundary
  let (raw, after) := match bytes with
    | none => (RawBuffer.empty, before)
    | some bytes => before.vmAllocateBlock bytes
  let (buffer, after) := Buffer.adopt after raw
  setBoundary after
  return buffer

/-- Releases a buffer. The VM is called for its own ones. -/
def drop (buffer : Buffer) : InWorld σ Unit := do
  match buffer.drop (← boundary) with
  | .ok after =>
    setBoundary after
    if buffer.side = .vm ∧ buffer.raw.isNull = false then record (.destroyBuffer buffer.raw)
  | .error violation => throw (.ownership violation)

/-- Takes over the out-buffers of an entry point that has returned, reads them, and releases them:
first the error, then the receipt. -/
def settle (reply : Vm.Reply) : InWorld σ Vm.Answer := do
  let receipt ← takeOut reply.receipt
  let error ← takeOut reply.error
  let answer : Vm.Answer :=
    ⟨reply.code, ⟨receipt.raw, ← contents receipt.raw⟩, ⟨error.raw, ← contents error.raw⟩⟩
  record (.answer answer)
  drop error
  drop receipt
  return answer

end InWorld

/-- Runs a VM program. -/
def VmProgram.run {σ α : Type} : VmProgram σ α → InWorld σ α
  | .finish result => return result
  | .observe next => do (next (← get).vm).run
  | .update state next => do
    modify fun world => { world with vm := state }
    next.run
  | .load raw next => do (next (← InWorld.contents raw)).run
  | .allocate bytes next => do
    let (raw, after) := (← InWorld.boundary).vmAllocate bytes
    InWorld.setBoundary after
    (next raw).run
  | .free raw next => do
    InWorld.setBoundary ((← InWorld.boundary).vmDestroy raw)
    next.run
  | .call binding arguments next => do
    let (reply, host) ← binding.callback (← get).host arguments
    modify fun world => { world with host := host }
    (next reply).run

/-- Calls an entry point, and settles what counts of its reply. -/
def InWorld.exchange {σ : Type} (call : Vm.Call) (program : VmProgram σ Vm.Reply)
    (counted : Vm.Reply → Vm.Reply) : InWorld σ Vm.Answer := do
  record call
  let reply ← program.run
  settle (counted reply)

end HostBridge
