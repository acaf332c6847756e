import HostBridge.Config
import HostBridge.Host.Imports
import HostBridge.Receipt.Reader
import HostBridge.Vm.Program
import HostBridge.VmError

/-!
# Sessions

A session is a runtime that a VM made for the host, with the imports it was offered. Every call
lends the transaction and the address to the VM, takes over the receipt and the error that come
back, and has released all four buffers when it ends, however it ends. A result code other than
zero is an error of the VM; a receipt that says that the transaction failed is none.
-/

namespace HostBridge

/-- What a session asks of its VM. -/
inductive Operation where
  | validate
  | run (kind : TransactionKind)
  deriving DecidableEq, Repr

/-- The name of an operation in messages. -/
def Operation.name : Operation → String
  | .validate => "validate"
  | .run kind => kind.name

/-- Why a session cannot do what it is asked. -/
inductive SessionError where
  /-- The VM reports a failure. -/
  | vm (operation : Operation) (error : VmError)
  /-- The VM handed out a receipt that cannot be read. -/
  | decode (error : DecodeError)
  /-- Something is too long to be handed to the VM. -/
  | encode (error : EncodeError)
  | config (error : ConfigError)
  | imports (error : ImportError)
  /-- The VM made no runtime, for a reason in its own words. -/
  | creation (reason : String)
  deriving DecidableEq

/-- What is said about a session's failure. -/
def SessionError.message : SessionError → String
  | .vm operation error => operation.name ++ " failed: " ++ error.message
  | .decode error => "Decode error: " ++ error.message
  | .encode error => "Encode error: " ++ error.message
  | .config error => "Config error: " ++ error.message
  | .imports error => "Import error: " ++ error.message
  | .creation reason => "Runtime creation failed: " ++ reason

/-- A runtime of a VM whose own state is a `σ` (`Runtime`). -/
structure Session (σ : Type) where
  config : Config
  /-- The namespace in which the imports were offered. -/
  space : String
  imports : List Import
  /-- Whether the VM handed out a table of imports. -/
  hasTable : Bool
  /-- Whether the VM handed out a runtime. -/
  hasRuntime : Bool
  /-- The ledger that the host keeps of the VM's allocator. -/
  books : Ledger
  vm : σ
  /-- What has passed between the host and the VM. -/
  calls : List Vm.Call

namespace Session

variable {σ α : Type}

/-- A session as listings show it. -/
def label (session : Session σ) : String :=
  "Runtime \x7b config: " ++ session.config.label ++ ", imports: "
    ++ toString session.imports.length ++ ", live_vm_buffers: "
    ++ toString session.books.liveCount ++ " \x7d"

/-! ## Opening -/

/-- An import as it is offered to the VM. -/
def offerOf (space : String) (entry : Import) : Vm.Offer where
  space := Utf8.encode space
  name := Utf8.encode entry.binding.name
  params := ValueType.tags entry.binding.params
  returns := ValueType.tags entry.binding.returns
  binding := entry.binding

/-- The first part of an offer that is too long to be handed to the VM. -/
def tooLong? (offer : Vm.Offer) : Option EncodeError :=
  [offer.space, offer.name, offer.params, offer.returns].findSome? fun bytes =>
    match RawBuffer.checkedLength bytes.length with
    | .error error => some error
    | .ok _ => none

/-- Offers one import to the VM. The error buffer is released before anything else is offered. The
call is `import_func_new`, with the namespace, the name and the signature lent to it. -/
def offerImport (vm : Vm σ) (space : String) (entry : Import) :
    InWorld σ (Except SessionError Unit) := do
  let offer := offerOf space entry
  match tooLong? offer with
  | some error => return .error (.encode error)
  | none =>
    let call := .addImport offer.space offer.name offer.params offer.returns
    let answer ← InWorld.exchange call (vm.addImport offer) .withoutReceipt
    if answer.code = 0 then return .ok ()
    else
      let reason := Utf8.decodeLossy answer.error.contents
      return .error (.imports (.rejected entry.binding.name reason))

/-- Offers imports to the VM in turn, up to the first that it rejects (the loop of `build`). -/
def offerImports (vm : Vm σ) (space : String) :
    List Import → InWorld σ (Except SessionError Unit)
  | [] => return .ok ()
  | entry :: entries => do
    match ← offerImport vm space entry with
    | .ok () => offerImports vm space entries
    | .error error => return .error error

/-- Asks the VM for a runtime. The answer tells whether it handed one out. The call is
`runtime_create`. -/
def createRuntime (vm : Vm σ) : InWorld σ (Except SessionError Bool) := do
  InWorld.record .create
  let (hasRuntime, reply) ← vm.create.run
  InWorld.record (.handle hasRuntime)
  let answer ← InWorld.settle reply.withoutReceipt
  if answer.code = 0 then return .ok hasRuntime
  else return .error (.creation (Utf8.decodeLossy answer.error.contents))

/-- Offers the imports, and asks for a runtime over them unless one was rejected. -/
def furnish (vm : Vm σ) (space : String) (imports : List Import) :
    InWorld σ (Except SessionError Bool) := do
  match ← offerImports vm space imports with
  | .ok () => createRuntime vm
  | .error error => return .error error

/-- Gives the table of imports back, if there is one (`imports_destroy`). -/
def destroyTable (vm : Vm σ) (hasTable : Bool) : InWorld σ Unit := do
  if hasTable then
    InWorld.record .destroyImports
    vm.destroyImports.run

/-- Builds the table of imports, and a runtime over it. The table is given back if either fails. The
calls are `imports_alloc`, those of the imports, and `runtime_create`. -/
def establish (vm : Vm σ) (space : String) (imports : List Import) :
    InWorld σ (Except SessionError (Bool × Bool)) := do
  match RawBuffer.checkedLength imports.length with
  | .error error => return .error (.encode error)
  | .ok count =>
    InWorld.record (.allocateImports count)
    let hasTable ← (vm.allocateImports count).run
    InWorld.record (.handle hasTable)
    match ← furnish vm space imports with
    | .ok hasRuntime => return .ok (hasTable, hasRuntime)
    | .error error =>
      destroyTable vm hasTable
      return .error error

/-- What became of the attempt to open a session. -/
structure Opening (σ : Type) where
  result : Except SessionError (Session σ)
  /-- What has passed between the host and the VM on the way. -/
  calls : List Vm.Call
  host : Host

/-- Opens a session with a VM in some state (`new` of a runtime). Settings that make no sense are
refused before the VM is asked for anything. -/
def start (vm : Vm σ) (state : σ) (imports : Imports) (config : Config) (host : Host) :
    Except Breach (Opening σ) := do
  match config.check with
  | .error error => return ⟨.error (.config error), [], host⟩
  | .ok () =>
    let space := imports.space.getD config.importSpace
    let boundary := { host.boundary with vm := .new .vm }
    let (made, world) ← establish vm space imports.entries
      ⟨{ host with boundary := boundary }, state, []⟩
    let result := made.map fun (hasTable, hasRuntime) =>
      { config, space, imports := imports.entries, hasTable, hasRuntime,
        books := world.host.boundary.vm, vm := world.vm, calls := world.calls }
    return ⟨result, world.calls, world.host⟩

/-! ## Calls -/

/-- The world that a session acts in. -/
def world (session : Session σ) (host : Host) : World σ :=
  ⟨{ host with boundary := { host.boundary with vm := session.books } }, session.vm, session.calls⟩

/-- The session when its world has changed. -/
def after (session : Session σ) (world : World σ) : Session σ :=
  { session with books := world.host.boundary.vm, vm := world.vm, calls := world.calls }

/-- Lets something happen in the world of a session. -/
def during (session : Session σ) (host : Host) (action : InWorld σ α) :
    Except Breach (α × Session σ × Host) := do
  let (result, world) ← action (session.world host)
  return (result, session.after world, world.host)

/-- Lends bytes to the VM while something is done, and releases them then (`lend`). -/
def lending (bytes : List UInt8) (action : RawBuffer → InWorld σ (Except SessionError α)) :
    InWorld σ (Except SessionError α) := do
  match ← InWorld.lend bytes with
  | .error error => return .error (.encode error)
  | .ok lent =>
    let result ← action lent.raw
    InWorld.drop lent
    return result

/-- What an answer means: a result code other than zero is a failure that the VM reports. A failure
goes through `vm_error`. -/
def verdict (operation : Operation) (answer : Vm.Answer) : Except SessionError (List UInt8) :=
  if answer.code = 0 then .ok answer.receipt.contents
  else .error (.vm operation (VmError.decode answer.error.contents))

/-- Has the VM validate a transaction that was lent to it. The call is the entry point
`validate`. -/
def validateLent (vm : Vm σ) (kind : TransactionKind) (transaction : RawBuffer) :
    InWorld σ (Except SessionError (List UInt8)) := do
  let call := .validate kind (← InWorld.contents transaction)
  let answer ← InWorld.exchange call (vm.validate kind transaction) .withoutReceipt
  return verdict .validate answer

/-- Has the VM run a transaction that was lent to it, on an address that was lent to it. The call is
the entry point `deploy`, `spawn` or `exec`. -/
def runLent (vm : Vm σ) (kind : TransactionKind) (gasMetering : Bool) (gasLimit : UInt64)
    (transaction address : RawBuffer) : InWorld σ (Except SessionError (List UInt8)) := do
  let call := .run kind (← InWorld.contents transaction) (← InWorld.contents address) gasMetering
    gasLimit
  let answer ← InWorld.exchange call
    (vm.run ⟨kind, transaction, address, gasMetering, gasLimit⟩) id
  return verdict (.run kind) answer

/-- Has the VM run a transaction and hands out the bytes of the receipt (`invoke`). -/
def invoke (vm : Vm σ) (kind : TransactionKind) (transaction : List UInt8) (address : Address)
    (gasMetering : Bool) (gasLimit : UInt64) : InWorld σ (Except SessionError (List UInt8)) :=
  lending transaction fun lent =>
    lending address.toList (runLent vm kind gasMetering gasLimit lent)

/-- Validates a transaction without running it (`validate`). -/
def validate (session : Session σ) (vm : Vm σ) (host : Host) (kind : TransactionKind)
    (transaction : List UInt8) : Except Breach (Except SessionError Unit × Session σ × Host) :=
  session.during host do
    return (← lending transaction (validateLent vm kind)).map fun _ => ()

/-- Runs a transaction with gas settings of its own (`deploy_with`, `spawn_with`, `exec_with`). -/
def runWith (session : Session σ) (vm : Vm σ) (host : Host) (kind : TransactionKind)
    (transaction : List UInt8) (address : Address) (gasMetering : Bool) (gasLimit : UInt64) :
    Except Breach (Except SessionError Receipt × Session σ × Host) :=
  session.during host do
    match ← invoke vm kind transaction address gasMetering gasLimit with
    | .error error => return .error error
    | .ok bytes => return (Receipt.decodeOf kind .binary bytes).mapError .decode

/-- Runs a transaction with the gas settings of the session (`deploy`, `spawn`, `exec`). -/
def run (session : Session σ) (vm : Vm σ) (host : Host) (kind : TransactionKind)
    (transaction : List UInt8) (address : Address) :
    Except Breach (Except SessionError Receipt × Session σ × Host) :=
  session.runWith vm host kind transaction address session.config.gasMetering
    session.config.gasLimit

/-! ## Closing -/

/-- Gives back what the VM handed out: first the runtime, then the imports it refers to. The calls
are `runtime_destroy` and `imports_destroy`. -/
def giveBack (vm : Vm σ) (hasTable hasRuntime : Bool) : InWorld σ Unit := do
  if hasRuntime then
    InWorld.record .destroy
    vm.destroy.run
  destroyTable vm hasTable

/-- Closes a session (`drop`). -/
def close (session : Session σ) (vm : Vm σ) (host : Host) :
    Except Breach (Unit × Session σ × Host) :=
  session.during host (giveBack vm session.hasTable session.hasRuntime)

end Session

end HostBridge
