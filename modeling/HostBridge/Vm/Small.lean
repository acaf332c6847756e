import HostBridge.Receipt.Writer
import HostBridge.Vm.Program
import HostBridge.VmError

/-!
# A small VM

A VM without code of its own. A deployment registers a template at an address that follows from
the principal, a spawn makes an app of a known template, and an execution calls the import that it
names: its transaction is the length of the name in one byte, the name, and a list of values. The
VM counts the executions of each app since its last spawn, and that count is the app's state.
-/

namespace HostBridge.SmallVm

/-- An import that the VM has accepted. -/
structure Accepted where
  space : String
  name : String
  params : List UInt8
  returns : List UInt8
  binding : Binding
  deriving DecidableEq, Repr

/-- The state of the VM. -/
structure State where
  imports : List Accepted
  /-- The addresses of the templates. -/
  templates : List Address
  /-- The apps, each with the count of its executions. -/
  apps : List (Address × UInt64)
  deriving DecidableEq

/-- The VM as it starts. -/
def State.initial : State := ⟨[], [], []⟩

/-- The count of an app's executions. -/
def State.count? (state : State) (app : Address) : Option UInt64 := state.apps.lookup app

/-- Sets the count of an app's executions. -/
def State.setCount (state : State) (app : Address) (count : UInt64) : State :=
  { state with apps := (app, count) :: state.apps.filter fun entry => entry.1 != app }

/-! ## Replies -/

/-- Success, with nothing to hand out. -/
def accept : Vm.Reply := ⟨0, none, none⟩

/-- Failure, with bytes in the error buffer. -/
def refuse (bytes : List UInt8) : Vm.Reply := ⟨1, none, Vm.outBuffer bytes⟩

/-- Failure, with a plain message in the error buffer. -/
def refuseText (reason : String) : Vm.Reply := refuse (Utf8.encode reason)

/-- Failure, with a report in the error buffer. -/
def report (error : VmError) : Vm.Reply :=
  match error.encode with
  | .ok bytes => refuse bytes
  | .error _ => refuseText "unencodable error"

/-- Success, with a receipt. -/
def handOut (receipt : Receipt) : Vm.Reply :=
  match receipt.encode with
  | .ok bytes => ⟨0, Vm.outBuffer bytes, none⟩
  | .error error => refuseText error.message

/-! ## Addresses -/

/-- The address of a template: that of the principal, with the length of the transaction added to
its last byte. -/
def templateAddress (principal : Address) (transaction : List UInt8) : Address :=
  let bytes := principal.toList
  .ofBytes (bytes.set 19 (bytes.getD 19 0 + UInt8.ofNat transaction.length))

/-- The address of the app of a template, and of the template of an app: the first byte is
inverted. -/
def counterpart (address : Address) : Address :=
  let bytes := address.toList
  .ofBytes (bytes.set 0 (bytes.getD 0 0 ^^^ 0xFF))

/-! ## Entry points -/

/-- Accepts an import, unless its name is reserved. -/
def addImport (offer : Vm.Offer) : VmProgram State Vm.Reply := do
  let name := Utf8.decodeLossy offer.name
  if name = "reject" then return refuseText "import name is reserved"
  let state ← VmProgram.state
  let accepted : Accepted :=
    ⟨Utf8.decodeLossy offer.space, name, offer.params, offer.returns, offer.binding⟩
  VmProgram.setState { state with imports := state.imports ++ [accepted] }
  return accept

/-- Makes a runtime, unless an import has no namespace. -/
def create : VmProgram State (Bool × Vm.Reply) := do
  let state ← VmProgram.state
  if state.imports.any (·.space.isEmpty) then
    return (false, refuseText "empty import namespace")
  return (true, accept)

/-- Any transaction but an empty one is valid. -/
def validate (_kind : TransactionKind) (transaction : RawBuffer) : VmProgram State Vm.Reply :=
  return if transaction.isEmpty then refuseText "empty transaction" else accept

/-- Deploys a template. It costs one unit of gas for each byte of the transaction. -/
def deploy (order : Vm.Order) : VmProgram State Vm.Reply := do
  let transaction ← VmProgram.contents order.transaction
  let principal : Address := .ofBytes (← VmProgram.contents order.address)
  let gas := UInt64.ofNat transaction.length
  if order.gasMetering ∧ gas > order.gasLimit then return report .outOfGas
  let template := templateAddress principal transaction
  let state ← VmProgram.state
  VmProgram.setState { state with templates := template :: state.templates }
  return handOut (.deploy ⟨⟨0, true⟩, template, if order.gasMetering then gas else 0, []⟩)

/-- Spawns the app of a template, or starts it again. -/
def spawn (order : Vm.Order) : VmProgram State Vm.Reply := do
  let template : Address := .ofBytes (← VmProgram.contents order.transaction)
  let state ← VmProgram.state
  if template ∉ state.templates then return report (.templateNotFound template)
  let app := counterpart template
  VmProgram.setState (state.setCount app 0)
  return handOut (.spawn ⟨⟨0, true⟩, app, ⟨.zero, Calldata.encodeItem .unit, 0, []⟩⟩)

/-- The results of an import as calldata items of the declared types. -/
def returnItems (returns : List UInt8) (values : List Value) : List Immediate :=
  (values.zip returns).map fun (value, tag) =>
    if tag = 0 then .i32 value.toInt32 else .i64 value.toInt64

/-- The state of an app that was executed `count` times. -/
def stateRoot (count : UInt64) : StateRoot := .ofBytes (BigEndian.toBytes 8 count.toNat)

/-- Calls an accepted import on behalf of an app and frees the buffer that comes back. -/
def callAccepted (app : Address) (accepted : Accepted) (count : UInt64)
    (arguments : List UInt8) : VmProgram State Vm.Reply := do
  match ← VmProgram.callImport accepted.binding (some arguments) with
  | .trap raw =>
    let reason := Utf8.decodeLossy (← VmProgram.contents raw)
    VmProgram.release raw
    return report (.functionFailed (counterpart app) app accepted.name reason)
  | .results raw =>
    let results := Value.decodeList (← VmProgram.contents raw)
    VmProgram.release raw
    match results with
    | .error error => return refuseText error.message
    | .ok values =>
      match Calldata.encode (returnItems accepted.returns values) with
      | .error error => return refuseText error.message
      | .ok returnData =>
        return handOut (.exec ⟨⟨0, true⟩, ⟨stateRoot count, returnData, 10, []⟩⟩)

/-- The transaction that calls an import. Its name must fit into 255 bytes. -/
def callTransaction (name : String) (arguments : List UInt8) : List UInt8 :=
  UInt8.ofNat (Utf8.encode name).length :: (Utf8.encode name ++ arguments)

/-- The name and the arguments that a transaction holds. -/
def splitCall? (transaction : List UInt8) : Option (String × List UInt8) :=
  let length := (transaction.headD 0).toNat
  if transaction.length < 1 + length then none
  else
    let behind := transaction.drop 1
    some (Utf8.decodeLossy (behind.take length), behind.drop length)

/-- Executes an app: counts, then calls the import that the transaction names. The name `__abort`
is no import but leaves the receipt of a failure. -/
def exec (order : Vm.Order) : VmProgram State Vm.Reply := do
  let app : Address := .ofBytes (← VmProgram.contents order.address)
  let state ← VmProgram.state
  match state.count? app with
  | none => return report (.appNotFound app)
  | some before =>
    let count := before + 1
    VmProgram.setState (state.setCount app count)
    match splitCall? (← VmProgram.contents order.transaction) with
    | none => return refuseText "malformed exec transaction"
    | some (name, arguments) =>
      if name = "__abort" then return handOut (.exec ⟨⟨0, false⟩, .empty⟩)
      match state.imports.find? (·.name == name) with
      | none => return report (.functionNotFound (counterpart app) app name)
      | some accepted => callAccepted app accepted count arguments

/-- The entry points. -/
def vm : Vm State where
  allocateImports _ := return true
  addImport := addImport
  destroyImports := return ()
  create := create
  destroy := return ()
  validate := validate
  run order :=
    match order.kind with
    | .deploy => deploy order
    | .spawn => spawn order
    | .exec => exec order

end HostBridge.SmallVm
