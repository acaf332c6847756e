import HostBridge.Host.Function
import HostBridge.Ownership.Buffer

/-!
# Dispatch

What happens when a VM calls a host function. The arguments are decoded and checked against the
declared types, the function runs, and its results are checked and encoded. Whatever goes wrong on
the way, the function's own panic included, becomes a trap that names the first stage to fail.

A callback is the same call as a VM makes it: with arguments in its memory, answered by a buffer
of its own allocator.
-/

namespace HostBridge

/-- An import as a VM knows it (`FunctionEnvironment`): the index of the host function and its
declared signature. -/
structure Binding where
  index : Nat
  name : String
  params : List ValueType
  returns : List ValueType
  deriving DecidableEq, Repr

/-- Why a call ends in a trap. -/
inductive Trap where
  | badArguments (error : DecodeError)
  | argumentTypes (expected given : List ValueType)
  | panicked (payload : PanicPayload)
  | failed (reason : String)
  | resultTypes (expected given : List ValueType)
  | badResults (error : EncodeError)
  deriving DecidableEq, Repr

namespace Trap

/-- How two lists of types differ (`check_types`). -/
def mismatch (what : String) (expected given : List ValueType) : String :=
  what ++ " type mismatch; expected: " ++ ValueType.labels expected ++ ", given: "
    ++ ValueType.labels given

/-- What is said about a trap. -/
def message : Trap → String
  | .badArguments error => "invalid arguments: " ++ error.message
  | .argumentTypes expected given => mismatch "argument" expected given
  | .panicked (.text text) => "host function panicked: " ++ text
  | .panicked .other => "host function panicked: unknown panic"
  | .failed reason => reason
  | .resultTypes expected given => mismatch "result" expected given
  | .badResults error => "invalid results: " ++ error.message

end Trap

/-- What ends the whole process (`DispatchInvariantViolation` and its like): a promise between host
and VM that one of them did not keep. -/
inductive Breach where
  /-- The VM called an index that was never given out. -/
  | unknownFunction (index : Nat)
  | ownership (violation : Violation)
  deriving DecidableEq, Repr

/-- What is said about a broken promise. -/
def Breach.message : Breach → String
  | .unknownFunction index => s!"host function index {index} is not registered"
  | .ownership violation => violation.message

/-- The host process: its functions and its boundary to the VM. -/
structure Host where
  functions : Registry
  boundary : Boundary

/-- A host without functions and without buffers. -/
def Host.new : Host := ⟨.empty, .new .ascending⟩

namespace Binding

/-- The arguments that bytes hold, if they are of the declared types. -/
def readArguments (binding : Binding) (arguments : List UInt8) : Except Trap (List Value) := do
  let values ← (Value.decodeList arguments).mapError .badArguments
  let given := values.map Value.type
  if given ≠ binding.params then throw (.argumentTypes binding.params given)
  return values

/-- The bytes of what a call ended with, if it ended with results of the declared types. -/
def writeOutcome (binding : Binding) : CallOutcome → Except Trap (List UInt8)
  | .panicked payload => .error (.panicked payload)
  | .failed reason => .error (.failed reason)
  | .returned results => do
    let given := results.map Value.type
    if given ≠ binding.returns then throw (.resultTypes binding.returns given)
    (Value.encodeList results).mapError .badResults

/-- Calls the function that a binding names (`dispatch`). It runs only if its arguments are in
order. -/
def dispatch (binding : Binding) (functions : Registry) (arguments : List UInt8) :
    Except Breach (Except Trap (List UInt8) × Registry) :=
  match functions.lookup binding.index with
  | none => .error (.unknownFunction binding.index)
  | some function =>
    match binding.readArguments arguments with
    | .error trap => .ok (.error trap, functions)
    | .ok values =>
      let (outcome, after) := (function values).run functions
      .ok (binding.writeOutcome outcome, after)

/-- What a callback hands to the VM. Either buffer is then the VM's own. -/
inductive Reply where
  | results (raw : RawBuffer)
  | trap (raw : RawBuffer)
  deriving DecidableEq, Repr

/-- Hands a trap to the VM, which keeps its message in a buffer of its own. The call is
`wasm_error_create`. -/
def raise (host : Host) (message : String) : Reply × Host :=
  let text := Utf8.encode message
  let shown := if text.length ≤ RawBuffer.maxLength then text
    else Utf8.encode "host error message too long"
  let (raw, after) := host.boundary.vmAllocate shown
  (.trap raw, { host with boundary := after })

/-- Hands the outcome of a call to the VM. Results are copied into a buffer of the VM's
allocator, which the host then strikes out of its ledger. Bytes go through `clone_from_slice` and
`into_raw`. -/
def handOver (host : Host) : Except Trap (List UInt8) → Except Breach (Reply × Host)
  | .error trap => return raise host trap.message
  | .ok bytes =>
    match Buffer.ofBytes host.boundary .vm bytes with
    | .error error => return raise host ("invalid results: " ++ error.message)
    | .ok (buffer, boundary) => do
      let (raw, boundary) ← (buffer.intoRaw boundary).mapError .ownership
      return (.results raw, { host with boundary := boundary })

/-- The call as a VM makes it (`svm_trampoline`). No arguments at all are empty ones. -/
def callback (binding : Binding) (host : Host) (arguments : Option (List UInt8)) :
    Except Breach (Reply × Host) := do
  let (answer, functions) ← binding.dispatch host.functions (arguments.getD [])
  handOver { host with functions := functions } answer

end Binding

end HostBridge
