import HostBridge.Bytes.Octets
import HostBridge.Wire.Field
import HostBridge.Wire.Reader

/-!
# Errors that a VM reports

A VM reports why it failed as a kind with its fields. Bytes that are no such report are taken as
a plain message, so reading never fails.
-/

namespace HostBridge

/-- Why a VM failed (`VmReportedError`). -/
inductive VmError where
  | outOfGas
  | templateNotFound (template : Address)
  | appNotFound (app : Address)
  | compilationFailed (template app : Address) (reason : String)
  | instantiationFailed (template app : Address) (reason : String)
  | functionNotFound (template app : Address) (function : String)
  | functionFailed (template app : Address) (function reason : String)
  /-- Any other failure, in the VM's own words. -/
  | other (reason : String)
  deriving DecidableEq

namespace VmError

/-- What is said about a failure. -/
def message : VmError → String
  | .outOfGas => "out of gas"
  | .templateNotFound template =>
    "template not found; template address: " ++ template.toHex
  | .appNotFound app => "app not found; app address: " ++ app.toHex
  | .compilationFailed template app reason =>
    "compilation failed; template address: " ++ template.toHex ++ ", app address: " ++ app.toHex
      ++ ", msg: " ++ reason
  | .instantiationFailed template app reason =>
    "instantiation failed; template address: " ++ template.toHex ++ ", app address: "
      ++ app.toHex ++ ", msg: " ++ reason
  | .functionNotFound template app function =>
    "function not found; template address: " ++ template.toHex ++ ", app address: " ++ app.toHex
      ++ ", func: " ++ function
  | .functionFailed template app function reason =>
    "function failed; template address: " ++ template.toHex ++ ", app address: " ++ app.toHex
      ++ ", func: " ++ function ++ ", msg: " ++ reason
  | .other reason => reason

/-- The bytes of a report (`encode_vm_error`). Of several texts that are too long, the first one is
refused. -/
def encode : VmError → Except EncodeError (List UInt8)
  | .outOfGas => .ok [0]
  | .templateNotFound template => .ok (1 :: template.toList)
  | .appNotFound app => .ok (2 :: app.toList)
  | .compilationFailed template app reason => do
    return 3 :: template.toList ++ app.toList ++ (← Wire.string 2 reason)
  | .instantiationFailed template app reason => do
    return 4 :: template.toList ++ app.toList ++ (← Wire.string 2 reason)
  | .functionNotFound template app function => do
    return 5 :: template.toList ++ app.toList ++ (← Wire.string 2 function)
  | .functionFailed template app function reason => do
    let function ← Wire.string 2 function
    let reason ← Wire.string 2 reason
    return 6 :: template.toList ++ app.toList ++ function ++ reason
  | .other reason => return 7 :: (← Wire.string 2 reason)

/-- Reads the fields of a report of the given kind (`read_typed`). -/
def readFields (kind : UInt8) : Read VmError := do
  match kind with
  | 0 => return .outOfGas
  | 1 => return .templateNotFound (← Read.octets 20)
  | 2 => return .appNotFound (← Read.octets 20)
  | 3 => return .compilationFailed (← Read.octets 20) (← Read.octets 20) (← Read.string)
  | 4 => return .instantiationFailed (← Read.octets 20) (← Read.octets 20) (← Read.string)
  | 5 => return .functionNotFound (← Read.octets 20) (← Read.octets 20) (← Read.string)
  | 6 =>
    return .functionFailed (← Read.octets 20) (← Read.octets 20) (← Read.string) (← Read.string)
  | 7 => return .other (← Read.string)
  | kind => throw (.invalidTag kind)

/-- Reads a report. -/
def read : Read VmError := do readFields (← Read.u8)

/-- What a VM reports with `bytes` (`decode_vm_error`). Whatever is no report is a message. -/
def decode (bytes : List UInt8) : VmError :=
  match read.all bytes with
  | .ok error => error
  | .error _ => .other (Utf8.decodeLossy bytes)

end VmError

end HostBridge
