import HostBridge.Receipt.Basic
import HostBridge.Wire.Field

/-!
# Writing receipts

The bytes of a receipt as VMs hand them out: the header, the address, then the state, the return
data behind its length, the gas, and the logs if there are any. A spawn or an execution that
failed is its header alone.
-/

namespace HostBridge.Receipt

/-- The kind, the version and whether the transaction succeeded. -/
def headerFields (kind : TransactionKind) (header : Header) : List Wire.Field :=
  [.u8 kind.tag, .u16 header.version, .u8 (if header.success then 1 else 0)]

/-- The most logs that one receipt holds. -/
def maxLogs : Nat := 255

/-- The logs behind their count, each behind its length (`write_logs`). No logs are no bytes. -/
def encodeLogs (logs : List (List UInt8)) : Except EncodeError (List UInt8) :=
  if logs.isEmpty then .ok []
  else if logs.length ≤ maxLogs then do
    let entries ← logs.mapM Wire.bytes16
    return UInt8.ofNat logs.length :: entries.flatten
  else .error (.tooManyItems logs.length maxLogs)

/-- The state, the return data, the gas and the logs (`write_result`). -/
def encodeResult (result : Result) : Except EncodeError (List UInt8) := do
  let returnData ← Wire.bytes16 result.returnData
  let logs ← encodeLogs result.logs
  return result.state.toList ++ returnData ++ (Wire.Field.u64 result.gasUsed).bytes ++ logs

/-- What stands behind the header. -/
def encodeBody : Receipt → Except EncodeError (List UInt8)
  | .deploy receipt => do
    let logs ← encodeLogs receipt.logs
    return receipt.template.toList ++ (Wire.Field.u64 receipt.gasUsed).bytes ++ logs
  | .spawn receipt =>
    if receipt.header.success then do
      return receipt.app.toList ++ (← encodeResult receipt.result)
    else .ok []
  | .exec receipt =>
    if receipt.header.success then encodeResult receipt.result else .ok []

/-- The bytes of a receipt (`encode`). Of several parts that are too long, the first one is
reported. -/
def encode (receipt : Receipt) : Except EncodeError (List UInt8) := do
  return Wire.write (headerFields receipt.kind receipt.header) ++ (← receipt.encodeBody)

end HostBridge.Receipt
