import HostBridge.Bytes.Octets
import HostBridge.Calldata.Codec
import HostBridge.Transaction.Kind

/-!
# Receipts

What a transaction left behind. A deployment always names its template; a spawn or an execution
has a result only if it succeeded, and an empty one otherwise.
-/

namespace HostBridge

namespace Receipt

/-- What every receipt states besides its kind (`ReceiptHeader`). -/
structure Header where
  version : UInt16
  success : Bool
  deriving DecidableEq, Repr

/-- What running an app left behind. -/
structure Result where
  /-- The state of the app afterwards. -/
  state : StateRoot
  /-- What the function returned, as calldata. -/
  returnData : List UInt8
  gasUsed : UInt64
  logs : List (List UInt8)
  deriving DecidableEq

/-- The result of an app that failed. -/
def Result.empty : Result := ⟨.zero, [], 0, []⟩

/-- The items that a function returned (`returns`). -/
def Result.returns (result : Result) : Except DecodeError (List Immediate) :=
  Calldata.decode result.returnData

end Receipt

open Receipt (Header Result)

/-- The receipt of a deployment. -/
structure DeployReceipt where
  header : Header
  template : Address
  gasUsed : UInt64
  logs : List (List UInt8)
  deriving DecidableEq

/-- The receipt of a spawn. -/
structure SpawnReceipt where
  header : Header
  app : Address
  result : Result
  deriving DecidableEq

/-- The receipt of an execution. -/
structure ExecReceipt where
  header : Header
  result : Result
  deriving DecidableEq

/-- A receipt of any kind. -/
inductive Receipt where
  | deploy (receipt : DeployReceipt)
  | spawn (receipt : SpawnReceipt)
  | exec (receipt : ExecReceipt)
  deriving DecidableEq

namespace Receipt

/-- The kind of transaction that left a receipt. -/
def kind : Receipt → TransactionKind
  | .deploy _ => .deploy
  | .spawn _ => .spawn
  | .exec _ => .exec

/-- What every receipt states. -/
def header : Receipt → Header
  | .deploy receipt => receipt.header
  | .spawn receipt => receipt.header
  | .exec receipt => receipt.header

/-- The gas that a transaction used. -/
def gasUsed : Receipt → UInt64
  | .deploy receipt => receipt.gasUsed
  | .spawn receipt => receipt.result.gasUsed
  | .exec receipt => receipt.result.gasUsed

/-- The logs that a transaction emitted. -/
def logs : Receipt → List (List UInt8)
  | .deploy receipt => receipt.logs
  | .spawn receipt => receipt.result.logs
  | .exec receipt => receipt.result.logs

/-- The receipt, if it is of the wanted kind. -/
def expect (wanted : TransactionKind) (receipt : Receipt) : Except DecodeError Receipt :=
  if receipt.kind = wanted then .ok receipt
  else .error (.unexpectedKind wanted receipt.kind)

end Receipt

end HostBridge
