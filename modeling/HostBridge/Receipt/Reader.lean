import HostBridge.Receipt.Basic
import HostBridge.Wire.Reader

/-!
# Reading receipts

Receipts come in two layouts. The binary one is what VMs hand out; the compact one has no version
in the header and four bytes of gas. What stands behind the header of a spawn or an execution that
failed is not looked at.
-/

namespace HostBridge.Receipt

/-- How the fields of a receipt are laid out (`ReceiptLayout`). -/
inductive Layout where
  | binary | compact
  deriving DecidableEq, Repr

namespace Layout

/-- How many bytes a header takes. -/
def headerWidth : Layout → Nat
  | .binary => 4
  | .compact => 2

/-- How many bytes the gas takes. -/
def gasWidth : Layout → Nat
  | .binary => 8
  | .compact => 4

/-- The kind and the header that the bytes of a header spell. -/
def headerOfBytes (layout : Layout) (bytes : List UInt8) :
    Except DecodeError (TransactionKind × Header) := do
  let kind ← TransactionKind.ofTag (bytes.headD 0)
  let success := bytes.getLastD 0 != 0
  let version := match layout with
    | .binary => UInt16.ofNat (BigEndian.ofBytes ((bytes.drop 1).take 2))
    | .compact => 0
  return (kind, ⟨version, success⟩)

end Layout

/-! ## Fields -/

/-- Reads the header, whole before its kind is looked at (`header`). -/
def readHeader (layout : Layout) : Read (TransactionKind × Header) := do
  layout.headerOfBytes (← (Read.bytes layout.headerWidth).within .header)

/-- Reads an address. -/
def readAddress : Read Address := (Read.octets 20).within .address

/-- Reads a state. -/
def readState : Read StateRoot := (Read.octets 32).within .state

/-- Reads return data behind its length (`return_data`). -/
def readReturnData : Read (List UInt8) := do
  let length ← Read.u16.within .returnDataLength
  (Read.bytes length.toNat).within .returnData

/-- Reads the gas (`gas_used`). -/
def readGas (layout : Layout) : Read UInt64 := do
  return UInt64.ofNat (← (Read.nat layout.gasWidth).within .gasUsed)

/-- Reads a log behind its length. -/
def readLog (index : Nat) : Read (List UInt8) := do
  let length ← Read.u16.within (.log index)
  (Read.bytes length.toNat).within (.log index)

/-- Reads `count` logs, the first of which has the given index. -/
def readLogsFrom (index : Nat) : Nat → Read (List (List UInt8))
  | 0 => return []
  | count + 1 => do
    let log ← readLog index
    return log :: (← readLogsFrom (index + 1) count)

/-- Reads the logs behind their count (`logs`). At the end of the bytes there are none. -/
def readLogs : Read (List (List UInt8)) := do
  if (← get).hasMore then
    let count ← Read.u8.within .logCount
    readLogsFrom 0 count.toNat
  else return []

/-- Reads what running an app left behind. -/
def readResult (layout : Layout) : Read Result := do
  let state ← readState
  let returnData ← readReturnData
  let gasUsed ← readGas layout
  return ⟨state, returnData, gasUsed, ← readLogs⟩

/-! ## Receipts -/

/-- Reads what stands behind the header, up to the end of the bytes. Behind the header of an app
that failed, anything may stand. -/
def readBody (layout : Layout) (kind : TransactionKind) (header : Header) : Read Receipt := do
  match kind, header.success with
  | .deploy, _ =>
    let template ← readAddress
    let gasUsed ← readGas layout
    let logs ← readLogs
    Read.finish
    return .deploy ⟨header, template, gasUsed, logs⟩
  | .spawn, true =>
    let app ← readAddress
    let result ← readResult layout
    Read.finish
    return .spawn ⟨header, app, result⟩
  | .exec, true =>
    let result ← readResult layout
    Read.finish
    return .exec ⟨header, result⟩
  | .spawn, false => return .spawn ⟨header, .zero, .empty⟩
  | .exec, false => return .exec ⟨header, .empty⟩

/-- Reads a receipt. -/
def read (layout : Layout) : Read Receipt := do
  let (kind, header) ← readHeader layout
  readBody layout kind header

/-- The receipt that `bytes` hold in a layout (`decode_receipt_with`). -/
def decode (layout : Layout) (bytes : List UInt8) : Except DecodeError Receipt :=
  (read layout).run' (Reader.ofBytes bytes)

/-- The receipt of the given kind that `bytes` hold (`decode_deploy_receipt`,
`decode_spawn_receipt`, `decode_exec_receipt`). A receipt of another kind is refused once it has
been read to its end. -/
def decodeOf (wanted : TransactionKind) (layout : Layout) (bytes : List UInt8) :
    Except DecodeError Receipt := do
  (← decode layout bytes).expect wanted

end HostBridge.Receipt
