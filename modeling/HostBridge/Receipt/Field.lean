/-!
# Fields of a receipt

The parts of a receipt in which a truncated one can end.
-/

namespace HostBridge.Receipt

/-- A part of a receipt (`ReceiptField`). -/
inductive Field where
  | header | address | state | returnDataLength | returnData | gasUsed | logCount
  /-- The log with this index, its length included. -/
  | log (index : Nat)
  deriving DecidableEq, Repr

/-- The name of a field in messages. -/
def Field.name : Field → String
  | .header => "header"
  | .address => "address"
  | .state => "state"
  | .returnDataLength => "return data length"
  | .returnData => "return data"
  | .gasUsed => "gas used"
  | .logCount => "log count"
  | .log index => s!"log #{index}"

end HostBridge.Receipt
