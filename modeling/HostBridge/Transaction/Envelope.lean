import HostBridge.Bytes.Octets
import HostBridge.Wire.Field
import HostBridge.Wire.Reader

/-!
# Envelopes and contexts

Who pays for a transaction, and where it runs. Both are made of fields of fixed size, 44 and 72
bytes together.
-/

namespace HostBridge

/-- Who pays for a transaction and how much. -/
structure Envelope where
  principal : Address
  amount : UInt64
  gasLimit : UInt64
  gasFee : UInt64
  deriving DecidableEq

/-- The bytes of an envelope. -/
def Envelope.encode (envelope : Envelope) : List UInt8 :=
  Wire.write [.raw envelope.principal.toList, .u64 envelope.amount, .u64 envelope.gasLimit,
    .u64 envelope.gasFee]

/-- Reads an envelope. -/
def Envelope.read : Read Envelope :=
  return ⟨← Read.octets 20, ← Read.u64, ← Read.u64, ← Read.u64⟩

/-- The envelope that `bytes` hold. -/
def Envelope.decode (bytes : List UInt8) : Except DecodeError Envelope :=
  Envelope.read.all bytes

/-- Where a transaction runs. -/
structure Context where
  layer : UInt64
  transactionId : Octets 32
  state : StateRoot
  deriving DecidableEq

/-- The bytes of a context. -/
def Context.encode (context : Context) : List UInt8 :=
  Wire.write [.u64 context.layer, .raw context.transactionId.toList, .raw context.state.toList]

/-- Reads a context. -/
def Context.read : Read Context :=
  return ⟨← Read.u64, ← Read.octets 32, ← Read.octets 32⟩

/-- The context that `bytes` hold. -/
def Context.decode (bytes : List UInt8) : Except DecodeError Context :=
  Context.read.all bytes

end HostBridge
