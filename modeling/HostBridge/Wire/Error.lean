import HostBridge.Bytes.Hex
import HostBridge.Calldata.Kind
import HostBridge.Receipt.Field
import HostBridge.Transaction.Kind

/-!
# Errors of the wire formats

Why bytes from across the boundary cannot be read, and why a value cannot be written. Each error
is its cause; `message` is the one place that words it.
-/

namespace HostBridge

/-- Why bytes cannot be read. -/
inductive DecodeError where
  /-- No bytes where at least one is needed. -/
  | emptyInput
  /-- The bytes end inside a piece of `expected` bytes, of which `given` are there. -/
  | unexpectedEof (expected given : Nat)
  /-- A type tag that stands for no type. -/
  | invalidTag (tag : UInt8)
  /-- The content ends after `consumed` of the `given` bytes. -/
  | trailingBytes (consumed given : Nat)
  /-- A calldata tag that selects no kind of item. -/
  | invalidValue (tag : UInt8)
  /-- A receipt ends inside one of its fields. -/
  | truncatedReceipt (field : Receipt.Field) (expected given : Nat)
  /-- A receipt of another kind than the caller asked for. -/
  | unexpectedKind (expected given : TransactionKind)
  /-- The string that starts at this offset is not UTF-8. -/
  | invalidUtf8 (offset : Nat)
  deriving DecidableEq, Repr

/-- What is said about bytes that cannot be read. -/
def DecodeError.message : DecodeError → String
  | .emptyInput => "invalid input: empty data"
  | .unexpectedEof expected given =>
    s!"bytes are missing; expected: {expected}, given: {given}"
  | .invalidTag tag => s!"invalid type tag: {tag}"
  | .trailingBytes consumed given =>
    s!"too many bytes; num expected: {consumed}, num given: {given}"
  | .invalidValue tag => "invalid value: unknown calldata tag 0x" ++ Hex.encode [tag]
  | .truncatedReceipt field expected given =>
    s!"invalid receipt: {field.name} is truncated; expected: {expected}, given: {given}"
  | .unexpectedKind expected given =>
    s!"unexpected receipt type; expected: {expected.name}, given: {given.name}"
  | .invalidUtf8 offset => s!"invalid UTF-8 string at offset {offset}"

/-- The kind of transaction that a byte stands for. -/
def TransactionKind.ofTag (tag : UInt8) : Except DecodeError TransactionKind :=
  match ofTag? tag with
  | some kind => .ok kind
  | none => .error (.invalidTag tag)

/-- What stands where an item of a declared calldata kind is wanted. -/
inductive Calldata.Given where
  /-- An item of this kind. -/
  | item (kind : Kind)
  /-- A bare integer. -/
  | integer
  deriving DecidableEq, Repr

/-- The name of what stands there. -/
def Calldata.Given.name : Calldata.Given → String
  | .item kind => kind.name
  | .integer => "integer"

/-- Why a value cannot be written. -/
inductive EncodeError where
  /-- More values than a value list can count. -/
  | tooManyValues (count max : Nat)
  /-- More items than the count in front of them can hold. -/
  | tooManyItems (count max : Nat)
  /-- No calldata kind has this name. -/
  | unknownType (name : String)
  /-- An item of another kind than the declared one. -/
  | typeMismatch (expected : Calldata.Kind) (given : Calldata.Given)
  /-- An integer that the declared kind cannot hold. -/
  | outOfRange (kind : Calldata.Kind) (value : Int)
  /-- Different counts of declared kinds and of values. -/
  | arityMismatch (types values : Nat)
  /-- More bytes than the length in front of them can hold. -/
  | bytesTooLong (length max : Nat)
  /-- A string of this many bytes, which is more than the length in front of it can hold. -/
  | stringTooLong (length : Nat)
  deriving DecidableEq, Repr

/-- What is said about a value that cannot be written. -/
def EncodeError.message : EncodeError → String
  | .tooManyValues count max => s!"too many values: {count} (max {max})"
  | .tooManyItems count max => s!"too many calldata items: {count} (max {max})"
  | .unknownType name => "unknown calldata type `" ++ name ++ "`"
  | .typeMismatch expected given =>
    s!"type mismatch: expected {expected.name}, got {given.name}"
  | .outOfRange kind value => s!"value {value} is out of range for {kind.name}"
  | .arityMismatch types values => s!"arity mismatch: {types} types, {values} values"
  | .bytesTooLong length max =>
    s!"byte field of {length} bytes exceeds its length prefix (max {max})"
  | .stringTooLong length => s!"string of {length} bytes does not fit its length prefix"

end HostBridge
