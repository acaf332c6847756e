import HostBridge.Wire.Field
import HostBridge.Wire.Reader

/-!
# Values

The integers that imports take and return, and their wire form: a tag, then the number in four or
eight big-endian bytes. A list of values stands behind its count in one byte.
-/

namespace HostBridge

/-- The type of a value. -/
inductive ValueType where
  | i32 | i64
  deriving DecidableEq, Repr

namespace ValueType

/-- The byte that stands for a type. -/
def tag : ValueType → UInt8
  | .i32 => 0
  | .i64 => 1

/-- The type that a byte stands for (`from_tag`). -/
def ofTag (tag : UInt8) : Except DecodeError ValueType :=
  if tag = 0 then .ok .i32
  else if tag = 1 then .ok .i64
  else .error (.invalidTag tag)

/-- How many bytes a number of this type takes (`payload_len`). -/
def width : ValueType → Nat
  | .i32 => 4
  | .i64 => 8

/-- The name of a type. -/
def name : ValueType → String
  | .i32 => "i32"
  | .i64 => "i64"

/-- The name of a type in listings. -/
def label : ValueType → String
  | .i32 => "I32"
  | .i64 => "I64"

/-- A list of types as listings show it. -/
def labels (types : List ValueType) : String :=
  "[" ++ String.intercalate ", " (types.map label) ++ "]"

/-- The tags of a signature, without a count. -/
def tags (types : List ValueType) : List UInt8 := types.map tag

@[simp] theorem ofTag_tag (type : ValueType) : ofTag type.tag = .ok type := by
  cases type <;> rfl

/-- A tag that is understood is the tag of the type. -/
theorem tag_of_ofTag {tag : UInt8} {type : ValueType} (h : ofTag tag = .ok type) :
    type.tag = tag := by
  grind [ofTag, ValueType.tag]

end ValueType

/-- An integer that an import takes or returns. -/
inductive Value where
  | i32 (value : Int32)
  | i64 (value : Int64)
  deriving DecidableEq, Repr

namespace Value

/-- The type of a value. -/
def type : Value → ValueType
  | .i32 _ => .i32
  | .i64 _ => .i64

/-- The number as a 64-bit integer (`to_i64`). -/
def toInt64 : Value → Int64
  | .i32 value => value.toInt64
  | .i64 value => value

/-- The low 32 bits of the number (`to_i32`). -/
def toInt32 : Value → Int32
  | .i32 value => value
  | .i64 value => value.toInt32

/-- The bits of the number at 64 bits, the sign extended (`to_bits`). -/
def bits (value : Value) : UInt64 := value.toInt64.toUInt64

/-- A value as listings show it. -/
def label : Value → String
  | .i32 value => s!"I32({value})"
  | .i64 value => s!"I64({value})"

/-- The number in big-endian bytes, at the width of its type. -/
def payload : Value → List UInt8
  | .i32 value => BigEndian.toBytes 4 value.toUInt32.toNat
  | .i64 value => BigEndian.toBytes 8 value.toUInt64.toNat

/-- The tag of the type and the number (`write_value`). -/
def encode (value : Value) : List UInt8 := value.type.tag :: value.payload

/-- Reads one value (`read_value`). -/
def read : Read Value := do
  match ← ValueType.ofTag (← Read.u8) with
  | .i32 => return .i32 (← Read.u32).toInt32
  | .i64 => return .i64 (← Read.u64).toInt64

/-- The most values that one list holds. -/
def maxCount : Nat := 255

/-- A list of values behind its count (`encode_values`). -/
def encodeList (values : List Value) : Except EncodeError (List UInt8) :=
  if values.length ≤ maxCount then
    .ok (UInt8.ofNat values.length :: values.flatMap encode)
  else .error (.tooManyValues values.length maxCount)

/-- Reads a count and that many values. -/
def readList : Read (List Value) := do
  Read.replicate (← Read.u8).toNat Value.read

/-- The values that `bytes` hold (`decode_values`). Not even the count may be missing. -/
def decodeList (bytes : List UInt8) : Except DecodeError (List Value) :=
  if bytes.isEmpty then .error .emptyInput else readList.all bytes

@[simp] theorem type_i32 (value : Int32) : (Value.i32 value).type = .i32 := rfl
@[simp] theorem type_i64 (value : Int64) : (Value.i64 value).type = .i64 := rfl

@[simp] theorem length_payload (value : Value) : value.payload.length = value.type.width := by
  cases value <;> simp [payload, ValueType.width]

end Value

end HostBridge
