import HostBridge.Bytes.BigEndian
import HostBridge.Text.Utf8
import HostBridge.Wire.Error

/-!
# Writing bytes

The fields that wire formats are made of, and their bytes. What stands behind its own length can
be too long for it; such a field has no bytes but an error.
-/

namespace HostBridge.Wire

/-- A field of a wire format. -/
inductive Field where
  | u8 (value : UInt8)
  | u16 (value : UInt16)
  | u32 (value : UInt32)
  | u64 (value : UInt64)
  /-- Bytes as they are. -/
  | raw (bytes : List UInt8)
  deriving DecidableEq, Repr

/-- The bytes of a field, numbers in big-endian order. -/
def Field.bytes : Field → List UInt8
  | .u8 value => [value]
  | .u16 value => BigEndian.toBytes 2 value.toNat
  | .u32 value => BigEndian.toBytes 4 value.toNat
  | .u64 value => BigEndian.toBytes 8 value.toNat
  | .raw bytes => bytes

/-- The bytes of fields that follow one another. -/
def write (fields : List Field) : List UInt8 :=
  fields.flatMap Field.bytes

@[simp] theorem write_nil : write [] = [] := rfl

@[simp] theorem write_cons (field : Field) (fields : List Field) :
    write (field :: fields) = field.bytes ++ write fields := rfl

@[simp] theorem write_append (front back : List Field) :
    write (front ++ back) = write front ++ write back := by
  simp [write]

/-- `bytes` behind their length in `width` bytes. -/
def prefixed (width : Nat) (bytes : List UInt8) : List UInt8 :=
  BigEndian.toBytes width bytes.length ++ bytes

/-- `bytes` behind their length in two bytes (`emit_prefixed`). -/
def bytes16 (bytes : List UInt8) : Except EncodeError (List UInt8) :=
  if bytes.length ≤ 65535 then .ok (prefixed 2 bytes)
  else .error (.bytesTooLong bytes.length 65535)

/-- A text behind its length in `width` bytes. -/
def string (width : Nat) (text : String) : Except EncodeError (List UInt8) :=
  let bytes := Utf8.encode text
  if bytes.length < BigEndian.capacity width then .ok (prefixed width bytes)
  else .error (.stringTooLong bytes.length)

end HostBridge.Wire
