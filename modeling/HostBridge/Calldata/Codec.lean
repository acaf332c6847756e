import HostBridge.Calldata.Immediate
import HostBridge.Wire.Field
import HostBridge.Wire.Reader

/-!
# Calldata

The wire form of calldata and of return data. An item is one tag byte and its payload. Flags and
the unit are their tag alone; integers of 32 and 64 bits and amounts carry in the tag how many
bytes follow, the fewest when they are written. Payloads are extended with zeros, so a negative
integer takes its full width. Several items stand behind one marker that counts them.
-/

namespace HostBridge.Calldata

/-! ## Writing -/

/-- A number behind its tag, in the fewest bytes (`emit_varlen`). The high half of the tag tells how
many. -/
def encodeShortest (tag : UInt8) (n : Nat) : List UInt8 :=
  let width := BigEndian.minimalWidth n
  UInt8.ofNat ((width - 1) * 16 + tag.toNat) :: BigEndian.toBytes width n

/-- The tag of an item and its payload (`write_immediate`). -/
def encodeItem : Immediate → List UInt8
  | .bool value => [if value then 0x10 else 0x00]
  | .unit => [0x20]
  | .address value => 0x40 :: value.toList
  | .i8 value => [0x02, value.toUInt8]
  | .u8 value => [0x12, value]
  | .i16 value => 0x22 :: BigEndian.toBytes 2 value.toUInt16.toNat
  | .u16 value => 0x32 :: BigEndian.toBytes 2 value.toNat
  | .i32 value => encodeShortest 0x03 value.toUInt32.toNat
  | .u32 value => encodeShortest 0x43 value.toNat
  | .i64 value => encodeShortest 0x04 value.toUInt64.toNat
  | .u64 value => encodeShortest 0x05 value.toNat
  | .amount value => encodeShortest 0x01 value.toNat

/-- The most items that a marker counts. -/
def maxItems : Nat := 23

/-- The marker of `count` items (`array_marker`). The lowest bit stands for eight of them. -/
def marker (count : Nat) : UInt8 :=
  if count ≤ 15 then UInt8.ofNat (count * 16 + 6) else UInt8.ofNat ((count - 8) * 16 + 7)

/-- A sequence of items (`encode_immediates`): none is no bytes, one stands alone, more stand behind
their marker. -/
def encode (items : List Immediate) : Except EncodeError (List UInt8) :=
  if items.length ≤ maxItems then
    let body := items.flatMap encodeItem
    .ok (if items.length ≤ 1 then body else marker items.length :: body)
  else .error (.tooManyItems items.length maxItems)

/-- Whether an item is of the kind that was declared for it by name. -/
def checkDeclared (name : String) (item : Immediate) : Except EncodeError Unit := do
  let declared ← Kind.ofName name
  if declared ≠ item.kind then throw (.typeMismatch declared (.item item.kind))

/-- A sequence of items, each checked against the kind that was declared for it (`encode_calldata`).
The counts are compared first; of several items that do not fit, the leftmost is reported. -/
def encodeDeclared (names : List String) (items : List Immediate) :
    Except EncodeError (List UInt8) := do
  if names.length ≠ items.length then throw (.arityMismatch names.length items.length)
  for (name, item) in names.zip items do
    checkDeclared name item
  encode items

/-- A sequence of integers as items of the declared kinds (`encode_calldata_ints`). -/
def encodeInts (names : List String) (values : List Int) : Except EncodeError (List UInt8) := do
  if names.length ≠ values.length then throw (.arityMismatch names.length values.length)
  let items ← (names.zip values).mapM fun (name, value) => do
    (← Kind.ofName name).ofInt value
  encode items

/-! ## Reading -/

/-- The kind of item that a tag selects and how many bytes its payload has. -/
def select (tag : UInt8) : Except DecodeError (Kind × Nat) :=
  let low := tag.toNat % 16
  let high := tag.toNat / 16
  if low = 0 then
    if high ≤ 1 then .ok (.bool, 0)
    else if high ≤ 3 then .ok (.unit, 0)
    else if high = 4 then .ok (.address, 20)
    else .error (.invalidValue tag)
  else if low = 2 then
    if high = 0 then .ok (.i8, 1)
    else if high = 1 then .ok (.u8, 1)
    else if high = 2 then .ok (.i16, 2)
    else if high = 3 then .ok (.u16, 2)
    else .error (.invalidValue tag)
  else if 8 ≤ high then .error (.invalidValue tag)
  else if low = 3 then
    if high < 4 then .ok (.i32, high + 1) else .ok (.u32, high - 3)
  else if low = 4 then .ok (.i64, high + 1)
  else if low = 5 then .ok (.u64, high + 1)
  else if low = 1 then .ok (.amount, high + 1)
  else .error (.invalidValue tag)

/-- The item of a kind that a tag and a payload spell. -/
def itemOfPayload (kind : Kind) (tag : UInt8) (payload : List UInt8) : Immediate :=
  let n := BigEndian.ofBytes payload
  match kind with
  | .bool => .bool (tag ≠ 0)
  | .unit => .unit
  | .address => .address (.ofBytes payload)
  | .i8 => .i8 (UInt8.ofNat n).toInt8
  | .u8 => .u8 (.ofNat n)
  | .i16 => .i16 (UInt16.ofNat n).toInt16
  | .u16 => .u16 (.ofNat n)
  | .i32 => .i32 (UInt32.ofNat n).toInt32
  | .u32 => .u32 (.ofNat n)
  | .i64 => .i64 (UInt64.ofNat n).toInt64
  | .u64 => .u64 (.ofNat n)
  | .amount => .amount (.ofNat n)

/-- Reads one item (`read_immediate`). -/
def readItem : Read Immediate := do
  let tag ← Read.u8
  let (kind, width) ← select tag
  return itemOfPayload kind tag (← Read.bytes width)

/-- How many items a byte counts, if it is a marker. -/
def markedCount? (byte : UInt8) : Option Nat :=
  let low := byte.toNat % 16
  if low = 6 then some (byte.toNat / 16)
  else if low = 7 then some (byte.toNat / 16 + 8)
  else none

/-- Reads a marker and as many items as it counts, or one item that stands alone. -/
def readItems (first : UInt8) : Read (List Immediate) := do
  match markedCount? first with
  | some count =>
    let _ ← Read.u8
    Read.replicate count readItem
  | none => Read.replicate 1 readItem

/-- The items that `bytes` hold (`decode_calldata`). -/
def decode (bytes : List UInt8) : Except DecodeError (List Immediate) :=
  match bytes with
  | [] => .ok []
  | first :: _ => (readItems first).all bytes

end HostBridge.Calldata
