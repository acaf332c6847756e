import HostBridge.Bytes.Octets
import HostBridge.Wire.Error

/-!
# Calldata items

The items that calldata carries: flags, the unit, addresses, amounts, and integers of every size.
An item is also made from a bare integer and a declared kind, if the kind can hold it.
-/

namespace HostBridge

/-- One item of calldata. -/
inductive Immediate where
  | bool (value : Bool)
  | unit
  | address (value : Address)
  | i8 (value : Int8)
  | u8 (value : UInt8)
  | i16 (value : Int16)
  | u16 (value : UInt16)
  | i32 (value : Int32)
  | u32 (value : UInt32)
  | i64 (value : Int64)
  | u64 (value : UInt64)
  | amount (value : UInt64)
  deriving DecidableEq

namespace Immediate

open Calldata (Kind)

/-- The kind of an item. -/
def kind : Immediate → Kind
  | .bool _ => .bool
  | .unit => .unit
  | .address _ => .address
  | .i8 _ => .i8
  | .u8 _ => .u8
  | .i16 _ => .i16
  | .u16 _ => .u16
  | .i32 _ => .i32
  | .u32 _ => .u32
  | .i64 _ => .i64
  | .u64 _ => .u64
  | .amount _ => .amount

/-- The number that an item stands for (`as_i128`); the unit and addresses stand for none. -/
def toInt? : Immediate → Option Int
  | .bool value => some (if value then 1 else 0)
  | .unit => none
  | .address _ => none
  | .i8 value => some value.toInt
  | .u8 value => some value.toNat
  | .i16 value => some value.toInt
  | .u16 value => some value.toNat
  | .i32 value => some value.toInt
  | .u32 value => some value.toNat
  | .i64 value => some value.toInt
  | .u64 value => some value.toNat
  | .amount value => some value.toNat

end Immediate

namespace Calldata.Kind

/-- The item of a kind that stands for an integer (`immediate_from_int`). Each kind of number has a
range; the unit and addresses stand for no integer at all. -/
def ofInt (kind : Kind) (value : Int) : Except EncodeError Immediate :=
  let within (least greatest : Int) (item : Immediate) : Except EncodeError Immediate :=
    if least ≤ value ∧ value ≤ greatest then .ok item else .error (.outOfRange kind value)
  match kind with
  | .bool => within 0 1 (.bool (value ≠ 0))
  | .unit => .error (.typeMismatch kind .integer)
  | .address => .error (.typeMismatch kind .integer)
  | .i8 => within Int8.minValue.toInt Int8.maxValue.toInt (.i8 (.ofInt value))
  | .u8 => within 0 (UInt8.size - 1) (.u8 (.ofNat value.toNat))
  | .i16 => within Int16.minValue.toInt Int16.maxValue.toInt (.i16 (.ofInt value))
  | .u16 => within 0 (UInt16.size - 1) (.u16 (.ofNat value.toNat))
  | .i32 => within Int32.minValue.toInt Int32.maxValue.toInt (.i32 (.ofInt value))
  | .u32 => within 0 (UInt32.size - 1) (.u32 (.ofNat value.toNat))
  | .i64 => within Int64.minValue.toInt Int64.maxValue.toInt (.i64 (.ofInt value))
  | .u64 => within 0 (UInt64.size - 1) (.u64 (.ofNat value.toNat))
  | .amount => within 0 (UInt64.size - 1) (.amount (.ofNat value.toNat))

/-- The kind of that name. -/
def ofName (name : String) : Except EncodeError Kind :=
  match ofName? name with
  | some kind => .ok kind
  | none => .error (.unknownType name)

@[simp] theorem ofName_name (kind : Kind) : ofName kind.name = .ok kind := by
  simp [ofName]

end Calldata.Kind

end HostBridge
