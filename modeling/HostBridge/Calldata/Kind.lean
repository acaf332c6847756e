/-!
# Kinds of calldata items

The twelve kinds of item that calldata can carry, and their names.
-/

namespace HostBridge.Calldata

/-- The kind of a calldata item (`CalldataType`). -/
inductive Kind where
  | bool | unit | address | i8 | u8 | i16 | u16 | i32 | u32 | i64 | u64 | amount
  deriving DecidableEq, Repr

namespace Kind

/-- Every kind. -/
def all : List Kind :=
  [.bool, .unit, .address, .i8, .u8, .i16, .u16, .i32, .u32, .i64, .u64, .amount]

/-- The name by which callers declare a kind. -/
def name : Kind → String
  | .bool => "bool"
  | .unit => "unit"
  | .address => "address"
  | .i8 => "i8"
  | .u8 => "u8"
  | .i16 => "i16"
  | .u16 => "u16"
  | .i32 => "i32"
  | .u32 => "u32"
  | .i64 => "i64"
  | .u64 => "u64"
  | .amount => "amount"

/-- The kind of that name. Names are exact: no other case, no blanks. -/
def ofName? (name : String) : Option Kind :=
  all.find? (·.name == name)

/-- No kind is left out of the list. -/
theorem mem_all (kind : Kind) : kind ∈ all := by cases kind <;> simp [all]

@[simp] theorem ofName?_name (kind : Kind) : ofName? kind.name = some kind := by
  cases kind <;> rfl

/-- A name that is understood is the name of the kind. -/
theorem name_of_ofName? {name : String} {kind : Kind} (h : ofName? name = some kind) :
    kind.name = name := by
  simpa using List.find?_some h

end Kind

end HostBridge.Calldata
