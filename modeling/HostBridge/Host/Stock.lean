import HostBridge.Host.Function

/-!
# Stock functions

Ready-made host functions: some that compute, some that go wrong in each of the ways in which a
host function can, and one that registers another and hands the call on to it.
-/

namespace HostBridge.Stock

/-- A function that computes its results. -/
def computes (results : List Value → List Value) : HostFunction :=
  fun arguments => .finish (.returned (results arguments))

/-- A function that gives up. -/
def fails (reason : String) : HostFunction := fun _ => .finish (.failed reason)

/-- A function that panics. -/
def panics (payload : PanicPayload) : HostFunction := fun _ => .finish (.panicked payload)

/-- Returns its arguments. -/
def echo : HostFunction := computes id

/-- Returns its arguments, the last one first. -/
def reverse : HostFunction := computes List.reverse

/-- Returns the low 32 bits of each argument. -/
def narrow : HostFunction := computes (·.map fun value => .i32 value.toInt32)

/-- Returns each argument at 64 bits. -/
def widen : HostFunction := computes (·.map fun value => .i64 value.toInt64)

/-- Returns the sum of the arguments at 32 bits, where it may wrap around. -/
def sum32 : HostFunction :=
  computes fun arguments => [.i32 (arguments.foldl (fun sum value => sum + value.toInt32) 0)]

/-- Returns the sum of the arguments at 64 bits, where it may wrap around. -/
def sum64 : HostFunction :=
  computes fun arguments => [.i64 (arguments.foldl (fun sum value => sum + value.toInt64) 0)]

/-- Returns the same values for any arguments. -/
def constant (values : List Value) : HostFunction := computes fun _ => values

/-- Registers `function` and hands its arguments on to it. -/
def nested (function : HostFunction) : HostFunction :=
  fun arguments => .register function fun _ => function arguments

end HostBridge.Stock
