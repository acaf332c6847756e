import HostBridge.Value

/-!
# Host functions

The functions that a host offers to a VM. A call ends with results, with an error, or with a
panic; on its way it may register further functions. The functions stand in a table that only
grows: an index that was given out stays with its function.
-/

namespace HostBridge

/-- What a panicking function leaves behind. -/
inductive PanicPayload where
  | text (text : String)
  /-- Something that is no text. -/
  | other
  deriving DecidableEq, Repr

/-- How a call ends. -/
inductive CallOutcome where
  | returned (results : List Value)
  /-- The function gave up for this reason. -/
  | failed (reason : String)
  | panicked (payload : PanicPayload)
  deriving DecidableEq, Repr

/-- What a host function does when it is called. -/
inductive HostProgram where
  | finish (outcome : CallOutcome)
  /-- Registers a function and goes on with its index. -/
  | register (function : List Value → HostProgram) (next : Nat → HostProgram)

/-- A function that a host offers: what it does with its arguments. -/
abbrev HostFunction := List Value → HostProgram

/-- A table of host functions (`HostFunctionRegistry`). -/
structure Registry where
  functions : List HostFunction

namespace Registry

/-- A table without functions. -/
def empty : Registry := ⟨[]⟩

/-- How many functions are registered. -/
def size (registry : Registry) : Nat := registry.functions.length

/-- Adds a function (`register`). Its index is the count of the functions before it. -/
def register (registry : Registry) (function : HostFunction) : Nat × Registry :=
  (registry.size, ⟨registry.functions ++ [function]⟩)

/-- The function with an index (`lookup`). -/
def lookup (registry : Registry) (index : Nat) : Option HostFunction :=
  registry.functions[index]?

@[simp] theorem size_empty : empty.size = 0 := rfl

@[simp] theorem size_register (registry : Registry) (function : HostFunction) :
    (registry.register function).2.size = registry.size + 1 := by
  simp [register, size]

/-- A function is found under the index it was given. -/
@[simp] theorem lookup_register (registry : Registry) (function : HostFunction) :
    (registry.register function).2.lookup (registry.register function).1 = some function := by
  simp [register, lookup, size]

/-- Functions that were there before stay where they are. -/
theorem lookup_register_of_lt (registry : Registry) (function : HostFunction) {index : Nat}
    (h : index < registry.size) :
    (registry.register function).2.lookup index = registry.lookup index := by
  simp only [register, lookup]
  exact List.getElem?_append_left h

end Registry

/-- Runs a program over a table. -/
def HostProgram.run : HostProgram → Registry → CallOutcome × Registry
  | .finish outcome, registry => (outcome, registry)
  | .register function next, registry =>
    let (index, grown) := registry.register function
    (next index).run grown

namespace HostProgram

/-- A program only adds to the table. -/
theorem run_extends (program : HostProgram) (registry : Registry) :
    ∃ added, (program.run registry).2.functions = registry.functions ++ added := by
  induction program generalizing registry with
  | finish outcome => exact ⟨[], by simp [run]⟩
  | register function next _ ih =>
    obtain ⟨added, h⟩ := ih registry.size (registry.register function).2
    exact ⟨function :: added, by simp [run, Registry.register, Registry.size] at h ⊢; simp [h]⟩

end HostProgram

end HostBridge
