import HostBridge.Host.Dispatch
import HostBridge.Text.Quoted

/-!
# Imports

The host functions that one VM is offered, each under a name of its own. They are collected before
the VM is asked for a runtime, and a function that is refused leaves no trace.
-/

namespace HostBridge

/-- A host function under a name (`ImportFunction`). -/
structure Import where
  binding : Binding
  implementation : HostFunction

/-- Why an import is refused. -/
inductive ImportError where
  | emptyName
  | duplicate (name : String)
  /-- The VM does not want it, for a reason in its own words. -/
  | rejected (name reason : String)
  deriving DecidableEq, Repr

/-- What is said about an import that is refused. -/
def ImportError.message : ImportError → String
  | .emptyName => "import name cannot be empty"
  | .duplicate name => "duplicate import `" ++ name ++ "`"
  | .rejected name reason => "`" ++ name ++ "` rejected by the VM: " ++ reason

/-- The imports collected for one VM (`ImportsBuilder`). -/
structure Imports where
  /-- The namespace they are offered in, unless it is left to the configuration. -/
  space : Option String
  /-- The imports in the order in which they were added. -/
  entries : List Import
  /-- The names that are taken. -/
  names : List String

namespace Imports

/-- No imports yet. -/
def empty : Imports := ⟨none, [], []⟩

/-- How many imports there are. -/
def size (imports : Imports) : Nat := imports.entries.length

/-- Registers a host function and offers it under a name (`register_function`). The name is looked
up among those that are taken, and is taken from then on. -/
def register (imports : Imports) (functions : Registry) (name : String)
    (params returns : List ValueType) (implementation : HostFunction) :
    Except ImportError (Nat × Imports × Registry) :=
  if name.isEmpty then .error .emptyName
  else if name ∈ imports.names then .error (.duplicate name)
  else
    let (index, functions) := functions.register implementation
    let entry : Import := ⟨⟨index, name, params, returns⟩, implementation⟩
    let after := { imports with
      entries := imports.entries ++ [entry]
      names := name :: imports.names }
    .ok (index, after, functions)

end Imports

/-- An import as listings show it, with the namespace it is offered in. -/
def Binding.label (binding : Binding) (space : String) : String :=
  "ImportFunction \x7b name: " ++ Quoted.string binding.name ++ ", namespace: "
    ++ Quoted.string space ++ ", params: " ++ ValueType.labels binding.params
    ++ ", returns: " ++ ValueType.labels binding.returns ++ ", index: "
    ++ toString binding.index ++ " \x7d"

end HostBridge
