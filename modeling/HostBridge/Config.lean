import HostBridge.Text.Quoted

/-!
# Configuration

The settings that a session hands to its VM: whether gas is metered, how much of it there is, and
the namespace of the imports. `check` says which settings make sense together.
-/

namespace HostBridge

/-- The settings of a session (`RuntimeConfig`). -/
structure Config where
  gasMetering : Bool
  /-- The gas that a call may use; it counts only where gas is metered. -/
  gasLimit : UInt64
  /-- The namespace in which imports are offered. -/
  importSpace : String
  deriving DecidableEq, Repr

/-- Why settings make no sense. -/
inductive ConfigError where
  /-- Gas is metered but there is none. -/
  | noGas
  /-- Imports would have no namespace. -/
  | emptySpace
  deriving DecidableEq, Repr

/-- What is said about settings that make no sense. -/
def ConfigError.message : ConfigError → String
  | .noGas => "Invalid config: gas metering is enabled but gas_limit is 0"
  | .emptySpace => "Invalid config: import_namespace cannot be empty"

namespace Config

/-- The settings where nothing else is said. -/
def standard : Config := ⟨false, 0, "host"⟩

/-- Metered gas up to a limit. -/
def metered (limit : UInt64) : Config := { standard with gasMetering := true, gasLimit := limit }

/-- Refuses settings that make no sense (`validate`). -/
def check (config : Config) : Except ConfigError Unit :=
  if config.gasMetering ∧ config.gasLimit = 0 then .error .noGas
  else if config.importSpace.isEmpty then .error .emptySpace
  else .ok ()

/-- Settings as listings show them. -/
def label (config : Config) : String :=
  "RuntimeConfig \x7b gas_metering: " ++ toString config.gasMetering ++ ", gas_limit: "
    ++ toString config.gasLimit ++ ", import_namespace: " ++ Quoted.string config.importSpace
    ++ " \x7d"

/-- Settings pass the check just if metered gas has a limit and the space of the imports has a name.
This is `validate` of the runtime configuration. -/
theorem check_eq_ok_iff (config : Config) :
    config.check = .ok () ↔
      (config.gasMetering → config.gasLimit ≠ 0) ∧ config.importSpace.isEmpty = false := by
  unfold check
  split
  · simp_all
  · split <;> simp_all

/-- The standard settings make sense. -/
theorem check_standard : standard.check = .ok () := rfl

end Config

end HostBridge
