import HostBridge.Session.Lifetime
import Mathlib.Logic.Function.Basic

/-!
# Tenancies

Several sessions on one host, each over imports of its own. What is done for one tenant is done
while the others wait, in any order. They share the table of host functions and the host's side of
the boundary, and functions may be registered that are of no concern to any of them.
-/

namespace HostBridge

/-- A tenant of a host: first it collects imports, then it has a session over them. -/
inductive Tenant (σ : Type) where
  | collecting (imports : Imports)
  | running (session : Session σ)
  /-- The imports or the session were given up, or no session could be opened. -/
  | gone

/-- What a tenant can have done. -/
inductive Act where
  /-- The imports are to be offered in this namespace. -/
  | within (space : String)
  | register (name : String) (params returns : List ValueType) (implementation : HostFunction)
  | start (config : Config)
  | ask (request : Request)
  /-- A transaction is run with the gas settings of the session. -/
  | run (kind : TransactionKind) (transaction : List UInt8) (address : Address)
  | leave

namespace Tenant

/-- What a tenant learns when something was done for it. -/
inductive Result where
  | quiet
  | registered (result : Except ImportError Unit)
  | started (result : Except SessionError Unit)
  | answered (result : Except SessionError (Option Receipt))

variable {σ : Type}

/-- How many of the VM's buffers the host holds for a tenant, once it has a session. -/
def live : Tenant σ → Option Nat
  | .running session => some session.books.liveCount
  | .collecting _ | .gone => none

/-- Does something for a tenant. What it is not in a position to have done is not done. -/
def perform (vm : Vm σ) (initial : σ) (host : Host) :
    Tenant σ → Act → Except Breach (Result × Tenant σ × Host)
  | .collecting imports, .within space =>
    return (.quiet, .collecting { imports with space := some space }, host)
  | .collecting imports, .register name params returns implementation =>
    match imports.register host.functions name params returns implementation with
    | .error error => return (.registered (.error error), .collecting imports, host)
    | .ok (_, after, functions) =>
      return (.registered (.ok ()), .collecting after, { host with functions := functions })
  | .collecting imports, .start config => do
    let opening ← Session.start vm initial imports config host
    match opening.result with
    | .error error => return (.started (.error error), .gone, opening.host)
    | .ok session => return (.started (.ok ()), .running session, opening.host)
  | .collecting _, .leave => return (.quiet, .gone, host)
  | .running session, .ask request => do
    let (result, after, last) ← session.ask vm host request
    return (.answered result, .running after, last)
  | .running session, .run kind transaction address => do
    let (result, after, last) ← session.run vm host kind transaction address
    return (.answered (result.map some), .running after, last)
  | .running session, .leave => do
    let ((), _, last) ← session.close vm host
    return (.quiet, .gone, last)
  | tenant, _ => return (.quiet, tenant, host)

end Tenant

/-- A host and its tenants. -/
structure Tenancy (σ ι : Type) where
  host : Host
  tenants : ι → Tenant σ

namespace Tenancy

variable {σ ι : Type}

/-- A host whose tenants have had nothing done yet. -/
def opened (host : Host) : Tenancy σ ι := ⟨host, fun _ => .collecting .empty⟩

/-- Something that happens on a host. -/
inductive Step (ι : Type) where
  | act (tenant : ι) (act : Act)
  /-- A host function is registered, and no tenant is concerned. -/
  | register (function : HostFunction)

/-- What a tenant saw: what it learned, and how many of the VM's buffers are held for it then. -/
structure Event (ι : Type) where
  tenant : ι
  result : Tenant.Result
  live : Option Nat

variable [DecidableEq ι]

/-- Whether something is done for a tenant. -/
def Step.isFor (tenant : ι) : Step ι → Bool
  | .act other _ => other = tenant
  | .register _ => false

/-- One step on a host, with what the tenant saw for which it was done. -/
def step (vm : Vm σ) (initial : σ) (tenancy : Tenancy σ ι) :
    Step ι → Except Breach (List (Event ι) × Tenancy σ ι)
  | .act tenant act => do
    let (result, next, host) ← (tenancy.tenants tenant).perform vm initial tenancy.host act
    return ([⟨tenant, result, next.live⟩], ⟨host, Function.update tenancy.tenants tenant next⟩)
  | .register function =>
    let (_, functions) := tenancy.host.functions.register function
    return ([], { tenancy with host := { tenancy.host with functions := functions } })

/-- One step after the other. -/
def run (vm : Vm σ) (initial : σ) (tenancy : Tenancy σ ι) :
    List (Step ι) → Except Breach (List (Event ι) × Tenancy σ ι)
  | [] => return ([], tenancy)
  | step :: steps => do
    let (seen, next) ← tenancy.step vm initial step
    let (events, last) ← next.run vm initial steps
    return (seen ++ events, last)

end Tenancy

end HostBridge
