import HostBridge.Vm.Small

/-!
# A scripted VM

A VM that answers what a script says. Each validation and each transaction takes the next reply
from the script. Imports and creation are those of the small VM, unless the script has a reply for
them; a scripted creation hands out neither a table nor a runtime.
-/

namespace HostBridge.ScriptedVm

/-- The script, and the small VM behind it. -/
structure State where
  small : SmallVm.State
  /-- The reply to the creation, and to each import before it. -/
  create : Option Vm.Reply
  /-- The reply to each import. -/
  addImport : Option Vm.Reply
  /-- The replies to what follows. -/
  replies : List Vm.Reply
  deriving DecidableEq

/-- A script. -/
def State.initial (create addImport : Option Vm.Reply) (replies : List Vm.Reply) : State :=
  ⟨.initial, create, addImport, replies⟩

/-- Lets the small VM act. -/
def small {α : Type} : VmProgram SmallVm.State α → VmProgram State α
  | .finish result => .finish result
  | .observe next => .observe fun state => small (next state.small)
  | .update inner next => .observe fun state => .update { state with small := inner } (small next)
  | .load raw next => .load raw fun bytes => small (next bytes)
  | .allocate bytes next => .allocate bytes fun raw => small (next raw)
  | .free raw next => .free raw (small next)
  | .call binding arguments next => .call binding arguments fun reply => small (next reply)

/-- Takes the next reply from the script. A script that has run out answers with success. -/
def next : VmProgram State Vm.Reply := do
  let state ← VmProgram.state
  match state.replies with
  | [] => return SmallVm.accept
  | reply :: replies =>
    VmProgram.setState { state with replies := replies }
    return reply

/-- The entry points. -/
def vm : Vm State where
  allocateImports _ := return (← VmProgram.state).create.isNone
  addImport offer := do
    let state ← VmProgram.state
    match state.addImport <|> state.create with
    | some reply => return reply
    | none => small (SmallVm.addImport offer)
  destroyImports := return ()
  create := do
    match (← VmProgram.state).create with
    | some reply => return (false, reply)
    | none => small SmallVm.create
  destroy := return ()
  validate _ _ := next
  run _ := next

end HostBridge.ScriptedVm
