import HostBridge.Session

/-!
# Lifetimes

What a session can be asked to do, as data, and the whole life of a session: it is opened, asked one
thing after the other, and closed.
-/

namespace HostBridge

/-- What a session can be asked to do. -/
inductive Request where
  | validate (kind : TransactionKind) (transaction : List UInt8)
  | run (kind : TransactionKind) (transaction : List UInt8) (address : Address)
      (gasMetering : Bool) (gasLimit : UInt64)
  deriving DecidableEq

/-- The transaction that a request is about. -/
def Request.transaction : Request → List UInt8
  | .validate _ transaction | .run _ transaction _ _ _ => transaction

namespace Session

variable {σ : Type}

/-- Does what is asked for. Only a run has a receipt. -/
def ask (session : Session σ) (vm : Vm σ) (host : Host) :
    Request → Except Breach (Except SessionError (Option Receipt) × Session σ × Host)
  | .validate kind transaction => do
    let (result, after, host) ← session.validate vm host kind transaction
    return (result.map fun _ => none, after, host)
  | .run kind transaction address gasMetering gasLimit => do
    let (result, after, host) ←
      session.runWith vm host kind transaction address gasMetering gasLimit
    return (result.map some, after, host)

/-- Does one thing after the other. -/
def askAll (session : Session σ) (vm : Vm σ) (host : Host) : List Request →
    Except Breach (List (Except SessionError (Option Receipt)) × Session σ × Host)
  | [] => return ([], session, host)
  | request :: requests => do
    let (result, session, host) ← session.ask vm host request
    let (results, session, host) ← session.askAll vm host requests
    return (result :: results, session, host)

end Session

end HostBridge
