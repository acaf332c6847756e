/-!
# Stores of a VM

A VM makes a store over the callbacks on request and answers with a result code, zero for success,
and with the handle of the store. The host holds one store at a time: a new one takes the place of
the old one, which is destroyed then. A null handle names no store and is never destroyed.
-/

namespace HostBridge.StateStore

/-- What a VM answers to a request for a store. -/
structure Creation where
  code : UInt32
  /-- The handle, if it is not null. -/
  handle? : Option Nat
  deriving DecidableEq, Repr

/-- The VM made no store. -/
inductive CreationError where
  | refused
  deriving DecidableEq, Repr

/-- What is said about a store that was not made. -/
def CreationError.message : CreationError → String
  | .refused => "State KV error: failed to create FFI state KV store"

/-- A store that the host holds, by its handle. -/
structure Held where
  handle? : Option Nat
  deriving DecidableEq, Repr

/-- The store that a VM made, if it made one. -/
def Creation.held (creation : Creation) : Except CreationError Held :=
  if creation.code = 0 then .ok ⟨creation.handle?⟩ else .error .refused

/-- The ways in which a VM answers a request for a store. -/
inductive Maker where
  /-- Makes one. -/
  | makes
  /-- Answers with a failure. -/
  | refuses
  /-- Answers with success and a null handle. -/
  | makesNothing
  deriving DecidableEq, Repr

/-- The stores that a VM has made and not destroyed. -/
structure Stores where
  live : List Nat
  /-- How many it has made so far. -/
  issued : Nat
  deriving DecidableEq, Repr

namespace Stores

/-- Answers a request for a store. The call is `state_kv_create`. -/
def create (stores : Stores) : Maker → Creation × Stores
  | .makes => (⟨0, some stores.issued⟩, ⟨stores.issued :: stores.live, stores.issued + 1⟩)
  | .refuses => (⟨1, none⟩, stores)
  | .makesNothing => (⟨0, none⟩, stores)

/-- Destroys the store that is held. The call is `state_kv_destroy`. -/
def destroy (stores : Stores) (held : Held) : Stores :=
  match held.handle? with
  | none => stores
  | some handle => { stores with live := stores.live.erase handle }

end Stores

/-- The VM's stores and the one that the host holds (`StateKv`). -/
structure Holder where
  stores : Stores
  held? : Option Held
  deriving DecidableEq, Repr

namespace Holder

/-- No store was made. -/
def new : Holder := ⟨⟨[], 0⟩, none⟩

/-- Destroys the store that is held, if there is one. -/
def release (holder : Holder) : Holder :=
  match holder.held? with
  | none => holder
  | some held => ⟨holder.stores.destroy held, none⟩

/-- Asks for a store and holds it. Only then is the one before it destroyed. -/
def acquire (holder : Holder) (maker : Maker) : Except CreationError Held × Holder :=
  let (creation, stores) := holder.stores.create maker
  let asked := { holder with stores := stores }
  match creation.held with
  | .error error => (.error error, asked)
  | .ok held => (.ok held, { asked.release with held? := some held })

end Holder

end HostBridge.StateStore
