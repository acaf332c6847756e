import HostBridge.StateStore.Slot

/-!
# Handlers of the state store

A handler is a program that may look at a state it shares with the others, change it, install and
remove handlers, its own among them, and use the operations of the store itself. An operation takes
the handler that is in its slot at the moment when it starts and runs that one; what the handler
does to the slots is for later operations.

Operations may nest without end, so a run is given the depth to which they may. A run that ends
at some depth ends in the same way at every greater one.
-/

namespace HostBridge.StateStore

/-- What a handler for a slot does with a request. The handlers share a `σ`. -/
inductive Program (σ : Type) : Slot → Type where
  | finish {slot : Slot} (answer : slot.Answer) : Program σ slot
  /-- Looks at the shared state. -/
  | observe {slot : Slot} (next : σ → Program σ slot) : Program σ slot
  /-- Replaces the shared state. -/
  | update {slot : Slot} (state : σ) (next : Program σ slot) : Program σ slot
  /-- Installs a handler in place of the one before it. -/
  | install {slot : Slot} (target : Slot) (handler : target.Request → Program σ target)
      (next : Program σ slot) : Program σ slot
  /-- Removes every handler. -/
  | clear {slot : Slot} (next : Program σ slot) : Program σ slot
  /-- Uses an operation. -/
  | perform {slot : Slot} (target : Slot) (request : target.Request)
      (next : Except Fault target.Result → Program σ slot) : Program σ slot

/-- A handler for a slot. -/
abbrev Handler (σ : Type) (slot : Slot) := slot.Request → Program σ slot

/-- The handlers in their slots (`Handlers`). -/
abbrev Handlers (σ : Type) := (slot : Slot) → Option (Handler σ slot)

/-- The handlers that serve the operations, and the state they share. -/
structure Service (σ : Type) where
  handlers : Handlers σ
  state : σ

namespace Service

variable {σ : Type}

/-- No handlers yet. -/
def new (state : σ) : Service σ := ⟨fun _ => none, state⟩

/-- Installs a handler in place of the one before it (`register_get` and its siblings). -/
def install (service : Service σ) (target : Slot) (handler : Handler σ target) : Service σ :=
  { service with handlers := fun slot =>
      if h : target = slot then some (h ▸ handler) else service.handlers slot }

/-- Removes every handler (`clear_handlers`). -/
def clear (service : Service σ) : Service σ := { service with handlers := fun _ => none }

@[simp] theorem handlers_install_self (service : Service σ) (slot : Slot)
    (handler : Handler σ slot) : (service.install slot handler).handlers slot = some handler := by
  simp [install]

/-- A handler that is installed leaves the other slots as they are. -/
theorem handlers_install_of_ne (service : Service σ) {target slot : Slot}
    (handler : Handler σ target) (h : target ≠ slot) :
    (service.install target handler).handlers slot = service.handlers slot := by
  simp [install, h]

@[simp] theorem state_install (service : Service σ) (slot : Slot) (handler : Handler σ slot) :
    (service.install slot handler).state = service.state := rfl

@[simp] theorem state_clear (service : Service σ) : service.clear.state = service.state := rfl

@[simp] theorem handlers_clear (service : Service σ) (slot : Slot) :
    service.clear.handlers slot = none := rfl

end Service

/-- A way to perform operations. There is no result where operations nest too deep. -/
abbrev Performer (σ : Type) :=
  (slot : Slot) → slot.Request → Service σ → Option (Except Fault slot.Result × Service σ)

/-- Runs the program of a handler. -/
def Program.run {σ : Type} (perform : Performer σ) :
    {slot : Slot} → Program σ slot → Service σ → Option (slot.Answer × Service σ)
  | _, .finish answer, service => some (answer, service)
  | _, .observe next, service => (next service.state).run perform service
  | _, .update state next, service => next.run perform { service with state := state }
  | _, .install target handler next, service =>
    next.run perform (service.install target handler)
  | _, .clear next, service => next.run perform service.clear
  | _, .perform target request next, service =>
    match perform target request service with
    | none => none
    | some (result, after) => (next result).run perform after

namespace Service

variable {σ : Type}

/-- Performs an operation (`get`, `set`, `discard`, `checkpoint`, `head`). At most `depth`
operations are under way at a time. -/
def perform? : Nat → Performer σ
  | 0, _, _, _ => none
  | depth + 1, slot, request, service =>
    match service.handlers slot with
    | none => some (.error (.missingHandler slot), service)
    | some handler =>
      match (handler request).run (perform? depth) service with
      | none => none
      | some (answer, after) => some (check slot answer, after)

/-- How deep operations may nest before the host gives up. -/
def nestingLimit : Nat := 10000

/-- An empty slot runs nothing. -/
theorem perform?_of_missing {depth : Nat} {slot : Slot} {service : Service σ}
    (h : service.handlers slot = none) (request : slot.Request) :
    perform? (depth + 1) slot request service = some (.error (.missingHandler slot), service) := by
  simp [perform?, h]

end Service

/-- A run that ends is not changed by a way to perform operations that ends more often. -/
theorem Program.run_of_le {σ : Type} {perform perform' : Performer σ}
    (hle : ∀ slot request service out, perform slot request service = some out →
      perform' slot request service = some out) {slot : Slot} (program : Program σ slot)
    {service : Service σ} {out : slot.Answer × Service σ}
    (h : program.run perform service = some out) : program.run perform' service = some out := by
  induction program generalizing service with
  | finish answer => simpa [run] using h
  | observe next ih => exact ih _ (by simpa [run] using h)
  | update state next ih => exact ih (by simpa [run] using h)
  | install target handler next _ ih => exact ih (by simpa [run] using h)
  | clear next ih => exact ih (by simpa [run] using h)
  | perform target request next ih =>
    rw [run] at h ⊢
    split at h
    · cases h
    · next result after hp => simpa [hle _ _ _ _ hp] using ih _ h

/-- A run that ends at some depth ends in the same way one level deeper. -/
theorem Service.perform?_succ {σ : Type} {depth : Nat} {slot : Slot} {request : slot.Request}
    {service : Service σ} {out : Except Fault slot.Result × Service σ}
    (h : perform? depth slot request service = some out) :
    perform? (depth + 1) slot request service = some out := by
  induction depth generalizing slot service with
  | zero => simp [perform?] at h
  | succ depth ih =>
    rw [perform?] at h ⊢
    split at h
    · simp_all
    · next handler hs =>
      split at h
      · cases h
      · next answer after hr =>
        simp [Program.run_of_le (fun _ _ _ _ => ih) _ hr, h]

end HostBridge.StateStore
