import HostBridge.StateStore.Journal
import Mathlib.Logic.Basic

/-!
# Operations reach their own handlers

The journal of a run of the state store, read from the outside: which handler is in a slot is a
matter of the events before (`Latest`, `Vacant`), an operation runs the one that is in its own slot
when it starts, once, and makes its result of the answer alone (`Operated`). To run a handler is to
run its program on what the request is, step by step, and every operation in it is one of the same
kind (`Routed`). Neither looks at the slots: the journal alone says what they hold. `run_followed`
says that every run is like that, however deep the operations nest.
-/

namespace HostBridge.StateStore

variable {σ : Type}

/-! ## The handler in a slot -/

/-- The event decides which handler is in the slot. -/
def Event.Touches (slot : Slot) : Event σ → Prop
  | .install target _ => target = slot
  | .clear => True
  | .start _ _ | .call _ _ _ | .answer _ _ | .finish _ _ => False

/-- The handler was installed in the slot, and nothing happened to the slot since. -/
inductive Latest (slot : Slot) (handler : Handler σ slot) : Journal σ → Prop where
  | install (past : Journal σ) : Latest slot handler (.install slot handler :: past)
  | later {event : Event σ} {past : Journal σ} :
    ¬ event.Touches slot → Latest slot handler past → Latest slot handler (event :: past)

/-- No handler was installed in the slot since all were removed, or since the beginning. -/
inductive Vacant (slot : Slot) : Journal σ → Prop where
  | nil : Vacant slot []
  | clear (past : Journal σ) : Vacant slot (.clear :: past)
  | later {event : Event σ} {past : Journal σ} :
    ¬ event.Touches slot → Vacant slot past → Vacant slot (event :: past)

/-- A slot with a handler is not vacant. -/
theorem Latest.not_vacant {slot : Slot} {handler : Handler σ slot} {past : Journal σ}
    (h : Latest slot handler past) : ¬ Vacant slot past := by
  induction h with
  | install past =>
    intro hvacant
    cases hvacant with
    | later htouches _ => exact htouches rfl
  | later htouches _ ih =>
    intro hvacant
    cases hvacant with
    | clear _ => exact htouches trivial
    | later _ hvacant => exact ih hvacant

/-! ## Results -/

/-- What is made of bytes that should be 32. -/
structure Fitted (slot : Slot) (bytes : List UInt8) (result : Except Fault (Octets 32)) :
    Prop where
  ok_iff : ∀ octets, result = .ok octets ↔ bytes = octets.toList
  error_iff : ∀ fault, result = .error fault ↔
    bytes.length ≠ 32 ∧ fault = .wrongSize slot bytes.length

/-- What is made of the answer of a handler. -/
def Judged : (slot : Slot) → slot.Answer → Except Fault slot.Result → Prop
  | .get, answer, result =>
    (result = .ok none ↔ answer = none) ∧
      (∀ value, result = .ok (some value) ↔ answer = some value.toList) ∧
      ∀ fault, result = .error fault ↔ ∃ bytes, answer = some bytes ∧ bytes.length ≠ 32 ∧
        fault = .wrongSize .get bytes.length
  | .set, _, result | .discard, _, result => result = .ok ()
  | .checkpoint, bytes, result => Fitted .checkpoint bytes result
  | .head, bytes, result => Fitted .head bytes result

/-- `check_size` lets 32 bytes pass, and reports any other number of them. -/
theorem sized_fitted (slot : Slot) (bytes : List UInt8) :
    Fitted slot bytes (sized slot bytes) := by
  refine ⟨fun octets => sized_eq_ok_iff, ?_⟩
  intro fault
  unfold sized
  split
  · next hlength => simp [hlength]
  · next hlength => simp [hlength, eq_comm]

/-- The answer of a handler is judged by its slot. -/
theorem check_judged (slot : Slot) (answer : slot.Answer) :
    Judged slot answer (check slot answer) := by
  cases slot with
  | get =>
    cases answer with
    | none => simp [Judged, check]
    | some bytes =>
      have hfitted := sized_fitted .get bytes
      refine ⟨?_, ?_, ?_⟩
      · show Except.map some (sized .get bytes) = .ok none ↔ _
        cases sized .get bytes <;> simp [Except.map]
      · intro value
        rw [Option.some_inj, ← hfitted.ok_iff value]
        show Except.map some (sized .get bytes) = .ok (some value) ↔ _
        cases sized .get bytes <;> simp [Except.map]
      · intro fault
        show Except.map some (sized .get bytes) = .error fault ↔ _
        have hfault : Except.map some (sized .get bytes) = .error fault ↔
            sized .get bytes = .error fault := by
          cases sized .get bytes <;> simp [Except.map]
        rw [hfault, hfitted.error_iff fault]
        simp
  | set => rfl
  | discard => rfl
  | checkpoint => exact sized_fitted .checkpoint answer
  | head => exact sized_fitted .head answer

/-- A handler that ran is not missing. -/
theorem Judged.not_missing {slot target : Slot} {answer : slot.Answer}
    {result : Except Fault slot.Result} (h : Judged slot answer result) :
    result ≠ .error (.missingHandler target) := by
  rintro rfl
  cases slot with
  | get =>
    obtain ⟨-, -, herror⟩ := h
    obtain ⟨_, -, -, hfault⟩ := (herror _).1 rfl
    cases hfault
  | set => cases h
  | discard => cases h
  | checkpoint => cases ((h.error_iff _).1 rfl).2
  | head => cases ((h.error_iff _).1 rfl).2

/-! ## Operations and what happens within them -/

mutual

/-- An operation with its result: what it makes of the shared state, and what it adds to the
journal. -/
inductive Operated : σ → Journal σ → (slot : Slot) → slot.Request → Except Fault slot.Result → σ →
    Journal σ → Prop where
  /-- Nothing runs for a slot without a handler. -/
  | missing {state : σ} {past : Journal σ} {slot : Slot} {request : slot.Request} :
    Vacant slot past →
    Operated state past slot request (.error (.missingHandler slot)) state
      (.finish slot (.error (.missingHandler slot)) :: .start slot request :: past)
  /-- The handler that is in the slot runs once on the request, whatever it does to the slot. -/
  | served {state after : σ} {past now : Journal σ} {slot : Slot} {request : slot.Request}
    {handler : Handler σ slot} {answer : slot.Answer} {result : Except Fault slot.Result} :
    Latest slot handler past →
    Routed (handler request) state (.call slot handler request :: .start slot request :: past)
      answer after now →
    Judged slot answer result →
    Operated state past slot request result after (.finish slot result :: .answer slot answer :: now)

/-- The program of a handler runs to its end, and answers. -/
inductive Routed : {slot : Slot} → Program σ slot → σ → Journal σ → slot.Answer → σ → Journal σ →
    Prop where
  | finish {slot : Slot} (answer : slot.Answer) (state : σ) (past : Journal σ) :
    Routed (.finish answer) state past answer state past
  | observe {slot : Slot} {next : σ → Program σ slot} {state after : σ} {past now : Journal σ}
    {answer : slot.Answer} :
    Routed (next state) state past answer after now →
    Routed (.observe next) state past answer after now
  | update {slot : Slot} {next : Program σ slot} {state other after : σ} {past now : Journal σ}
    {answer : slot.Answer} :
    Routed next other past answer after now →
    Routed (.update other next) state past answer after now
  | install {slot target : Slot} {handler : Handler σ target} {next : Program σ slot}
    {state after : σ} {past now : Journal σ} {answer : slot.Answer} :
    Routed next state (.install target handler :: past) answer after now →
    Routed (.install target handler next) state past answer after now
  | clear {slot : Slot} {next : Program σ slot} {state after : σ} {past now : Journal σ}
    {answer : slot.Answer} :
    Routed next state (.clear :: past) answer after now →
    Routed (.clear next) state past answer after now
  | perform {slot target : Slot} {request : target.Request} {result : Except Fault target.Result}
    {next : Except Fault target.Result → Program σ slot} {state middle after : σ}
    {past between now : Journal σ} {answer : slot.Answer} :
    Operated state past target request result middle between →
    Routed (next result) middle between answer after now →
    Routed (.perform target request next) state past answer after now

end

/-- The program of a handler runs up to where it wants an operation. -/
inductive Wants : {slot : Slot} → Program σ slot → σ → Journal σ → (target : Slot) →
    target.Request → σ → Journal σ → Prop where
  | here {slot target : Slot} {request : target.Request}
    {next : Except Fault target.Result → Program σ slot} (state : σ) (past : Journal σ) :
    Wants (.perform target request next) state past target request state past
  | observe {slot target : Slot} {request : target.Request} {next : σ → Program σ slot}
    {state after : σ} {past now : Journal σ} :
    Wants (next state) state past target request after now →
    Wants (.observe next) state past target request after now
  | update {slot target : Slot} {request : target.Request} {next : Program σ slot}
    {state other after : σ} {past now : Journal σ} :
    Wants next other past target request after now →
    Wants (.update other next) state past target request after now
  | install {slot place target : Slot} {handler : Handler σ place} {request : target.Request}
    {next : Program σ slot} {state after : σ} {past now : Journal σ} :
    Wants next state (.install place handler :: past) target request after now →
    Wants (.install place handler next) state past target request after now
  | clear {slot target : Slot} {request : target.Request} {next : Program σ slot}
    {state after : σ} {past now : Journal σ} :
    Wants next state (.clear :: past) target request after now →
    Wants (.clear next) state past target request after now
  | later {slot inner target : Slot} {innerRequest : inner.Request} {request : target.Request}
    {result : Except Fault inner.Result} {next : Except Fault inner.Result → Program σ slot}
    {state middle after : σ} {past between now : Journal σ} :
    Operated state past inner innerRequest result middle between →
    Wants (next result) middle between target request after now →
    Wants (.perform inner innerRequest next) state past target request after now

/-- An operation that does not end, because within it as many handlers as `depth` says run within
one another, and the last one wants another operation. -/
inductive Broken : Nat → σ → Journal σ → (slot : Slot) → slot.Request → Journal σ → Prop where
  | tooDeep (state : σ) (past : Journal σ) (slot : Slot) (request : slot.Request) :
    Broken 0 state past slot request past
  | inside {depth : Nat} {state middle : σ} {past now last : Journal σ} {slot inner : Slot}
    {request : slot.Request} {innerRequest : inner.Request} {handler : Handler σ slot} :
    Latest slot handler past →
    Wants (handler request) state (.call slot handler request :: .start slot request :: past)
      inner innerRequest middle now →
    Broken depth middle now inner innerRequest last →
    Broken (depth + 1) state past slot request last

/-- An operation fails for want of a handler exactly if its slot is vacant when it starts. -/
theorem Operated.missing_iff {state after : σ} {past now : Journal σ} {slot : Slot}
    {request : slot.Request} {result : Except Fault slot.Result}
    (h : Operated state past slot request result after now) :
    result = .error (.missingHandler slot) ↔ Vacant slot past := by
  cases h with
  | missing hvacant => exact ⟨fun _ => hvacant, fun _ => rfl⟩
  | served hlatest _ hjudged =>
    exact ⟨fun hresult => absurd hresult hjudged.not_missing,
      fun hvacant => absurd hvacant hlatest.not_vacant⟩

/-! ## Every operation is routed -/

/-- The slots hold the handlers that the journal tells of. -/
structure InStep (service : Service σ) (past : Journal σ) : Prop where
  vacant : ∀ slot, service.handlers slot = none → Vacant slot past
  latest : ∀ slot handler, service.handlers slot = some handler → Latest slot handler past

namespace InStep

variable {service : Service σ} {past : Journal σ}

/-- Before anything has happened, no slot has a handler. -/
theorem new (state : σ) : InStep (Service.new state) [] :=
  ⟨fun _ _ => .nil, fun _ _ h => nomatch h⟩

/-- An event that touches no slot. -/
theorem later (h : InStep service past) {event : Event σ}
    (htouches : ∀ slot, ¬ event.Touches slot) : InStep service (event :: past) :=
  ⟨fun slot hslot => .later (htouches slot) (h.vacant slot hslot),
    fun slot handler hslot => .later (htouches slot) (h.latest slot handler hslot)⟩

/-- After `clear_handlers` no slot has a handler. -/
theorem clear (service : Service σ) (past : Journal σ) : InStep service.clear (.clear :: past) :=
  ⟨fun _ _ => .clear past, fun _ _ h => nomatch h⟩

/-- After a registration the slot has this handler, and the others have theirs. -/
theorem install (h : InStep service past) (target : Slot) (handler : Handler σ target) :
    InStep (service.install target handler) (.install target handler :: past) := by
  refine ⟨?_, ?_⟩
  · intro slot hslot
    rcases eq_or_ne target slot with rfl | hne
    · simp at hslot
    · rw [service.handlers_install_of_ne handler hne] at hslot
      exact .later hne (h.vacant slot hslot)
  · intro slot other hslot
    rcases eq_or_ne target slot with rfl | hne
    · rw [Service.handlers_install_self] at hslot
      cases hslot
      exact .install past
    · rw [service.handlers_install_of_ne handler hne] at hslot
      exact .later hne (h.latest slot other hslot)

/-- The shared state has no part in who serves what. -/
theorem update (h : InStep service past) (state : σ) :
    InStep { service with state := state } past := ⟨h.vacant, h.latest⟩

end InStep

/-- How a run with a journal ends: with something about which `goal` holds, and with the slots in
step with the journal, or not at all. -/
def Ends {α : Type} (goal : α → σ → Journal σ → Prop) (broken : Journal σ → Prop) :
    Journal σ × Option (α × Service σ) → Prop
  | (now, some (out, after)) => goal out after.state now ∧ InStep after now
  | (last, none) => broken last

/-- What is known of the end may be weakened. -/
theorem Ends.imp {α : Type} {goal goal' : α → σ → Journal σ → Prop} {broken broken' : Journal σ → Prop}
    {run : Journal σ × Option (α × Service σ)} (h : Ends goal broken run)
    (hgoal : ∀ out state now, goal out state now → goal' out state now)
    (hbroken : ∀ last, broken last → broken' last) : Ends goal' broken' run := by
  obtain ⟨now, _ | ⟨out, after⟩⟩ := run
  · exact hbroken now h
  · exact ⟨hgoal out after.state now h.1, h.2⟩

/-- Every operation that is performed in this way is routed, unless operations nest as deep as
that. -/
def Routes (depth : Nat) (recorder : Recorder σ) : Prop :=
  ∀ (slot : Slot) (request : slot.Request) (service : Service σ) (past : Journal σ),
    InStep service past →
    Ends (Operated service.state past slot request) (Broken depth service.state past slot request)
      (recorder slot request service past)

/-- A program cannot go on, since an operation that it wants does not end. -/
def Stuck (depth : Nat) {slot : Slot} (program : Program σ slot) (state : σ) (past : Journal σ)
    (last : Journal σ) : Prop :=
  ∃ target request middle now, Wants program state past target request middle now ∧
    Broken depth middle now target request last

/-- What one program wants another one may want as well, and then both are stuck. -/
theorem Stuck.imp {depth : Nat} {slot slot' : Slot} {program : Program σ slot}
    {program' : Program σ slot'} {state state' : σ} {past past' last : Journal σ}
    (h : Stuck depth program state past last)
    (hwants : ∀ target request middle now, Wants program state past target request middle now →
      Wants program' state' past' target request middle now) :
    Stuck depth program' state' past' last := by
  obtain ⟨target, request, middle, now, hwanted, hbroken⟩ := h
  exact ⟨target, request, middle, now, hwants _ _ _ _ hwanted, hbroken⟩

/-- The program of a handler is run as it says, if operations are performed as they should: by
induction on the program. -/
theorem Program.record_routed {depth : Nat} {recorder : Recorder σ} (h : Routes depth recorder)
    {slot : Slot} (program : Program σ slot) {service : Service σ} {past : Journal σ}
    (hstep : InStep service past) :
    Ends (Routed program service.state past) (Stuck depth program service.state past)
      (program.record recorder service past) := by
  induction program generalizing service past with
  | finish answer => exact ⟨.finish answer service.state past, hstep⟩
  | observe next ih =>
    exact (ih service.state hstep).imp (fun _ _ _ => .observe)
      fun _ hstuck => hstuck.imp fun _ _ _ _ => .observe
  | update state next ih =>
    exact (ih (hstep.update state)).imp (fun _ _ _ => .update)
      fun _ hstuck => hstuck.imp fun _ _ _ _ => .update
  | install target handler next _ ih =>
    exact (ih (hstep.install target handler)).imp (fun _ _ _ => .install)
      fun _ hstuck => hstuck.imp fun _ _ _ _ => .install
  | clear next ih =>
    exact (ih (.clear service past)).imp (fun _ _ _ => .clear)
      fun _ hstuck => hstuck.imp fun _ _ _ _ => .clear
  | perform target request next ih =>
    have hends := h target request service past hstep
    unfold record
    rcases hrecorded : recorder target request service past with ⟨between, _ | ⟨result, after⟩⟩
    · rw [hrecorded] at hends
      exact ⟨target, request, service.state, past, .here service.state past, hends⟩
    · rw [hrecorded] at hends
      obtain ⟨hoperated, hafter⟩ := hends
      exact (ih result hafter).imp (fun _ _ _ => .perform hoperated)
        fun _ hstuck => hstuck.imp fun _ _ _ _ => .later hoperated

/-- The recorder routes every operation, however deep it may nest: by induction on the depth, over
the program of the handler. -/
theorem Service.record_routes (depth : Nat) : Routes depth (Service.record (σ := σ) depth) := by
  induction depth with
  | zero => exact fun slot request service past _ => .tooDeep service.state past slot request
  | succ depth ih =>
    intro slot request service past hstep
    unfold Service.record
    cases hslot : service.handlers slot with
    | none =>
      exact ⟨.missing (hstep.vacant slot hslot), (hstep.later fun _ => id).later fun _ => id⟩
    | some handler =>
      have hlatest := hstep.latest slot handler hslot
      -- the start and the call are noted, neither of which touches a slot
      have hnoted : InStep service (.call slot handler request :: .start slot request :: past) :=
        (hstep.later fun _ => id).later fun _ => id
      have hends := (handler request).record_routed ih hnoted
      dsimp only
      rcases hrecorded : (handler request).record (Service.record depth) service
          (.call slot handler request :: .start slot request :: past) with
        ⟨now, _ | ⟨answer, after⟩⟩
      · rw [hrecorded] at hends
        obtain ⟨inner, innerRequest, middle, between, hwants, hbroken⟩ := hends
        exact .inside hlatest hwants hbroken
      · rw [hrecorded] at hends
        obtain ⟨hrouted, hafter⟩ := hends
        exact ⟨.served hlatest hrouted (check_judged slot answer),
          (hafter.later fun _ => id).later fun _ => id⟩

/-! ## Callbacks -/

/-- The bytes that the VM passes. A null address passes none, whatever the length. -/
inductive Lent.Passes : Lent → List UInt8 → Prop where
  | null (length : Nat) : Passes ⟨none, length⟩ []
  | bytes (memory : List UInt8) (length : Nat) :
    Passes ⟨some memory, length⟩ (memory.take length)

/-- The operation that a use asks for. -/
inductive Call.Asks : Call → (slot : Slot) → slot.Request → Prop where
  | direct (slot : Slot) (request : slot.Request) : Asks (.direct slot request) slot request
  | vmGet {key : Lent} {bytes : List UInt8} (room : Room) :
    key.Passes bytes → Asks (.vmGet key room) .get bytes
  | vmSet {key value : Lent} {bytes bytes' : List UInt8} :
    key.Passes bytes → value.Passes bytes' → Asks (.vmSet key value) .set (bytes, bytes')
  | vmDiscard : Asks .vmDiscard .discard ()
  | vmCheckpoint : Asks .vmCheckpoint .checkpoint ()
  | vmHead : Asks .vmHead .head ()

/-- What a use hands back. -/
inductive Call.Hands : Call → (slot : Slot) → Except Fault slot.Result → Reply → Prop where
  | direct (slot : Slot) (request : slot.Request) (result : Except Fault slot.Result) :
    Hands (.direct slot request) slot result (.result slot result)
  | found (key : Lent) (room : Room) (value : Octets 32) :
    Hands (.vmGet key room) .get (.ok (some value)) (.room ⟨value, 32⟩)
  /-- The value in the room stays what it was. -/
  | absent (key : Lent) (room : Room) :
    Hands (.vmGet key room) .get (.ok none) (.room ⟨room.value, 0⟩)
  | stored (key value : Lent) : Hands (.vmSet key value) .set (.ok ()) .quiet
  | discarded : Hands .vmDiscard .discard (.ok ()) .quiet
  | committed (root : StateRoot) : Hands .vmCheckpoint .checkpoint (.ok root) (.root root)
  | told (root : StateRoot) : Hands .vmHead .head (.ok root) (.root root)
  /-- Only the host is told about a fault. -/
  | fatal {call : Call} {slot : Slot} (fault : Fault) :
    (∀ slot request, call ≠ .direct slot request) →
    Hands call slot (.error fault) (.fatal fault)

/-- What is lent passes as its contents, and as nothing where the address is null. -/
theorem Lent.passes_contents (lent : Lent) : lent.Passes lent.contents := by
  obtain ⟨bytes?, length⟩ := lent
  cases bytes? with
  | none => simpa [contents] using Passes.null length
  | some memory => exact .bytes memory length

/-- Every callback asks for the operation of its name. -/
theorem Call.asks_operation (call : Call) : call.Asks call.operation.1 call.operation.2 := by
  cases call with
  | direct slot request => exact .direct slot request
  | vmGet key room => exact .vmGet room key.passes_contents
  | vmSet key value => exact .vmSet key.passes_contents value.passes_contents
  | vmDiscard => exact .vmDiscard
  | vmCheckpoint => exact .vmCheckpoint
  | vmHead => exact .vmHead

/-- Every callback hands back what its operation came to. -/
theorem Call.hands_reply (call : Call) (result : Except Fault call.operation.1.Result) :
    call.Hands call.operation.1 result (call.reply result) := by
  cases call with
  | direct slot request => exact .direct slot request result
  | vmGet key room =>
    rcases result with fault | (_ | value)
    · exact .fatal fault fun _ _ h => nomatch h
    · exact .absent key room
    · exact .found key room value
  | vmSet key value =>
    rcases result with fault | _
    · exact .fatal fault fun _ _ h => nomatch h
    · exact .stored key value
  | vmDiscard =>
    rcases result with fault | _
    · exact .fatal fault fun _ _ h => nomatch h
    · exact .discarded
  | vmCheckpoint =>
    rcases result with fault | root
    · exact .fatal fault fun _ _ h => nomatch h
    · exact .committed root
  | vmHead =>
    rcases result with fault | root
    · exact .fatal fault fun _ _ h => nomatch h
    · exact .told root

/-! ## Whole runs -/

/-- A run of the store, from a shared state and a journal: what is done, and what is handed back and
left as the shared state unless the run does not end. It ends unless handlers run within one another
as deep as `depth` says. -/
inductive Followed (depth : Nat) : σ → Journal σ → List (Action σ) → Option (List Reply × σ) →
    Journal σ → Prop where
  | nil (state : σ) (past : Journal σ) : Followed depth state past [] (some ([], state)) past
  | install {state : σ} {past last : Journal σ} {actions : List (Action σ)}
    {out : Option (List Reply × σ)} (slot : Slot) (handler : Handler σ slot) :
    Followed depth state (.install slot handler :: past) actions out last →
    Followed depth state past (.install slot handler :: actions) (out.map (Prod.map (.quiet :: ·) id))
      last
  | clear {state : σ} {past last : Journal σ} {actions : List (Action σ)}
    {out : Option (List Reply × σ)} :
    Followed depth state (.clear :: past) actions out last →
    Followed depth state past (.clear :: actions) (out.map (Prod.map (.quiet :: ·) id)) last
  | use {state after : σ} {past now last : Journal σ} {actions : List (Action σ)}
    {out : Option (List Reply × σ)} {call : Call} {slot : Slot} {request : slot.Request}
    {result : Except Fault slot.Result} {reply : Reply} :
    call.Asks slot request → Operated state past slot request result after now →
    call.Hands slot result reply → (∀ fault, reply ≠ .fatal fault) →
    Followed depth after now actions out last →
    Followed depth state past (.use call :: actions) (out.map (Prod.map (reply :: ·) id)) last
  /-- Nothing is done any more after a fault in a callback. -/
  | fatal {state after : σ} {past now : Journal σ} {call : Call} {slot : Slot}
    {request : slot.Request} {fault : Fault} (actions : List (Action σ)) :
    call.Asks slot request → Operated state past slot request (.error fault) after now →
    call.Hands slot (.error fault) (.fatal fault) →
    Followed depth state past (.use call :: actions) (some ([.fatal fault], after)) now
  | broken {state : σ} {past last : Journal σ} {call : Call} {slot : Slot}
    {request : slot.Request} (actions : List (Action σ)) :
    call.Asks slot request → Broken depth state past slot request last →
    Followed depth state past (.use call :: actions) none last

/-- What a run shows in the end: the replies, and the shared state. -/
def shown (out : List Reply × Service σ) : List Reply × σ := (out.1, out.2.state)

/-- Only a fault ends the process. -/
theorem Call.Hands.exists_fault {call : Call} {slot : Slot} {result : Except Fault slot.Result}
    {fault : Fault} (h : call.Hands slot result (.fatal fault)) : result = .error fault := by
  cases h with
  | fatal _ _ => rfl

/-- A run with a journal is followed from use to use, if the slots are in step with the journal. -/
theorem recordRun_followed (depth : Nat) (actions : List (Action σ)) {service : Service σ}
    {past : Journal σ} (hstep : InStep service past) :
    Followed depth service.state past actions ((service.recordRun depth past actions).2.map shown)
      (service.recordRun depth past actions).1 := by
  induction actions generalizing service past with
  | nil => exact .nil service.state past
  | cons action actions ih =>
    cases action with
    | install slot handler =>
      have hrest := ih (hstep.install slot handler)
      simpa [Service.recordRun, Service.recordAct, Reply.isFatal, Function.comp_def, shown] using
        Followed.install slot handler hrest
    | clear =>
      have hrest := ih (.clear service past)
      simpa [Service.recordRun, Service.recordAct, Reply.isFatal, Function.comp_def, shown] using
        Followed.clear hrest
    | use call =>
      have hends := Service.record_routes depth call.operation.1 call.operation.2 service past hstep
      have hasks := call.asks_operation
      unfold Service.recordRun Service.recordAct
      dsimp only
      rcases hrecorded : Service.record depth call.operation.1 call.operation.2 service past with
        ⟨now, _ | ⟨result, after⟩⟩
      · rw [hrecorded] at hends
        exact .broken actions hasks hends
      · rw [hrecorded] at hends
        obtain ⟨hoperated, hafter⟩ := hends
        have hhands := call.hands_reply result
        dsimp only [Option.map_some]
        split
        · next hfatal =>
          obtain ⟨fault, hreply⟩ := Reply.isFatal_iff.1 hfatal
          rw [hreply] at hhands ⊢
          obtain rfl := hhands.exists_fault
          exact .fatal actions hasks hoperated hhands
        · next hfatal =>
          have hrest := Followed.use hasks hoperated hhands
            (fun fault hreply => hfatal (Reply.isFatal_iff.2 ⟨fault, hreply⟩)) (ih hafter)
          simpa [Function.comp_def, shown] using hrest

/-- Every run of the store, from its beginning, is routed from use to use, whatever its handlers do
with the slots, the operations and the state that they share. The run with a journal is the run
itself, and an operation fails for want of a handler exactly if its slot is vacant. -/
theorem run_followed (depth : Nat) (state : σ) (actions : List (Action σ)) :
    ((Service.new state).recordRun depth [] actions).2 = (Service.new state).run? depth actions ∧
      Followed depth state [] actions (((Service.new state).run? depth actions).map shown)
        ((Service.new state).recordRun depth [] actions).1 ∧
      ∀ (before after : σ) (past now : Journal σ) (slot : Slot) (request : slot.Request)
        (result : Except Fault slot.Result), Operated before past slot request result after now →
        (result = .error (.missingHandler slot) ↔ Vacant slot past) := by
  have hrun := (Service.new state).recordRun_snd depth [] actions
  refine ⟨hrun, ?_, fun _ _ _ _ _ _ _ h => h.missing_iff⟩
  rw [← hrun]
  exact recordRun_followed depth actions (.new state)

/-- A handler that removes all handlers still answers, and the next lookup finds none. -/
example : ((Service.new ()).run? 1 [.install .get fun _ => .clear (.finish none),
      .use (.direct .get []), .use (.direct .get [])]).map Prod.fst =
    some [.quiet, .result .get (.ok none), .result .get (.error (.missingHandler .get))] := rfl

end HostBridge.StateStore
