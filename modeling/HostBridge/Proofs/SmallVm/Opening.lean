import HostBridge.Proofs.SmallVm.Replies
import HostBridge.Proofs.SmallVm.Entries

/-!
# Opening a session with the small VM

Whether a session can be opened depends on nothing but the imports and the settings (`admits`). A
session that was opened has the VM know every import that was offered, in the order in which they
were added, and nothing else (`Opened`, `opened`).
-/

namespace HostBridge.SmallVm

open Session (offerOf offerImport offerImports createRuntime furnish establish start)

/-! ## What becomes of imports -/

/-- An import as the VM keeps it. -/
def acceptedOf (space : String) (entry : Import) : Accepted :=
  ⟨space, entry.binding.name, ValueType.tags entry.binding.params,
    ValueType.tags entry.binding.returns, entry.binding⟩

/-- The reason for which the first import that is refused is refused. -/
def refusal? (space : String) : List Import → Option SessionError
  | [] => none
  | entry :: entries =>
    match Session.tooLong? (offerOf space entry) with
    | some error => some (.encode error)
    | none =>
      if entry.binding.name = "reject" then
        some (.imports (.rejected entry.binding.name "import name is reserved"))
      else refusal? space entries

/-- The reason for which there is no runtime over the imports. -/
def complaint? (space : String) (entries : List Import) : Option SessionError :=
  match refusal? space entries with
  | some error => some error
  | none =>
    if entries ≠ [] ∧ space = "" then some (.creation "empty import namespace") else none

/-- The reason for which there is no table of the imports, or no runtime over it. -/
def objection? (space : String) (entries : List Import) : Option SessionError :=
  match RawBuffer.checkedLength entries.length with
  | .error error => some (.encode error)
  | .ok _ => complaint? space entries

/-- Whether a session can be opened over these imports with these settings. -/
def admits (imports : Imports) (config : Config) : Except SessionError Unit :=
  match config.check with
  | .error error => .error (.config error)
  | .ok () =>
    match objection? (imports.space.getD config.importSpace) imports.entries with
    | some error => .error error
    | none => .ok ()

/-! ## Steps of an opening -/

/-- Where the VM's state is `before`, the action ends with the result and leaves the state `after`.
It leaves the host functions as they are. -/
def Comes {α : Type} (buffers : List Buffer) (before : State) (action : InWorld State α)
    (result : α) (after : State) : Prop :=
  ∀ world : World State, world.Owes buffers → world.vm = before →
    ∃ last, action world = .ok (result, last) ∧ last.Owes buffers ∧
      last.host.functions = world.host.functions ∧ last.vm = after

section opening

variable {α β : Type} {buffers : List Buffer} {before between after : State} {space : String}

namespace Comes

/-- Nothing happens where a result is only handed back. -/
theorem pure (state : State) (result : α) :
    Comes buffers state (Pure.pure result) result state := by
  intro world howes hvm
  exact ⟨world, rfl, howes, rfl, hvm⟩

/-- What is recorded changes nothing about what happens next. -/
theorem record {call : Vm.Call} {next : InWorld State α} {result : α}
    (h : Comes buffers before next result after) :
    Comes buffers before (InWorld.record call >>= fun _ => next) result after := by
  intro world howes hvm
  exact h { world with calls := world.calls ++ [call] } ⟨howes.owes, howes.side_eq⟩ hvm

/-- A program that changes nothing, and what follows it. -/
theorem run_bind {program : VmProgram State β} {value : β} {next : β → InWorld State α}
    {result : α} (hrun : ∀ world : World State, world.vm = before →
      program.run world = .ok (value, world))
    (h : Comes buffers before (next value) result after) :
    Comes buffers before (program.run >>= next) result after := by
  intro world howes hvm
  rw [InWorld.bind_of_ok (hrun world hvm)]
  exact h world howes hvm

/-- One thing happens, and then the other. -/
theorem bind {first : InWorld State α} {next : α → InWorld State β} {value : α} {result : β}
    (hfirst : Comes buffers before first value between)
    (hnext : Comes buffers between (next value) result after) :
    Comes buffers before (first >>= next) result after := by
  intro world howes hvm
  obtain ⟨middle, hrun, howes', hfunctions, hvm'⟩ := hfirst world howes hvm
  obtain ⟨last, hlast, howes'', hfunctions', hvm''⟩ := hnext middle howes' hvm'
  exact ⟨last, (InWorld.bind_of_ok hrun).trans hlast, howes'', hfunctions'.trans hfunctions, hvm''⟩

/-- A reply is settled, and the host learns what the VM replied. -/
theorem settle_bind {reply : Vm.Reply} {next : Vm.Answer → InWorld State α} {result : α}
    (h : ∀ answer : Vm.Answer, answer.Reports reply →
      Comes buffers before (next answer) result after) :
    Comes buffers before (InWorld.settle reply >>= next) result after := by
  intro world howes hvm
  obtain ⟨answer, settled, hsettle, howes', hsettles⟩ := InWorld.settle_run howes.owes reply
  obtain ⟨last, hlast, howes'', hfunctions, hvm'⟩ :=
    h answer hsettles.reports settled ⟨howes', howes.side_eq⟩ (hsettles.vm_eq.trans hvm)
  exact ⟨last, (InWorld.bind_of_ok hsettle).trans hlast, howes'',
    hfunctions.trans hsettles.functions_eq, hvm'⟩

/-- An entry point is called that makes something of the VM's state alone. -/
theorem exchange_bind {call : Vm.Call} {program : VmProgram State Vm.Reply} {reply : Vm.Reply}
    {counted : Vm.Reply → Vm.Reply} {next : Vm.Answer → InWorld State α} {result : α}
    (hrun : ∀ world : World State, world.vm = before →
      program.run world = .ok (reply, { world with vm := between }))
    (h : ∀ answer : Vm.Answer, answer.Reports (counted reply) →
      Comes buffers between (next answer) result after) :
    Comes buffers before (InWorld.exchange call program counted >>= next) result after := by
  intro world howes hvm
  have hcalled : program.run (world.noted call) = _ := hrun (world.noted call) hvm
  obtain ⟨index, hrun', -, -⟩ |
      ⟨reply', returned, answer, settled, hrun', -, hexchange, howes', hsettles⟩ :=
    InWorld.exchange_cases howes call program counted
  · cases hcalled.symm.trans hrun'
  · cases hcalled.symm.trans hrun'
    obtain ⟨last, hlast, howes'', hfunctions, hvm'⟩ :=
      h answer hsettles.reports settled ⟨howes', howes.side_eq⟩ hsettles.vm_eq
    exact ⟨last, (InWorld.bind_of_ok hexchange).trans hlast, howes'',
      hfunctions.trans hsettles.functions_eq, hvm'⟩

end Comes

/-- The host learns the message of a refusal. -/
theorem decodeLossy_of_reports {answer : Vm.Answer} {reason : String}
    (h : answer.Reports (refuseText reason).withoutReceipt) :
    answer.code ≠ 0 ∧ Utf8.decodeLossy answer.error.contents = reason := by
  have hcode : answer.code = 1 := h.code_eq
  have herror : answer.error.contents = Utf8.encode reason :=
    h.error.contents_eq.trans (getD_outBuffer _)
  rw [hcode, herror]
  exact ⟨by decide, Utf8.decodeLossy_encode reason⟩

/-! ## Imports -/

/-- An import that is offered is accepted unless its name is reserved. -/
theorem run_offer (space : String) (entry : Import) (world : World State) :
    (vm.addImport (offerOf space entry)).run world =
      if entry.binding.name = "reject" then .ok (refuseText "import name is reserved", world)
      else .ok (accept, { world with
        vm := { world.vm with imports := world.vm.imports ++ [acceptedOf space entry] } }) := by
  rw [run_addImport]
  simp only [offerOf, Utf8.decodeLossy_encode]
  rfl

/-- An import with any other name is accepted, behind those that were. -/
theorem comes_offerImport (entry : Import) (hlong : Session.tooLong? (offerOf space entry) = none)
    (hname : entry.binding.name ≠ "reject") :
    Comes buffers before (offerImport vm space entry) (.ok ())
      { before with imports := before.imports ++ [acceptedOf space entry] } := by
  have hrun : ∀ world : World State, world.vm = before →
      (vm.addImport (offerOf space entry)).run world = .ok (accept, { world with
        vm := { before with imports := before.imports ++ [acceptedOf space entry] } }) := by
    rintro world rfl
    rw [run_offer, if_neg hname]
  unfold offerImport
  dsimp only
  rw [hlong]
  refine .exchange_bind hrun fun answer hreports => ?_
  have hcode : answer.code = 0 := hreports.code_eq
  rw [if_pos hcode]
  exact .pure _ _

/-- The import with the reserved name is rejected, and nothing is kept. -/
theorem comes_offerImport_of_reserved (entry : Import)
    (hlong : Session.tooLong? (offerOf space entry) = none)
    (hname : entry.binding.name = "reject") :
    Comes buffers before (offerImport vm space entry)
      (.error (.imports (.rejected entry.binding.name "import name is reserved"))) before := by
  have hrun : ∀ world : World State, world.vm = before →
      (vm.addImport (offerOf space entry)).run world =
        .ok (refuseText "import name is reserved", { world with vm := before }) := by
    rintro world rfl
    rw [run_offer, if_pos hname]
  unfold offerImport
  dsimp only
  rw [hlong]
  refine .exchange_bind hrun fun answer hreports => ?_
  obtain ⟨hcode, hreason⟩ := decodeLossy_of_reports hreports
  rw [if_neg hcode, hreason]
  exact .pure _ _

/-- An import that cannot be lent does not reach the VM. -/
theorem comes_offerImport_of_tooLong (entry : Import) {error : EncodeError}
    (hlong : Session.tooLong? (offerOf space entry) = some error) :
    Comes buffers before (offerImport vm space entry) (.error (.encode error)) before := by
  unfold offerImport
  dsimp only
  rw [hlong]
  exact .pure _ _

/-- The imports are offered in turn, up to the first that is refused. -/
theorem comes_offerImports (entries : List Import) (before : State) :
    (refusal? space entries = none ∧ Comes buffers before (offerImports vm space entries) (.ok ())
      { before with imports := before.imports ++ entries.map (acceptedOf space) }) ∨
    ∃ error after, refusal? space entries = some error ∧
      Comes buffers before (offerImports vm space entries) (.error error) after := by
  induction entries generalizing before with
  | nil =>
    refine .inl ⟨rfl, ?_⟩
    rw [List.map_nil, List.append_nil]
    exact .pure _ _
  | cons entry entries ih =>
    unfold refusal?
    cases hlong : Session.tooLong? (offerOf space entry) with
    | some error =>
      exact .inr ⟨_, before, rfl, (comes_offerImport_of_tooLong entry hlong).bind (.pure _ _)⟩
    | none =>
      dsimp only
      split
      · next hname =>
        exact .inr ⟨_, before, rfl,
          (comes_offerImport_of_reserved entry hlong hname).bind (.pure _ _)⟩
      · next hname =>
        rcases ih { before with imports := before.imports ++ [acceptedOf space entry] } with
          ⟨hrefusal, hrest⟩ | ⟨error, after, hrefusal, hrest⟩
        · refine .inl ⟨hrefusal, ?_⟩
          rw [List.append_assoc] at hrest
          exact (comes_offerImport entry hlong hname).bind hrest
        · exact .inr ⟨error, after, hrefusal, (comes_offerImport entry hlong hname).bind hrest⟩

/-! ## Runtimes -/

/-- A runtime is made unless an import has no namespace. -/
theorem comes_createRuntime : Comes buffers before (createRuntime vm)
    (if before.imports.any (·.space.isEmpty) then .error (.creation "empty import namespace")
      else .ok true) before := by
  unfold createRuntime
  refine .record ?_
  split
  · next hspace =>
    have hrun : ∀ world : World State, world.vm = before → vm.create.run world =
        .ok ((false, refuseText "empty import namespace"), world) := by
      rintro world rfl
      rw [run_create, if_pos hspace]
    refine .run_bind hrun (.record (.settle_bind fun answer hreports => ?_))
    obtain ⟨hcode, hreason⟩ := decodeLossy_of_reports hreports
    rw [if_neg hcode, hreason]
    exact .pure _ _
  · next hspace =>
    have hrun : ∀ world : World State, world.vm = before → vm.create.run world =
        .ok ((true, accept), world) := by
      rintro world rfl
      rw [run_create, if_neg hspace]
    refine .run_bind hrun (.record (.settle_bind fun answer hreports => ?_))
    have hcode : answer.code = 0 := hreports.code_eq
    rw [if_pos hcode]
    exact .pure _ _

/-- An import has an empty namespace just if all have, and there is one. -/
theorem any_isEmpty_acceptedOf (space : String) (entries : List Import) :
    (entries.map (acceptedOf space)).any (·.space.isEmpty) = true ↔
      entries ≠ [] ∧ space = "" := by
  cases entries with
  | nil => simp
  | cons entry entries => simp [acceptedOf]

/-- A runtime is made over the imports unless there is a complaint. -/
theorem comes_furnish (space : String) (entries : List Import) :
    (complaint? space entries = none ∧
      Comes buffers .initial (furnish vm space entries) (.ok true)
        { State.initial with imports := entries.map (acceptedOf space) }) ∨
    ∃ error after, complaint? space entries = some error ∧
      Comes buffers .initial (furnish vm space entries) (.error error) after := by
  unfold complaint?
  rcases comes_offerImports entries .initial with
    ⟨hrefusal, hoffer⟩ | ⟨error, after, hrefusal, hoffer⟩
  · rw [hrefusal]
    have hcreate : Comes buffers { State.initial with imports := entries.map (acceptedOf space) }
        (createRuntime vm) _ _ := comes_createRuntime
    by_cases hspace : entries ≠ [] ∧ space = ""
    · rw [if_pos ((any_isEmpty_acceptedOf space entries).2 hspace)] at hcreate
      exact .inr ⟨_, _, if_pos hspace, hoffer.bind hcreate⟩
    · rw [if_neg (mt (any_isEmpty_acceptedOf space entries).1 hspace)] at hcreate
      exact .inl ⟨if_neg hspace, hoffer.bind hcreate⟩
  · rw [hrefusal]
    exact .inr ⟨error, after, rfl, hoffer.bind (.pure _ _)⟩

/-- Giving the table back leaves the state of the VM. -/
theorem comes_destroyTable : Comes buffers before (Session.destroyTable vm true) () before := by
  have hrun : ∀ world : World State, world.vm = before →
      vm.destroyImports.run world = .ok ((), world) := fun _ _ => rfl
  exact .record (.run_bind hrun (.pure _ _))

/-- A table of the imports and a runtime over it are made unless there is an objection. -/
theorem comes_establish (space : String) (entries : List Import) :
    (objection? space entries = none ∧
      Comes buffers .initial (establish vm space entries) (.ok (true, true))
        { State.initial with imports := entries.map (acceptedOf space) }) ∨
    ∃ error after, objection? space entries = some error ∧
      Comes buffers .initial (establish vm space entries) (.error error) after := by
  unfold objection? establish
  cases RawBuffer.checkedLength entries.length with
  | error error => exact .inr ⟨_, _, rfl, .pure _ _⟩
  | ok count =>
    have htable : ∀ world : World State, world.vm = .initial →
        (vm.allocateImports count).run world = .ok (true, world) := fun _ _ => rfl
    dsimp only
    rcases comes_furnish space entries with
      ⟨hcomplaint, hfurnish⟩ | ⟨error, after, hcomplaint, hfurnish⟩
    · exact .inl ⟨hcomplaint, .record (.run_bind htable (.record (hfurnish.bind (.pure _ _))))⟩
    · exact .inr ⟨error, after, hcomplaint, .record (.run_bind htable (.record
        (hfurnish.bind (comes_destroyTable.bind (.pure _ _)))))⟩

end opening

/-! ## Openings -/

/-- What becomes of the attempt to open a session with the small VM. -/
inductive Opened (imports : Imports) (config : Config) (host : Host) :
    Except Breach (Session.Opening State) → Prop where
  | refused {error : SessionError} {calls : List Vm.Call} {after : Host} :
    admits imports config = .error error → after.functions = host.functions →
    after.boundary.Sound → Opened imports config host (.ok ⟨.error error, calls, after⟩)
  /-- The VM knows the imports that were offered, in their order. -/
  | opened {session : Session State} {calls : List Vm.Call} {after : Host} :
    admits imports config = .ok () → after.functions = host.functions → session.Idle after →
    session.config = config → session.imports = imports.entries →
    session.vm = { State.initial with imports := imports.entries.map (acceptedOf session.space) } →
    Opened imports config host (.ok ⟨.ok session, calls, after⟩)

/-- An attempt to open a session ends as the imports and the settings have it. -/
theorem opened {host : Host} (hsound : host.boundary.Sound) (imports : Imports)
    (config : Config) : Opened imports config host (start vm .initial imports config host) := by
  cases hcheck : config.check with
  | error error =>
    have hadmits : admits imports config = .error (.config error) := by
      unfold admits
      rw [hcheck]
    rw [Session.start_of_check_error hcheck]
    exact .refused hadmits rfl hsound
  | ok _ =>
    have hworld : (Session.outset State.initial host).Owes host.own :=
      Session.owes_outset hsound State.initial
    have hadmits : admits imports config =
        match objection? (imports.space.getD config.importSpace) imports.entries with
        | some error => .error error
        | none => .ok () := by
      unfold admits
      rw [hcheck]
    rcases comes_establish (imports.space.getD config.importSpace)
        imports.entries with ⟨hobjection, hcomes⟩ | ⟨error, after, hobjection, hcomes⟩
    · obtain ⟨last, hestablish, howes, hfunctions, hvm⟩ := hcomes _ hworld rfl
      rw [hobjection] at hadmits
      rw [Session.start_of_check hcheck, hestablish]
      exact .opened hadmits hfunctions ⟨howes.owes.toSound, howes.vmLive_eq_nil⟩ rfl rfl hvm
    · obtain ⟨last, hestablish, howes, hfunctions, -⟩ := hcomes _ hworld rfl
      rw [hobjection] at hadmits
      rw [Session.start_of_check hcheck, hestablish]
      exact .refused hadmits hfunctions howes.owes.toSound

/-- An attempt to open a session always ends. -/
theorem exists_opening {host : Host} (hsound : host.boundary.Sound) (imports : Imports)
    (config : Config) : ∃ opening, start vm .initial imports config host = .ok opening ∧
      Opened imports config host (.ok opening) := by
  have hopened := opened hsound imports config
  cases hstart : start vm .initial imports config host with
  | error breach =>
    rw [hstart] at hopened
    cases hopened
  | ok opening => exact ⟨opening, rfl, hstart ▸ hopened⟩

end HostBridge.SmallVm
