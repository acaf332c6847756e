import HostBridge.Proofs.SmallVm.Calls

/-!
# The small VM on paper

What a session with the small VM answers, worked out from the VM's state and the table of host
functions alone (`State.answer`). The buffers that pass between the host and the VM, the ledgers and
the record of calls have no part in it: a session answers, and goes on, just as it is worked out
(`ask_answer`, `askAll_answerAll`).
-/

namespace HostBridge.SmallVm

/-! ## Working it out -/

/-- What the VM makes of a request by itself. -/
inductive Move where
  | reply (reply : Vm.Reply) (after : State)
  /-- An import is to be called on behalf of an app, whose executions are counted already. -/
  | call (app : Address) (count : UInt64) (name : String) (arguments : List UInt8) (after : State)

namespace State

def move (state : State) : Request → Move
  | .validate _ transaction =>
    .reply (if transaction.isEmpty then refuseText "empty transaction" else accept) state
  | .run .deploy transaction principal gasMetering gasLimit =>
    let gas := UInt64.ofNat transaction.length
    let template := templateAddress principal transaction
    if gasMetering ∧ gas > gasLimit then .reply (report .outOfGas) state
    else .reply (handOut (.deploy ⟨⟨0, true⟩, template, if gasMetering then gas else 0, []⟩))
      { state with templates := template :: state.templates }
  | .run .spawn transaction _ _ _ =>
    let template : Address := .ofBytes transaction
    if template ∈ state.templates then
      .reply (handOut (.spawn ⟨⟨0, true⟩, counterpart template,
        ⟨.zero, Calldata.encodeItem .unit, 0, []⟩⟩)) (state.setCount (counterpart template) 0)
    else .reply (report (.templateNotFound template)) state
  | .run .exec transaction app _ _ =>
    match state.count? app with
    | none => .reply (report (.appNotFound app)) state
    | some before =>
      let counted := state.setCount app (before + 1)
      match splitCall? transaction with
      | none => .reply (refuseText "malformed exec transaction") counted
      | some (name, arguments) =>
        if name = "__abort" then .reply (handOut (.exec ⟨⟨0, false⟩, .empty⟩)) counted
        else .call app (before + 1) name arguments counted

/-- What the VM replies, and what is left of the VM and the table then. -/
def serve (state : State) (functions : Registry) (request : Request) :
    Except Breach (Vm.Reply × State × Registry) :=
  match state.move request with
  | .reply reply after => .ok (reply, after, functions)
  | .call app count name arguments after =>
    match state.imports.find? (·.name == name) with
    | none => .ok (report (.functionNotFound (counterpart app) app name), after, functions)
    | some accepted =>
      (accepted.binding.dispatch functions arguments).map fun (answer, grown) =>
        (replyTo app accepted count answer, after, grown)

/-- What the caller is told. The VM is not called for a transaction that it cannot be shown. -/
def answer (state : State) (functions : Registry) (request : Request) :
    Except Breach (Except SessionError (Option Receipt) × State × Registry) :=
  if RawBuffer.maxLength < request.transaction.length then
    .ok (.error (.encode (.bytesTooLong request.transaction.length RawBuffer.maxLength)), state,
      functions)
  else
    (state.serve functions request).map fun (reply, after, grown) =>
      (request.told reply, after, grown)

/-- What the caller is told of one request after the other. -/
def answerAll (state : State) (functions : Registry) :
    List Request → Except Breach (List (Except SessionError (Option Receipt)))
  | [] => .ok []
  | request :: requests =>
    match state.answer functions request with
    | .error breach => .error breach
    | .ok (result, after, grown) => (after.answerAll grown requests).map (result :: ·)

end State

/-! ## The VM does as it is worked out -/

section run

variable {shown : World State} {request : Request} {transaction address : RawBuffer}

/-- What is left when an entry point has returned. -/
def outline {α : Type} (done : α × World State) : α × State × Registry :=
  (done.1, done.2.vm, done.2.host.functions)

/-- In outline, an accepted import is called by dispatching on the table alone. -/
theorem run_callAccepted_outline (world : World State) (app : Address) (accepted : Accepted)
    (count : UInt64) (arguments : List UInt8) :
    ((callAccepted app accepted count arguments).run world).map outline =
      (accepted.binding.dispatch world.host.functions arguments).map fun (answer, grown) =>
        (replyTo app accepted count answer, world.vm, grown) := by
  cases hdispatch : accepted.binding.dispatch world.host.functions arguments with
  | error breach =>
    have hcallback : accepted.binding.callback world.host (some arguments) = .error breach := by
      unfold Binding.callback
      rw [Option.getD_some, hdispatch]
      rfl
    have hcall : (VmProgram.callImport accepted.binding (some arguments) :
        VmProgram State Binding.Reply).run world = .error breach := by
      rw [VmProgram.callImport, VmProgram.run_call, hcallback]
    unfold callAccepted
    rw [VmProgram.run_bind, hcall]
    rfl
  | ok done =>
    obtain ⟨answer, functions⟩ := done
    obtain ⟨after, hrun, hfunctions⟩ := run_callAccepted world app accepted count hdispatch
    have hvm : after.vm = world.vm :=
      leavesState_callAccepted app accepted count arguments world _ after hrun
    rw [hrun]
    show Except.ok (_, after.vm, after.host.functions) = _
    rw [hvm, hfunctions]
    rfl

/-- An entry point that is shown the bytes of a request does as it is worked out. -/
theorem run_program_outline (hlent : request.Lent shown.host.boundary transaction address)
    (hempty : ∀ kind bytes, request = .validate kind bytes →
      transaction.isEmpty = bytes.isEmpty) :
    ((request.program vm transaction address).run shown).map outline =
      shown.vm.serve shown.host.functions request := by
  have htransaction := hlent.transaction_eq
  have haddress := hlent.address_eq
  cases request with
  | validate kind bytes =>
    show ((vm.validate kind transaction).run shown).map outline = _
    show Except.ok (if transaction.isEmpty then _ else _, _, _) = Except.ok (_, _, _)
    rw [hempty kind bytes rfl]
  | run kind bytes recipient gasMetering gasLimit =>
    replace htransaction : shown.host.boundary.contents transaction = bytes := htransaction
    replace haddress : shown.host.boundary.contents address = recipient.toList := haddress
    cases kind with
    | deploy =>
      show ((deploy _).run shown).map outline = _
      rw [run_deploy]
      simp only [htransaction, haddress, Octets.ofBytes_toList, State.serve, State.move]
      split <;> rfl
    | spawn =>
      show ((spawn _).run shown).map outline = _
      rw [run_spawn]
      simp only [htransaction, State.serve, State.move]
      split <;> rfl
    | exec =>
      show ((exec _).run shown).map outline = _
      rw [run_exec]
      simp only [htransaction, haddress, Octets.ofBytes_toList, State.serve, State.move]
      cases shown.vm.count? recipient with
      | none => rfl
      | some before =>
        dsimp only
        cases splitCall? bytes with
        | none => rfl
        | some call =>
          obtain ⟨name, arguments⟩ := call
          dsimp only
          split
          · rfl
          · dsimp only
            cases shown.vm.imports.find? (·.name == name) with
            | none => rfl
            | some accepted =>
              exact run_callAccepted_outline _ recipient accepted (before + 1) arguments

end run

/-! ## A session answers as it is worked out -/

section session

variable {session : Session State} {host : Host}

/-- An empty transaction is lent as the empty buffer. -/
theorem serve_validate_nil (kind : TransactionKind) (world : World State) :
    Session.serve vm (.validate kind []) world =
      Session.serveLent vm .empty .empty (.validate kind []) world := by
  have hlend : InWorld.lend [] world = .ok (.ok ⟨.host, .empty⟩, world) := rfl
  have hdrop : ∀ last : World State, InWorld.drop ⟨.host, .empty⟩ last = .ok ((), last) :=
    fun _ => rfl
  show Session.lending [] (Session.validateLent vm kind) world =
    Session.validateLent vm kind .empty world
  unfold Session.lending
  rw [InWorld.bind_of_ok hlend]
  cases hvalidate : Session.validateLent vm kind .empty world with
  | error breach => exact InWorld.bind_of_error hvalidate
  | ok done => exact (InWorld.bind_of_ok hvalidate).trans (InWorld.bind_of_ok (hdrop done.2))

/-- What a session makes of an empty transaction that is to be validated. -/
theorem ask_validate_nil (hidle : session.Idle host) (kind : TransactionKind) :
    (session.ask vm host (.validate kind [])).map (fun (result, after, last) =>
        (result, after.vm, last.functions)) =
      session.vm.answer host.functions (.validate kind []) := by
  have hlent : (Request.validate kind []).Lent (session.world host).host.boundary .empty .empty :=
    ⟨Boundary.contents_of_isNull rfl, Boundary.contents_of_isNull rfl⟩
  obtain ⟨index, hrun, -, -⟩ |
      ⟨reply, returned, answer, after, hrun, -, hserve, -, hsettles⟩ :=
    Session.serveLent_cases hidle.owes vm hlent rfl
  · cases hrun
  · cases hrun
    have hvm : after.vm = session.vm := hsettles.vm_eq
    have hfunctions : after.host.functions = host.functions := hsettles.functions_eq
    rw [← serve_validate_nil] at hserve
    rw [Session.ask_of_ok hserve, Request.finish_verdict,
      Request.outcome_of_reports hsettles.reports, ← hvm, ← hfunctions]
    rfl

/-- A buffer that holds bytes is not empty. -/
theorem isEmpty_of_contents {boundary : Boundary} {raw : RawBuffer}
    (h : boundary.contents raw ≠ []) : raw.isEmpty = false := by
  cases hempty : raw.isEmpty with
  | false => rfl
  | true =>
    have hlength : raw.length = 0 := by simpa [RawBuffer.isEmpty] using hempty
    refine absurd ?_ h
    unfold Boundary.contents
    rw [hlength, List.take_zero, ite_self]

/-- What a session answers, and how it goes on, can be worked out. -/
theorem ask_answer (hidle : session.Idle host) (request : Request) :
    (session.ask vm host request).map (fun (result, after, last) =>
        (result, after.vm, last.functions)) =
      session.vm.answer host.functions request := by
  by_cases hnil : ∃ kind, request = .validate kind []
  · obtain ⟨kind, rfl⟩ := hnil
    exact ask_validate_nil hidle kind
  by_cases hlength : request.transaction.length ≤ RawBuffer.maxLength
  · have hrun : ∀ {shown transaction address},
        request.Shown (session.world host) shown transaction address →
        ((request.program vm transaction address).run shown).map outline =
          session.vm.serve host.functions request := by
      intro shown transaction address hshown
      have hvm : shown.vm = session.vm := hshown.vm_eq
      have hfunctions : shown.host.functions = host.functions := hshown.functions_eq
      rw [← hvm, ← hfunctions]
      refine run_program_outline hshown.toLent ?_
      rintro kind bytes rfl
      have hbytes : bytes ≠ [] := fun heq => hnil ⟨kind, heq ▸ rfl⟩
      have hcontents : shown.host.boundary.contents transaction = bytes := hshown.transaction_eq
      rw [isEmpty_of_contents (hcontents ▸ hbytes), List.isEmpty_eq_false_iff.2 hbytes]
    have hturn := Session.turn hidle vm request
    generalize session.ask vm host request = outcome at hturn ⊢
    unfold State.answer
    rw [if_neg (Nat.not_lt.2 hlength)]
    cases hturn with
    | tooLong hlong _ _ _ => exact absurd hlength (Nat.not_le.2 hlong)
    | ended hshown hprogram => rw [← hrun hshown, hprogram]; rfl
    | answered _ hshown hprogram hvm _ hfunctions =>
      rw [← hrun hshown, hprogram]
      show Except.ok (_, _, _) = Except.ok (_, _, _)
      rw [hvm, hfunctions]
  · have hlong := Nat.lt_of_not_le hlength
    unfold State.answer
    rw [if_pos hlong, Session.ask_of_ok (Session.serve_of_tooLong vm _ hlong)]
    cases request <;> rfl

/-- And so can what it answers to one request after the other. -/
theorem askAll_answerAll (hidle : session.Idle host) (requests : List Request) :
    (session.askAll vm host requests).map (fun (results, _) => results) =
      session.vm.answerAll host.functions requests := by
  induction requests generalizing session host with
  | nil => rfl
  | cons request requests ih =>
    have hanswer := ask_answer hidle request
    unfold Session.askAll State.answerAll
    rw [← hanswer]
    cases hask : session.ask vm host request with
    | error breach => rfl
    | ok done =>
      obtain ⟨result, after, last⟩ := done
      have hrest := ih (hidle.ask hask)
      show Except.map _ ((after.askAll vm last requests).bind _) =
        (after.vm.answerAll last.functions requests).map _
      rw [← hrest]
      cases after.askAll vm last requests <;> rfl

/-- A session gives the answer that is worked out for it, and goes on as was worked out. -/
theorem exists_ask_of_answer (hidle : session.Idle host) {request : Request}
    {result : Except SessionError (Option Receipt)} {state : State} {grown : Registry}
    (h : session.vm.answer host.functions request = .ok (result, state, grown)) :
    ∃ after last, session.ask vm host request = .ok (result, after, last) ∧ after.vm = state ∧
      last.functions = grown := by
  have hask := ask_answer hidle request
  rw [h] at hask
  cases hdone : session.ask vm host request with
  | error breach =>
    rw [hdone] at hask
    cases hask
  | ok done =>
    obtain ⟨answered, after, last⟩ := done
    rw [hdone] at hask
    obtain ⟨rfl, hrest⟩ := Prod.mk.inj (Except.ok.inj hask)
    obtain ⟨hvm, hfunctions⟩ := Prod.mk.inj hrest
    exact ⟨after, last, rfl, hvm, hfunctions⟩

end session

end HostBridge.SmallVm
