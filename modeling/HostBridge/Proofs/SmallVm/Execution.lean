import HostBridge.Proofs.SmallVm.Calls
import HostBridge.Proofs.SmallVm.Opening
import Mathlib.Data.List.Nodup

/-!
# Executions by the small VM

What an execution comes to in a session with the small VM that may have come about in any way
(`InUse`): the import that the transaction names is called with the arguments that stand in it, and
the caller gets what it answers (`InUse.executes`).
-/

namespace HostBridge.SmallVm

/-! ## Sessions in use -/

/-- The app that a request has spawned, behind its template. -/
def spawnedBy : Request → Except SessionError (Option Receipt) → List (Address × Address)
  | .run .spawn transaction _ _ _, .ok (some (.spawn receipt)) =>
    [(.ofBytes transaction, receipt.app)]
  | _, _ => []

/-- A session with the small VM that may have come about: opened over imports that were collected on
a host, asked one thing after the other, while the host may do other things in between. The pairs
are the apps that were spawned, each behind its template. -/
inductive InUse (imports : Imports) :
    List (Address × Address) → Session State → Host → Prop where
  | start (config : Config) {host after : Host} {session : Session State} {calls : List Vm.Call} :
    host.boundary.Sound → imports.Collected host.functions →
    Session.start vm .initial imports config host = .ok ⟨.ok session, calls, after⟩ →
    InUse imports [] session after
  | ask (request : Request) {spawned : List (Address × Address)} {session after : Session State}
      {host last : Host} {result : Except SessionError (Option Receipt)} :
    InUse imports spawned session host → session.ask vm host request = .ok (result, after, last) →
    InUse imports (spawnedBy request result ++ spawned) after last
  | elsewhere {spawned : List (Address × Address)} {session : Session State} {host last : Host} :
    InUse imports spawned session host → last.boundary.Sound →
    host.functions.Extends last.functions → InUse imports spawned session last

/-- What holds of a session in use. -/
structure Usable (imports : Imports) (spawned : List (Address × Address))
    (session : Session State) (host : Host) : Prop where
  idle : session.Idle host
  collected : imports.Collected host.functions
  imports_eq : ∃ space, session.vm.imports = imports.entries.map (acceptedOf space)
  spawned : ∀ template app, (template, app) ∈ spawned →
    (session.vm.count? app).isSome ∧ counterpart app = template

section use

variable {imports : Imports} {spawned : List (Address × Address)} {session : Session State}
  {host : Host} {template app : Address}

/-- A request that failed has spawned nothing. -/
theorem spawnedBy_error (request : Request) (error : SessionError) :
    spawnedBy request (.error error) = [] := by
  cases request with
  | validate kind transaction => rfl
  | run kind transaction caller gasMetering gasLimit => cases kind <;> rfl

/-- A spawn that is reported has made the VM know the app. -/
theorem mem_spawnedBy {request : Request} {world after : World State}
    {transaction address : RawBuffer} {reply : Vm.Reply}
    (hlent : request.Lent world.host.boundary transaction address)
    (hrun : (request.program vm transaction address).run world = .ok (reply, after))
    (hmem : (template, app) ∈ spawnedBy request (request.told reply)) :
    (after.vm.count? app).isSome ∧ counterpart app = template := by
  cases request with
  | validate kind bytes => cases hmem
  | run kind bytes caller gasMetering gasLimit =>
    cases kind with
    | deploy => simp [spawnedBy] at hmem
    | exec => simp [spawnedBy] at hmem
    | spawn =>
      have hbytes : world.host.boundary.contents transaction = bytes := hlent.transaction_eq
      change (spawn _).run world = _ at hrun
      rw [run_spawn] at hrun
      simp only [hbytes] at hrun
      split at hrun <;> cases hrun
      · obtain ⟨written, hreceipt⟩ := Receipt.exists_encode_spawn 0 (counterpart (.ofBytes bytes))
          ⟨.zero, Calldata.encodeItem .unit, 0, []⟩ (by decide) rfl
        have htold : (Request.run .spawn bytes caller gasMetering gasLimit).told (handOut _) = _ :=
          told_handOut hreceipt
        rw [htold] at hmem
        obtain ⟨rfl, rfl⟩ := Prod.mk.inj (List.mem_singleton.1 hmem)
        refine ⟨?_, counterpart_counterpart _⟩
        exact State.isSome_count?_setCount ..
      · rw [told_report rfl] at hmem
        cases hmem

/-- A session that could be opened is usable. -/
theorem usable_of_start {config : Config} {host after : Host} {session : Session State}
    {calls : List Vm.Call} (hsound : host.boundary.Sound)
    (hcollected : imports.Collected host.functions)
    (hstart : Session.start vm .initial imports config host = .ok ⟨.ok session, calls, after⟩) :
    Usable imports [] session after := by
  have hopened := opened hsound imports config
  rw [hstart] at hopened
  cases hopened with
  | opened _ hfunctions hidle _ _ hvm =>
    exact ⟨hidle, hfunctions ▸ hcollected, ⟨session.space, congrArg State.imports hvm⟩, nofun⟩

/-- A session stays usable whatever it is asked. -/
theorem Usable.ask {request : Request} {result : Except SessionError (Option Receipt)}
    {after : Session State} {last : Host} (h : Usable imports spawned session host)
    (hask : session.ask vm host request = .ok (result, after, last)) :
    Usable imports (spawnedBy request result ++ spawned) after last := by
  have hidle := h.idle.ask hask
  have hcollected := h.collected.elsewhere (Session.ask_extends h.idle hask)
  obtain ⟨space, himports⟩ := h.imports_eq
  have hturn := Session.turn h.idle vm request
  rw [hask] at hturn
  cases hturn with
  | tooLong _ hvm _ _ =>
    rw [spawnedBy_error, List.nil_append]
    exact ⟨hidle, hcollected, ⟨space, hvm ▸ himports⟩, hvm ▸ h.spawned⟩
  | answered _ hshown hrun hvm _ _ =>
    have hgrows : session.vm.Grows after.vm := by
      have hgrows := grows_of_run hrun
      rwa [hshown.vm_eq, ← hvm] at hgrows
    refine ⟨hidle, hcollected, ⟨space, hgrows.imports_eq.trans himports⟩,
      fun template app hmem => ?_⟩
    obtain hmem | hmem := List.mem_append.1 hmem
    · rw [hvm]
      exact mem_spawnedBy hshown.toLent hrun hmem
    · obtain ⟨hcount, htemplate⟩ := h.spawned template app hmem
      exact ⟨hgrows.isSome_count? app hcount, htemplate⟩

/-- A session in use has its imports and the spawned apps at hand. -/
theorem InUse.usable (h : InUse imports spawned session host) :
    Usable imports spawned session host := by
  induction h with
  | start config hsound hcollected hstart => exact usable_of_start hsound hcollected hstart
  | ask request _ hask ih => exact ih.ask hask
  | elsewhere _ hsound hextends ih =>
    exact ⟨⟨hsound, ih.idle.books_eq⟩, ih.collected.elsewhere hextends, ih.imports_eq, ih.spawned⟩

/-- Requests that are all answered are answered one after the other. -/
theorem exists_of_askAll_cons {request : Request} {requests : List Request}
    {results : List (Except SessionError (Option Receipt))} {after : Session State} {last : Host}
    (h : session.askAll vm host (request :: requests) = .ok (results, after, last)) :
    ∃ result middle between rest, session.ask vm host request = .ok (result, middle, between) ∧
      middle.askAll vm between requests = .ok (rest, after, last) ∧ results = result :: rest := by
  unfold Session.askAll at h
  cases hfirst : session.ask vm host request with
  | error breach =>
    rw [hfirst] at h
    cases h
  | ok done =>
    obtain ⟨result, middle, between⟩ := done
    rw [hfirst] at h
    change (middle.askAll vm between requests).bind _ = _ at h
    cases hrest : middle.askAll vm between requests with
    | error breach =>
      rw [hrest] at h
      cases h
    | ok out =>
      obtain ⟨rest, _, _⟩ := out
      rw [hrest] at h
      cases h
      exact ⟨result, middle, between, rest, rfl, hrest, rfl⟩

/-- Whatever is asked, the session is still in use, and what was spawned is known. -/
theorem InUse.askedAll {results : List (Except SessionError (Option Receipt))}
    {after : Session State} {last : Host} (h : InUse imports spawned session host)
    {requests : List Request} (hask : session.askAll vm host requests = .ok (results, after, last)) :
    InUse imports
      ((requests.zip results).reverse.flatMap (fun entry => spawnedBy entry.1 entry.2) ++ spawned)
      after last := by
  induction requests generalizing spawned session host results with
  | nil =>
    cases hask
    exact h
  | cons request requests ih =>
    obtain ⟨result, middle, between, rest, hfirst, hrest, rfl⟩ := exists_of_askAll_cons hask
    have hinUse := ih (h.ask request hfirst) hrest
    simpa [List.flatMap_append] using hinUse

end use

/-! ## Executions -/

/-- What an execution comes to that names an import and hands it arguments. -/
structure Executed (imports : Imports) (functions : Registry) (template app : Address)
    (name : String) (arguments : List UInt8) (result : Except SessionError (Option Receipt))
    (after : Registry) : Prop where
  /-- An import of that name is called with the arguments, and the caller gets what it answers. -/
  called : ∀ entry ∈ imports.entries, entry.binding.name = name →
    functions.lookup entry.binding.index = some entry.implementation ∧
      ∃ answer, entry.binding.dispatch functions arguments = .ok (answer, after) ∧
        Answered template app name answer result
  missing : (∀ entry ∈ imports.entries, entry.binding.name ≠ name) →
    result = .error (.vm (.run .exec) (.functionNotFound template app name)) ∧ after = functions

section execution

variable {imports : Imports} {spawned : List (Address × Address)} {session : Session State}
  {host : Host} {shown : World State} {transaction address : RawBuffer} {template app : Address}
  {name : String} {arguments : List UInt8} {gasMetering : Bool} {gasLimit : UInt64}
  {space : String}

/-- The VM finds an import by its name as it can be found among those that were offered. -/
theorem find?_map_acceptedOf (space : String) (entries : List Import) (name : String) :
    (entries.map (acceptedOf space)).find? (·.name == name) =
      (entries.find? (·.binding.name == name)).map (acceptedOf space) := by
  rw [List.find?_map]
  rfl

/-- An import is found by its name, which no other import has. -/
theorem find?_acceptedOf {entries : List Import} (h : (entries.map (·.binding.name)).Nodup)
    {entry : Import} (hmem : entry ∈ entries) :
    (entries.map (acceptedOf space)).find? (·.name == entry.binding.name) =
      some (acceptedOf space entry) := by
  rw [find?_map_acceptedOf]
  obtain ⟨found, hfound⟩ : ∃ found,
      entries.find? (·.binding.name == entry.binding.name) = some found := by
    rw [← Option.isSome_iff_exists, List.find?_isSome]
    exact ⟨entry, hmem, beq_self_eq_true _⟩
  have hname : found.binding.name = entry.binding.name := by
    simpa using List.find?_some hfound
  rw [hfound, List.inj_on_of_nodup_map h (List.mem_of_find?_eq_some hfound) hmem hname]
  rfl

/-- A name that no import has is not found among those that were accepted. -/
theorem find?_acceptedOf_of_missing {entries : List Import}
    (h : ∀ entry ∈ entries, entry.binding.name ≠ name) :
    (entries.map (acceptedOf space)).find? (·.name == name) = none := by
  have hnone : entries.find? (·.binding.name == name) = none :=
    List.find?_eq_none.2 fun entry hmem => by simpa using h entry hmem
  rw [find?_map_acceptedOf, hnone]
  rfl

/-- The caller of an import gets what the import answers. -/
theorem answered_of_exact {entry : Import} {functions after : Registry} {count : UInt64}
    {answer : Except Trap (List UInt8)} {bytes : List UInt8} {caller : Address}
    (hname : (Utf8.encode entry.binding.name).length ≤ 65535)
    (hexact : entry.binding.Exact entry.implementation functions arguments answer after) :
    Answered (counterpart app) app entry.binding.name answer
      ((Request.run .exec bytes caller gasMetering gasLimit).told
        (replyTo app (acceptedOf space entry) count answer)) := by
  cases answer with
  | error trap => exact answered_trap (acceptedOf space entry) trap hname
  | ok bytes =>
    obtain ⟨_, results, -, hdelivers, hdecode⟩ := (hexact.ok_iff bytes).1 rfl
    have htypes : (acceptedOf space entry).returns = ValueType.tags (results.map Value.type) := by
      rw [hdelivers.types_eq]
      rfl
    exact answered_results hdecode htypes

/-- An app that was spawned is executed in any world that the VM is shown. -/
theorem exists_executed (h : Usable imports spawned session host)
    (happ : (template, app) ∈ spawned)
    (hname : (Utf8.encode name).length ≤ 255) (habort : name ≠ "__abort")
    (hshown : (Request.run .exec (callTransaction name arguments) app gasMetering gasLimit).Shown
      (session.world host) shown transaction address) :
    ∃ reply returned,
      (exec ⟨.exec, transaction, address, gasMetering, gasLimit⟩).run shown =
        .ok (reply, returned) ∧
      Executed imports host.functions template app name arguments
        ((Request.run .exec (callTransaction name arguments) app gasMetering gasLimit).told reply)
        returned.host.functions := by
  obtain ⟨space, himports⟩ := h.imports_eq
  obtain ⟨hcount, rfl⟩ := h.spawned template app happ
  obtain ⟨before, hbefore⟩ := Option.isSome_iff_exists.1 hcount
  have hbytes : shown.host.boundary.contents transaction = callTransaction name arguments :=
    hshown.transaction_eq
  have hcaller : shown.host.boundary.contents address = app.toList := hshown.address_eq
  have hvm : shown.vm = session.vm := hshown.vm_eq
  have hfunctions : shown.host.functions = host.functions := hshown.functions_eq
  have hlength : (Utf8.encode name).length ≤ 65535 := Nat.le_trans hname (by decide)
  rw [run_exec]
  simp only [hbytes, hcaller, Octets.ofBytes_toList, hvm, hbefore,
    splitCall?_callTransaction hname, if_neg habort, himports]
  by_cases hnamed : ∃ entry ∈ imports.entries, entry.binding.name = name
  · obtain ⟨entry, hmem, rfl⟩ := hnamed
    have hnodup : (imports.entries.map (·.binding.name)).Nodup := h.collected.nodup_names
    have hlookup := h.collected.lookup hmem
    obtain ⟨answer, functions, hdispatch, hexact⟩ := Binding.exists_exact hlookup arguments
    let counted : World State := { shown with vm := session.vm.setCount app (before + 1) }
    have hcounted : entry.binding.dispatch counted.host.functions arguments =
        .ok (answer, functions) := hfunctions ▸ hdispatch
    obtain ⟨returned, hrun, hreturned⟩ :=
      run_callAccepted counted app (acceptedOf space entry) (before + 1) hcounted
    rw [find?_acceptedOf hnodup hmem]
    refine ⟨_, returned, hrun, fun other hother heq => ?_, fun h => absurd rfl (h entry hmem)⟩
    obtain rfl := List.inj_on_of_nodup_map hnodup hother hmem heq
    rw [hreturned]
    exact ⟨hlookup, answer, hdispatch, answered_of_exact hlength hexact⟩
  · have hmissing : ∀ entry ∈ imports.entries, entry.binding.name ≠ name :=
      fun entry hmem heq => hnamed ⟨entry, hmem, heq⟩
    rw [find?_acceptedOf_of_missing hmissing]
    obtain ⟨bytes, hencode⟩ := VmError.encode_functionNotFound hlength
    refine ⟨_, _, rfl, fun entry hmem heq => absurd heq (hmissing entry hmem), fun _ => ⟨?_, ?_⟩⟩
    · exact told_report hencode
    · exact hfunctions

end execution

/-- **An execution comes to what the import answers.** This holds for every session with the small
VM, every app that was spawned in it, every name that a transaction can hold, and any arguments.
Only a transaction that is too long for a buffer does not reach the VM. -/
theorem InUse.executes {imports : Imports} {spawned : List (Address × Address)}
    {session : Session State} {host : Host} {template app : Address} {name : String}
    (h : InUse imports spawned session host) (happ : (template, app) ∈ spawned)
    (hname : (Utf8.encode name).length ≤ 255) (habort : name ≠ "__abort")
    (arguments : List UInt8) (gasMetering : Bool) (gasLimit : UInt64) :
    ∃ result after last,
      session.ask vm host (.run .exec (callTransaction name arguments) app gasMetering gasLimit) =
        .ok (result, after, last) ∧
      ((callTransaction name arguments).length ≤ RawBuffer.maxLength →
        Executed imports host.functions template app name arguments result last.functions) ∧
      (RawBuffer.maxLength < (callTransaction name arguments).length →
        result = .error (.encode
          (.bytesTooLong (callTransaction name arguments).length RawBuffer.maxLength)) ∧
        after.vm = session.vm ∧ last.functions = host.functions) := by
  have husable := h.usable
  have hturn := Session.turn husable.idle vm
    (.run .exec (callTransaction name arguments) app gasMetering gasLimit)
  generalize session.ask vm host _ = outcome at hturn
  cases hturn with
  | tooLong hlong hvm _ hfunctions =>
    exact ⟨_, _, _, rfl, fun hlength => absurd hlength (Nat.not_le.2 hlong),
      fun _ => ⟨rfl, hvm, hfunctions⟩⟩
  | ended hshown hrun =>
    obtain ⟨reply, returned, hexec, -⟩ := exists_executed husable happ hname habort hshown
    cases hrun.symm.trans hexec
  | answered hlength hshown hrun _ _ hfunctions =>
    obtain ⟨reply, returned, hexec, hexecuted⟩ :=
      exists_executed husable happ hname habort hshown
    cases hrun.symm.trans hexec
    exact ⟨_, _, _, rfl, fun _ => hfunctions ▸ hexecuted,
      fun hlong => absurd hlength (Nat.not_le.2 hlong)⟩

/-- A function that adds up two numbers, as an import. -/
def sumImport : Import := ⟨⟨0, "sum", [.i32, .i32], [.i32]⟩, Stock.sum32⟩

/-- The import of the example was collected, and stands in the table. -/
theorem collected_sum : Imports.Collected ⟨none, [sumImport], ["sum"]⟩ ⟨[Stock.sum32]⟩ :=
  .register "sum" [.i32, .i32] [.i32] Stock.sum32 (.empty .empty) rfl

/-- What a session with the small VM answers that is opened over imports and asked one thing after
the other, with what is left then. -/
def begin? (imports : Imports) (host : Host) (requests : List Request) :
    Option (List (Except SessionError (Option Receipt)) × Session State × Host) :=
  match Session.start vm .initial imports .standard host with
  | .ok ⟨.ok session, _, after⟩ => (session.askAll vm after requests).toOption
  | _ => none

/-- The session was opened, and it was asked. -/
theorem exists_start_of_begin? {imports : Imports} {host last : Host} {requests : List Request}
    {results : List (Except SessionError (Option Receipt))} {after : Session State}
    (h : begin? imports host requests = some (results, after, last)) :
    ∃ session calls middle,
      Session.start vm .initial imports .standard host = .ok ⟨.ok session, calls, middle⟩ ∧
      session.askAll vm middle requests = .ok (results, after, last) := by
  unfold begin? at h
  split at h
  · next session calls middle hstart =>
    refine ⟨session, calls, middle, hstart, ?_⟩
    cases hask : session.askAll vm middle requests with
    | error breach =>
      rw [hask] at h
      cases h
    | ok out =>
      rw [hask] at h
      exact congrArg _ (Option.some.inj h)
  · cases h

/-- The numbers two and three, as arguments. -/
def twoAndThree : List UInt8 := [2, 0, 0, 0, 0, 2, 0, 0, 0, 0, 3]

/-- An app is spawned that may call it. -/
def spawnSummer : List Request :=
  [.run .deploy [7] .zero false 0, .run .spawn (templateAddress .zero [7]).toList .zero false 0]

/-- A session in which an app was spawned that may call it, on a host where the sum is five. -/
theorem exists_inUse_sum : ∃ template app session host functions,
    InUse ⟨none, [sumImport], ["sum"]⟩ [(template, app)] session host ∧
      sumImport.binding.dispatch host.functions twoAndThree =
        .ok (.ok [1, 0, 0, 0, 0, 5], functions) := by
  have hsound : (Boundary.new .ascending).Sound := (Boundary.owes_new .ascending).toSound
  have hshown : (begin? ⟨none, [sumImport], ["sum"]⟩ ⟨⟨[Stock.sum32]⟩, .new .ascending⟩
      spawnSummer).any (fun (results, _, host) =>
        ((spawnSummer.zip results).reverse.flatMap fun entry =>
          spawnedBy entry.1 entry.2).length = 1 ∧
        (sumImport.binding.dispatch host.functions twoAndThree).toOption.map Prod.fst =
          some (.ok [1, 0, 0, 0, 0, 5])) = true := by
    decide +kernel
  obtain ⟨⟨results, session, host⟩, hbegin, hshown⟩ := (Option.any_eq_true _ _).1 hshown
  obtain ⟨hlength, hsum⟩ := of_decide_eq_true hshown
  obtain ⟨opened, calls, middle, hstart, hask⟩ := exists_start_of_begin? hbegin
  have hinUse := (InUse.start .standard hsound collected_sum hstart).askedAll hask
  obtain ⟨⟨template, app⟩, hspawned⟩ := List.length_eq_one_iff.1 hlength
  rw [List.append_nil, hspawned] at hinUse
  cases hdispatch : sumImport.binding.dispatch host.functions twoAndThree with
  | error breach =>
    rw [hdispatch] at hsum
    cases hsum
  | ok done =>
    obtain ⟨answer, functions⟩ := done
    rw [hdispatch] at hsum
    cases hsum
    exact ⟨template, app, session, host, functions, hinUse, hdispatch⟩

/-- An app has the host add two and three. -/
theorem executes_sum : ∃ (template app : Address) (session after : Session State)
    (host last : Host) (receipt : ExecReceipt),
    InUse ⟨none, [sumImport], ["sum"]⟩ [(template, app)] session host ∧
    session.ask vm host (.run .exec
      (callTransaction "sum" [2, 0, 0, 0, 0, 2, 0, 0, 0, 0, 3]) app false 0) =
        .ok (.ok (some (.exec receipt)), after, last) ∧
    receipt.result.returns = .ok [.i32 5] := by
  obtain ⟨template, app, session, host, functions, hinUse, hanswer⟩ := exists_inUse_sum
  have hname : (Utf8.encode "sum").length ≤ 255 := by decide
  obtain ⟨result, after, last, hask, hexecuted, -⟩ :=
    hinUse.executes (List.mem_singleton_self _) hname (by decide)
      [2, 0, 0, 0, 0, 2, 0, 0, 0, 0, 3] false 0
  obtain ⟨-, answer, hdispatch, hanswered⟩ :=
    (hexecuted (by decide)).called sumImport (List.mem_singleton_self _) rfl
  obtain ⟨rfl, -⟩ := Prod.mk.inj (Except.ok.inj (hanswer.symm.trans hdispatch))
  have hresults : Value.decodeList [1, 0, 0, 0, 0, 5] = .ok [.i32 5] := rfl
  cases hanswered with
  | returned hdecode _ _ _ hreturns =>
    cases hresults.symm.trans hdecode
    exact ⟨template, app, session, after, host, last, _, hinUse, hask, hreturns⟩
  | tooMany hdecode hlt =>
    cases hresults.symm.trans hdecode
    exact absurd hlt (by decide)

end HostBridge.SmallVm
