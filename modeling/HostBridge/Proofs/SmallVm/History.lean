import HostBridge.Proofs.SmallVm.Outcomes

/-!
# Templates, apps and counts over whole runs

What a session with the small VM answers is decided by what it answered before (`Follows`): which
templates were deployed, which apps were spawned, and how often each was executed since. A step of
the VM is one of a few (`Outcome`), each of which keeps the VM's state what the history tells
(`Kept`), so every request follows the history (`Ran.follows_history`).
-/

namespace HostBridge.SmallVm

/-! ## Histories -/

/-- What a session was asked and what it answered, the latest first. -/
abbrev History := List (Request × Except SessionError (Option Receipt))

/-- The template that a request deployed. -/
def deployed? : Request × Except SessionError (Option Receipt) → Option Address
  | (.run .deploy _ _ _ _, .ok (some (.deploy receipt))) =>
    if receipt.header.success then some receipt.template else none
  | _ => none

/-- The app that a request spawned. -/
def spawned? : Request × Except SessionError (Option Receipt) → Option Address
  | (.run .spawn _ _ _ _, .ok (some (.spawn receipt))) =>
    if receipt.header.success then some receipt.app else none
  | _ => none

/-- The app that a request has the VM execute. Whatever comes of it, it counts. The VM does not see
a transaction that is too long for a buffer. -/
def executed? : Request × Except SessionError (Option Receipt) → Option Address
  | (.run .exec transaction app _ _, _) =>
    if transaction.length ≤ RawBuffer.maxLength then some app else none
  | _ => none

/-- The template was deployed. -/
def Deployed (past : History) (template : Address) : Prop :=
  ∃ entry ∈ past, deployed? entry = some template

/-- The app was spawned. -/
def Spawned (past : History) (app : Address) : Prop := ∃ entry ∈ past, spawned? entry = some app

/-- How often the app was executed since it was last spawned. -/
def executions (app : Address) : History → Nat
  | [] => 0
  | entry :: past =>
    if spawned? entry = some app then 0
    else if executed? entry = some app then executions app past + 1
    else executions app past

/-- A session with its history: opened over imports that were collected on a host, and asked one
thing after the other, while the host may do other things in between. -/
inductive Ran (imports : Imports) : History → Session State → Host → Prop where
  | start (config : Config) {host after : Host} {session : Session State} {calls : List Vm.Call} :
    host.boundary.Sound → imports.Collected host.functions →
    Session.start vm .initial imports config host = .ok ⟨.ok session, calls, after⟩ →
    Ran imports [] session after
  | ask (request : Request) {past : History} {session after : Session State} {host last : Host}
      {result : Except SessionError (Option Receipt)} :
    Ran imports past session host → session.ask vm host request = .ok (result, after, last) →
    Ran imports ((request, result) :: past) after last
  | elsewhere {past : History} {session : Session State} {host last : Host} :
    Ran imports past session host → last.boundary.Sound →
    host.functions.Extends last.functions → Ran imports past session last

/-- A session with a history is in use. -/
theorem Ran.inUse {imports : Imports} {past : History} {session : Session State} {host : Host}
    (h : Ran imports past session host) :
    InUse imports (past.flatMap fun entry => spawnedBy entry.1 entry.2) session host := by
  induction h with
  | start config hsound hcollected hstart => exact .start config hsound hcollected hstart
  | ask request _ hask ih => exact .ask request ih hask
  | elsewhere _ hsound hextends ih => exact .elsewhere ih hsound hextends

/-! ## The state is what the history tells -/

section kept

variable {past : History} {entry : Request × Except SessionError (Option Receipt)}
  {template app other : Address} {state after : State}

/-- A template was deployed just if the last entry did so, or an earlier one. -/
theorem deployed_cons : Deployed (entry :: past) template ↔
    deployed? entry = some template ∨ Deployed past template := by
  simp [Deployed]

/-- An app was spawned just if the last entry did so, or an earlier one. -/
theorem spawned_cons :
    Spawned (entry :: past) app ↔ spawned? entry = some app ∨ Spawned past app := by
  simp [Spawned]

/-- An entry that deploys nothing leaves the deployed templates. -/
theorem deployed_cons_of_none (h : deployed? entry = none) :
    Deployed (entry :: past) template ↔ Deployed past template := by
  simp [deployed_cons, h]

/-- An entry that spawns nothing leaves the spawned apps. -/
theorem spawned_cons_of_none (h : spawned? entry = none) :
    Spawned (entry :: past) app ↔ Spawned past app := by
  simp [spawned_cons, h]

/-- What the VM keeps, by the history. -/
structure Kept (past : History) (state : State) : Prop where
  mem_templates_iff : ∀ template, template ∈ state.templates ↔ Deployed past template
  count?_eq : ∀ app, Spawned past app → state.count? app = some (.ofNat (executions app past))
  count?_eq_none : ∀ app, ¬ Spawned past app → state.count? app = none
  /-- An app is spawned from a template that was deployed. -/
  deployed : ∀ app, Spawned past app → Deployed past (counterpart app)

namespace Kept

/-- Before the first request, nothing is kept and nothing has happened. -/
theorem initial (imports : List Accepted) :
    Kept [] { State.initial with imports := imports } := by
  refine ⟨?_, ?_, ?_, ?_⟩ <;> simp [State.initial, State.count?, Deployed, Spawned]

/-- The apps with a count are those that were spawned. -/
theorem spawned_iff (h : Kept past state) : Spawned past app ↔ (state.count? app).isSome := by
  by_cases happ : Spawned past app
  · simp [happ, h.count?_eq app happ]
  · simp [happ, h.count?_eq_none app happ]

/-- Nothing is deployed or spawned, and no app is executed that is known. -/
theorem unchanged (h : Kept past state) (hdeployed : deployed? entry = none)
    (hspawned : spawned? entry = none)
    (hexecuted : ∀ app, executed? entry = some app → ¬ Spawned past app) :
    Kept (entry :: past) state := by
  refine ⟨?_, ?_, ?_, ?_⟩
  · intro template
    rw [deployed_cons_of_none hdeployed, h.mem_templates_iff]
  · intro app happ
    rw [spawned_cons_of_none hspawned] at happ
    have hne : executed? entry ≠ some app := fun heq => hexecuted app heq happ
    rw [h.count?_eq app happ]
    simp [executions, hspawned, hne]
  · intro app happ
    exact h.count?_eq_none app (mt (spawned_cons_of_none hspawned).2 happ)
  · intro app happ
    rw [spawned_cons_of_none hspawned] at happ
    exact (deployed_cons_of_none hdeployed).2 (h.deployed app happ)

/-- A deployment that went well is kept as a template. -/
theorem deploy (h : Kept past state) (hdeployed : deployed? entry = some template)
    (hspawned : spawned? entry = none) (hexecuted : executed? entry = none) :
    Kept (entry :: past) { state with templates := template :: state.templates } := by
  refine ⟨?_, ?_, ?_, ?_⟩
  · intro other
    rw [deployed_cons, hdeployed, List.mem_cons, h.mem_templates_iff, Option.some_inj, eq_comm]
  · intro app happ
    show state.count? app = _
    rw [h.count?_eq app ((spawned_cons_of_none hspawned).1 happ)]
    simp [executions, hspawned, hexecuted]
  · intro app happ
    exact h.count?_eq_none app (mt (spawned_cons_of_none hspawned).2 happ)
  · intro app happ
    rw [spawned_cons_of_none hspawned] at happ
    exact deployed_cons.2 (.inr (h.deployed app happ))

/-- A spawn that went well is kept as an app with the count zero. -/
theorem spawn (h : Kept past state) (hdeployed : deployed? entry = none)
    (hspawned : spawned? entry = some app) (hexecuted : executed? entry = none)
    (horigin : Deployed past (counterpart app)) :
    Kept (entry :: past) (state.setCount app 0) := by
  refine ⟨?_, ?_, ?_, ?_⟩
  · intro template
    rw [deployed_cons_of_none hdeployed]
    exact h.mem_templates_iff template
  · intro other hother
    rw [State.count?_setCount]
    rcases eq_or_ne other app with rfl | hne
    · simp [executions, hspawned]
    · have hspawned' : spawned? entry ≠ some other := by simpa [hspawned] using hne.symm
      have hpast : Spawned past other := (spawned_cons.1 hother).resolve_left hspawned'
      rw [if_neg hne, h.count?_eq other hpast]
      simp [executions, hspawned', hexecuted]
  · intro other hother
    have hne : other ≠ app := by
      rintro rfl
      exact hother (spawned_cons.2 (.inl hspawned))
    rw [State.count?_setCount, if_neg hne]
    exact h.count?_eq_none other fun hpast => hother (spawned_cons.2 (.inr hpast))
  · intro other hother
    rcases spawned_cons.1 hother with heq | hother
    · rw [hspawned] at heq
      cases heq
      exact (deployed_cons_of_none hdeployed).2 horigin
    · exact (deployed_cons_of_none hdeployed).2 (h.deployed other hother)

/-- An execution that went well is kept as one more in the count. -/
theorem execute (h : Kept past state) (hdeployed : deployed? entry = none)
    (hspawned : spawned? entry = none) (hexecuted : executed? entry = some app)
    {before : UInt64} (hcount : state.count? app = some before) :
    Kept (entry :: past) (state.setCount app (before + 1)) := by
  have happ : Spawned past app := h.spawned_iff.2 (by simp [hcount])
  refine ⟨?_, ?_, ?_, ?_⟩
  · intro template
    rw [deployed_cons_of_none hdeployed]
    exact h.mem_templates_iff template
  · intro other hother
    rw [State.count?_setCount]
    rcases eq_or_ne other app with rfl | hne
    · rw [h.count?_eq other happ] at hcount
      cases hcount
      simp [executions, hspawned, hexecuted]
    · have hexecuted' : executed? entry ≠ some other := by simpa [hexecuted] using hne.symm
      rw [if_neg hne, h.count?_eq other ((spawned_cons_of_none hspawned).1 hother)]
      simp [executions, hspawned, hexecuted']
  · intro other hother
    have hne : other ≠ app := by
      rintro rfl
      exact hother ((spawned_cons_of_none hspawned).2 happ)
    rw [State.count?_setCount, if_neg hne]
    exact h.count?_eq_none other (mt (spawned_cons_of_none hspawned).2 hother)
  · intro other hother
    rw [spawned_cons_of_none hspawned] at hother
    exact (deployed_cons_of_none hdeployed).2 (h.deployed other hother)

/-- Whatever a request comes to, the history tells what is kept. -/
theorem of_outcome (h : Kept past state) {request : Request}
    {result : Except SessionError (Option Receipt)}
    (hlength : request.transaction.length ≤ RawBuffer.maxLength)
    (houtcome : Outcome state request result after) : Kept ((request, result) :: past) after := by
  cases houtcome with
  | valid kind _ => exact h.unchanged rfl rfl nofun
  | invalid kind => exact h.unchanged rfl rfl nofun
  | outOfGas principal _ => exact h.unchanged rfl rfl nofun
  | deployed principal _ hsuccess => exact h.deploy (if_pos hsuccess) rfl rfl
  | templateNotFound caller gasMetering gasLimit _ => exact h.unchanged rfl rfl nofun
  | spawned caller gasMetering gasLimit htemplate hsuccess horigin =>
    refine h.spawn rfl (if_pos hsuccess) rfl ?_
    rw [horigin]
    exact (h.mem_templates_iff _).1 htemplate
  | appNotFound transaction gasMetering gasLimit hcount =>
    replace hlength : transaction.length ≤ RawBuffer.maxLength := hlength
    refine h.unchanged rfl rfl fun app hexecuted hspawned => ?_
    rw [executed?, if_pos hlength] at hexecuted
    cases hexecuted
    rw [h.spawned_iff, hcount] at hspawned
    cases hspawned
  | executed transaction gasMetering gasLimit hcount _ =>
    replace hlength : transaction.length ≤ RawBuffer.maxLength := hlength
    refine h.execute rfl rfl ?_ hcount
    exact if_pos hlength

/-- A transaction that the VM cannot be shown changes nothing. -/
theorem tooLong (h : Kept past state) {request : Request} {error : EncodeError}
    (hlength : RawBuffer.maxLength < request.transaction.length) :
    Kept ((request, .error (.encode error)) :: past) state := by
  have hnot : ¬ request.transaction.length ≤ RawBuffer.maxLength := Nat.not_le.2 hlength
  cases request with
  | validate kind transaction => exact h.unchanged rfl rfl nofun
  | run kind transaction address gasMetering gasLimit =>
    cases kind with
    | deploy => exact h.unchanged rfl rfl nofun
    | spawn => exact h.unchanged rfl rfl nofun
    | exec =>
      have hexecuted : executed? (.run .exec transaction address gasMetering gasLimit,
          .error (.encode error)) = none := if_neg hnot
      exact h.unchanged rfl rfl (by simp [hexecuted])

end Kept

end kept

/-! ## What is answered follows from the history -/

/-- A failure is reported in which the template stands. -/
inductive Blames (template : Address) : Except SessionError (Option Receipt) → Prop where
  | functionNotFound (operation : Operation) (app : Address) (name : String) :
    Blames template (.error (.vm operation (.functionNotFound template app name)))
  | functionFailed (operation : Operation) (app : Address) (name reason : String) :
    Blames template (.error (.vm operation (.functionFailed template app name reason)))

/-- A deployment fails for want of gas, and for nothing else. -/
structure DeployFollows (transaction : List UInt8) (gasMetering : Bool) (gasLimit : UInt64)
    (result : Except SessionError (Option Receipt)) : Prop where
  outOfGas_iff : result = .error (.vm (.run .deploy) .outOfGas) ↔
    gasMetering = true ∧ gasLimit.toNat < transaction.length
  error_eq : ∀ error, result = .error error → error = .vm (.run .deploy) .outOfGas

/-- A spawn succeeds exactly if the template was deployed, and fails for the lack of it alone. -/
structure SpawnFollows (past : History) (transaction : List UInt8)
    (result : Except SessionError (Option Receipt)) : Prop where
  isOk_iff : (∃ receipt, result = .ok (some (.spawn receipt)) ∧ receipt.header.success = true) ↔
    Deployed past (.ofBytes transaction)
  templateNotFound_iff :
    result = .error (.vm (.run .spawn) (.templateNotFound (.ofBytes transaction))) ↔
      ¬ Deployed past (.ofBytes transaction)

/-- An execution finds the app exactly if it was spawned, and the state in the receipt of one that
succeeds starts with the number of executions since then, itself among them. -/
structure ExecFollows (past : History) (app : Address)
    (result : Except SessionError (Option Receipt)) : Prop where
  appNotFound_iff : ∀ missing, result = .error (.vm (.run .exec) (.appNotFound missing)) ↔
    missing = app ∧ ¬ Spawned past app
  state_eq : ∀ receipt, result = .ok (some (.exec receipt)) → receipt.header.success = true →
    receipt.result.state.toList.take 8 = BigEndian.toBytes 8 (executions app past + 1)

/-- The result of a request follows from the history before it. -/
structure Follows (past : History) (request : Request)
    (result : Except SessionError (Option Receipt)) : Prop where
  deploy : ∀ transaction principal gasMetering gasLimit,
    request = .run .deploy transaction principal gasMetering gasLimit →
    DeployFollows transaction gasMetering gasLimit result
  spawn : ∀ transaction caller gasMetering gasLimit,
    request = .run .spawn transaction caller gasMetering gasLimit →
    SpawnFollows past transaction result
  exec : ∀ transaction app gasMetering gasLimit,
    request = .run .exec transaction app gasMetering gasLimit → ExecFollows past app result
  /-- Only templates that were deployed are reported with a failure. -/
  blamed : ∀ template, Blames template result → Deployed past template

section follows

variable {past : History} {state after : State} {request : Request}
  {result : Except SessionError (Option Receipt)} {app template : Address}

/-- The first bytes of the state of an app are the count of its executions. -/
theorem take_stateRoot (count : Nat) :
    (stateRoot (.ofNat count + 1)).toList.take 8 = BigEndian.toBytes 8 (count + 1) := by
  have hcount : (UInt64.ofNat count + 1).toNat = (count + 1) % BigEndian.capacity 8 := by
    rw [show UInt64.ofNat count + 1 = UInt64.ofNat (count + 1) by simp, UInt64.toNat_ofNat']
    rfl
  have hlength : (BigEndian.toBytes 8 (count + 1)).length = 8 := BigEndian.length_toBytes 8 _
  unfold stateRoot
  rw [hcount, BigEndian.toBytes_mod]
  simp [Octets.ofBytes, hlength, List.take_of_length_le]

/-- Only the template of the app that was asked for is blamed. -/
theorem Tells.blames {count : UInt64} (h : Tells app count result)
    (hblames : Blames template result) : template = counterpart app := by
  cases h <;> cases hblames <;> rfl

/-- A deployment answers as the history says. -/
theorem Kept.deployFollows (houtcome : Outcome state request result after)
    {transaction : List UInt8} {principal : Address} {gasMetering : Bool} {gasLimit : UInt64}
    (hrequest : request = .run .deploy transaction principal gasMetering gasLimit) :
    DeployFollows transaction gasMetering gasLimit result := by
  cases houtcome with
  | outOfGas _ hgas =>
    cases hrequest
    exact ⟨iff_of_true rfl hgas, fun error herror => (Except.error.inj herror).symm⟩
  | deployed _ hgas _ =>
    cases hrequest
    exact ⟨iff_of_false nofun hgas, nofun⟩
  | _ => cases hrequest

/-- A spawn answers as the history says. -/
theorem Kept.spawnFollows (h : Kept past state) (houtcome : Outcome state request result after)
    {transaction : List UInt8} {caller : Address} {gasMetering : Bool} {gasLimit : UInt64}
    (hrequest : request = .run .spawn transaction caller gasMetering gasLimit) :
    SpawnFollows past transaction result := by
  cases houtcome with
  | templateNotFound _ _ _ htemplate =>
    cases hrequest
    rw [h.mem_templates_iff] at htemplate
    exact ⟨iff_of_false nofun htemplate, iff_of_true rfl htemplate⟩
  | spawned _ _ _ htemplate hsuccess _ =>
    cases hrequest
    rw [h.mem_templates_iff] at htemplate
    exact ⟨iff_of_true ⟨_, rfl, hsuccess⟩ htemplate, iff_of_false nofun (not_not_intro htemplate)⟩
  | _ => cases hrequest

/-- An execution answers as the history says. -/
theorem Kept.execFollows (h : Kept past state) (houtcome : Outcome state request result after)
    {transaction : List UInt8} {gasMetering : Bool} {gasLimit : UInt64}
    (hrequest : request = .run .exec transaction app gasMetering gasLimit) :
    ExecFollows past app result := by
  cases houtcome with
  | appNotFound _ _ _ hcount =>
    cases hrequest
    have hspawned : ¬ Spawned past app := by simp [h.spawned_iff, hcount]
    refine ⟨fun missing => ⟨?_, ?_⟩, nofun⟩
    · intro heq
      cases heq
      exact ⟨rfl, hspawned⟩
    · rintro ⟨rfl, -⟩
      rfl
  | executed _ _ _ hcount htells =>
    cases hrequest
    have hspawned : Spawned past app := by simp [h.spawned_iff, hcount]
    rw [h.count?_eq app hspawned] at hcount
    cases hcount
    refine ⟨fun missing => ⟨?_, ?_⟩, ?_⟩
    · rintro rfl
      cases htells
    · rintro ⟨-, hnot⟩
      exact absurd hspawned hnot
    · rintro receipt rfl hsuccess
      cases htells with
      | receipt hstate =>
        rw [hstate hsuccess]
        exact take_stateRoot (executions app past)
  | _ => cases hrequest

/-- A template that is blamed was deployed. -/
theorem Kept.deployed_of_blames (h : Kept past state)
    (houtcome : Outcome state request result after) (hblames : Blames template result) :
    Deployed past template := by
  cases houtcome with
  | executed _ _ _ hcount htells =>
    rw [htells.blames hblames]
    exact h.deployed _ (h.spawned_iff.2 (by simp [hcount]))
  | _ => cases hblames

/-- Every request answers as the history says. -/
theorem Kept.follows (h : Kept past state) (houtcome : Outcome state request result after) :
    Follows past request result where
  deploy _ _ _ _ hrequest := deployFollows houtcome hrequest
  spawn _ _ _ _ hrequest := h.spawnFollows houtcome hrequest
  exec _ _ _ _ hrequest := h.execFollows houtcome hrequest
  blamed _ hblames := h.deployed_of_blames houtcome hblames

end follows

/-! ## Runs -/

section runs

variable {imports : Imports} {past : History} {spawned : List (Address × Address)}
  {session : Session State} {host : Host} {request : Request}

/-- The state of the VM is what the history tells. -/
theorem Ran.kept (h : Ran imports past session host) : Kept past session.vm := by
  induction h with
  | start config hsound _ hstart =>
    have hopened := opened hsound imports config
    rw [hstart] at hopened
    cases hopened with
    | opened _ _ _ _ _ hvm => exact hvm ▸ .initial _
  | @ask request past session after host last result hran hask ih =>
    have husable := hran.inUse.usable
    by_cases hlength : request.transaction.length ≤ RawBuffer.maxLength
    · obtain ⟨_, _, _, hanswered, houtcome, -⟩ := husable.exists_outcome hlength
      cases hanswered.symm.trans hask
      exact ih.of_outcome hlength houtcome
    · have hlong := Nat.lt_of_not_le hlength
      obtain ⟨_, _, hanswered, hvm, -⟩ := husable.ask_of_tooLong hlong
      cases hanswered.symm.trans hask
      exact hvm ▸ ih.tooLong hlong
  | elsewhere _ _ _ ih => exact ih

/-- Whatever is asked, the history goes on with the requests and their results. -/
theorem Ran.askedAll {results : List (Except SessionError (Option Receipt))}
    {after : Session State} {last : Host} (h : Ran imports past session host)
    {requests : List Request} (hask : session.askAll vm host requests = .ok (results, after, last)) :
    Ran imports ((requests.zip results).reverse ++ past) after last := by
  induction requests generalizing past session host results with
  | nil =>
    cases hask
    exact h
  | cons request requests ih =>
    obtain ⟨result, middle, between, rest, hfirst, hrest, rfl⟩ := exists_of_askAll_cons hask
    simpa using ih (h.ask request hfirst) hrest

/-- What a session answers to later requests depends on the VM's state and the table alone. -/
theorem askAll_congr {after : Session State} {last : Host} (hidle : session.Idle host)
    (hidle' : after.Idle last) (hvm : after.vm = session.vm)
    (hfunctions : last.functions = host.functions) (requests : List Request) :
    (after.askAll vm last requests).map (fun (results, _) => results) =
      (session.askAll vm host requests).map (fun (results, _) => results) := by
  rw [askAll_answerAll hidle requests, askAll_answerAll hidle' requests, hvm, hfunctions]

/-- **What a session answers follows from its history.** This holds for every run of a session with
the small VM, and whatever is asked next. Nothing that is asked later tells whether a deployment
failed or was never tried. Only a transaction that is too long for a buffer does not reach the
VM. -/
theorem Ran.follows_history (h : Ran imports past session host) (request : Request) :
    ∃ result after last, session.ask vm host request = .ok (result, after, last) ∧
      (request.transaction.length ≤ RawBuffer.maxLength → Follows past request result) ∧
      (RawBuffer.maxLength < request.transaction.length → result =
        .error (.encode (.bytesTooLong request.transaction.length RawBuffer.maxLength))) ∧
      ∀ transaction principal gasMetering gasLimit error,
        request = .run .deploy transaction principal gasMetering gasLimit →
        result = .error error → ∀ requests,
        (after.askAll vm last requests).map (fun (results, _) => results) =
          (session.askAll vm host requests).map (fun (results, _) => results) := by
  have husable := h.inUse.usable
  by_cases hlength : request.transaction.length ≤ RawBuffer.maxLength
  · obtain ⟨result, after, last, hask, houtcome, hfunctions⟩ := husable.exists_outcome hlength
    refine ⟨result, after, last, hask, fun _ => h.kept.follows houtcome,
      fun hlong => absurd hlength (Nat.not_le.2 hlong), ?_⟩
    rintro transaction principal gasMetering gasLimit error rfl rfl requests
    have hvm : after.vm = session.vm := by
      generalize after.vm = state at houtcome ⊢
      cases houtcome
      rfl
    exact askAll_congr husable.idle (husable.idle.ask hask) hvm (hfunctions nofun) requests
  · have hlong := Nat.lt_of_not_le hlength
    obtain ⟨after, last, hask, hvm, hfunctions⟩ := husable.ask_of_tooLong hlong
    refine ⟨_, after, last, hask, fun hshort => absurd hshort hlength, fun _ => rfl, ?_⟩
    intro transaction principal gasMetering gasLimit error _ _ requests
    exact askAll_congr husable.idle (husable.idle.ask hask) hvm hfunctions requests

/-- An app was executed, and says so. -/
def isExecuted : Except SessionError (Option Receipt) → Bool
  | .ok (some (.exec receipt)) => receipt.header.success
  | _ => false

/-- What passes for an execution is the receipt of one that went well. -/
theorem exists_of_isExecuted {result : Except SessionError (Option Receipt)}
    (h : isExecuted result = true) :
    ∃ receipt, result = .ok (some (.exec receipt)) ∧ receipt.header.success = true := by
  unfold isExecuted at h
  split at h
  · next receipt => exact ⟨receipt, rfl, h⟩
  · cases h

/-- A transaction that is no call counts as well: the call after it is the second. -/
theorem counts_malformed : ∃ (past : History) (session after : Session State) (host last : Host)
    (app : Address) (receipt : ExecReceipt),
    Ran ⟨none, [sumImport], ["sum"]⟩ past session host ∧
    session.ask vm host (.run .exec
      (callTransaction "sum" [2, 0, 0, 0, 0, 2, 0, 0, 0, 0, 3]) app false 0) =
        .ok (.ok (some (.exec receipt)), after, last) ∧
    receipt.result.state.toList.take 8 = [0, 0, 0, 0, 0, 0, 0, 2] := by
  have hsound : (Boundary.new .ascending).Sound := (Boundary.owes_new .ascending).toSound
  let app := counterpart (templateAddress .zero [7])
  let requests := spawnSummer ++ [.run .exec [] app false 0]
  let call : Request := .run .exec (callTransaction "sum" twoAndThree) app false 0
  have hshown : (begin? ⟨none, [sumImport], ["sum"]⟩ ⟨⟨[Stock.sum32]⟩, .new .ascending⟩
      requests).any (fun (results, session, host) =>
        executions app (requests.zip results).reverse = 1 ∧
        (session.ask vm host call).toOption.any fun (result, _) => isExecuted result) = true := by
    decide +kernel
  obtain ⟨⟨results, session, host⟩, hbegin, hshown⟩ := (Option.any_eq_true _ _).1 hshown
  obtain ⟨hexecutions, hexecuted⟩ := of_decide_eq_true hshown
  obtain ⟨opened, calls, middle, hstart, hasked⟩ := exists_start_of_begin? hbegin
  have hran := (Ran.start .standard hsound collected_sum hstart).askedAll hasked
  rw [List.append_nil] at hran
  obtain ⟨result, after, last, hask, hfollows, -⟩ := hran.follows_history call
  rw [hask] at hexecuted
  obtain ⟨receipt, rfl, hsuccess⟩ := exists_of_isExecuted hexecuted
  have hstate := ((hfollows (by decide)).exec _ _ _ _ rfl).state_eq receipt rfl hsuccess
  rw [hexecutions] at hstate
  exact ⟨_, session, after, host, last, app, receipt, hran, hask, hstate⟩

end runs

end HostBridge.SmallVm
