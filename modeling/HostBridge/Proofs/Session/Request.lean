import HostBridge.Proofs.Session.Idle
import HostBridge.Session.Lifetime
import HostBridge.Vm.Small

/-!
# Requests

What a session makes of a request, whatever the VM does. The VM is called once, in a world where it
finds the transaction and the address in the buffers lent to it (`Request.Shown`), and what it
replies decides the result (`Request.outcome`). Then every buffer has been released, so that between
two calls the host holds nothing of the VM's (`Session.Idle`).
-/

namespace HostBridge

/-! ## Requests as the VM sees them -/

namespace Request

variable {σ : Type}

/-- The bytes of the address that a request names, if it names one. -/
def addressBytes : Request → List UInt8
  | .validate _ _ => []
  | .run _ _ address _ _ => address.toList

/-- The call that the VM is to see. -/
def call : Request → Vm.Call
  | .validate kind transaction => .validate kind transaction
  | .run kind transaction address gasMetering gasLimit =>
    .run kind transaction address.toList gasMetering gasLimit

/-- What the VM does when it is called with these buffers. -/
def program (vm : Vm σ) (transaction address : RawBuffer) : Request → VmProgram σ Vm.Reply
  | .validate kind _ => vm.validate kind transaction
  | .run kind _ _ gasMetering gasLimit =>
    vm.run ⟨kind, transaction, address, gasMetering, gasLimit⟩

/-- What counts of a reply. There is no receipt of a validation. -/
def counted (reply : Vm.Reply) : Request → Vm.Reply
  | .validate _ _ => reply.withoutReceipt
  | .run .. => reply

/-- The operation that a request is about. -/
def operation : Request → Operation
  | .validate _ _ => .validate
  | .run kind _ _ _ _ => .run kind

/-- The result that an answer of the VM calls for. -/
def outcome (answer : Vm.Answer) : Request → Except SessionError (Option Receipt)
  | .validate _ _ =>
    if answer.code = 0 then .ok none
    else .error (.vm .validate (VmError.decode answer.error.contents))
  | .run kind _ _ _ _ =>
    if answer.code = 0 then
      ((Receipt.decodeOf kind .binary answer.receipt.contents).mapError .decode).map some
    else .error (.vm (.run kind) (VmError.decode answer.error.contents))

/-- What is left to do with the bytes of a receipt. -/
def finish : Request → Except SessionError (List UInt8) → Except SessionError (Option Receipt)
  | .validate _ _, result => result.map fun _ => none
  | .run kind _ _ _ _, result =>
    (result.bind fun bytes => (Receipt.decodeOf kind .binary bytes).mapError .decode).map some

/-- What is left to do with a verdict gives the result that the answer calls for. -/
theorem finish_verdict (request : Request) (answer : Vm.Answer) :
    request.finish (Session.verdict request.operation answer) = request.outcome answer := by
  unfold Session.verdict
  cases request with
  | validate kind transaction =>
    unfold outcome operation
    dsimp only
    split <;> rfl
  | run kind transaction address gasMetering gasLimit =>
    unfold outcome operation
    dsimp only
    split <;> rfl

/-- The buffers hold what the request is about. -/
structure Lent (request : Request) (boundary : Boundary) (transaction address : RawBuffer) :
    Prop where
  transaction_eq : boundary.contents transaction = request.transaction
  address_eq : boundary.contents address = request.addressBytes

/-- The world as the VM finds it when it is called. -/
structure Shown (request : Request) (before shown : World σ) (transaction address : RawBuffer) :
    Prop extends request.Lent shown.host.boundary transaction address where
  calls_eq : shown.calls = before.calls ++ [request.call]
  vm_eq : shown.vm = before.vm
  functions_eq : shown.host.functions = before.host.functions

end Request

/-! ## Serving a request -/

namespace Session

section lending

variable {σ α : Type} {world : World σ} {buffers : List Buffer} {bytes : List UInt8}

/-- Bytes are lent while something is done, and are no longer owed when it is done. -/
theorem lending_run (h : world.host.boundary.Owes buffers)
    (hlength : bytes.length ≤ RawBuffer.maxLength)
    (action : RawBuffer → InWorld σ (Except SessionError α)) :
    ∃ lent between, between.Owes (⟨.host, lent⟩ :: buffers) ∧ between.contents lent = bytes ∧
      (∀ other : RawBuffer, other.address ∈ world.host.boundary.memory.addresses →
        between.contents other = world.host.boundary.contents other) ∧
      (∀ breach, action lent (world.withBoundary between) = .error breach →
        lending bytes action world = .error breach) ∧
      ∀ result returned, action lent (world.withBoundary between) = .ok (result, returned) →
        returned.host.boundary.Owes (⟨.host, lent⟩ :: buffers) →
        ∃ after, lending bytes action world = .ok (result, returned.withBoundary after) ∧
          after.Owes buffers ∧ after.badFrees = returned.host.boundary.badFrees ∧
          after.vmBlocks = returned.host.boundary.vmBlocks := by
  obtain ⟨lent, between, hlend, howes, hcontents, hkept⟩ := InWorld.lend_run h hlength
  refine ⟨lent, between, howes, hcontents, hkept, fun breach haction => ?_,
    fun result returned haction hreturned => ?_⟩
  · unfold lending
    rw [InWorld.bind_of_ok hlend]
    exact InWorld.bind_of_error haction
  · obtain ⟨after, hdrop, hafter⟩ := InWorld.drop_host_run hreturned
    refine ⟨after, ?_, hafter⟩
    unfold lending
    rw [InWorld.bind_of_ok hlend]
    exact (InWorld.bind_of_ok haction).trans (InWorld.bind_of_ok hdrop)

/-- Bytes that are too long are not lent, and nothing is done. -/
theorem lending_of_tooLong (hlength : RawBuffer.maxLength < bytes.length)
    (action : RawBuffer → InWorld σ (Except SessionError α)) :
    lending bytes action world =
      .ok (.error (.encode (.bytesTooLong bytes.length RawBuffer.maxLength)), world) := by
  unfold lending
  rw [InWorld.bind_of_ok (InWorld.lend_of_tooLong hlength)]
  rfl

end lending

section serve

variable {σ : Type} {vm : Vm σ} {world : World σ} {buffers : List Buffer}

/-- Serves a request in the world of a session. The result is that of the VM: a receipt is still to
be decoded. -/
def serve (vm : Vm σ) : Request → InWorld σ (Except SessionError (List UInt8))
  | .validate kind transaction => lending transaction (validateLent vm kind)
  | .run kind transaction address gasMetering gasLimit =>
    invoke vm kind transaction address gasMetering gasLimit

/-- Serves a request whose bytes were lent to the VM. -/
def serveLent (vm : Vm σ) (transaction address : RawBuffer) :
    Request → InWorld σ (Except SessionError (List UInt8))
  | .validate kind _ => validateLent vm kind transaction
  | .run kind _ _ gasMetering gasLimit =>
    runLent vm kind gasMetering gasLimit transaction address

/-- How a request is served: by one call of the VM, unless the VM ends the process meanwhile. -/
inductive Served (vm : Vm σ) (request : Request) (buffers : List Buffer) (world : World σ) :
    Except Breach (Except SessionError (List UInt8) × World σ) → Prop where
  | ended {shown : World σ} {transaction address : RawBuffer} {index : Nat} :
    request.Shown world shown transaction address →
    (request.program vm transaction address).run shown = .error (.unknownFunction index) →
    world.host.functions.size ≤ index →
    Served vm request buffers world (.error (.unknownFunction index))
  | answered {shown returned after : World σ} {transaction address : RawBuffer}
      {reply : Vm.Reply} {answer : Vm.Answer} :
    request.Shown world shown transaction address →
    (request.program vm transaction address).run shown = .ok (reply, returned) →
    request.Lent returned.host.boundary transaction address →
    world.host.functions.size ≤ returned.host.functions.size →
    returned.Settles (request.counted reply) answer after →
    after.host.boundary.Owes buffers →
    after.calls = world.calls ++ request.call :: answer.calls →
    Served vm request buffers world (.ok (verdict request.operation answer, after))

/-- The VM is called for a request whose bytes are in the buffers, and its answer is judged. -/
theorem serveLent_eq {request : Request} {transaction address : RawBuffer}
    (hlent : request.Lent world.host.boundary transaction address) :
    serveLent vm transaction address request world =
      (InWorld.exchange request.call (request.program vm transaction address)
        (fun reply => request.counted reply) >>=
          fun answer => pure (verdict request.operation answer)) world := by
  have htransaction := hlent.transaction_eq
  cases request with
  | validate kind bytes =>
    rw [serveLent, validateLent, InWorld.bind_contents, htransaction]
    rfl
  | run kind bytes recipient gasMetering gasLimit =>
    have haddress := hlent.address_eq
    rw [serveLent, runLent, InWorld.bind_contents, InWorld.bind_contents, htransaction, haddress]
    rfl

/-- What becomes of a request whose bytes were lent to the VM. They are still lent afterwards. -/
theorem serveLent_cases (h : world.Owes buffers) (vm : Vm σ) {request : Request}
    {transaction address : RawBuffer}
    (hlent : request.Lent world.host.boundary transaction address) {shown : World σ}
    (hshown : shown = world.noted request.call) :
    (∃ index, (request.program vm transaction address).run shown =
        .error (.unknownFunction index) ∧
      serveLent vm transaction address request world = .error (.unknownFunction index) ∧
      world.host.functions.size ≤ index) ∨
    ∃ reply returned answer after,
      (request.program vm transaction address).run shown = .ok (reply, returned) ∧
      shown.Follows returned ∧
      serveLent vm transaction address request world =
        .ok (verdict request.operation answer, after) ∧
      after.host.boundary.Owes buffers ∧
      returned.Settles (request.counted reply) answer after := by
  subst hshown
  rw [serveLent_eq hlent]
  obtain ⟨index, hrun, hexchange, hindex⟩ |
      ⟨reply, returned, answer, after, hrun, hfollows, hexchange, hrest⟩ :=
    InWorld.exchange_cases h request.call (request.program vm transaction address)
      (fun reply => request.counted reply)
  · exact .inl ⟨index, hrun, InWorld.bind_of_error hexchange, hindex⟩
  · exact .inr ⟨reply, returned, answer, after, hrun, hfollows, InWorld.bind_of_ok hexchange, hrest⟩

/-- The record when a request was answered and its buffers were released. -/
theorem calls_eq_of_settles {shown returned after : World σ} {transaction address : RawBuffer}
    {request : Request} {reply : Vm.Reply} {answer : Vm.Answer}
    (hshown : request.Shown world shown transaction address) (hfollows : shown.Follows returned)
    (hsettles : returned.Settles reply answer after) :
    after.calls = world.calls ++ request.call :: answer.calls := by
  rw [hsettles.calls_eq, hfollows.calls_eq, hshown.calls_eq, List.append_assoc]
  rfl

/-- A validation is served by one call, with the transaction lent to the VM. -/
theorem serve_validate (h : world.Owes buffers) (kind : TransactionKind)
    {transaction : List UInt8} (hlength : transaction.length ≤ RawBuffer.maxLength) :
    Served vm (.validate kind transaction) buffers world
      (serve vm (.validate kind transaction) world) := by
  obtain ⟨lent, between, howes, hcontents, -, herror, hok⟩ :=
    lending_run h.owes hlength (validateLent vm kind)
  have hbetween : (world.withBoundary between).Owes (⟨.host, lent⟩ :: buffers) :=
    ⟨howes, List.forall_mem_cons.2 ⟨rfl, h.side_eq⟩⟩
  have hnone : ∀ boundary : Boundary, boundary.contents .empty = [] := fun _ =>
    Boundary.contents_of_isNull RawBuffer.isNull_empty
  have hlent : (Request.validate kind transaction).Lent between lent .empty :=
    ⟨hcontents, hnone _⟩
  let shown : World σ := (world.withBoundary between).noted (.validate kind transaction)
  have hshown : (Request.validate kind transaction).Shown world shown lent .empty :=
    ⟨hlent, rfl, rfl, rfl⟩
  obtain ⟨index, hrun, hserve, hindex⟩ |
      ⟨reply, returned, answer, settled, hrun, hfollows, hserve, hsettled, hsettles⟩ :=
    serveLent_cases hbetween vm hlent (show shown = _ from rfl)
  · rw [serve, herror _ hserve]
    exact .ended hshown hrun hindex
  · obtain ⟨after, hlending, hafter, hbad, hblocks⟩ := hok _ _ hserve hsettled
    have hkept : returned.host.boundary.contents lent = transaction :=
      (howes.contents_eq hfollows.untouched (.head _)).trans hcontents
    have hlast := hsettles.withBoundary hblocks hbad
    rw [serve, hlending]
    exact .answered hshown hrun ⟨hkept, hnone _⟩ hfollows.size_le hlast hafter
      (calls_eq_of_settles hshown hfollows hlast)

/-- A run is served by one call, with the transaction and the address lent to the VM. -/
theorem serve_run (h : world.Owes buffers) (kind : TransactionKind) {transaction : List UInt8}
    (address : Address) (gasMetering : Bool) (gasLimit : UInt64)
    (hlength : transaction.length ≤ RawBuffer.maxLength) :
    Served vm (.run kind transaction address gasMetering gasLimit) buffers world
      (serve vm (.run kind transaction address gasMetering gasLimit) world) := by
  have haddress : address.toList.length ≤ RawBuffer.maxLength := by
    rw [address.length_toList]
    decide
  obtain ⟨lent, between, howes, hcontents, -, herror, hok⟩ := lending_run h.owes hlength fun lent =>
    lending address.toList (runLent vm kind gasMetering gasLimit lent)
  have hbetween : (world.withBoundary between).Owes (⟨.host, lent⟩ :: buffers) :=
    ⟨howes, List.forall_mem_cons.2 ⟨rfl, h.side_eq⟩⟩
  obtain ⟨lent', both, howes', hcontents', hkept, herror', hok'⟩ :=
    lending_run hbetween.owes haddress (runLent vm kind gasMetering gasLimit lent)
  have hboth : ((world.withBoundary between).withBoundary both).Owes
      (⟨.host, lent'⟩ :: ⟨.host, lent⟩ :: buffers) :=
    ⟨howes', List.forall_mem_cons.2 ⟨rfl, hbetween.side_eq⟩⟩
  -- the transaction is still there when the address has been lent as well
  have htransaction : both.contents lent = transaction :=
    (howes.contents_eq_of_memory (.head _) hkept).trans hcontents
  have hlent : (Request.run kind transaction address gasMetering gasLimit).Lent both lent lent' :=
    ⟨htransaction, hcontents'⟩
  let shown : World σ := ((world.withBoundary between).withBoundary both).noted
    (.run kind transaction address.toList gasMetering gasLimit)
  have hshown : (Request.run kind transaction address gasMetering gasLimit).Shown world shown
      lent lent' := ⟨hlent, rfl, rfl, rfl⟩
  obtain ⟨index, hrun, hserve, hindex⟩ |
      ⟨reply, returned, answer, settled, hrun, hfollows, hserve, hsettled, hsettles⟩ :=
    serveLent_cases hboth vm hlent (show shown = _ from rfl)
  · rw [serve, invoke, herror _ (herror' _ hserve)]
    exact .ended hshown hrun hindex
  · obtain ⟨inner, hinner, howesInner, hbadInner, hblocksInner⟩ := hok' _ _ hserve hsettled
    obtain ⟨after, hlending, hafter, hbad, hblocks⟩ := hok _ _ hinner howesInner
    have hkept' : returned.host.boundary.contents lent = transaction :=
      (howes'.contents_eq hfollows.untouched (.tail _ (.head _))).trans htransaction
    have hkept'' : returned.host.boundary.contents lent' = address.toList :=
      (howes'.contents_eq hfollows.untouched (.head _)).trans hcontents'
    have hlast := (hsettles.withBoundary hblocksInner hbadInner).withBoundary hblocks hbad
    rw [serve, invoke, hlending]
    exact .answered hshown hrun ⟨hkept', hkept''⟩ hfollows.size_le hlast hafter
      (calls_eq_of_settles hshown hfollows hlast)

end serve

/-- A request is served by one call of the VM. -/
theorem serve_served {σ : Type} {vm : Vm σ} {world : World σ} {buffers : List Buffer}
    (h : world.Owes buffers) {request : Request}
    (hlength : request.transaction.length ≤ RawBuffer.maxLength) :
    Served vm request buffers world (serve vm request world) := by
  cases request with
  | validate kind transaction => exact serve_validate h kind hlength
  | run kind transaction address gasMetering gasLimit =>
    exact serve_run h kind address gasMetering gasLimit hlength

/-- A transaction that is too long is not shown to the VM. -/
theorem serve_of_tooLong {σ : Type} (vm : Vm σ) (world : World σ) {request : Request}
    (hlength : RawBuffer.maxLength < request.transaction.length) :
    serve vm request world = .ok
      (.error (.encode (.bytesTooLong request.transaction.length RawBuffer.maxLength)), world) := by
  cases request with
  | validate kind transaction => exact lending_of_tooLong hlength _
  | run kind transaction address gasMetering gasLimit =>
    rw [serve, invoke]
    exact lending_of_tooLong hlength _

/-! ## Answering a request -/

section ask

variable {σ : Type} {vm : Vm σ} {session after : Session σ} {host last : Host} {request : Request}

/-- What ends the process while a request is served ends it for whoever asked. -/
theorem ask_of_error {breach : Breach} (h : serve vm request (session.world host) = .error breach) :
    session.ask vm host request = .error breach := by
  cases request with
  | validate kind transaction =>
    have hvalidate : session.validate vm host kind transaction = .error breach :=
      during_of_error (InWorld.bind_of_error h)
    simp only [ask]
    rw [hvalidate]
    rfl
  | run kind transaction address gasMetering gasLimit =>
    have hrun : session.runWith vm host kind transaction address gasMetering gasLimit =
        .error breach := during_of_error (InWorld.bind_of_error h)
    simp only [ask]
    rw [hrun]
    rfl

/-- Whoever asked is given what was served, with the receipt decoded. -/
theorem ask_of_ok {result : Except SessionError (List UInt8)} {world : World σ}
    (h : serve vm request (session.world host) = .ok (result, world)) :
    session.ask vm host request = .ok (request.finish result, session.after world, world.host) := by
  cases request with
  | validate kind transaction =>
    have hvalidate : session.validate vm host kind transaction =
        .ok (result.map fun _ => (), session.after world, world.host) :=
      during_of_ok (InWorld.bind_of_ok h)
    simp only [ask]
    rw [hvalidate]
    cases result <;> rfl
  | run kind transaction address gasMetering gasLimit =>
    have hrun : session.runWith vm host kind transaction address gasMetering gasLimit =
        .ok (result.bind fun bytes => (Receipt.decodeOf kind .binary bytes).mapError .decode,
          session.after world, world.host) := by
      refine during_of_ok ((InWorld.bind_of_ok h).trans ?_)
      cases result <;> rfl
    simp only [ask]
    rw [hrun]
    rfl

/-- What passes when a request is made, and its result. -/
inductive Asked (vm : Vm σ) (request : Request) (world : World σ) :
    Except SessionError (Option Receipt) → World σ → List Vm.Call → Prop where
  /-- The VM is not called for a transaction that it cannot be shown. -/
  | tooLong :
    RawBuffer.maxLength < request.transaction.length →
    Asked vm request world
      (.error (.encode (.bytesTooLong request.transaction.length RawBuffer.maxLength))) world []
  /-- The VM is called where it finds what was asked for, and its reply is answered for. -/
  | answered {shown returned after : World σ} {transaction address : RawBuffer}
      {reply : Vm.Reply} {answer : Vm.Answer} :
    request.transaction.length ≤ RawBuffer.maxLength →
    request.Shown world shown transaction address →
    (request.program vm transaction address).run shown = .ok (reply, returned) →
    returned.Settles (request.counted reply) answer after →
    Asked vm request world (request.outcome answer) after (request.call :: answer.calls)

/-- Whatever the VM does, an idle session is idle again when a request was answered. -/
theorem keeps_ask (hidle : session.Idle host) (vm : Vm σ) (request : Request) :
    session.Keeps host (Asked vm request (session.world host)) (session.ask vm host request) := by
  by_cases hlength : request.transaction.length ≤ RawBuffer.maxLength
  · have hserved : Served vm request host.own (session.world host) _ :=
      serve_served hidle.owes hlength
    generalize hserve : serve vm request (session.world host) = served at hserved
    cases hserved with
    | ended hshown hrun hindex =>
      rw [ask_of_error hserve]
      exact ⟨_, rfl, hindex⟩
    | @answered shown returned after _ _ _ answer hshown hrun hlent hsize hsettles hafter hcalls =>
      have howes : after.Owes host.own := ⟨hafter, host.side_own⟩
      have hsize' : host.functions.size ≤ after.host.functions.size :=
        hsettles.functions_eq ▸ hsize
      rw [ask_of_ok hserve, Request.finish_verdict]
      exact ⟨howes.idle session, howes.balances hidle.sound hsize', rfl, rfl, _, hcalls,
        .answered hlength hshown hrun hsettles⟩
  · have hlong := Nat.lt_of_not_le hlength
    rw [ask_of_ok (serve_of_tooLong vm _ hlong)]
    refine ⟨hidle.owes.idle session, hidle.owes.balances hidle.sound (Nat.le_refl _), rfl, rfl, [],
      (List.append_nil _).symm, ?_⟩
    cases request <;> exact .tooLong hlong

/-- A session that may have come about: opened on a host whose blocks are accounted for, asked one
thing after the other, while the host may do other things in between. -/
inductive Reached (vm : Vm σ) : Session σ → Host → Prop where
  | start (state : σ) (imports : Imports) (config : Config) {host after : Host}
      {session : Session σ} {calls : List Vm.Call} :
    host.boundary.Sound → start vm state imports config host = .ok ⟨.ok session, calls, after⟩ →
    Reached vm session after
  | ask (request : Request) {session after : Session σ} {host last : Host}
      {result : Except SessionError (Option Receipt)} :
    Reached vm session host → session.ask vm host request = .ok (result, after, last) →
    Reached vm after last
  | elsewhere {session : Session σ} {host last : Host} :
    Reached vm session host → last.boundary.Sound → Reached vm session last

/-- A session that may have come about is idle. -/
theorem Reached.idle (h : Reached vm session host) : session.Idle host := by
  induction h with
  | start state imports config hsound hstart =>
    have hstarted := started hsound vm state imports config
    rw [hstart] at hstarted
    cases hstarted with
    | opened _ _ _ hidle => exact hidle
  | ask request _ hask ih =>
    have hkeeps := keeps_ask ih vm request
    rw [hask] at hkeeps
    exact hkeeps.1
  | elsewhere hreached hsound ih => exact ⟨hsound, ih.books_eq⟩

/-- What a request comes to. Either the VM ends the process by calling a function that was never
registered, or it replies, and then its reply is reported and nothing is left behind. -/
inductive Faithful (vm : Vm σ) (session : Session σ) (host : Host) (request : Request) : Prop where
  | ended {shown : World σ} {transaction address : RawBuffer} {index : Nat}
    (shows_eq : request.Shown (session.world host) shown transaction address)
    (run_eq : (request.program vm transaction address).run shown =
      .error (.unknownFunction index))
    (size_le : host.functions.size ≤ index)
    (ask_eq : session.ask vm host request = .error (.unknownFunction index))
  | answered {shown returned : World σ} {transaction address : RawBuffer} {reply : Vm.Reply}
    {answer : Vm.Answer} {after : Session σ} {last : Host}
    -- the VM finds the transaction and the address of the request, up to its return
    (shows_eq : request.Shown (session.world host) shown transaction address)
    (run_eq : (request.program vm transaction address).run shown = .ok (reply, returned))
    (lent : request.Lent returned.host.boundary transaction address)
    (reports : answer.Reports (request.counted reply))
    -- the result is the one that the reply calls for
    (ask_eq : session.ask vm host request = .ok (request.outcome answer, after, last))
    (calls_eq : after.calls = session.calls ++ request.call :: answer.calls)
    -- every out-buffer is freed once, and none that is not the VM's
    (count_eq : ∀ out ∈ [answer.receipt, answer.error], out.raw.isNull = false →
      answer.calls.count (.destroyBuffer out.raw) = 1)
    (badFrees_eq : last.boundary.badFrees = returned.host.boundary.badFrees)
    -- so the VM's allocator has what it had when the VM returned, and none of the out-buffers
    (vmBlocks_eq : last.boundary.vmBlocks = returned.host.boundary.vmBlocks)
    (not_mem_vmBlocks : ∀ out ∈ [answer.receipt, answer.error], out.raw.isNull = false →
      out.raw.address ∉ last.boundary.vmBlocks)
    (vm_liveCount_eq : after.books.liveCount = session.books.liveCount)
    (host_liveCount_eq : last.boundary.host.liveCount = host.boundary.host.liveCount)

/-- **A request is reported faithfully, and nothing leaks.** This holds for every session, every
request that the VM can be shown, and whatever the VM does. -/
theorem Reached.faithful (hreached : Reached vm session host)
    (hlength : request.transaction.length ≤ RawBuffer.maxLength) :
    Faithful vm session host request := by
  have hidle := hreached.idle
  have hserved : Served vm request host.own (session.world host) _ :=
    serve_served hidle.owes hlength
  generalize hserve : serve vm request (session.world host) = served at hserved
  cases hserved with
  | ended hshown hrun hindex => exact .ended hshown hrun hindex (ask_of_error hserve)
  | @answered shown returned after _ _ _ answer hshown hrun hlent hsize hsettles hafter hcalls =>
    have hask := ask_of_ok hserve
    rw [Request.finish_verdict] at hask
    have howes : after.Owes host.own := ⟨hafter, host.side_own⟩
    have hsize' : host.functions.size ≤ after.host.functions.size :=
      hsettles.functions_eq ▸ hsize
    have hbooks := (howes.idle session).liveCount_eq.trans hidle.liveCount_eq.symm
    exact .answered hshown hrun hlent hsettles.reports hask hcalls
      (fun _ => hsettles.reports.count_destroyBuffer) hsettles.badFrees_eq hsettles.vmBlocks_eq
      hsettles.not_mem_vmBlocks hbooks (howes.balances hidle.sound hsize').liveCount_eq

/-- A deployment by the small VM, with gas for ten bytes. -/
theorem faithful_deploy : ∃ session calls host,
    start SmallVm.vm .initial .empty .standard Host.new = .ok ⟨.ok session, calls, host⟩ ∧
      Faithful SmallVm.vm session host (.run .deploy [1, 2, 3] .zero true 10) := by
  have hsound : Host.new.boundary.Sound := (Boundary.owes_new .ascending).toSound
  refine ⟨_, _, _, rfl, ?_⟩
  exact Reached.faithful (.start .initial .empty .standard hsound rfl) (by decide)

end ask

end Session

end HostBridge
