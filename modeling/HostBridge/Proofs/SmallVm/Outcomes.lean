import HostBridge.Proofs.SmallVm.Answers
import HostBridge.Proofs.SmallVm.Execution

/-!
# What a request can come to

A request that the small VM can be shown comes to one of a few outcomes (`Outcome`), which the VM's
state alone decides but for what an import answers (`exists_outcome`). So a session over imports
that were collected answers whatever it is asked (`Usable.exists_ask`).
-/

namespace HostBridge.SmallVm

/-! ## Outcomes -/

/-- What an execution tells its caller that is the app's `count`th. -/
inductive Tells (app : Address) (count : UInt64) : Except SessionError (Option Receipt) → Prop where
  | receipt {receipt : ExecReceipt} :
    (receipt.header.success = true → receipt.result.state = stateRoot count) →
    Tells app count (.ok (some (.exec receipt)))
  | other (reason : String) : Tells app count (.error (.vm (.run .exec) (.other reason)))
  | functionNotFound (name : String) :
    Tells app count (.error (.vm (.run .exec) (.functionNotFound (counterpart app) app name)))
  | functionFailed (name reason : String) :
    Tells app count
      (.error (.vm (.run .exec) (.functionFailed (counterpart app) app name reason)))

/-- What a request that the VM can be shown comes to, with the VM's state before and after. -/
inductive Outcome (state : State) :
    Request → Except SessionError (Option Receipt) → State → Prop where
  | valid (kind : TransactionKind) {transaction : List UInt8} :
    transaction ≠ [] → Outcome state (.validate kind transaction) (.ok none) state
  | invalid (kind : TransactionKind) :
    Outcome state (.validate kind [])
      (.error (.vm .validate (.other "empty transaction"))) state
  | outOfGas {transaction : List UInt8} (principal : Address) {gasMetering : Bool}
    {gasLimit : UInt64} :
    gasMetering = true ∧ gasLimit.toNat < transaction.length →
    Outcome state (.run .deploy transaction principal gasMetering gasLimit)
      (.error (.vm (.run .deploy) .outOfGas)) state
  | deployed {transaction : List UInt8} (principal : Address) {gasMetering : Bool}
    {gasLimit : UInt64} {receipt : DeployReceipt} :
    ¬ (gasMetering = true ∧ gasLimit.toNat < transaction.length) →
    receipt.header.success = true →
    Outcome state (.run .deploy transaction principal gasMetering gasLimit)
      (.ok (some (.deploy receipt))) { state with templates := receipt.template :: state.templates }
  | templateNotFound {transaction : List UInt8} (caller : Address) (gasMetering : Bool)
    (gasLimit : UInt64) :
    .ofBytes transaction ∉ state.templates →
    Outcome state (.run .spawn transaction caller gasMetering gasLimit)
      (.error (.vm (.run .spawn) (.templateNotFound (.ofBytes transaction)))) state
  | spawned {transaction : List UInt8} (caller : Address) (gasMetering : Bool) (gasLimit : UInt64)
    {receipt : SpawnReceipt} :
    .ofBytes transaction ∈ state.templates → receipt.header.success = true →
    counterpart receipt.app = .ofBytes transaction →
    Outcome state (.run .spawn transaction caller gasMetering gasLimit)
      (.ok (some (.spawn receipt))) (state.setCount receipt.app 0)
  | appNotFound (transaction : List UInt8) {app : Address} (gasMetering : Bool)
    (gasLimit : UInt64) :
    state.count? app = none →
    Outcome state (.run .exec transaction app gasMetering gasLimit)
      (.error (.vm (.run .exec) (.appNotFound app))) state
  | executed (transaction : List UInt8) {app : Address} (gasMetering : Bool) (gasLimit : UInt64)
    {before : UInt64} {result : Except SessionError (Option Receipt)} :
    state.count? app = some before → Tells app (before + 1) result →
    Outcome state (.run .exec transaction app gasMetering gasLimit) result
      (state.setCount app (before + 1))

section outcome

variable {state after : State} {functions grown : Registry} {transaction : List UInt8}
  {app caller : Address} {gasMetering : Bool} {gasLimit : UInt64} {count : UInt64}

/-- A report about an app's import tells what it says, or that it cannot be written. -/
theorem tells_report {error : VmError}
    (h : Tells app count (.error (.vm (.run .exec) error))) :
    Tells app count
      ((Request.run .exec transaction caller gasMetering gasLimit).told (report error)) := by
  cases hencode : error.encode with
  | error reason =>
    rw [told_report_of_error hencode]
    exact .other _
  | ok bytes =>
    rw [told_report hencode]
    exact h

/-- The answer of an import is told, with the count in the receipt. -/
theorem tells_replyTo (accepted : Accepted) {answer : Except Trap (List UInt8)}
    (h : ∀ bytes, answer = .ok bytes → ∃ values, Value.decodeList bytes = .ok values) :
    Tells app count ((Request.run .exec transaction caller gasMetering gasLimit).told
      (replyTo app accepted count answer)) := by
  cases answer with
  | error trap => exact tells_report (.functionFailed accepted.name trap.shown)
  | ok bytes =>
    obtain ⟨values, hvalues⟩ := h bytes rfl
    by_cases hlength : (returnItems accepted.returns values).length ≤ 23
    · obtain ⟨returnData, -, htold⟩ := told_replyTo_of_le hvalues hlength
      rw [htold]
      exact .receipt fun _ => rfl
    · rw [told_replyTo_of_lt hvalues (Nat.lt_of_not_le hlength)]
      exact .other _

/-- The VM compares lengths as they are. -/
theorem gas_lt_iff (hlength : transaction.length ≤ RawBuffer.maxLength) :
    UInt64.ofNat transaction.length > gasLimit ↔ gasLimit.toNat < transaction.length := by
  have hsize : transaction.length < UInt64.size := Nat.lt_of_le_of_lt hlength (by decide)
  rw [gt_iff_lt, UInt64.lt_iff_toNat_lt, UInt64.toNat_ofNat_of_lt' hsize]

/-- The VM's move settles a request, or leaves it to an import. -/
inductive Settles (state : State) (request : Request) : Move → Prop where
  | reply {reply : Vm.Reply} {after : State} :
    Outcome state request (request.told reply) after → Settles state request (.reply reply after)
  | call {transaction : List UInt8} {app : Address} {gasMetering : Bool} {gasLimit before : UInt64}
    (name : String) (arguments : List UInt8) :
    request = .run .exec transaction app gasMetering gasLimit → state.count? app = some before →
    Settles state request
      (.call app (before + 1) name arguments (state.setCount app (before + 1)))

/-- A validation settles in one of its outcomes. -/
theorem settles_validate (kind : TransactionKind) (transaction : List UInt8) :
    Settles state (.validate kind transaction) (state.move (.validate kind transaction)) := by
  cases transaction with
  | nil =>
    have htext : Utf8.encode "empty transaction" =
        0x65 :: (Utf8.encode "empty transaction").tail := by decide
    have htold : (Request.validate kind []).told (refuseText "empty transaction") =
        .error (.vm .validate (.other "empty transaction")) := by
      simp [Request.told, refuseText, refuse, getD_outBuffer,
        VmError.decode_encode_text htext (by decide)]
    exact .reply (htold ▸ .invalid kind)
  | cons byte rest => exact .reply (.valid kind (List.cons_ne_nil byte rest))

/-- A deployment settles in one of its outcomes. -/
theorem settles_deploy (hlength : transaction.length ≤ RawBuffer.maxLength) :
    Settles state (.run .deploy transaction caller gasMetering gasLimit)
      (state.move (.run .deploy transaction caller gasMetering gasLimit)) := by
  unfold State.move
  dsimp only
  split
  · next hgas =>
    refine .reply ?_
    rw [told_report rfl]
    exact .outOfGas caller ⟨hgas.1, (gas_lt_iff hlength).1 hgas.2⟩
  · next hgas =>
    obtain ⟨written, hreceipt⟩ := Receipt.exists_encode_deploy ⟨⟨0, true⟩,
      templateAddress caller transaction,
      if gasMetering then UInt64.ofNat transaction.length else 0, []⟩ rfl
    have htold : (Request.run .deploy transaction caller gasMetering gasLimit).told (handOut _) =
        _ := told_handOut hreceipt
    refine .reply ?_
    rw [htold]
    exact .deployed caller (fun h => hgas ⟨h.1, (gas_lt_iff hlength).2 h.2⟩) rfl

/-- A spawn settles in one of its outcomes. -/
theorem settles_spawn (state : State) (transaction : List UInt8) (caller : Address)
    (gasMetering : Bool) (gasLimit : UInt64) :
    Settles state (.run .spawn transaction caller gasMetering gasLimit)
      (state.move (.run .spawn transaction caller gasMetering gasLimit)) := by
  unfold State.move
  dsimp only
  split
  · next htemplate =>
    obtain ⟨written, hreceipt⟩ := Receipt.exists_encode_spawn 0
      (counterpart (.ofBytes transaction)) ⟨.zero, Calldata.encodeItem .unit, 0, []⟩ (by decide) rfl
    have htold : (Request.run .spawn transaction caller gasMetering gasLimit).told (handOut _) =
        _ := told_handOut hreceipt
    refine .reply ?_
    rw [htold]
    exact .spawned caller gasMetering gasLimit htemplate rfl (counterpart_counterpart _)
  · next htemplate =>
    refine .reply ?_
    rw [told_report rfl]
    exact .templateNotFound caller gasMetering gasLimit htemplate

/-- An execution settles in one of its outcomes. -/
theorem settles_exec (state : State) (transaction : List UInt8) (app : Address)
    (gasMetering : Bool) (gasLimit : UInt64) :
    Settles state (.run .exec transaction app gasMetering gasLimit)
      (state.move (.run .exec transaction app gasMetering gasLimit)) := by
  unfold State.move
  dsimp only
  cases hcount : state.count? app with
  | none =>
    refine .reply ?_
    rw [told_report rfl]
    exact .appNotFound transaction gasMetering gasLimit hcount
  | some before =>
    dsimp only
    cases splitCall? transaction with
    | none =>
      have htext : Utf8.encode "malformed exec transaction" =
          0x6d :: (Utf8.encode "malformed exec transaction").tail := by decide
      refine .reply ?_
      rw [told_refuseText htext (by decide)]
      exact .executed transaction gasMetering gasLimit hcount (.other _)
    | some call =>
      obtain ⟨name, arguments⟩ := call
      dsimp only
      split
      · obtain ⟨written, hreceipt⟩ : ∃ bytes,
            (Receipt.exec ⟨⟨0, false⟩, .empty⟩).encode = .ok bytes := ⟨_, rfl⟩
        have htold : (Request.run .exec transaction app gasMetering gasLimit).told (handOut _) =
            _ := told_handOut hreceipt
        refine .reply ?_
        rw [htold]
        exact .executed transaction gasMetering gasLimit hcount (.receipt nofun)
      · exact .call name arguments rfl hcount

/-- Every request settles in one of its outcomes. -/
theorem settles_move (state : State) {request : Request}
    (hlength : request.transaction.length ≤ RawBuffer.maxLength) :
    Settles state request (state.move request) := by
  cases request with
  | validate kind transaction => exact settles_validate kind transaction
  | run kind transaction address gasMetering gasLimit =>
    cases kind with
    | deploy => exact settles_deploy hlength
    | spawn => exact settles_spawn state transaction address gasMetering gasLimit
    | exec => exact settles_exec state transaction address gasMetering gasLimit

/-- Over imports that were collected, a request is answered, and its outcome is one of those that
there are. Only an execution can change the table. -/
theorem exists_outcome {imports : Imports} {space : String}
    (hcollected : imports.Collected functions)
    (himports : state.imports = imports.entries.map (acceptedOf space)) {request : Request}
    (hlength : request.transaction.length ≤ RawBuffer.maxLength) :
    ∃ result after grown, state.answer functions request = .ok (result, after, grown) ∧
      Outcome state request result after ∧
      (request.operation ≠ .run .exec → grown = functions) := by
  have hsettles := settles_move state hlength
  unfold State.answer
  rw [if_neg (Nat.not_lt.2 hlength)]
  unfold State.serve
  generalize state.move request = move at hsettles ⊢
  cases hsettles with
  | reply houtcome => exact ⟨_, _, _, rfl, houtcome, fun _ => rfl⟩
  | @call transaction app gasMetering gasLimit before name arguments hrequest hcount =>
    subst hrequest
    have hexec : ∀ {p : Prop}, (Request.run .exec transaction app gasMetering gasLimit).operation ≠
        .run .exec → p := fun h => absurd rfl h
    dsimp only
    cases hfind : state.imports.find? (·.name == name) with
    | none =>
      exact ⟨_, _, _, rfl, .executed transaction gasMetering gasLimit hcount
        (tells_report (.functionNotFound name)), hexec⟩
    | some accepted =>
      have hmem := List.mem_of_find?_eq_some hfind
      rw [himports] at hmem
      obtain ⟨entry, hentry, rfl⟩ := List.mem_map.1 hmem
      obtain ⟨answer, grown, hdispatch, hexact⟩ :=
        Binding.exists_exact (hcollected.lookup hentry) arguments
      have hbinding : (acceptedOf space entry).binding = entry.binding := rfl
      have htells : Tells app (before + 1)
          ((Request.run .exec transaction app gasMetering gasLimit).told
            (replyTo app (acceptedOf space entry) (before + 1) answer)) := by
        refine tells_replyTo (acceptedOf space entry) ?_
        rintro bytes rfl
        obtain ⟨_, results, -, -, hdecode⟩ := (hexact.ok_iff bytes).1 rfl
        exact ⟨results, hdecode⟩
      dsimp only
      rw [hbinding, hdispatch]
      exact ⟨_, _, _, rfl, .executed transaction gasMetering gasLimit hcount htells, hexec⟩

end outcome

/-! ## Sessions -/

section session

variable {imports : Imports} {spawned : List (Address × Address)} {session : Session State}
  {host : Host} {request : Request}

/-- A session that is usable answers, and the outcome is one of those that there are. -/
theorem Usable.exists_outcome (h : Usable imports spawned session host)
    (hlength : request.transaction.length ≤ RawBuffer.maxLength) :
    ∃ result after last, session.ask vm host request = .ok (result, after, last) ∧
      Outcome session.vm request result after.vm ∧
      (request.operation ≠ .run .exec → last.functions = host.functions) := by
  obtain ⟨space, himports⟩ := h.imports_eq
  obtain ⟨result, after, grown, hanswer, houtcome, hgrown⟩ :=
    SmallVm.exists_outcome h.collected himports hlength
  obtain ⟨after', last, hask, rfl, rfl⟩ := exists_ask_of_answer h.idle hanswer
  exact ⟨result, after', last, hask, houtcome, hgrown⟩

/-- A transaction that is too long is refused by the session itself. -/
theorem Usable.ask_of_tooLong (h : Usable imports spawned session host)
    (hlength : RawBuffer.maxLength < request.transaction.length) :
    ∃ after last, session.ask vm host request = .ok
        (.error (.encode (.bytesTooLong request.transaction.length RawBuffer.maxLength)), after,
          last) ∧
      after.vm = session.vm ∧ last.functions = host.functions :=
  exists_ask_of_answer h.idle (if_pos hlength)

/-- A session in use answers whatever it is asked. -/
theorem Usable.exists_ask (h : Usable imports spawned session host) (request : Request) :
    ∃ result after last, session.ask vm host request = .ok (result, after, last) := by
  by_cases hlength : request.transaction.length ≤ RawBuffer.maxLength
  · obtain ⟨result, after, last, hask, -, -⟩ := h.exists_outcome hlength
    exact ⟨result, after, last, hask⟩
  · obtain ⟨after, last, hask, -, -⟩ := h.ask_of_tooLong (Nat.lt_of_not_le hlength)
    exact ⟨_, after, last, hask⟩

end session

end HostBridge.SmallVm
