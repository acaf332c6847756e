import HostBridge.Proofs.SmallVm.Entries
import HostBridge.Proofs.SmallVm.Replies

/-!
# Imports called by the small VM

What becomes of an import's answer on its way to the caller. The VM's reply depends on nothing but
the answer (`run_callAccepted`), and the caller gets the results as they were, or is told why there
are none (`Answered`).
-/

namespace HostBridge

/-- A value as a calldata item of its own type. -/
def Value.toImmediate : Value → Immediate
  | .i32 value => .i32 value
  | .i64 value => .i64 value

/-- What a VM can read of a trap: the message, unless it is too long for a buffer. -/
def Trap.shown (trap : Trap) : String :=
  if (Utf8.encode trap.message).length ≤ RawBuffer.maxLength then trap.message
  else "host error message too long"

namespace SmallVm

/-! ## Transactions -/

/-- The VM finds the name and the arguments. -/
theorem splitCall?_callTransaction {name : String} (h : (Utf8.encode name).length ≤ 255)
    (arguments : List UInt8) :
    splitCall? (callTransaction name arguments) = some (name, arguments) := by
  have hlength : (UInt8.ofNat (Utf8.encode name).length).toNat = (Utf8.encode name).length :=
    UInt8.toNat_ofNat_of_lt' (Nat.lt_succ_of_le h)
  have hlong : ¬ (callTransaction name arguments).length < 1 + (Utf8.encode name).length := by
    simp only [callTransaction, List.length_cons, List.length_append]
    omega
  rw [callTransaction] at hlong ⊢
  rw [splitCall?, List.headD_cons, hlength]
  dsimp only
  rw [if_neg hlong, List.drop_one, List.tail_cons, List.take_left, List.drop_left,
    Utf8.decodeLossy_encode]

/-! ## Addresses -/

/-- The counterpart of an address has its first byte inverted. -/
theorem toList_counterpart (address : Address) : (counterpart address).toList =
    address.toList.set 0 (address.toList.getD 0 0 ^^^ 0xFF) := by
  refine Octets.toList_ofBytes_of_length ?_
  rw [List.length_set, address.length_toList]

/-- The template of an app is the one that it was spawned from. -/
theorem counterpart_counterpart (address : Address) :
    counterpart (counterpart address) = address := by
  have hlength : 0 < address.toList.length := by rw [address.length_toList]; decide
  have hset : (counterpart address).toList.set 0
      ((counterpart address).toList.getD 0 0 ^^^ 0xFF) = address.toList := by
    rw [toList_counterpart]
    obtain ⟨first, rest, hcons⟩ := List.exists_cons_of_length_pos hlength
    rw [hcons]
    simp only [List.set_cons_zero, List.getD_cons_zero, UInt8.xor_assoc, UInt8.xor_self,
      UInt8.xor_zero]
  rw [counterpart, hset, Octets.ofBytes_toList]

/-! ## Return data -/

/-- Results of the declared types are returned as they are. -/
theorem returnItems_tags (values : List Value) :
    returnItems (ValueType.tags (values.map Value.type)) values =
      values.map Value.toImmediate := by
  induction values with
  | nil => rfl
  | cons value values ih =>
    refine congrArg₂ List.cons ?_ ih
    cases value <;> rfl

/-! ## Replies -/

/-- The VM's reply when an import has answered. -/
def replyTo (app : Address) (accepted : Accepted) (count : UInt64) :
    Except Trap (List UInt8) → Vm.Reply
  | .error trap => report (.functionFailed (counterpart app) app accepted.name trap.shown)
  | .ok bytes =>
    match Value.decodeList bytes with
    | .error error => refuseText error.message
    | .ok values =>
      match Calldata.encode (returnItems accepted.returns values) with
      | .error error => refuseText error.message
      | .ok returnData =>
        handOut (.exec ⟨⟨0, true⟩, ⟨stateRoot count, returnData, 10, []⟩⟩)

section run

variable {arguments : List UInt8} {answer : Except Trap (List UInt8)} {functions : Registry}

/-- The answer of an import decides the reply. -/
theorem run_callAccepted (world : World State) (app : Address) (accepted : Accepted)
    (count : UInt64) (hdispatch : accepted.binding.dispatch world.host.functions arguments =
      .ok (answer, functions)) :
    ∃ after, (callAccepted app accepted count arguments).run world =
        .ok (replyTo app accepted count answer, after) ∧ after.host.functions = functions := by
  obtain ⟨reply, last, hcallback, hfunctions, hhanded⟩ : ∃ reply last,
      accepted.binding.callback world.host (some arguments) = .ok (reply, last) ∧ _ :=
    Binding.exists_callback hdispatch
  unfold callAccepted
  rw [VmProgram.run_bind_of_ok (VmProgram.run_callImport hcallback)]
  cases hhanded with
  | @results bytes raw hbytes hgives =>
    dsimp only
    rw [VmProgram.run_bind_of_ok rfl, VmProgram.run_bind_of_ok rfl]
    dsimp only
    rw [hgives.contents_eq, replyTo]
    cases Value.decodeList bytes with
    | error error => exact ⟨_, rfl, hfunctions⟩
    | ok values =>
      dsimp only
      cases Calldata.encode (returnItems accepted.returns values) with
      | error error => exact ⟨_, rfl, hfunctions⟩
      | ok returnData => exact ⟨_, rfl, hfunctions⟩
  | @trap trap raw hgives =>
    have hshown : Utf8.decodeLossy (last.boundary.contents raw) = trap.shown := by
      rw [hgives.contents_eq, Trap.shown]
      split <;> exact Utf8.decodeLossy_encode _
    dsimp only
    rw [VmProgram.run_bind_of_ok rfl, VmProgram.run_bind_of_ok rfl]
    dsimp only
    rw [hshown]
    exact ⟨_, rfl, hfunctions⟩

end run

/-! ## Callers -/

/-- What the caller of an import gets when the import answers: a receipt of the results, or the
reason why there is none. -/
inductive Answered (template app : Address) (name : String) :
    Except Trap (List UInt8) → Except SessionError (Option Receipt) → Prop where
  | returned {bytes : List UInt8} {results : List Value} {receipt : ExecReceipt} :
    Value.decodeList bytes = .ok results → results.length ≤ 23 →
    receipt.header.success = true → receipt.result.gasUsed = 10 →
    receipt.result.returns = .ok (results.map Value.toImmediate) →
    Answered template app name (.ok bytes) (.ok (some (.exec receipt)))
  | tooMany {bytes : List UInt8} {results : List Value} :
    Value.decodeList bytes = .ok results → 23 < results.length →
    Answered template app name (.ok bytes) (.error (.vm (.run .exec)
      (.other (EncodeError.tooManyItems results.length 23).message)))
  | failed {trap : Trap} :
    (Utf8.encode trap.message).length ≤ 65535 →
    Answered template app name (.error trap) (.error (.vm (.run .exec)
      (.functionFailed template app name trap.message)))
  | unencodable {trap : Trap} :
    65535 < (Utf8.encode trap.message).length →
    (Utf8.encode trap.message).length ≤ RawBuffer.maxLength →
    Answered template app name (.error trap) (.error (.vm (.run .exec)
      (.other "unencodable error")))
  /-- The VM itself does not get a message that is too long for a buffer. -/
  | unshown {trap : Trap} :
    RawBuffer.maxLength < (Utf8.encode trap.message).length →
    Answered template app name (.error trap) (.error (.vm (.run .exec)
      (.functionFailed template app name "host error message too long")))

section told

variable {app : Address} {accepted : Accepted} {count : UInt64} {transaction : List UInt8}
  {address : Address} {gasMetering : Bool} {gasLimit : UInt64}

/-- A trap reaches the caller as the failure of the function. -/
theorem answered_trap (accepted : Accepted) (trap : Trap)
    (hname : (Utf8.encode accepted.name).length ≤ 65535) :
    Answered (counterpart app) app accepted.name (.error trap)
      ((Request.run .exec transaction address gasMetering gasLimit).told
        (replyTo app accepted count (.error trap))) := by
  by_cases hlong : (Utf8.encode trap.message).length ≤ RawBuffer.maxLength
  · have hshown : trap.shown = trap.message := if_pos hlong
    rw [replyTo, hshown]
    by_cases hshort : (Utf8.encode trap.message).length ≤ 65535
    · obtain ⟨bytes, hencode⟩ := VmError.encode_functionFailed hname hshort
      rw [told_report hencode]
      exact .failed hshort
    · have hlt := Nat.lt_of_not_le hshort
      rw [told_report_of_error (VmError.encode_functionFailed_of_lt hname hlt)]
      exact .unencodable hlt hlong
  · have hshown : trap.shown = "host error message too long" := if_neg hlong
    obtain ⟨bytes, hencode⟩ := VmError.encode_functionFailed hname
      (by decide : (Utf8.encode "host error message too long").length ≤ 65535)
    rw [replyTo, hshown, told_report hencode]
    exact .unshown (Nat.lt_of_not_le hlong)

/-- Results that are not too many come back in a receipt. -/
theorem told_replyTo_of_le {bytes : List UInt8} {results : List Value}
    (hdecode : Value.decodeList bytes = .ok results)
    (hlength : (returnItems accepted.returns results).length ≤ 23) :
    ∃ returnData, Calldata.encode (returnItems accepted.returns results) = .ok returnData ∧
      (Request.run .exec transaction address gasMetering gasLimit).told
        (replyTo app accepted count (.ok bytes)) =
        .ok (some (.exec ⟨⟨0, true⟩, ⟨stateRoot count, returnData, 10, []⟩⟩)) := by
  obtain ⟨returnData, hencode, -⟩ := Calldata.exists_encode_eq_ok hlength
  have hdata : returnData.length ≤ 65535 :=
    Nat.le_trans (Calldata.length_le_of_encode hencode) (by decide)
  obtain ⟨written, hreceipt⟩ :=
    Receipt.exists_encode_exec 0 ⟨stateRoot count, returnData, 10, []⟩ hdata rfl
  refine ⟨returnData, hencode, ?_⟩
  simp only [replyTo, hdecode, hencode]
  exact told_handOut hreceipt

/-- Of results that are too many the caller learns their number. -/
theorem told_replyTo_of_lt {bytes : List UInt8} {results : List Value}
    (hdecode : Value.decodeList bytes = .ok results)
    (hlength : 23 < (returnItems accepted.returns results).length) :
    (Request.run .exec transaction address gasMetering gasLimit).told
        (replyTo app accepted count (.ok bytes)) =
      .error (.vm (.run .exec) (.other (EncodeError.tooManyItems
        (returnItems accepted.returns results).length 23).message)) := by
  simp only [replyTo, hdecode, Calldata.encode_of_lt hlength]
  exact told_tooManyItems _ _

/-- Results reach the caller as a receipt with the values. -/
theorem answered_results {bytes : List UInt8} {results : List Value}
    (hdecode : Value.decodeList bytes = .ok results)
    (htypes : accepted.returns = ValueType.tags (results.map Value.type)) :
    Answered (counterpart app) app accepted.name (.ok bytes)
      ((Request.run .exec transaction address gasMetering gasLimit).told
        (replyTo app accepted count (.ok bytes))) := by
  have hitems : returnItems accepted.returns results = results.map Value.toImmediate := by
    rw [htypes, returnItems_tags]
  have hlength : (returnItems accepted.returns results).length = results.length := by
    rw [hitems, List.length_map]
  by_cases hcount : results.length ≤ 23
  · obtain ⟨returnData, hencode, htold⟩ := told_replyTo_of_le hdecode (hlength ▸ hcount)
    rw [htold]
    exact .returned hdecode hcount rfl rfl (Calldata.decode_of_encode (hitems ▸ hencode))
  · have hlt := Nat.lt_of_not_le hcount
    rw [told_replyTo_of_lt hdecode (hlength.symm ▸ hlt), hlength]
    exact .tooMany hdecode hlt

end told

end SmallVm

end HostBridge
