import HostBridge.Proofs.Vm.Trace
import HostBridge.Session

/-!
# Opening a session

What passes between host and VM while a session is opened, whatever the VM answers. Imports are
offered in the order in which they were added, up to the first that is rejected (`Offered`); a
runtime is asked for if none was (`Established`). Wherever the opening fails, a table of imports
that the VM handed out is given back.

The handles and the answers in these records are the VM's: each step says in which world the VM was
run, and the next one begins where the VM left it.
-/

namespace HostBridge.Session

variable {σ : Type}

/-! ## Imports -/

/-- The call by which an import is offered. -/
def offerCall (space : String) (entry : Import) : Vm.Call :=
  .addImport (Utf8.encode space) (Utf8.encode entry.binding.name)
    (ValueType.tags entry.binding.params) (ValueType.tags entry.binding.returns)

/-- From one world to the other an import was offered to the VM, with this answer. -/
def OfferAnswered (vm : Vm σ) (space : String) (entry : Import) (world : World σ)
    (answer : Vm.Answer) (after : World σ) : Prop :=
  world.Exchanges (offerCall space entry) (vm.addImport (offerOf space entry)) .withoutReceipt
    answer after

/-- What passes when imports are offered in turn, from one world to another. -/
inductive Offered (vm : Vm σ) (space : String) :
    World σ → List Import → Except SessionError Unit → World σ → List Vm.Call → Prop where
  | done {world : World σ} : Offered vm space world [] (.ok ()) world []
  | accepted {world between after : World σ} {entry : Import} {entries : List Import}
      {answer : Vm.Answer} {result : Except SessionError Unit} {calls : List Vm.Call} :
    tooLong? (offerOf space entry) = none →
    OfferAnswered vm space entry world answer between → answer.code = 0 →
    Offered vm space between entries result after calls →
    Offered vm space world (entry :: entries) result after
      (offerCall space entry :: (answer.calls ++ calls))
  /-- Nothing is offered after an import that is rejected. -/
  | rejected {world after : World σ} {entry : Import} {entries : List Import}
      {answer : Vm.Answer} :
    tooLong? (offerOf space entry) = none →
    OfferAnswered vm space entry world answer after → answer.code ≠ 0 →
    Offered vm space world (entry :: entries)
      (.error (.imports (.rejected entry.binding.name
        (Utf8.decodeLossy answer.error.contents)))) after
      (offerCall space entry :: answer.calls)
  /-- An import that is too long to be handed to the VM is not offered, nor is any after it. -/
  | tooLong {world : World σ} {entry : Import} {entries : List Import} {error : EncodeError} :
    tooLong? (offerOf space entry) = some error →
    Offered vm space world (entry :: entries) (.error (.encode error)) world []

section Imports

variable {buffers : List Buffer} {vm : Vm σ} {space : String} {world : World σ}

/-- An import is offered unless it is too long, and the answer decides. -/
theorem yields_offerImport (entry : Import) :
    InWorld.Yields buffers world (offerImport vm space entry) fun result after calls =>
      (∃ error, tooLong? (offerOf space entry) = some error ∧ result = .error (.encode error) ∧
        after = world ∧ calls = []) ∨
      tooLong? (offerOf space entry) = none ∧ ∃ answer : Vm.Answer,
        OfferAnswered vm space entry world answer after ∧
        calls = offerCall space entry :: answer.calls ∧
        result = if answer.code = 0 then .ok () else .error (.imports
          (.rejected entry.binding.name (Utf8.decodeLossy answer.error.contents))) := by
  unfold offerImport
  dsimp only
  cases hlong : tooLong? (offerOf space entry) with
  | some error =>
    refine .pure ?_
    exact .inl ⟨error, rfl, rfl, rfl, rfl⟩
  | none =>
    refine .exchange_bind fun answer after hanswered => ?_
    by_cases hcode : answer.code = 0
    · rw [if_pos hcode]
      refine .pure ?_
      exact .inr ⟨rfl, answer, hanswered, List.append_nil _, by rw [if_pos hcode]⟩
    · rw [if_neg hcode]
      refine .pure ?_
      exact .inr ⟨rfl, answer, hanswered, List.append_nil _, by rw [if_neg hcode]⟩

/-- Imports are offered one after the other. -/
theorem yields_offerImports (entries : List Import) :
    InWorld.Yields buffers world (offerImports vm space entries)
      (Offered vm space world entries) := by
  induction entries generalizing world with
  | nil => exact .pure .done
  | cons entry entries ih =>
    refine (yields_offerImport entry).bind fun result between calls hcalls => ?_
    obtain ⟨error, hlong, rfl, rfl, rfl⟩ | ⟨hlong, answer, hanswered, rfl, rfl⟩ := hcalls
    · exact .pure (.tooLong hlong)
    · by_cases hcode : answer.code = 0
      · rw [if_pos hcode]
        refine ih.mono fun result after calls hoffered => ?_
        exact .accepted hlong hanswered hcode hoffered
      · rw [if_neg hcode]
        refine .pure ?_
        rw [List.append_nil]
        exact .rejected hlong hanswered hcode

end Imports

/-! ## The runtime -/

/-- From one world to the other a runtime was asked for. The VM told whether it handed one out, and
what it replied was settled. -/
inductive CreateAnswered (vm : Vm σ) (world : World σ) (given : Bool) (answer : Vm.Answer)
    (after : World σ) : Prop where
  | intro {reply : Vm.Reply} {returned : World σ}
    (run_eq : vm.create.run (world.noted .create) = .ok ((given, reply), returned))
    (settles : (returned.noted (.handle given)).Settles reply.withoutReceipt answer after)

/-- What passes when a runtime is asked for. The result tells whether one was handed out. -/
inductive Created (vm : Vm σ) (world : World σ) :
    Except SessionError Bool → World σ → List Vm.Call → Prop where
  | made {given : Bool} {answer : Vm.Answer} {after : World σ} :
    CreateAnswered vm world given answer after → answer.code = 0 →
    Created vm world (.ok given) after (.create :: .handle given :: answer.calls)
  | failed {given : Bool} {answer : Vm.Answer} {after : World σ} :
    CreateAnswered vm world given answer after → answer.code ≠ 0 →
    Created vm world (.error (.creation (Utf8.decodeLossy answer.error.contents))) after
      (.create :: .handle given :: answer.calls)

/-- What passes when imports are offered and a runtime is asked for, which happens only if none of
the imports was rejected. -/
inductive Furnished (vm : Vm σ) (space : String) (world : World σ) (entries : List Import) :
    Except SessionError Bool → World σ → List Vm.Call → Prop where
  | refused {error : SessionError} {after : World σ} {offered : List Vm.Call} :
    Offered vm space world entries (.error error) after offered →
    Furnished vm space world entries (.error error) after offered
  | asked {result : Except SessionError Bool} {between after : World σ}
      {offered created : List Vm.Call} :
    Offered vm space world entries (.ok ()) between offered →
    Created vm between result after created →
    Furnished vm space world entries result after (offered ++ created)

/-- From one world to the other the VM was told to take something back, if it had handed it out. -/
def TakenBack (given : Bool) (call : Vm.Call) (program : VmProgram σ Unit)
    (world after : World σ) : Prop :=
  if given then program.run (world.noted call) = .ok ((), after) else after = world

/-- The call by which the table of imports is given back, if there is one. -/
def tableGivenBack (hasTable : Bool) : List Vm.Call := if hasTable then [.destroyImports] else []

/-- What passes up to the first call of the session. The result tells whether a table of imports and
whether a runtime was handed out. -/
inductive Established (vm : Vm σ) (space : String) (world : World σ) (entries : List Import) :
    Except SessionError (Bool × Bool) → World σ → List Vm.Call → Prop where
  /-- The imports are more than the VM can be told. -/
  | tooMany :
    RawBuffer.maxLength < entries.length →
    Established vm space world entries
      (.error (.encode (.bytesTooLong entries.length RawBuffer.maxLength))) world []
  | failed {hasTable : Bool} {error : SessionError} {roomy furnished after : World σ}
      {calls : List Vm.Call} :
    entries.length ≤ RawBuffer.maxLength →
    (vm.allocateImports entries.length).run (world.noted (.allocateImports entries.length)) =
      .ok (hasTable, roomy) →
    Furnished vm space (roomy.noted (.handle hasTable)) entries (.error error) furnished calls →
    TakenBack hasTable .destroyImports vm.destroyImports furnished after →
    Established vm space world entries (.error error) after
      (.allocateImports entries.length :: .handle hasTable :: (calls ++ tableGivenBack hasTable))
  | made {hasTable hasRuntime : Bool} {roomy after : World σ} {calls : List Vm.Call} :
    entries.length ≤ RawBuffer.maxLength →
    (vm.allocateImports entries.length).run (world.noted (.allocateImports entries.length)) =
      .ok (hasTable, roomy) →
    Furnished vm space (roomy.noted (.handle hasTable)) entries (.ok hasRuntime) after calls →
    Established vm space world entries (.ok (hasTable, hasRuntime)) after
      (.allocateImports entries.length :: .handle hasTable :: calls)

section Runtime

variable {buffers : List Buffer} {vm : Vm σ} {space : String} {world : World σ}

/-- A runtime is asked for, and the answer decides. -/
theorem yields_createRuntime :
    InWorld.Yields buffers world (createRuntime vm) (Created vm world) := by
  unfold createRuntime
  refine .record_bind ?_
  refine .run_bind fun made returned hrun => ?_
  obtain ⟨given, reply⟩ := made
  refine .record_bind ?_
  refine .settle_bind fun answer after hsettles => ?_
  have hanswered : CreateAnswered vm world given answer after := .intro hrun hsettles
  by_cases hcode : answer.code = 0
  · rw [if_pos hcode]
    refine .pure ?_
    rw [List.append_nil]
    exact .made hanswered hcode
  · rw [if_neg hcode]
    refine .pure ?_
    rw [List.append_nil]
    exact .failed hanswered hcode

/-- The imports come first, and the runtime only if all of them were accepted. -/
theorem yields_furnish (entries : List Import) :
    InWorld.Yields buffers world (furnish vm space entries)
      (Furnished vm space world entries) := by
  unfold furnish
  refine (yields_offerImports entries).bind fun result between offered hoffered => ?_
  cases result with
  | error error =>
    refine .pure ?_
    rw [List.append_nil]
    exact .refused hoffered
  | ok _ =>
    exact yields_createRuntime.mono fun result after created hcreated => .asked hoffered hcreated

/-- What the VM handed out is given back by one call. -/
theorem yields_takeBack (given : Bool) (call : Vm.Call) (program : VmProgram σ Unit) :
    InWorld.Yields buffers world
      (if given then do InWorld.record call; program.run else pure ()) fun _ after calls =>
        TakenBack given call program world after ∧ calls = if given then [call] else [] := by
  cases given with
  | false => exact .pure ⟨rfl, rfl⟩
  | true =>
    simp only [if_true]
    refine .record_bind ?_
    exact InWorld.Yields.run.mono fun _ after calls hcalls => ⟨hcalls.1, congrArg _ hcalls.2⟩

/-- Whatever the VM answers, the table that it handed out is given back unless there is a runtime
over it. -/
theorem yields_establish (entries : List Import) :
    InWorld.Yields buffers world (establish vm space entries)
      (Established vm space world entries) := by
  unfold establish
  by_cases hcount : entries.length ≤ RawBuffer.maxLength
  · simp only [RawBuffer.checkedLength, if_pos hcount]
    refine .record_bind ?_
    refine .run_bind fun hasTable roomy hrun => ?_
    refine .record_bind ?_
    refine (yields_furnish entries).bind fun result furnished calls hfurnished => ?_
    cases result with
    | error error =>
      refine (yields_takeBack hasTable .destroyImports vm.destroyImports).bind
        fun _ after given hgiven => ?_
      obtain ⟨htaken, rfl⟩ := hgiven
      refine .pure ?_
      rw [List.append_nil]
      exact .failed hcount hrun hfurnished htaken
    | ok hasRuntime =>
      refine .pure ?_
      rw [List.append_nil]
      exact .made hcount hrun hfurnished
  · simp only [RawBuffer.checkedLength, if_neg hcount]
    exact .pure (.tooMany (Nat.lt_of_not_le hcount))

end Runtime

end HostBridge.Session
