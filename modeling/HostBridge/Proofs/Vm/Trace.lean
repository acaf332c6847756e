import HostBridge.Proofs.Vm.Exchange

/-!
# Traces

What passes between host and VM while something is done. `InWorld.Yields` says which calls an action
adds to the record, with which result and in which world it ends, if the host owes buffers of its own
only; it owes the same ones afterwards. The one way out is a VM that calls a function that was never
registered. The rules follow the way actions are put together. Where the VM is at work, the rules
hand on what it was run on and what it replied.
-/

namespace HostBridge.InWorld

/-- In a world an action ends with a result, a world and calls that fit `spec`, and the host owes
what it owed. -/
def Yields {σ α : Type} (buffers : List Buffer) (world : World σ) (action : InWorld σ α)
    (spec : α → World σ → List Vm.Call → Prop) : Prop :=
  world.Owes buffers →
    match action world with
    | .error breach =>
      ∃ index, breach = .unknownFunction index ∧ world.host.functions.size ≤ index
    | .ok (result, after) =>
      after.Owes buffers ∧ world.host.functions.size ≤ after.host.functions.size ∧
        ∃ calls, after.calls = world.calls ++ calls ∧ spec result after calls

namespace Yields

variable {σ α β : Type} {buffers : List Buffer} {world : World σ} {action : InWorld σ α}
  {next : α → InWorld σ β}

/-- Where nothing is done, nothing passes. -/
theorem pure {result : α} {spec : α → World σ → List Vm.Call → Prop} (h : spec result world []) :
    Yields buffers world (Pure.pure result : InWorld σ α) spec :=
  fun howes => ⟨howes, Nat.le_refl _, [], (List.append_nil _).symm, h⟩

/-- One thing is done after the other, and so are their calls. -/
theorem bind {first : α → World σ → List Vm.Call → Prop} {spec : β → World σ → List Vm.Call → Prop}
    (haction : Yields buffers world action first)
    (hnext : ∀ result between calls, first result between calls →
      Yields buffers between (next result) fun last after rest => spec last after (calls ++ rest)) :
    Yields buffers world (action >>= next) spec := by
  intro howes
  have hfirst := haction howes
  cases hrun : action world with
  | error breach =>
    rw [hrun] at hfirst
    rw [bind_of_error hrun]
    exact hfirst
  | ok done =>
    obtain ⟨result, between⟩ := done
    rw [hrun] at hfirst
    obtain ⟨hbetween, hle, calls, hcalls, hspec⟩ := hfirst
    rw [bind_of_ok hrun]
    have hlast := hnext result between calls hspec hbetween
    cases hrun' : next result between with
    | error breach =>
      rw [hrun'] at hlast
      obtain ⟨index, hbreach, hindex⟩ := hlast
      exact ⟨index, hbreach, Nat.le_trans hle hindex⟩
    | ok done =>
      rw [hrun'] at hlast
      obtain ⟨hafter, hle', rest, hrest, hspec'⟩ := hlast
      refine ⟨hafter, Nat.le_trans hle hle', calls ++ rest, ?_, hspec'⟩
      rw [hrest, hcalls, List.append_assoc]

/-- Less may be said of what an action comes to. -/
theorem mono {first spec : α → World σ → List Vm.Call → Prop}
    (h : Yields buffers world action first)
    (himp : ∀ result after calls, first result after calls → spec result after calls) :
    Yields buffers world action spec := by
  intro howes
  have hfirst := h howes
  cases hrun : action world with
  | error breach => rwa [hrun] at hfirst
  | ok done =>
    rw [hrun] at hfirst
    obtain ⟨hafter, hle, calls, hcalls, hspec⟩ := hfirst
    exact ⟨hafter, hle, calls, hcalls, himp _ _ _ hspec⟩

/-- A call is recorded before whatever comes next. -/
theorem record_bind {call : Vm.Call} {next : Unit → InWorld σ β}
    {spec : β → World σ → List Vm.Call → Prop}
    (hnext : Yields buffers (world.noted call) (next ()) fun last after rest =>
      spec last after (call :: rest)) :
    Yields buffers world (record call >>= next) spec := by
  have hrecord : Yields buffers world (record call : InWorld σ Unit) fun _ after calls =>
      after = world.noted call ∧ calls = [call] :=
    fun howes => ⟨⟨howes.owes, howes.side_eq⟩, Nat.le_refl _, [call], rfl, rfl, rfl⟩
  refine hrecord.bind fun _ between calls hcalls => ?_
  obtain ⟨rfl, rfl⟩ := hcalls
  exact hnext

/-- While a VM is at work it calls no entry point. -/
theorem run {program : VmProgram σ α} :
    Yields buffers world program.run fun result after calls =>
      program.run world = .ok (result, after) ∧ calls = [] := by
  intro howes
  have hends := program.run_ends howes
  cases hprogram : program.run world with
  | error breach => rwa [hprogram] at hends
  | ok done =>
    rw [hprogram] at hends
    refine ⟨hends.1, hends.2.size_le, [], ?_, rfl, rfl⟩
    rw [hends.2.calls_eq, List.append_nil]

/-- What the VM did is known to whatever comes next. -/
theorem run_bind {program : VmProgram σ α} {spec : β → World σ → List Vm.Call → Prop}
    (hnext : ∀ result between, program.run world = .ok (result, between) →
      Yields buffers between (next result) spec) :
    Yields buffers world (program.run >>= next) spec := by
  refine run.bind fun result between calls hcalls => ?_
  obtain ⟨hrun, rfl⟩ := hcalls
  exact hnext result between hrun

/-- An entry point that has returned is answered for, and its buffers are freed. -/
theorem settle {reply : Vm.Reply} :
    Yields buffers world (InWorld.settle reply) fun answer after calls =>
      world.Settles reply answer after ∧ calls = answer.calls := by
  intro howes
  obtain ⟨answer, after, hrun, hafter, hsettles⟩ := settle_run howes.owes reply
  rw [hrun]
  have hsize := congrArg Registry.size hsettles.functions_eq
  exact ⟨⟨hafter, howes.side_eq⟩, Nat.le_of_eq hsize.symm, answer.calls, hsettles.calls_eq,
    hsettles, rfl⟩

/-- An answer is recorded before whatever comes next. -/
theorem settle_bind {reply : Vm.Reply} {next : Vm.Answer → InWorld σ β}
    {spec : β → World σ → List Vm.Call → Prop}
    (hnext : ∀ answer between, world.Settles reply answer between →
      Yields buffers between (next answer) fun last after rest =>
        spec last after (answer.calls ++ rest)) :
    Yields buffers world (InWorld.settle reply >>= next) spec := by
  refine settle.bind fun answer between calls hcalls => ?_
  obtain ⟨hsettles, rfl⟩ := hcalls
  exact hnext answer between hsettles

/-- A call and its answer are recorded before whatever comes next. -/
theorem exchange_bind {call : Vm.Call} {program : VmProgram σ Vm.Reply}
    {counted : Vm.Reply → Vm.Reply} {next : Vm.Answer → InWorld σ β}
    {spec : β → World σ → List Vm.Call → Prop}
    (hnext : ∀ answer between, world.Exchanges call program counted answer between →
      Yields buffers between (next answer) fun last after rest =>
        spec last after (call :: answer.calls ++ rest)) :
    Yields buffers world (exchange call program counted >>= next) spec := by
  have hexchange : Yields buffers world (exchange call program counted) fun answer after calls =>
      world.Exchanges call program counted answer after ∧ calls = call :: answer.calls := by
    unfold exchange
    refine .record_bind ?_
    refine .run_bind fun reply returned hrun => ?_
    refine settle.mono fun answer after calls hcalls => ?_
    exact ⟨.intro hrun hcalls.1, congrArg _ hcalls.2⟩
  refine hexchange.bind fun answer between calls hcalls => ?_
  obtain ⟨hexchanges, rfl⟩ := hcalls
  exact hnext answer between hexchanges

end Yields

end HostBridge.InWorld
