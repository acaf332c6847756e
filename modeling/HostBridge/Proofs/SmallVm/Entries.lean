import HostBridge.Proofs.Session.Turn

/-!
# The entry points of the small VM

What each entry point of the small VM makes of a world. Imports and apps are kept whatever the VM is
asked for (`State.Grows`).
-/

namespace HostBridge.SmallVm

/-! ## Apps -/

namespace State

variable {before between after : State}

/-- What the VM keeps whatever it is asked for: its imports, and the apps that it knows. -/
structure Grows (before after : State) : Prop where
  imports_eq : after.imports = before.imports
  isSome_count? : ∀ app, (before.count? app).isSome → (after.count? app).isSome

/-- Setting the count of an app leaves those of the others. -/
theorem count?_setCount (state : State) (app : Address) (count : UInt64) (other : Address) :
    (state.setCount app count).count? other =
      if other = app then some count else state.count? other := by
  simp only [count?, setCount, List.lookup_cons]
  by_cases h : other = app
  · rw [if_pos h, beq_iff_eq.2 h]
  rw [if_neg h, beq_false_of_ne h]
  induction state.apps with
  | nil => rfl
  | cons entry rest ih =>
    obtain ⟨key, content⟩ := entry
    rw [List.filter_cons, List.lookup_cons]
    by_cases hkey : key = app
    · have hother : (other == key) = false := beq_false_of_ne (hkey ▸ h)
      rw [if_neg (by simp [hkey]), hother]
      exact ih
    · rw [if_pos (by simpa using hkey), List.lookup_cons]
      cases other == key with
      | false => exact ih
      | true => rfl

/-- An app is known once its executions are counted. -/
theorem isSome_count?_setCount (state : State) (app : Address) (count : UInt64) :
    ((state.setCount app count).count? app).isSome := by
  rw [count?_setCount, if_pos rfl]
  rfl

namespace Grows

/-- A state has grown from itself. -/
theorem refl (state : State) : state.Grows state := ⟨rfl, fun _ h => h⟩

/-- Setting a count takes nothing away. -/
theorem setCount (state : State) (app : Address) (count : UInt64) :
    state.Grows (state.setCount app count) := by
  refine ⟨rfl, fun other h => ?_⟩
  rw [count?_setCount]
  split
  · rfl
  · exact h

end Grows

end State

/-! ## Entry points -/

section entries

variable (world : World State) (order : Vm.Order)

/-- A deployment is refused for want of gas, or adds a template. -/
theorem run_deploy :
    (deploy order).run world =
      let transaction := world.host.boundary.contents order.transaction
      let gas := UInt64.ofNat transaction.length
      let template := templateAddress (.ofBytes (world.host.boundary.contents order.address))
        transaction
      if order.gasMetering ∧ gas > order.gasLimit then .ok (report .outOfGas, world)
      else .ok (handOut (.deploy ⟨⟨0, true⟩, template, if order.gasMetering then gas else 0, []⟩),
        { world with vm := { world.vm with templates := template :: world.vm.templates } }) := by
  unfold deploy
  rw [VmProgram.run_bind_of_ok rfl, VmProgram.run_bind_of_ok rfl]
  dsimp only
  split <;> rfl

/-- A spawn sets the count of an app to zero, if its template is known. -/
theorem run_spawn :
    (spawn order).run world =
      let template : Address := .ofBytes (world.host.boundary.contents order.transaction)
      if template ∈ world.vm.templates then
        .ok (handOut (.spawn ⟨⟨0, true⟩, counterpart template,
            ⟨.zero, Calldata.encodeItem .unit, 0, []⟩⟩),
          { world with vm := world.vm.setCount (counterpart template) 0 })
      else .ok (report (.templateNotFound template), world) := by
  unfold spawn
  rw [VmProgram.run_bind_of_ok rfl, VmProgram.run_bind_of_ok rfl]
  dsimp only
  by_cases h : (.ofBytes (world.host.boundary.contents order.transaction) : Address) ∈
      world.vm.templates
  · rw [if_neg (not_not.2 h), if_pos h]
    rfl
  · rw [if_pos h, if_neg h]
    rfl

/-- An execution is counted, if the app is known, and calls the import that it names. -/
theorem run_exec :
    (exec order).run world =
      let app : Address := .ofBytes (world.host.boundary.contents order.address)
      match world.vm.count? app with
      | none => .ok (report (.appNotFound app), world)
      | some before =>
        let counted := { world with vm := world.vm.setCount app (before + 1) }
        match splitCall? (world.host.boundary.contents order.transaction) with
        | none => .ok (refuseText "malformed exec transaction", counted)
        | some (name, arguments) =>
          if name = "__abort" then .ok (handOut (.exec ⟨⟨0, false⟩, .empty⟩), counted)
          else match world.vm.imports.find? (·.name == name) with
          | none => .ok (report (.functionNotFound (counterpart app) app name), counted)
          | some accepted => (callAccepted app accepted (before + 1) arguments).run counted := by
  unfold exec
  rw [VmProgram.run_bind_of_ok rfl, VmProgram.run_bind_of_ok rfl]
  dsimp only
  cases world.vm.count? (.ofBytes (world.host.boundary.contents order.address)) with
  | none => rfl
  | some before =>
    dsimp only
    rw [VmProgram.run_bind_of_ok rfl, VmProgram.run_bind_of_ok rfl]
    dsimp only
    cases splitCall? (world.host.boundary.contents order.transaction) with
    | none => rfl
    | some call =>
      dsimp only
      split
      · rfl
      · cases world.vm.imports.find? (·.name == call.1) <;> rfl

/-- An import is accepted unless its name is reserved. -/
theorem run_addImport (offer : Vm.Offer) :
    (vm.addImport offer).run world =
      if Utf8.decodeLossy offer.name = "reject" then
        .ok (refuseText "import name is reserved", world)
      else
        let accepted : Accepted := ⟨Utf8.decodeLossy offer.space, Utf8.decodeLossy offer.name,
          offer.params, offer.returns, offer.binding⟩
        .ok (accept, { world with
          vm := { world.vm with imports := world.vm.imports ++ [accepted] } }) := by
  change (addImport offer).run world = _
  unfold addImport
  dsimp only
  split <;> rfl

/-- A runtime is made unless an import has no namespace. Nothing else changes. -/
theorem run_create :
    vm.create.run world =
      .ok (if world.vm.imports.any (·.space.isEmpty) then
        (false, refuseText "empty import namespace") else (true, accept), world) := by
  change create.run world = _
  unfold create
  rw [VmProgram.run_bind_of_ok rfl]
  split <;> rfl

end entries

/-! ## What is kept -/

section grows

variable {world after : World State} {order : Vm.Order} {reply : Vm.Reply}

/-- While an import is called the VM's own state stays as it is. -/
theorem leavesState_callAccepted (app : Address) (accepted : Accepted) (count : UInt64)
    (arguments : List UInt8) : (callAccepted app accepted count arguments).LeavesState := by
  refine (VmProgram.LeavesState.callImport _ _).bind fun reply => ?_
  cases reply with
  | trap raw =>
    refine (VmProgram.LeavesState.contents raw).bind fun bytes => ?_
    exact (VmProgram.LeavesState.release raw).bind fun _ => .pure _
  | results raw =>
    refine (VmProgram.LeavesState.contents raw).bind fun bytes => ?_
    refine (VmProgram.LeavesState.release raw).bind fun _ => ?_
    split
    · exact .pure _
    · split <;> exact .pure _

/-- A deployment takes nothing away. -/
theorem grows_deploy (h : (deploy order).run world = .ok (reply, after)) :
    world.vm.Grows after.vm := by
  rw [run_deploy] at h
  dsimp only at h
  split at h <;> cases h
  · exact .refl _
  · exact ⟨rfl, fun _ happ => happ⟩

/-- A spawn takes nothing away. -/
theorem grows_spawn (h : (spawn order).run world = .ok (reply, after)) :
    world.vm.Grows after.vm := by
  rw [run_spawn] at h
  dsimp only at h
  split at h <;> cases h
  · exact .setCount ..
  · exact .refl _

/-- An execution takes nothing away. -/
theorem grows_exec (h : (exec order).run world = .ok (reply, after)) :
    world.vm.Grows after.vm := by
  rw [run_exec] at h
  dsimp only at h
  split at h
  · cases h
    exact .refl _
  · split at h
    · cases h
      exact .setCount ..
    · split at h
      · cases h
        exact .setCount ..
      · split at h
        · cases h
          exact .setCount ..
        · have hvm := leavesState_callAccepted _ _ _ _ _ _ _ h
          exact hvm ▸ .setCount ..

/-- Whatever the VM is asked, it drops no import and no app. -/
theorem grows_of_run {request : Request} {transaction address : RawBuffer}
    (h : (request.program vm transaction address).run world = .ok (reply, after)) :
    world.vm.Grows after.vm := by
  cases request with
  | validate kind bytes =>
    cases h
    exact .refl _
  | run kind bytes address gasMetering gasLimit =>
    cases kind with
    | deploy => exact grows_deploy h
    | spawn => exact grows_spawn h
    | exec => exact grows_exec h

end grows

end HostBridge.SmallVm
