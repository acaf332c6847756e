import HostBridge.Proofs.Session.Opening

/-!
# Sessions between calls

Between two calls a session is `Idle`: the host holds no buffer of the VM's, and every block is
accounted for. What is done in a session's world leaves it idle again, with the host's live buffers
as they were (`Host.Balances`), or ends the process because the VM called a function that was never
registered (`Session.Keeps`).
-/

namespace HostBridge

/-- The host holds no buffer of the VM's. -/
structure Session.Idle {σ : Type} (session : Session σ) (host : Host) : Prop where
  sound : host.boundary.Sound
  books_eq : session.books.live.keys = []

/-- The host's live buffers are those from before, and every block is accounted for. -/
structure Host.Balances (before after : Host) : Prop where
  sound : after.boundary.Sound
  live_perm : after.boundary.host.live.keys.Perm before.boundary.host.live.keys
  size_le : before.functions.size ≤ after.functions.size

/-- The host's live buffers. -/
def Host.own (host : Host) : List Buffer :=
  host.boundary.host.live.keys.map fun address => ⟨.host, ⟨address, 0, 0⟩⟩

section Host

variable {σ : Type} {session : Session σ} {host before between after : Host}

namespace Host.Balances

/-- A host whose blocks are accounted for balances with itself. -/
theorem refl (h : host.boundary.Sound) : host.Balances host := ⟨h, .refl _, Nat.le_refl _⟩

/-- What balances twice balances from the first to the last. -/
theorem trans (h : before.Balances between) (h' : between.Balances after) :
    before.Balances after :=
  ⟨h'.sound, h'.live_perm.trans h.live_perm, Nat.le_trans h.size_le h'.size_le⟩

/-- The host has as many live buffers as before. -/
theorem liveCount_eq (h : before.Balances after) :
    after.boundary.host.liveCount = before.boundary.host.liveCount := by
  have hlength := h.live_perm.length_eq
  rwa [Std.ExtTreeMap.length_keys, Std.ExtTreeMap.length_keys] at hlength

end Host.Balances

/-- The host's live buffers are its own. -/
theorem Host.side_own (host : Host) : ∀ buffer ∈ host.own, buffer.side = .host := by
  intro buffer hmem
  obtain ⟨address, -, rfl⟩ := List.mem_map.1 hmem
  rfl

/-- The blocks are accounted for whatever the host has in its books of the VM's allocator. -/
theorem Boundary.Sound.withVm {boundary : Boundary} (h : boundary.Sound) (ledger : Ledger) :
    { boundary with vm := ledger }.Sound := ⟨h.blocks, h.ne_zero⟩

namespace Session.Idle

/-- In the world of an idle session the host owes its own live buffers. -/
theorem owes (h : session.Idle host) : (session.world host).Owes host.own :=
  ⟨(h.sound.withVm session.books).owes h.books_eq, host.side_own⟩

/-- An idle session has no buffer of the VM's in its books. -/
theorem liveCount_eq (h : session.Idle host) : session.books.liveCount = 0 :=
  Ledger.liveCount_eq_zero h.books_eq

end Session.Idle

end Host

section World

variable {σ : Type} {session : Session σ} {host : Host} {world : World σ} {buffers : List Buffer}

/-- Once only the host's own buffers are owed, the session is idle. -/
theorem World.Owes.idle (h : world.Owes buffers) (session : Session σ) :
    (session.after world).Idle world.host := by
  exact ⟨h.owes.toSound, h.vmLive_eq_nil⟩

/-- Once only the host's own buffers are owed, the host balances with how it was. -/
theorem World.Owes.balances (h : world.Owes host.own) (hsound : host.boundary.Sound)
    (hsize : host.functions.size ≤ world.host.functions.size) : host.Balances world.host :=
  ⟨h.owes.toSound, h.owes.hostLive.trans ((hsound.withVm (.new .vm)).owes rfl).hostLive.symm, hsize⟩

end World

/-! ## What is done in a session -/

namespace Session

variable {σ α β : Type} {session : Session σ} {host : Host} {buffers : List Buffer}

/-- Something was done in a session that ended with a result, a world and calls that fit `spec`. -/
def Keeps (session : Session σ) (host : Host) (spec : α → World σ → List Vm.Call → Prop) :
    Except Breach (α × Session σ × Host) → Prop
  | .error breach => ∃ index, breach = .unknownFunction index ∧ host.functions.size ≤ index
  | .ok (result, after, last) =>
    after.Idle last ∧ host.Balances last ∧ after.hasTable = session.hasTable ∧
      after.hasRuntime = session.hasRuntime ∧
      ∃ calls, after.calls = session.calls ++ calls ∧ spec result (after.world last) calls

/-- Where nothing is done, a session stays as it is. -/
theorem Keeps.ok (hidle : session.Idle host) {result : α}
    {spec : α → World σ → List Vm.Call → Prop} (h : spec result (session.world host) []) :
    session.Keeps host spec (.ok (result, session, host)) :=
  ⟨hidle, .refl hidle.sound, rfl, rfl, [], (List.append_nil _).symm, h⟩

/-- One thing is done after the other, each in an idle session. -/
theorem Keeps.bind {first : Except Breach (α × Session σ × Host)}
    {next : α × Session σ × Host → Except Breach (β × Session σ × Host)}
    {spec : α → World σ → List Vm.Call → Prop} {spec' : β → World σ → List Vm.Call → Prop}
    (hfirst : session.Keeps host spec first)
    (hnext : ∀ result (after : Session σ) last calls, after.Idle last →
      after.hasTable = session.hasTable → after.hasRuntime = session.hasRuntime →
      spec result (after.world last) calls →
      after.Keeps last (fun result final rest => spec' result final (calls ++ rest))
        (next (result, after, last))) :
    session.Keeps host spec' (first.bind next) := by
  cases first with
  | error breach => exact hfirst
  | ok done =>
    obtain ⟨result, between, middle⟩ := done
    obtain ⟨hidle, hbalances, htable, hruntime, calls, hcalls, hspec⟩ := hfirst
    have hlast := hnext result between middle calls hidle htable hruntime hspec
    change session.Keeps host spec' (next (result, between, middle))
    cases hrun : next (result, between, middle) with
    | error breach =>
      rw [hrun] at hlast
      obtain ⟨index, hbreach, hindex⟩ := hlast
      exact ⟨index, hbreach, Nat.le_trans hbalances.size_le hindex⟩
    | ok done =>
      rw [hrun] at hlast
      obtain ⟨hafter, hbalances', htable', hruntime', rest, hrest, hspec'⟩ := hlast
      refine ⟨hafter, hbalances.trans hbalances', htable'.trans htable,
        hruntime'.trans hruntime, calls ++ rest, ?_, hspec'⟩
      rw [hrest, hcalls, List.append_assoc]

/-- Something can be done in a session if it can be done in its world. -/
theorem during_of_ok {action : InWorld σ α} {result : α} {world : World σ}
    (h : action (session.world host) = .ok (result, world)) :
    session.during host action = .ok (result, session.after world, world.host) := by
  unfold during
  rw [h]
  rfl

/-- What ends the process in the world of a session ends it in the session. -/
theorem during_of_error {action : InWorld σ α} {breach : Breach}
    (h : action (session.world host) = .error breach) :
    session.during host action = .error breach := by
  unfold during
  rw [h]
  rfl

/-- The world in which a session is opened: nothing has passed, and the host has nothing in its
books of the VM's allocator. -/
def outset (state : σ) (host : Host) : World σ :=
  ⟨{ host with boundary := { host.boundary with vm := .new .vm } }, state, []⟩

/-- At the outset the host owes its own live buffers. -/
theorem owes_outset (hsound : host.boundary.Sound) (state : σ) : (outset state host).Owes host.own :=
  ⟨(hsound.withVm (.new .vm)).owes rfl, host.side_own⟩

/-- What becomes of the attempt to open a session. -/
inductive Started (vm : Vm σ) (state : σ) (imports : Imports) (config : Config) (host : Host) :
    Except Breach (Opening σ) → Prop where
  | ended {index : Nat} :
    host.functions.size ≤ index →
    Started vm state imports config host (.error (.unknownFunction index))
  /-- The VM is not called at all. -/
  | invalid {error : ConfigError} :
    config.check = .error error →
    Started vm state imports config host (.ok ⟨.error (.config error), [], host⟩)
  | failed {error : SessionError} {after : World σ} :
    config.check = .ok () →
    Established vm (imports.space.getD config.importSpace) (outset state host) imports.entries
      (.error error) after after.calls →
    host.Balances after.host → after.host.boundary.vm.live.keys = [] →
    Started vm state imports config host (.ok ⟨.error error, after.calls, after.host⟩)
  | opened {session : Session σ} {after : Host} :
    config.check = .ok () →
    Established vm (imports.space.getD config.importSpace) (outset state host) imports.entries
      (.ok (session.hasTable, session.hasRuntime)) (session.world after) session.calls →
    host.Balances after → session.Idle after →
    Started vm state imports config host (.ok ⟨.ok session, session.calls, after⟩)

/-- With settings that make no sense nothing is done. -/
theorem start_of_check_error {config : Config} {error : ConfigError}
    (hcheck : config.check = .error error) {vm : Vm σ} {state : σ} {imports : Imports} :
    start vm state imports config host = .ok ⟨.error (.config error), [], host⟩ := by
  unfold start
  rw [hcheck]
  rfl

/-- With settings that make sense everything is left to the VM. -/
theorem start_of_check {config : Config} (hcheck : config.check = .ok ()) (vm : Vm σ) (state : σ)
    (imports : Imports) (host : Host) :
    start vm state imports config host =
      (establish vm (imports.space.getD config.importSpace) imports.entries
        (outset state host)).bind
          fun (made, world) => .ok ⟨made.map fun (hasTable, hasRuntime) =>
            { config, space := imports.space.getD config.importSpace, imports := imports.entries,
              hasTable, hasRuntime, books := world.host.boundary.vm, vm := world.vm,
              calls := world.calls }, world.calls, world.host⟩ := by
  unfold start
  rw [hcheck]
  rfl

/-- A session is opened in order, whatever the VM answers. -/
theorem started (hsound : host.boundary.Sound) (vm : Vm σ) (state : σ) (imports : Imports)
    (config : Config) :
    Started vm state imports config host (start vm state imports config host) := by
  cases hcheck : config.check with
  | error error =>
    rw [start_of_check_error hcheck]
    exact .invalid hcheck
  | ok _ =>
    have hestablish : InWorld.Yields host.own (outset state host)
        (establish vm (imports.space.getD config.importSpace) imports.entries) _ :=
      yields_establish imports.entries
    have hyields := hestablish (owes_outset hsound state)
    rw [start_of_check hcheck]
    change Started vm state imports config host
      ((establish vm _ imports.entries (outset state host)).bind _)
    cases hrun : establish vm (imports.space.getD config.importSpace) imports.entries
        (outset state host) with
    | error breach =>
      rw [hrun] at hyields
      obtain ⟨index, rfl, hindex⟩ := hyields
      exact .ended hindex
    | ok done =>
      obtain ⟨made, after⟩ := done
      rw [hrun] at hyields
      obtain ⟨howes, hsize, calls, hcalls, hestablished⟩ := hyields
      have hbalances : host.Balances after.host := howes.balances hsound hsize
      have hbooks : after.host.boundary.vm.live.keys = [] := howes.vmLive_eq_nil
      obtain rfl : after.calls = calls := hcalls
      cases made with
      | error error => exact .failed hcheck hestablished hbalances hbooks
      | ok made =>
        exact .opened hcheck hestablished hbalances ⟨howes.owes.toSound, hbooks⟩

end Session

end HostBridge
