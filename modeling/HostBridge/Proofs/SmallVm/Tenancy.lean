import HostBridge.Proofs.SmallVm.Indices
import HostBridge.Session.Tenancy

/-!
# Tenants do not interfere

What a tenant of a host sees is the same whether or not there are others. A tenant that is served
among others and one that is served alone, on another host, are `Twins`: the indices of their
imports differ, and so do the addresses of their buffers, but neither shows. Whatever is done for
both, they see the same and stay twins (`Twins.agree`), and whatever is done for others
leaves them twins (`Twins.elsewhere`). The main result is `run_alone`.
-/

namespace HostBridge.SmallVm

/-! ## Sessions -/

section session

variable {imports : Imports} {spawned : List (Address × Address)} {session : Session State}
  {host : Host}

/-- What is asked of a session does not change its settings. -/
theorem config_of_ask {request : Request} {result : Except SessionError (Option Receipt)}
    {after : Session State} {last : Host}
    (h : session.ask vm host request = .ok (result, after, last)) :
    after.config = session.config := by
  cases hserve : Session.serve vm request (session.world host) with
  | error breach =>
    rw [Session.ask_of_error hserve] at h
    cases h
  | ok done =>
    obtain ⟨result, world⟩ := done
    rw [Session.ask_of_ok hserve] at h
    cases h
    rfl

/-- What the VM handed out is given back, and nothing else happens. -/
theorem comes_giveBack {buffers : List Buffer} (before : State) (hasTable hasRuntime : Bool) :
    Comes buffers before (Session.giveBack vm hasTable hasRuntime) () before := by
  have htable : Comes buffers before (Session.destroyTable vm hasTable) () before := by
    cases hasTable with
    | false => exact .pure before ()
    | true => exact comes_destroyTable
  cases hasRuntime with
  | false => exact htable
  | true =>
    have hrun : ∀ world : World State, world.vm = before →
        vm.destroy.run world = .ok ((), world) := fun _ _ => rfl
    exact .record (.run_bind hrun htable)

/-- A session can always be closed. -/
theorem exists_close (hidle : session.Idle host) :
    ∃ after last, session.close vm host = .ok ((), after, last) ∧ last.boundary.Sound ∧
      last.functions = host.functions := by
  obtain ⟨world, hgive, howes, hfunctions, -⟩ :=
    comes_giveBack session.vm session.hasTable session.hasRuntime (session.world host) hidle.owes
      rfl
  exact ⟨_, _, Session.during_of_ok hgive, howes.owes.toSound, hfunctions⟩

end session

/-! ## Tenants -/

/-- A tenant that is in order: its imports were collected on the host, and its session is in
use. -/
inductive InOrder (host : Host) : Tenant State → Prop where
  | collecting {imports : Imports} :
    imports.Collected host.functions → InOrder host (.collecting imports)
  | running {imports : Imports} {spawned : List (Address × Address)} {session : Session State} :
    InUse imports spawned session host → InOrder host (.running session)
  | gone : InOrder host .gone

/-- What is left when something was done on a host for a tenant. -/
structure Done (host : Host) (next : Tenant State) (last : Host) : Prop where
  sound : last.boundary.Sound
  extends_functions : host.functions.Extends last.functions
  inOrder : InOrder last next

/-- A tenant that collects imports registers one. -/
theorem perform_register {imports after : Imports} {host : Host} {name : String}
    {params returns : List ValueType} {implementation : HostFunction} {index : Nat}
    {functions : Registry}
    (h : imports.register host.functions name params returns implementation =
      .ok (index, after, functions)) :
    (Tenant.collecting imports).perform vm .initial host
        (.register name params returns implementation) =
      .ok (.registered (.ok ()), .collecting after, { host with functions := functions }) := by
  dsimp only [Tenant.perform]
  rw [h]
  rfl

/-- A tenant whose import is refused is told so, and stays as it is. -/
theorem perform_register_of_error {imports : Imports} {host : Host} {name : String}
    {params returns : List ValueType} {implementation : HostFunction} {error : ImportError}
    (h : imports.register host.functions name params returns implementation = .error error) :
    (Tenant.collecting imports).perform vm .initial host
        (.register name params returns implementation) =
      .ok (.registered (.error error), .collecting imports, host) := by
  dsimp only [Tenant.perform]
  rw [h]
  rfl

/-- To run a transaction with the settings of the session is to ask for it with these. -/
theorem perform_run (session : Session State) (host : Host) (kind : TransactionKind)
    (transaction : List UInt8) (address : Address) :
    (Tenant.running session).perform vm .initial host (.run kind transaction address) =
      (Tenant.running session).perform vm .initial host (.ask (.run kind transaction address
        session.config.gasMetering session.config.gasLimit)) := by
  unfold Tenant.perform Session.run Session.ask
  dsimp only
  cases session.runWith vm host kind transaction address session.config.gasMetering
    session.config.gasLimit <;> rfl

/-- A running tenant asks its session. -/
theorem perform_ask {session after : Session State} {host last : Host} {request : Request}
    {result : Except SessionError (Option Receipt)}
    (h : session.ask vm host request = .ok (result, after, last)) :
    (Tenant.running session).perform vm .initial host (.ask request) =
      .ok (.answered result, .running after, last) := by
  dsimp only [Tenant.perform]
  rw [h]
  rfl

/-- A tenant that has collected its imports opens a session, or is gone. -/
theorem perform_start {imports : Imports} {config : Config} {host : Host}
    {opening : Session.Opening State}
    (h : Session.start vm .initial imports config host = .ok opening) :
    (Tenant.collecting imports).perform vm .initial host (.start config) =
      .ok (match opening.result with
        | .error error => (.started (.error error), .gone, opening.host)
        | .ok session => (.started (.ok ()), .running session, opening.host)) := by
  dsimp only [Tenant.perform]
  rw [h]
  obtain ⟨result, calls, last⟩ := opening
  cases result <;> rfl

/-- A running tenant closes its session, and is gone. -/
theorem perform_leave {session after : Session State} {host last : Host}
    (h : session.close vm host = .ok ((), after, last)) :
    (Tenant.running session).perform vm .initial host .leave = .ok (.quiet, .gone, last) := by
  dsimp only [Tenant.perform]
  rw [h]
  rfl

namespace InOrder

variable {host last : Host} {tenant : Tenant State}

/-- What happens elsewhere leaves a tenant in order. -/
theorem elsewhere (h : InOrder host tenant) (hsound : last.boundary.Sound)
    (hextends : host.functions.Extends last.functions) : InOrder last tenant := by
  cases h with
  | collecting hcollected => exact .collecting (hcollected.elsewhere hextends)
  | running hinUse => exact .running (hinUse.elsewhere hsound hextends)
  | gone => exact .gone

/-- A session in use answers every request, and stays in use. -/
theorem exists_ask {imports : Imports} {spawned : List (Address × Address)}
    {session : Session State} (h : InUse imports spawned session host) (request : Request) :
    ∃ result next last,
      (Tenant.running session).perform vm .initial host (.ask request) = .ok (result, next, last) ∧
      Done host next last := by
  obtain ⟨result, after, last, hask⟩ := h.usable.exists_ask request
  have hinUse := h.ask request hask
  exact ⟨_, _, _, perform_ask hask, hinUse.usable.idle.sound,
    Session.ask_extends h.usable.idle hask, .running hinUse⟩

/-- Anything can be done for a tenant that is in order, and it is in order then. -/
theorem exists_perform (h : InOrder host tenant) (hsound : host.boundary.Sound) (act : Act) :
    ∃ result next last, tenant.perform vm .initial host act = .ok (result, next, last) ∧
      Done host next last := by
  have hquiet : Done host tenant host := ⟨hsound, .refl _, h⟩
  cases h with
  | @collecting imports hcollected =>
    cases act with
    | within space =>
      exact ⟨_, _, _, rfl, hsound, .refl _, .collecting (.within (some space) hcollected)⟩
    | register name params returns implementation =>
      cases hregister : imports.register host.functions name params returns implementation with
      | error error => exact ⟨_, _, _, perform_register_of_error hregister, hquiet⟩
      | ok done =>
        obtain ⟨index, after, functions⟩ := done
        obtain ⟨-, -, rfl, -⟩ := Imports.Collected.register_eq_ok hregister
        exact ⟨_, _, _, perform_register hregister, hsound, .register _ _,
          .collecting (.register name params returns implementation hcollected hregister)⟩
    | start config =>
      obtain ⟨opening, hstart, hopened⟩ := exists_opening hsound imports config
      cases hopened with
      | refused _ hfunctions hsound' =>
        exact ⟨_, _, _, perform_start hstart, hsound', hfunctions ▸ .refl _, .gone⟩
      | opened _ hfunctions hidle _ _ _ =>
        exact ⟨_, _, _, perform_start hstart, hidle.sound, hfunctions ▸ .refl _,
          .running (.start config hsound hcollected hstart)⟩
    | leave => exact ⟨_, _, _, rfl, hsound, .refl _, .gone⟩
    | _ => exact ⟨_, _, _, rfl, hquiet⟩
  | @running imports spawned session hinUse =>
    cases act with
    | ask request => exact exists_ask hinUse request
    | run kind transaction address =>
      rw [perform_run]
      exact exists_ask hinUse _
    | leave =>
      obtain ⟨after, last, hclose, hsound', hfunctions⟩ := exists_close hinUse.usable.idle
      exact ⟨_, _, _, perform_leave hclose, hsound', hfunctions ▸ .refl _, .gone⟩
    | _ => exact ⟨_, _, _, rfl, hquiet⟩
  | gone => cases act <;> exact ⟨_, _, _, rfl, hquiet⟩

end InOrder

/-! ## Twins -/

/-- The same tenant on two hosts. Only the indices of its imports differ, and the addresses of its
buffers. -/
inductive Twins (host host' : Host) : Tenant State → Tenant State → Prop where
  | collecting {imports imports' : Imports} :
    Alike imports imports' host.functions host'.functions →
    Twins host host' (.collecting imports) (.collecting imports')
  | running {imports imports' : Imports} {spawned spawned' : List (Address × Address)}
    {session session' : Session State} :
    Alike imports imports' host.functions host'.functions →
    InUse imports spawned session host → InUse imports' spawned' session' host' →
    session.config = session'.config → session.vm.bare = session'.vm.bare →
    Twins host host' (.running session) (.running session')
  | gone : Twins host host' .gone .gone

/-- When the same is done for both, they learn the same and are twins again. -/
inductive Agree (host host' : Host) (tenant tenant' : Tenant State) (act : Act) : Prop where
  | intro {result : Tenant.Result} {next next' : Tenant State} {last last' : Host} :
    tenant.perform vm .initial host act = .ok (result, next, last) →
    tenant'.perform vm .initial host' act = .ok (result, next', last') →
    Twins last last' next next' → Agree host host' tenant tenant' act

namespace Twins

variable {host host' last last' : Host} {tenant tenant' : Tenant State}

/-- Whatever is done for others leaves them twins. -/
theorem elsewhere (h : Twins host host' tenant tenant')
    (hsound : last.boundary.Sound) (hsound' : last'.boundary.Sound)
    (hextends : host.functions.Extends last.functions)
    (hextends' : host'.functions.Extends last'.functions) : Twins last last' tenant tenant' := by
  cases h with
  | collecting halike => exact .collecting (halike.elsewhere hextends hextends')
  | running halike hinUse hinUse' hconfig hbare =>
    exact .running (halike.elsewhere hextends hextends') (hinUse.elsewhere hsound hextends)
      (hinUse'.elsewhere hsound' hextends') hconfig hbare
  | gone => exact .gone

/-- As many buffers are held for the one as for the other. -/
theorem live_eq (h : Twins host host' tenant tenant') : tenant.live = tenant'.live := by
  cases h with
  | collecting _ => rfl
  | running _ hinUse hinUse' _ _ =>
    have hlive := hinUse.usable.idle.liveCount_eq
    have hlive' := hinUse'.usable.idle.liveCount_eq
    show some _ = some _
    rw [hlive, hlive']
  | gone => rfl

/-- What is asked of both is answered alike. -/
theorem agree_ask {imports imports' : Imports} {spawned spawned' : List (Address × Address)}
    {session session' : Session State}
    (halike : Alike imports imports' host.functions host'.functions)
    (hinUse : InUse imports spawned session host)
    (hinUse' : InUse imports' spawned' session' host') (hconfig : session.config = session'.config)
    (hbare : session.vm.bare = session'.vm.bare) (request : Request) :
    Agree host host' (.running session) (.running session') (.ask request) := by
  obtain ⟨result, after, last, hask⟩ := hinUse.usable.exists_ask request
  obtain ⟨result', after', last', hask'⟩ := hinUse'.usable.exists_ask request
  have heq := halike.ask hinUse.usable hinUse'.usable hbare request
  rw [hask, hask'] at heq
  obtain ⟨rfl, hbare'⟩ := Prod.mk.inj (Except.ok.inj heq)
  have hconfig' : after.config = after'.config :=
    ((config_of_ask hask).trans hconfig).trans (config_of_ask hask').symm
  have halike' := halike.elsewhere (Session.ask_extends hinUse.usable.idle hask)
    (Session.ask_extends hinUse'.usable.idle hask')
  exact .intro (perform_ask hask) (perform_ask hask')
    (.running halike' (hinUse.ask request hask) (hinUse'.ask request hask') hconfig' hbare')

/-- A registration for both is accepted or refused alike. -/
theorem agree_register {imports imports' : Imports}
    (halike : Alike imports imports' host.functions host'.functions) (name : String)
    (params returns : List ValueType) {implementation : HostFunction}
    (hsteady : implementation.Steady) :
    Agree host host' (.collecting imports) (.collecting imports')
      (.register name params returns implementation) := by
  have hregister := imports.register_bare host.functions name params returns implementation
  rw [halike.bare_eq, ← imports'.register_bare host'.functions] at hregister
  cases hone : imports.register host.functions name params returns implementation with
  | error error =>
    cases hother : imports'.register host'.functions name params returns implementation with
    | error error' =>
      rw [hone, hother] at hregister
      cases hregister
      exact .intro (perform_register_of_error hone) (perform_register_of_error hother)
        (.collecting halike)
    | ok done =>
      rw [hone, hother] at hregister
      cases hregister
  | ok done =>
    cases hother : imports'.register host'.functions name params returns implementation with
    | error error' =>
      rw [hone, hother] at hregister
      cases hregister
    | ok done' =>
      rw [hone, hother] at hregister
      obtain ⟨index, after, functions⟩ := done
      obtain ⟨index', after', functions'⟩ := done'
      obtain ⟨-, -, -, hentries, -⟩ := Imports.Collected.register_eq_ok hone
      refine .intro (perform_register hone) (perform_register hother)
        (.collecting ⟨Except.ok.inj hregister, ?_,
          .register name params returns implementation halike.collected hone,
          .register name params returns implementation halike.collected' hother⟩)
      intro entry hmem
      rw [hentries] at hmem
      rcases List.mem_append.1 hmem with hmem | hmem
      · exact halike.steady entry hmem
      · rcases List.mem_singleton.1 hmem with rfl
        exact hsteady

/-- A session is opened for both, or for neither and for the same reason. -/
theorem agree_start (hsound : host.boundary.Sound) (hsound' : host'.boundary.Sound)
    {imports imports' : Imports} (halike : Alike imports imports' host.functions host'.functions)
    (config : Config) :
    Agree host host' (.collecting imports) (.collecting imports') (.start config) := by
  obtain ⟨opening, hstart, hopened⟩ := exists_opening hsound imports config
  obtain ⟨opening', hstart', hopened'⟩ := exists_opening hsound' imports' config
  have hadmits : admits imports config = admits imports' config := by
    rw [← admits_bare imports, halike.bare_eq, admits_bare]
  cases hopened with
  | refused hrefused _ _ =>
    cases hopened' with
    | refused hrefused' _ _ =>
      cases (hrefused.symm.trans hadmits).trans hrefused'
      exact .intro (perform_start hstart) (perform_start hstart') .gone
    | opened hadmitted _ _ _ _ _ => cases (hrefused.symm.trans hadmits).trans hadmitted
  | opened hadmitted hfunctions _ hconfig _ hvm =>
    cases hopened' with
    | refused hrefused' _ _ => cases (hadmitted.symm.trans hadmits).trans hrefused'
    | opened _ hfunctions' _ hconfig' _ hvm' =>
      have hbare := congrArg State.bare hvm
      have hbare' := congrArg State.bare hvm'
      exact .intro (perform_start hstart) (perform_start hstart')
        (.running (halike.elsewhere (hfunctions ▸ .refl _) (hfunctions' ▸ .refl _))
          (.start config hsound halike.collected hstart)
          (.start config hsound' halike.collected' hstart')
          (hconfig.trans hconfig'.symm) (hbare.trans hbare'.symm))

/-- Whatever is done for both, they learn the same and stay twins. -/
theorem agree (hsound : host.boundary.Sound) (hsound' : host'.boundary.Sound)
    (h : Twins host host' tenant tenant') {act : Act}
    (hsteady : ∀ name params returns implementation,
      act = .register name params returns implementation → implementation.Steady) :
    Agree host host' tenant tenant' act := by
  have hquiet := h
  cases h with
  | collecting halike =>
    cases act with
    | within space =>
      refine .intro rfl rfl (.collecting ⟨?_, halike.steady,
        .within (some space) halike.collected, .within (some space) halike.collected'⟩)
      exact congrArg (fun imports : Imports => { imports with space := some space }) halike.bare_eq
    | register name params returns implementation =>
      exact agree_register halike name params returns (hsteady _ _ _ _ rfl)
    | start config => exact agree_start hsound hsound' halike config
    | leave => exact .intro rfl rfl .gone
    | _ => exact .intro rfl rfl hquiet
  | @running _ _ _ _ session session' halike hinUse hinUse' hconfig hbare =>
    cases act with
    | ask request => exact agree_ask halike hinUse hinUse' hconfig hbare request
    | run kind transaction address =>
      obtain ⟨hperform, hperform', htwins⟩ := agree_ask halike hinUse hinUse' hconfig hbare
        (.run kind transaction address session.config.gasMetering session.config.gasLimit)
      rw [← perform_run] at hperform
      rw [hconfig, ← perform_run] at hperform'
      exact .intro hperform hperform' htwins
    | leave =>
      obtain ⟨after, last, hclose, -, -⟩ := exists_close hinUse.usable.idle
      obtain ⟨after', last', hclose', -, -⟩ := exists_close hinUse'.usable.idle
      exact .intro (perform_leave hclose) (perform_leave hclose') .gone
    | _ => exact .intro rfl rfl hquiet
  | gone => cases act <;> exact .intro rfl rfl hquiet

end Twins

/-! ## Runs -/

section run

variable {ι : Type} {tenancy tenancy' next : Tenancy State ι} {tenant : ι} {host host' : Host}

/-- Every block is accounted for, and every tenant is in order. -/
structure Settled (tenancy : Tenancy State ι) : Prop where
  sound : tenancy.host.boundary.Sound
  inOrder : ∀ tenant, InOrder tenancy.host (tenancy.tenants tenant)

/-- What a step is for others leaves a tenant as it was. -/
structure Passes (tenant : ι) (tenancy : Tenancy State ι) (seen : List (Tenancy.Event ι))
    (next : Tenancy State ι) : Prop where
  tenant_eq : next.tenants tenant = tenancy.tenants tenant
  unseen : ∀ event ∈ seen, event.tenant ≠ tenant

/-- Before anyone has acted, the tenancy is settled. -/
theorem settled_opened (hsound : host.boundary.Sound) :
    Settled (Tenancy.opened host : Tenancy State ι) :=
  ⟨hsound, fun _ => .collecting (.empty _)⟩

/-- A tenant among others, and the same one alone. -/
structure Paired (tenant : ι) (tenancy tenancy' : Tenancy State ι) : Prop where
  settled : Settled tenancy
  settled' : Settled tenancy'
  twins : Twins tenancy.host tenancy'.host (tenancy.tenants tenant) (tenancy'.tenants tenant)

/-- Two new tenancies are alike for every tenant. -/
theorem Paired.opened (tenant : ι) (hsound : host.boundary.Sound) (hsound' : host'.boundary.Sound) :
    Paired tenant (Tenancy.opened host) (Tenancy.opened host') :=
  ⟨settled_opened hsound, settled_opened hsound',
    .collecting ⟨rfl, List.forall_mem_nil _, .empty _, .empty _⟩⟩

variable [DecidableEq ι]

/-- What a tenant does is told of it, and changes nobody else. -/
theorem step_act {actor : ι} {act : Act} {result : Tenant.Result} {next : Tenant State}
    {last : Host}
    (h : (tenancy.tenants actor).perform vm .initial tenancy.host act =
      .ok (result, next, last)) :
    tenancy.step vm .initial (.act actor act) =
      .ok ([⟨actor, result, next.live⟩], ⟨last, Function.update tenancy.tenants actor next⟩) := by
  dsimp only [Tenancy.step]
  rw [h]
  rfl

/-- A run is its first step and the run behind it. -/
theorem run_cons {step : Tenancy.Step ι} {steps : List (Tenancy.Step ι)}
    {seen events : List (Tenancy.Event ι)} {last : Tenancy State ι}
    (hstep : tenancy.step vm .initial step = .ok (seen, next))
    (hrun : next.run vm .initial steps = .ok (events, last)) :
    tenancy.run vm .initial (step :: steps) = .ok (seen ++ events, last) := by
  dsimp only [Tenancy.run]
  rw [hstep]
  show (next.run vm .initial steps).bind _ = _
  rw [hrun]
  rfl

/-- A step is always possible. It takes no function back, and it passes by everyone for whom it is
not. -/
theorem Settled.exists_step (h : Settled tenancy) (step : Tenancy.Step ι) :
    ∃ seen next, tenancy.step vm .initial step = .ok (seen, next) ∧ Settled next ∧
      tenancy.host.functions.Extends next.host.functions ∧
      ∀ tenant, step.isFor tenant = false → Passes tenant tenancy seen next := by
  cases step with
  | act actor act =>
    obtain ⟨result, next, last, hperform, hsound, hextends, hnext⟩ :=
      (h.inOrder actor).exists_perform h.sound act
    refine ⟨_, _, step_act hperform, ⟨hsound, fun tenant => ?_⟩, hextends,
      fun tenant hother => ?_⟩
    · show InOrder last (Function.update tenancy.tenants actor next tenant)
      rcases eq_or_ne tenant actor with rfl | hne
      · rw [Function.update_self]
        exact hnext
      · rw [Function.update_of_ne hne]
        exact (h.inOrder tenant).elsewhere hsound hextends
    · have hne : actor ≠ tenant := of_decide_eq_false hother
      exact ⟨Function.update_of_ne hne.symm _ _, by simpa using hne⟩
  | register function =>
    have hextends := Registry.Extends.register tenancy.host.functions function
    exact ⟨_, _, rfl, ⟨h.sound, fun tenant => (h.inOrder tenant).elsewhere h.sound hextends⟩,
      hextends, fun tenant _ => ⟨rfl, List.forall_mem_nil _⟩⟩

namespace Paired

/-- A step for others is taken among the others alone. -/
theorem exists_other (h : Paired tenant tenancy tenancy') {step : Tenancy.Step ι}
    (hother : step.isFor tenant = false) :
    ∃ seen next, tenancy.step vm .initial step = .ok (seen, next) ∧
      (∀ event ∈ seen, event.tenant ≠ tenant) ∧ Paired tenant next tenancy' := by
  obtain ⟨seen, next, hstep, hsettled, hextends, hpasses⟩ := h.settled.exists_step step
  have ⟨htenant, hunseen⟩ := hpasses tenant hother
  refine ⟨seen, next, hstep, hunseen, hsettled, h.settled', ?_⟩
  rw [htenant]
  exact h.twins.elsewhere hsettled.sound h.settled'.sound hextends (.refl _)

/-- A step for the tenant itself is taken on both sides, and it sees the same. -/
theorem exists_own (h : Paired tenant tenancy tenancy') {act : Act}
    (hsteady : ∀ name params returns implementation,
      act = .register name params returns implementation → implementation.Steady) :
    ∃ event next next', tenancy.step vm .initial (.act tenant act) = .ok ([event], next) ∧
      tenancy'.step vm .initial (.act tenant act) = .ok ([event], next') ∧
      event.tenant = tenant ∧ Paired tenant next next' := by
  obtain ⟨hperform, hperform', htwins⟩ :=
    h.twins.agree h.settled.sound h.settled'.sound hsteady
  have hstep := step_act hperform
  have hstep' := step_act hperform'
  rw [← htwins.live_eq] at hstep'
  obtain ⟨_, _, htaken, hsettled, -, -⟩ := h.settled.exists_step (.act tenant act)
  obtain ⟨_, _, htaken', hsettled', -, -⟩ := h.settled'.exists_step (.act tenant act)
  cases hstep.symm.trans htaken
  cases hstep'.symm.trans htaken'
  refine ⟨_, _, _, hstep, hstep', rfl, hsettled, hsettled', ?_⟩
  simpa using htwins

/-- The whole run among others, and the tenant's own steps alone. -/
theorem exists_run (h : Paired tenant tenancy tenancy') {steps : List (Tenancy.Step ι)}
    (hsteady : ∀ name params returns implementation,
      .act tenant (.register name params returns implementation) ∈ steps →
      implementation.Steady) :
    ∃ events last last', tenancy.run vm .initial steps = .ok (events, last) ∧
      tenancy'.run vm .initial (steps.filter (·.isFor tenant)) =
        .ok (events.filter (·.tenant = tenant), last') ∧
      Paired tenant last last' := by
  induction steps generalizing tenancy tenancy' with
  | nil => exact ⟨_, _, _, rfl, rfl, h⟩
  | cons step steps ih =>
    have hlater : ∀ name params returns implementation,
        .act tenant (.register name params returns implementation) ∈ steps →
        implementation.Steady := fun name params returns implementation hmem =>
      hsteady name params returns implementation (.tail _ hmem)
    cases hfor : step.isFor tenant with
    | false =>
      obtain ⟨seen, next, hstep, hunseen, hnext⟩ := h.exists_other hfor
      obtain ⟨events, last, last', hrun, halone, hlast⟩ := ih hnext hlater
      refine ⟨seen ++ events, last, last', run_cons hstep hrun, ?_, hlast⟩
      have hnone : seen.filter (·.tenant = tenant) = [] :=
        List.filter_eq_nil_iff.2 fun event hmem => by simpa using hunseen event hmem
      rw [List.filter_cons_of_neg (by simp [hfor]), List.filter_append, hnone]
      exact halone
    | true =>
      cases step with
      | register function => cases hfor
      | act actor act =>
        obtain rfl : actor = tenant := of_decide_eq_true hfor
        have hown : ∀ name params returns implementation,
            act = .register name params returns implementation → implementation.Steady :=
          fun name params returns implementation hact =>
            hsteady name params returns implementation (hact ▸ .head _)
        obtain ⟨event, next, next', hstep, hstep', hevent, hnext⟩ := h.exists_own hown
        obtain ⟨events, last, last', hrun, halone, hlast⟩ := ih hnext hlater
        refine ⟨event :: events, last, last', run_cons hstep hrun, ?_, hlast⟩
        rw [List.filter_cons_of_pos hfor, List.filter_cons_of_pos (by simpa using hevent)]
        exact run_cons hstep' halone

end Paired

/-- **Tenants do not interfere.** Whatever is done for whomever on a host, and whatever functions
are registered besides: what a tenant sees of its own steps is what it sees when they are taken
alone, on any other host, and so is the count of the VM's buffers that are held for it at the end.
The functions that it registers are taken to end as their arguments have it, while those of the
others may do as they like. -/
theorem run_alone (tenant : ι) (steps : List (Tenancy.Step ι)) (hsound : host.boundary.Sound)
    (hsound' : host'.boundary.Sound)
    (hsteady : ∀ name params returns implementation,
      .act tenant (.register name params returns implementation) ∈ steps →
      implementation.Steady) :
    ∃ events last last', (Tenancy.opened host).run vm .initial steps = .ok (events, last) ∧
      (Tenancy.opened host').run vm .initial (steps.filter (·.isFor tenant)) =
        .ok (events.filter (·.tenant = tenant), last') ∧
      (last.tenants tenant).live = (last'.tenants tenant).live := by
  obtain ⟨events, last, last', hrun, halone, hpaired⟩ :=
    (Paired.opened tenant hsound hsound').exists_run hsteady
  exact ⟨events, last, last', hrun, halone, hpaired.twins.live_eq⟩

end run

/-- Two tenants that have functions of one name. A third function is registered between theirs, and
the function of the one registers another while it is called. -/
def neighbours : List (Tenancy.Step Bool) :=
  [.act false (.register "sum" [.i32] [.i32] Stock.echo),
    .register Stock.reverse,
    .act true (.register "sum" [.i32, .i32] [.i32] (Stock.nested Stock.sum32)),
    .act true (.start .standard),
    .act false (.start .standard),
    .act true (.run .deploy [7] .zero),
    .act false (.run .deploy [7] .zero),
    .act true (.run .spawn (templateAddress .zero [7]).toList .zero),
    .act false .leave,
    .act true (.run .exec (callTransaction "sum" [2, 0, 0, 0, 0, 2, 0, 0, 0, 0, 3])
      (counterpart (templateAddress .zero [7])))]

/-- The tenant had five answered, and nothing of the VM's is held for it. -/
def showsFive : Tenancy.Event Bool → Bool
  | ⟨true, .answered (.ok (some (.exec receipt))), some 0⟩ => receipt.result.returns = .ok [.i32 5]
  | _ => false

/-- What shows a five is the receipt of an execution that returned it. -/
theorem exists_of_showsFive {event : Tenancy.Event Bool} (h : showsFive event = true) :
    ∃ receipt, event = ⟨true, .answered (.ok (some (.exec receipt))), some 0⟩ ∧
      receipt.result.returns = .ok [.i32 5] := by
  unfold showsFive at h
  split at h
  · next receipt => exact ⟨receipt, rfl, of_decide_eq_true h⟩
  · cases h

/-- Among its neighbours a tenant has its own function called. -/
theorem sum_among_neighbours : ∃ events last receipt,
    (Tenancy.opened Host.new).run vm .initial neighbours = .ok (events, last) ∧
    (events.filter (·.tenant = true))[4]? =
      some ⟨true, .answered (.ok (some (.exec receipt))), some 0⟩ ∧
    receipt.result.returns = .ok [.i32 5] := by
  have hsound : Host.new.boundary.Sound := (Boundary.owes_new .ascending).toSound
  have hsteady : ∀ name params returns implementation,
      .act true (.register name params returns implementation) ∈ neighbours →
      implementation.Steady := by
    intro name params returns implementation hmem
    obtain ⟨-, -, -, rfl⟩ : name = "sum" ∧ params = [.i32, .i32] ∧ returns = [.i32] ∧
        implementation = Stock.nested Stock.sum32 := by simpa [neighbours] using hmem
    exact fun _ _ => rfl
  obtain ⟨events, last, _, hrun, halone, -⟩ := run_alone true neighbours hsound hsound hsteady
  have hshown : ((Tenancy.opened Host.new).run vm .initial
      (neighbours.filter (·.isFor true))).toOption.any (fun (events, _) =>
        events[4]?.any showsFive) = true := by
    decide +kernel
  rw [halone] at hshown
  change ((events.filter (·.tenant = true))[4]?).any showsFive = true at hshown
  obtain ⟨event, hevent, hfive⟩ := (Option.any_eq_true _ _).1 hshown
  obtain ⟨receipt, rfl, hreturns⟩ := exists_of_showsFive hfive
  exact ⟨events, last, receipt, hrun, hevent, hreturns⟩

end HostBridge.SmallVm
