import HostBridge.Proofs.Host.Indices
import HostBridge.Proofs.SmallVm.Outcomes

/-!
# Indices do not show

Where the imports of a session stand in the table of host functions is not to be seen in what it
answers: sessions over imports that are `Alike` can be opened under the same conditions
(`admits_bare`) and answer alike (`Alike.ask`), each on a host of its own.
-/

namespace HostBridge.SmallVm

open Session (offerOf tooLong?)

/-! ## The VM by itself -/

/-- Whether imports are refused does not depend on their indices. -/
theorem refusal?_bare (space : String) (entries : List Import) :
    refusal? space (entries.map Import.bare) = refusal? space entries := by
  induction entries with
  | nil => rfl
  | cons entry entries ih =>
    have hlong : tooLong? (offerOf space entry.bare) = tooLong? (offerOf space entry) := rfl
    have hname : entry.bare.binding.name = entry.binding.name := rfl
    rw [List.map_cons, refusal?, refusal?, hlong, hname, ih]

/-- Whether a session can be opened does not depend on the indices. -/
theorem admits_bare (imports : Imports) (config : Config) :
    admits imports.bare config = admits imports config := by
  have hspace : imports.bare.space = imports.space := rfl
  have hentries : imports.bare.entries = imports.entries.map Import.bare := rfl
  unfold admits objection? complaint?
  rw [hspace, hentries, List.length_map, refusal?_bare]
  simp only [ne_eq, List.map_eq_nil_iff]

/-- The VM's state, but for the imports. -/
def State.bare (state : State) : State := { state with imports := [] }

/-- What the VM makes of a request by itself, but for the imports. -/
def Move.bare : Move → Move
  | .reply told after => .reply told after.bare
  | .call app count name arguments after => .call app count name arguments after.bare

/-- By itself the VM does not look at the imports. -/
theorem State.bare_move (state : State) (request : Request) :
    (state.move request).bare = state.bare.move request := by
  cases request with
  | validate kind transaction => rfl
  | run kind transaction address gasMetering gasLimit =>
    cases kind with
    | deploy =>
      simp only [State.move]
      split <;> rfl
    | spawn =>
      have htemplates : state.bare.templates = state.templates := rfl
      simp only [State.move, htemplates]
      split <;> rfl
    | exec =>
      have hcount : state.bare.count? address = state.count? address := rfl
      simp only [State.move, hcount]
      cases state.count? address with
      | none => rfl
      | some before =>
        dsimp only
        cases splitCall? transaction with
        | none => rfl
        | some call =>
          dsimp only
          split <;> rfl

/-- The reply for an import does not show its index. -/
theorem replyTo_bare (app : Address) (space : String) (entry : Import) (count : UInt64)
    (answer : Except Trap (List UInt8)) :
    replyTo app (acceptedOf space entry) count answer =
      replyTo app (acceptedOf "" entry.bare) count answer := by
  cases answer <;> rfl

/-- The reply and the state, when an import has answered. -/
theorem map_replyTo (app : Address) (space : String) (entry : Import) (count : UInt64)
    (after : State) (outcome : Except Breach (Except Trap (List UInt8) × Registry)) :
    (outcome.map fun (answer, grown) =>
        (replyTo app (acceptedOf space entry) count answer, after, grown)).map
          (fun (reply, after, _) => (reply, after.bare)) =
      (outcome.map Prod.fst).map fun answer =>
        (replyTo app (acceptedOf "" entry.bare) count answer, after.bare) := by
  simp only [replyTo_bare app space]
  cases outcome <;> rfl

/-! ## Imports that are alike -/

/-- Imports that differ in their indices alone, and whose functions end as their arguments have
it, each over a table of functions of its own. -/
structure Alike (imports imports' : Imports) (functions functions' : Registry) : Prop where
  bare_eq : imports.bare = imports'.bare
  steady : ∀ entry ∈ imports.entries, entry.implementation.Steady
  collected : imports.Collected functions
  collected' : imports'.Collected functions'

namespace Alike

variable {imports imports' : Imports} {functions functions' grown grown' : Registry}
  {state state' : State} {space space' : String} {host host' : Host}
  {session session' : Session State} {spawned spawned' : List (Address × Address)}

/-- Imports that lead to like functions still do so when the tables have grown. -/
theorem elsewhere (h : Alike imports imports' functions functions')
    (hextends : functions.Extends grown) (hextends' : functions'.Extends grown') :
    Alike imports imports' grown grown' :=
  ⟨h.bare_eq, h.steady, h.collected.elsewhere hextends, h.collected'.elsewhere hextends'⟩

/-- What the VM replies does not show the indices. -/
theorem serve (h : Alike imports imports' functions functions') (hbare : state.bare = state'.bare)
    (himports : state.imports = imports.entries.map (acceptedOf space))
    (himports' : state'.imports = imports'.entries.map (acceptedOf space')) (request : Request) :
    (state.serve functions request).map (fun (reply, after, _) => (reply, after.bare)) =
      (state'.serve functions' request).map fun (reply, after, _) => (reply, after.bare) := by
  have hmove : (state.move request).bare = (state'.move request).bare := by
    rw [State.bare_move, State.bare_move, hbare]
  unfold State.serve
  generalize state.move request = move at hmove ⊢
  generalize state'.move request = move' at hmove ⊢
  cases move with
  | reply reply after =>
    cases move' with
    | reply reply' after' =>
      obtain ⟨rfl, hafter⟩ := Move.reply.inj hmove
      simp [Except.map, hafter]
    | call => cases hmove
  | call app count name arguments after =>
    cases move' with
    | reply => cases hmove
    | call app' count' name' arguments' after' =>
      obtain ⟨rfl, rfl, rfl, rfl, hafter⟩ := Move.call.inj hmove
      have hfind := find?_alike h.bare_eq name
      dsimp only
      rw [himports, himports', find?_map_acceptedOf, find?_map_acceptedOf]
      cases hentry : imports.entries.find? (·.binding.name == name) with
      | none =>
        rw [hentry] at hfind
        rw [Option.map_eq_none_iff.1 hfind.symm]
        simp [Except.map, hafter]
      | some entry =>
        rw [hentry] at hfind
        obtain ⟨entry', hentry', hbare'⟩ := Option.map_eq_some_iff.1 hfind.symm
        have hmem := List.mem_of_find?_eq_some hentry
        have hmem' := List.mem_of_find?_eq_some hentry'
        have hdispatch : ((acceptedOf space entry).binding.dispatch functions arguments).map
            Prod.fst = ((acceptedOf space' entry').binding.dispatch functions' arguments).map
              Prod.fst :=
          dispatch_alike hbare'.symm (h.steady entry hmem) (h.collected.lookup hmem)
            (h.collected'.lookup hmem') arguments
        rw [hentry']
        dsimp only [Option.map_some]
        rw [map_replyTo, map_replyTo, hdispatch, hbare', hafter]

/-- What the caller is told does not show them either. -/
theorem answer (h : Alike imports imports' functions functions') (hbare : state.bare = state'.bare)
    (himports : state.imports = imports.entries.map (acceptedOf space))
    (himports' : state'.imports = imports'.entries.map (acceptedOf space')) (request : Request) :
    (state.answer functions request).map (fun (result, after, _) => (result, after.bare)) =
      (state'.answer functions' request).map fun (result, after, _) => (result, after.bare) := by
  have hserve := h.serve hbare himports himports' request
  unfold State.answer
  split
  · exact congrArg (fun after => Except.ok (_, after)) hbare
  · have htold : ∀ outcome : Except Breach (Vm.Reply × State × Registry),
        (outcome.map fun (reply, after, grown) => (request.told reply, after, grown)).map
            (fun (result, after, _) => (result, after.bare)) =
          (outcome.map fun (reply, after, _) => (reply, after.bare)).map
            fun (reply, after) => (request.told reply, after) := by
      intro outcome
      cases outcome <;> rfl
    rw [htold, htold, hserve]

/-- Two sessions over such imports answer alike. -/
theorem ask (h : Alike imports imports' host.functions host'.functions)
    (husable : Usable imports spawned session host)
    (husable' : Usable imports' spawned' session' host')
    (hbare : session.vm.bare = session'.vm.bare) (request : Request) :
    (session.ask vm host request).map (fun (result, after, _) => (result, after.vm.bare)) =
      (session'.ask vm host' request).map fun (result, after, _) => (result, after.vm.bare) := by
  obtain ⟨space, himports⟩ := husable.imports_eq
  obtain ⟨space', himports'⟩ := husable'.imports_eq
  have hanswer := h.answer hbare himports himports' request
  rw [← ask_answer husable.idle, ← ask_answer husable'.idle] at hanswer
  have hmap : ∀ outcome : Except Breach
      (Except SessionError (Option Receipt) × Session State × Host),
      (outcome.map fun (result, after, last) => (result, after.vm, last.functions)).map
          (fun (result, after, _) => (result, after.bare)) =
        outcome.map fun (result, after, _) => (result, after.vm.bare) := by
    intro outcome
    cases outcome <;> rfl
  rwa [hmap, hmap] at hanswer

end Alike

end HostBridge.SmallVm
