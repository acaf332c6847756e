import HostBridge.Proofs.Host.Imports
import Mathlib.Logic.Function.Basic

/-!
# Registration from all sides

Functions are registered directly, for the imports of any number of VMs, and by host functions
while they are being called, in any order (`Registrar`). A call under way registers its functions
one at a time, and anything else may happen in between. The main result is `registrations_stable`:
an index is the number of registrations before it and leads to its function for ever after, and the
imports collected anywhere agree with the table at all times.
-/

namespace HostBridge

/-- The process as far as registration goes: its table of functions, the imports that are being
collected, and the calls of host functions that are under way. -/
structure Registrar (ι : Type) where
  functions : Registry
  builders : ι → Imports
  calls : List HostProgram

namespace Registrar

variable {ι : Type}

/-- A process that has registered nothing. -/
def fresh : Registrar ι := ⟨.empty, fun _ => .empty, []⟩

/-- Something that happens in the process. -/
inductive Step (ι : Type) where
  | register (function : HostFunction)
  | collect (builder : ι) (name : String) (params returns : List ValueType)
    (implementation : HostFunction)
  /-- The imports are to be offered in this namespace. -/
  | within (builder : ι) (space : String)
  /-- A host function is called. -/
  | call (index : Nat) (arguments : List Value)
  /-- A call under way makes its next registration, if there is one. -/
  | resume (place : Nat)

/-- What came of a step. -/
inductive Event (ι : Type) where
  | registered (index : Nat) (function : HostFunction)
  | collected (builder : ι) (entry : Import)
  | refused (builder : ι) (error : ImportError)
  /-- Nothing was to be registered. -/
  | quiet

/-- The index that an event gives out, with its function. -/
def Event.given? : Event ι → Option (Nat × HostFunction)
  | .registered index function => some (index, function)
  | .collected _ entry => some (entry.binding.index, entry.implementation)
  | .refused _ _ | .quiet => none

/-- The indices given out so far, with their functions. -/
def given (events : List (Event ι)) : List (Nat × HostFunction) := events.filterMap Event.given?

section run

variable [DecidableEq ι]

/-- The import that an event adds to those of a builder. -/
def Event.added? (builder : ι) : Event ι → Option Import
  | .collected other entry => if other = builder then some entry else none
  | .registered _ _ | .refused _ _ | .quiet => none

/-- The imports that a builder accepted so far. -/
def collectedBy (builder : ι) (events : List (Event ι)) : List Import :=
  events.filterMap (Event.added? builder)

/-- One step of the process. -/
def step (registrar : Registrar ι) : Step ι → Event ι × Registrar ι
  | .register function =>
    let (index, grown) := registrar.functions.register function
    (.registered index function, { registrar with functions := grown })
  | .collect builder name params returns implementation =>
    match (registrar.builders builder).register registrar.functions name params returns
        implementation with
    | .error error => (.refused builder error, registrar)
    | .ok (index, imports, grown) =>
      (.collected builder ⟨⟨index, name, params, returns⟩, implementation⟩,
        { registrar with
          functions := grown
          builders := Function.update registrar.builders builder imports })
  | .within builder space =>
    let imports := { registrar.builders builder with space := some space }
    (.quiet, { registrar with builders := Function.update registrar.builders builder imports })
  | .call index arguments =>
    match registrar.functions.lookup index with
    | none => (.quiet, registrar)
    | some function => (.quiet, { registrar with calls := registrar.calls ++ [function arguments] })
  | .resume place =>
    match registrar.calls[place]? with
    | some (.register function next) =>
      let (index, grown) := registrar.functions.register function
      (.registered index function,
        { registrar with functions := grown, calls := registrar.calls.set place (next index) })
    | some (.finish _) | none => (.quiet, registrar)

/-- Takes steps one after the other. -/
def run (registrar : Registrar ι) : List (Step ι) → List (Event ι) × Registrar ι
  | [] => ([], registrar)
  | step :: steps =>
    let (event, next) := registrar.step step
    let (events, last) := next.run steps
    (event :: events, last)

end run

/-! ## What a step does -/

section step

variable [DecidableEq ι] (registrar : Registrar ι)

/-- A step that gives out an index adds its function behind all others, and every other step leaves
the table alone. -/
theorem step_functions (step : Step ι) :
    (registrar.step step).2.functions.functions = registrar.functions.functions ++
      (registrar.step step).1.given?.toList.map Prod.snd ∧
    ∀ index function, (registrar.step step).1.given? = some (index, function) →
      index = registrar.functions.size := by
  cases step with
  | register function =>
    refine ⟨rfl, ?_⟩
    intro index function h
    cases h
    rfl
  | collect builder name params returns implementation =>
    unfold Registrar.step
    dsimp only
    split
    · exact ⟨(List.append_nil _).symm, fun _ _ h => nomatch h⟩
    · next index imports grown hregister =>
      obtain ⟨-, rfl, rfl, -⟩ := Imports.Collected.register_eq_ok hregister
      refine ⟨rfl, ?_⟩
      intro index function h
      cases h
      rfl
  | within builder space => exact ⟨(List.append_nil _).symm, fun _ _ h => nomatch h⟩
  | call index arguments =>
    unfold Registrar.step
    dsimp only
    split <;> exact ⟨(List.append_nil _).symm, fun _ _ h => nomatch h⟩
  | resume place =>
    unfold Registrar.step
    dsimp only
    split
    · refine ⟨rfl, ?_⟩
      intro index function h
      cases h
      rfl
    · exact ⟨(List.append_nil _).symm, fun _ _ h => nomatch h⟩
    · exact ⟨(List.append_nil _).symm, fun _ _ h => nomatch h⟩

/-- No step takes a function out of the table, or moves one. -/
theorem step_extends (step : Step ι) :
    registrar.functions.Extends (registrar.step step).2.functions :=
  ⟨_, (registrar.step_functions step).1⟩

/-- What a step does to the imports of a builder: they accept one more, or they stay what they were
but for their namespace. -/
theorem step_builder (builder : ι) (step : Step ι) :
    (∃ name params returns implementation index,
      (registrar.step step).1 =
        .collected builder ⟨⟨index, name, params, returns⟩, implementation⟩ ∧
      (registrar.builders builder).register registrar.functions name params returns
        implementation = .ok (index, (registrar.step step).2.builders builder,
          (registrar.step step).2.functions)) ∨
    ((registrar.step step).1.added? builder = none ∧ ∃ space,
      (registrar.step step).2.builders builder =
        { registrar.builders builder with space := space }) := by
  cases step with
  | register function => exact .inr ⟨rfl, _, rfl⟩
  | collect other name params returns implementation =>
    unfold Registrar.step
    dsimp only
    split
    · exact .inr ⟨rfl, _, rfl⟩
    · next index imports grown hregister =>
      rcases eq_or_ne other builder with rfl | hne
      · refine .inl ⟨name, params, returns, implementation, index, rfl, ?_⟩
        rw [hregister]
        simp
      · refine .inr ⟨if_neg hne, (registrar.builders builder).space, ?_⟩
        simp [Function.update_of_ne hne.symm]
  | within other space =>
    rcases eq_or_ne other builder with rfl | hne
    · exact .inr ⟨rfl, some space, by simp [Registrar.step]⟩
    · exact .inr ⟨rfl, (registrar.builders builder).space, by
        simp [Registrar.step, Function.update_of_ne hne.symm]⟩
  | call index arguments =>
    unfold Registrar.step
    dsimp only
    split <;> exact .inr ⟨rfl, _, rfl⟩
  | resume place =>
    unfold Registrar.step
    dsimp only
    split <;> exact .inr ⟨rfl, _, rfl⟩

end step

/-! ## What the events tell -/

section history

variable {events : List (Event ι)}

/-- One event more gives at most one index more. -/
theorem given_concat (event : Event ι) :
    given (events ++ [event]) = given events ++ event.given?.toList := by
  cases h : event.given? <;> simp [given, h]

/-- One event more adds at most one import to what a builder collected. -/
theorem collectedBy_concat [DecidableEq ι] (builder : ι) (event : Event ι) :
    collectedBy builder (events ++ [event]) =
      collectedBy builder events ++ (event.added? builder).toList := by
  cases h : event.added? builder <;> simp [collectedBy, h]

variable [DecidableEq ι]

/-- The state of the process as its events tell it. -/
structure Recorded (events : List (Event ι)) (registrar : Registrar ι) : Prop where
  given_eq : given events = registrar.functions.functions.zipIdx.map Prod.swap
  entries_eq : ∀ builder, (registrar.builders builder).entries = collectedBy builder events
  collected : ∀ builder, (registrar.builders builder).Collected registrar.functions

namespace Recorded

variable {registrar : Registrar ι}

/-- Before anything has happened, the registrar is empty, and so is its record. -/
theorem fresh : Recorded [] (Registrar.fresh (ι := ι)) :=
  ⟨rfl, fun _ => rfl, fun _ => .empty _⟩

/-- Every step is told by its event. -/
theorem step (h : Recorded events registrar) (step : Step ι) :
    Recorded (events ++ [(registrar.step step).1]) (registrar.step step).2 := by
  have ⟨hfunctions, hindex⟩ := registrar.step_functions step
  refine ⟨?_, ?_, ?_⟩
  · rw [given_concat, h.given_eq, hfunctions]
    cases hgiven : (registrar.step step).1.given? with
    | none => simp
    | some pair =>
      obtain ⟨index, function⟩ := pair
      rcases hindex index function hgiven with rfl
      simp [List.zipIdx_append, Registry.size]
  · intro builder
    rw [collectedBy_concat]
    rcases registrar.step_builder builder step with
      ⟨name, params, returns, implementation, index, hevent, hregister⟩ | ⟨hnone, space, hsame⟩
    · obtain ⟨-, -, -, hentries, -⟩ := Imports.Collected.register_eq_ok hregister
      rw [hentries, h.entries_eq builder, hevent]
      simp [Event.added?]
    · rw [hnone, hsame]
      simpa using h.entries_eq builder
  · intro builder
    rcases registrar.step_builder builder step with
      ⟨name, params, returns, implementation, index, -, hregister⟩ | ⟨-, space, hsame⟩
    · exact .register name params returns implementation (h.collected builder) hregister
    · rw [hsame]
      exact .elsewhere (.within space (h.collected builder)) (registrar.step_extends step)

/-- And so is every run. -/
theorem run (h : Recorded events registrar) (steps : List (Step ι)) :
    Recorded (events ++ (registrar.run steps).1) (registrar.run steps).2 := by
  induction steps generalizing events registrar with
  | nil => simpa [Registrar.run] using h
  | cons step steps ih => simpa [Registrar.run] using ih (h.step step)

/-- An index leads to a function exactly if it was given out for it. -/
theorem mem_given_iff (h : Recorded events registrar) {index : Nat} {function : HostFunction} :
    (index, function) ∈ given events ↔ registrar.functions.lookup index = some function := by
  rw [h.given_eq, List.mem_map]
  constructor
  · rintro ⟨⟨other, place⟩, hmem, hpair⟩
    cases hpair
    exact List.mem_zipIdx_iff_getElem?.1 hmem
  · intro hlookup
    exact ⟨(function, index), List.mem_zipIdx_iff_getElem?.2 hlookup, rfl⟩

/-- Under an index that was not given to anything, nothing is found. -/
theorem lookup_eq_none (h : Recorded events registrar) {index : Nat}
    (hgiven : ∀ function, (index, function) ∉ given events) :
    registrar.functions.lookup index = none := by
  cases hlookup : registrar.functions.lookup index with
  | none => rfl
  | some function => exact absurd (h.mem_given_iff.2 hlookup) (hgiven function)

/-- As many functions stand in the table as indices were given out. -/
theorem size_eq (h : Recorded events registrar) :
    registrar.functions.size = (given events).length := by
  simp [h.given_eq, Registry.size]

/-- The place of an index among all that were given out is the index itself. -/
theorem index_eq (h : Recorded events registrar) {past future : List (Event ι)} {event : Event ι}
    {index : Nat} {function : HostFunction} (hevents : events = past ++ event :: future)
    (hgiven : event.given? = some (index, function)) : index = (given past).length := by
  have hsplit : given events = given past ++ (index, function) :: given future := by
    rw [hevents, given, List.filterMap_append, List.filterMap_cons, hgiven]
    rfl
  have hplace : (given events)[(given past).length]? = some (index, function) := by
    rw [hsplit, List.getElem?_append_right (Nat.le_refl _), Nat.sub_self]
    rfl
  rw [h.given_eq, List.getElem?_map, List.getElem?_zipIdx] at hplace
  obtain ⟨_, hpair, hswap⟩ := Option.map_eq_some_iff.1 hplace
  obtain ⟨_, -, rfl⟩ := Option.map_eq_some_iff.1 hpair
  cases hswap
  exact Nat.zero_add _

/-- The names that are taken with a builder are those of the imports that it accepted. -/
theorem mem_names_iff (h : Recorded events registrar) {builder : ι} {name : String} :
    name ∈ (registrar.builders builder).names ↔
      name ∈ (collectedBy builder events).map (·.binding.name) := by
  rw [← h.entries_eq builder]
  exact (h.collected builder).names_perm.mem_iff

end Recorded

/-- No run takes a function out of the table, or moves one. -/
theorem run_extends (registrar : Registrar ι) (steps : List (Step ι)) :
    registrar.functions.Extends (registrar.run steps).2.functions := by
  induction steps generalizing registrar with
  | nil => exact .refl _
  | cons step steps ih => exact (registrar.step_extends step).trans (ih _)

/-- A run goes on where the one before it ended. -/
theorem run_append (registrar : Registrar ι) (steps later : List (Step ι)) :
    (registrar.run (steps ++ later)).2 = ((registrar.run steps).2.run later).2 := by
  induction steps generalizing registrar with
  | nil => rfl
  | cons step steps ih => exact ih _

end history

/-! ## Registration as it is promised -/

section promise

variable [DecidableEq ι]

/-- What holds at every moment of a process, `events` being what came of its steps so far. -/
structure Stable (events : List (Event ι)) (registrar : Registrar ι) : Prop where
  /-- A registration was given the number of registrations before it. -/
  index_eq : ∀ past event future index function, events = past ++ event :: future →
    event.given? = some (index, function) → index = (given past).length
  /-- An index that was given out leads to its function, -/
  lookup_of_given : ∀ index function, (index, function) ∈ given events →
    registrar.functions.lookup index = some function
  /-- and any other index leads nowhere. -/
  lookup_of_not_given : ∀ index, (∀ function, (index, function) ∉ given events) →
    registrar.functions.lookup index = none
  /-- The imports of a builder stand in the order in which it accepted them. -/
  entries_eq : ∀ builder, (registrar.builders builder).entries = collectedBy builder events
  /-- The names that are taken with a builder are kept in step with its imports. -/
  names_perm : ∀ builder, (registrar.builders builder).names.Perm
    ((registrar.builders builder).entries.map (·.binding.name))
  name_ne_empty : ∀ builder, "" ∉ (registrar.builders builder).entries.map (·.binding.name)
  nodup_names : ∀ builder, ((registrar.builders builder).entries.map (·.binding.name)).Nodup
  pairwise_index : ∀ builder,
    (registrar.builders builder).entries.Pairwise (·.binding.index < ·.binding.index)
  /-- The index of an import leads to its function. -/
  lookup_of_entry : ∀ builder, ∀ entry ∈ (registrar.builders builder).entries,
    registrar.functions.lookup entry.binding.index = some entry.implementation
  /-- A builder refuses an import for an empty name, and for a name that it accepted before, -/
  refused_iff : ∀ builder name params returns implementation error,
    (registrar.step (.collect builder name params returns implementation)).1 =
        .refused builder error ↔
      name = "" ∧ error = .emptyName ∨
        name ≠ "" ∧ name ∈ (collectedBy builder events).map (·.binding.name) ∧
          error = .duplicate name
  /-- and accepts any other. -/
  collected_of : ∀ builder name params returns implementation, name ≠ "" →
    name ∉ (collectedBy builder events).map (·.binding.name) →
    (registrar.step (.collect builder name params returns implementation)).1 =
      .collected builder ⟨⟨(given events).length, name, params, returns⟩, implementation⟩
  /-- An import that is refused changes nothing. -/
  unchanged_of_refused : ∀ step builder error,
    (registrar.step step).1 = .refused builder error → (registrar.step step).2 = registrar
  /-- A call under way that registers a function is told its index and goes on with it. -/
  resumed : ∀ place function next, registrar.calls[place]? = some (.register function next) →
    (registrar.step (.resume place)).1 = .registered (given events).length function ∧
      (registrar.step (.resume place)).2.calls[place]? = some (next (given events).length)

/-- A builder that refuses an import leaves everything as it was. -/
theorem step_collect_of_error {registrar : Registrar ι} {builder : ι} {name : String}
    {params returns : List ValueType} {implementation : HostFunction} {error : ImportError}
    (h : (registrar.builders builder).register registrar.functions name params returns
      implementation = .error error) :
    registrar.step (.collect builder name params returns implementation) =
      (.refused builder error, registrar) := by
  unfold step
  dsimp only
  rw [h]

/-- A builder that takes an import takes it with the next index. -/
theorem step_collect_of_ok {registrar : Registrar ι} {builder : ι} {name : String}
    {params returns : List ValueType} {implementation : HostFunction} {index : Nat}
    {imports : Imports} {grown : Registry}
    (h : (registrar.builders builder).register registrar.functions name params returns
      implementation = .ok (index, imports, grown)) :
    (registrar.step (.collect builder name params returns implementation)).1 =
      .collected builder ⟨⟨registrar.functions.size, name, params, returns⟩, implementation⟩ := by
  obtain ⟨-, rfl, -, -⟩ := Imports.Collected.register_eq_ok h
  unfold step
  dsimp only
  rw [h]

/-- Only an import can be refused, and then nothing else happens. -/
theorem unchanged_of_refused {registrar : Registrar ι} {step : Step ι} {builder : ι}
    {error : ImportError} (h : (registrar.step step).1 = .refused builder error) :
    (registrar.step step).2 = registrar := by
  cases step with
  | register function => cases h
  | collect other name params returns implementation =>
    cases hregister : (registrar.builders other).register registrar.functions name params returns
        implementation with
    | error reason => rw [step_collect_of_error hregister]
    | ok done =>
      obtain ⟨index, imports, grown⟩ := done
      rw [step_collect_of_ok hregister] at h
      cases h
  | within other space => cases h
  | call index arguments =>
    unfold Registrar.step at h
    dsimp only at h
    split at h <;> cases h
  | resume place =>
    unfold Registrar.step at h
    dsimp only at h
    split at h <;> cases h

/-- An import is refused just for a name that is empty, or that the same builder has taken. -/
theorem Recorded.refused_iff {events : List (Event ι)} {registrar : Registrar ι}
    (h : Recorded events registrar) {builder : ι} {name : String}
    {params returns : List ValueType} {implementation : HostFunction} {error : ImportError} :
    (registrar.step (.collect builder name params returns implementation)).1 =
        .refused builder error ↔
      name = "" ∧ error = .emptyName ∨
        name ≠ "" ∧ name ∈ (collectedBy builder events).map (·.binding.name) ∧
          error = .duplicate name := by
  have hiff : (registrar.builders builder).register registrar.functions name params returns
      implementation = .error error ↔ _ := Imports.Collected.register_eq_error_iff
  rw [← h.mem_names_iff, ← hiff]
  cases hregister : (registrar.builders builder).register registrar.functions name params returns
      implementation with
  | error reason => simp [step_collect_of_error hregister]
  | ok done => simp [step_collect_of_ok hregister]

/-- Under a new name that is not empty, an import is taken, and the next index is its own. -/
theorem Recorded.collected_of {events : List (Event ι)} {registrar : Registrar ι}
    (h : Recorded events registrar) {builder : ι} {name : String}
    {params returns : List ValueType} {implementation : HostFunction} (hempty : name ≠ "")
    (hname : name ∉ (collectedBy builder events).map (·.binding.name)) :
    (registrar.step (.collect builder name params returns implementation)).1 =
      .collected builder ⟨⟨(given events).length, name, params, returns⟩, implementation⟩ := by
  cases hregister : (registrar.builders builder).register registrar.functions name params returns
      implementation with
  | error reason =>
    rcases Imports.Collected.register_eq_error_iff.1 hregister with ⟨hname', -⟩ | ⟨-, hmem, -⟩
    · exact absurd hname' hempty
    · exact absurd (h.mem_names_iff.1 hmem) hname
  | ok done => rw [step_collect_of_ok hregister, h.size_eq]

/-- A call that registers a function is told the next index, and goes on with it. -/
theorem Recorded.resumed {events : List (Event ι)} {registrar : Registrar ι}
    (h : Recorded events registrar) {place : Nat} {function : HostFunction}
    {next : Nat → HostProgram} (hcall : registrar.calls[place]? = some (.register function next)) :
    (registrar.step (.resume place)).1 = .registered (given events).length function ∧
      (registrar.step (.resume place)).2.calls[place]? = some (next (given events).length) := by
  have hplace : place < registrar.calls.length := (List.getElem?_eq_some_iff.1 hcall).1
  unfold Registrar.step
  dsimp only
  rw [hcall, ← h.size_eq]
  exact ⟨rfl, List.getElem?_set_self hplace⟩

/-- However registrations from all sides fall together, every index is the number of registrations
before it and keeps its function, and the imports that are being collected agree with the table. -/
theorem registrations_stable (steps later : List (Step ι)) :
    Stable (fresh.run steps).1 (fresh.run steps).2 ∧
      ∀ index function, (index, function) ∈ given (fresh.run steps).1 →
        (fresh.run (steps ++ later)).2.functions.lookup index = some function := by
  have h : Recorded (fresh.run steps).1 (fresh.run steps).2 := Recorded.fresh.run steps
  refine ⟨?_, ?_⟩
  · exact {
      index_eq := fun _ _ _ _ _ hevents hgiven => h.index_eq hevents hgiven
      lookup_of_given := fun _ _ hgiven => h.mem_given_iff.1 hgiven
      lookup_of_not_given := fun _ hgiven => h.lookup_eq_none hgiven
      entries_eq := h.entries_eq
      names_perm := fun builder => (h.collected builder).names_perm
      name_ne_empty := fun builder => (h.collected builder).name_ne_empty
      nodup_names := fun builder => (h.collected builder).nodup_names
      pairwise_index := fun builder => (h.collected builder).pairwise_index
      lookup_of_entry := fun builder _ hmem => (h.collected builder).lookup hmem
      refused_iff := fun _ _ _ _ _ _ => h.refused_iff
      collected_of := fun _ _ _ _ _ hempty hname => h.collected_of hempty hname
      unchanged_of_refused := fun _ _ _ hrefused => unchanged_of_refused hrefused
      resumed := fun _ _ _ hcall => h.resumed hcall }
  · intro index function hgiven
    rw [run_append]
    exact (run_extends _ later).lookup (h.mem_given_iff.1 hgiven)

end promise

/-! ## Calls without interruption -/

section calls

variable [DecidableEq ι]

/-- A call under way that nothing interrupts does to the table what its program does. -/
theorem exists_run_resume (program : HostProgram) (registrar : Registrar ι) {place : Nat}
    (h : registrar.calls[place]? = some program) :
    ∃ count, let last := (registrar.run (List.replicate count (.resume place))).2
      last.functions = (program.run registrar.functions).2 ∧
        last.calls = registrar.calls.set place (.finish (program.run registrar.functions).1) := by
  induction program generalizing registrar with
  | finish outcome =>
    obtain ⟨_, hget⟩ := List.getElem?_eq_some_iff.1 h
    refine ⟨0, rfl, ?_⟩
    show registrar.calls = registrar.calls.set place (.finish outcome)
    rw [← hget, List.set_getElem_self]
  | register function next _ ih =>
    have hplace : place < registrar.calls.length := (List.getElem?_eq_some_iff.1 h).1
    let resumed := (registrar.step (.resume place)).2
    have hresumed : resumed = { registrar with
        functions := (registrar.functions.register function).2
        calls := registrar.calls.set place (next registrar.functions.size) } := by
      show (registrar.step (.resume place)).2 = _
      unfold step
      dsimp only
      rw [h]
      rfl
    have hcall : resumed.calls[place]? = some (next registrar.functions.size) := by
      rw [hresumed]
      exact List.getElem?_set_self hplace
    obtain ⟨count, hfunctions, hcalls⟩ := ih registrar.functions.size resumed hcall
    refine ⟨count + 1, ?_, ?_⟩
    · rw [hresumed] at hfunctions
      rw [List.replicate_succ]
      show (resumed.run _).2.functions = _
      rw [hresumed, hfunctions]
      rfl
    · rw [hresumed] at hcalls
      rw [List.replicate_succ]
      show (resumed.run _).2.calls = _
      rw [hresumed, hcalls, List.set_set]
      rfl

/-- The dispatch of a call is a stretch of such a process, in which the call is made and nothing
else happens until it ends. -/
theorem exists_run_dispatch (registrar : Registrar ι) {binding : Binding}
    {arguments : List UInt8} {values : List Value} {function : HostFunction}
    (hvalues : binding.readArguments arguments = .ok values)
    (hlookup : registrar.functions.lookup binding.index = some function) :
    ∃ count outcome, let last := (registrar.run (.call binding.index values ::
        List.replicate count (.resume registrar.calls.length))).2
      last.calls = registrar.calls ++ [.finish outcome] ∧
        binding.dispatch registrar.functions arguments =
          .ok (binding.writeOutcome outcome, last.functions) := by
  let called : Registrar ι := { registrar with calls := registrar.calls ++ [function values] }
  have hcalled : (registrar.step (.call binding.index values)).2 = called := by
    unfold step
    dsimp only
    rw [hlookup]
  have hcall : called.calls[registrar.calls.length]? = some (function values) := by simp [called]
  obtain ⟨count, hfunctions, hcalls⟩ := exists_run_resume (function values) called hcall
  refine ⟨count, ((function values).run registrar.functions).1, ?_, ?_⟩
  · show ((registrar.step (.call binding.index values)).2.run _).2.calls = _
    rw [hcalled, hcalls]
    simp [called]
  · show _ = Except.ok (_, ((registrar.step (.call binding.index values)).2.run _).2.functions)
    rw [hcalled, hfunctions]
    unfold Binding.dispatch
    rw [hlookup]
    dsimp only
    rw [hvalues]

end calls

end Registrar

end HostBridge
