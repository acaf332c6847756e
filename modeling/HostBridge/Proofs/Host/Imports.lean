import HostBridge.Host.Imports
import HostBridge.Proofs.Host.Callback

/-!
# Imports and their functions

The table of host functions only grows (`Registry.Extends`), so the index of an import leads to its
function from the moment it was registered on (`Imports.Collected.lookup`). The names that are taken
are those of the imports (`Imports.Collected.names_perm`), so no two imports have the same.
-/

namespace HostBridge

/-! ## Tables that grow -/

/-- The functions of a table are still there, in front of others. -/
def Registry.Extends (before after : Registry) : Prop :=
  ∃ added, after.functions = before.functions ++ added

namespace Registry.Extends

variable {before between after : Registry}

/-- A table extends itself. -/
theorem refl (functions : Registry) : functions.Extends functions :=
  ⟨[], (List.append_nil _).symm⟩

/-- What is added to a table that was added to is added to the first one. -/
theorem trans (h : before.Extends between) (h' : between.Extends after) :
    before.Extends after := by
  obtain ⟨added, hadded⟩ := h
  obtain ⟨added', hadded'⟩ := h'
  exact ⟨added ++ added', by rw [hadded', hadded, List.append_assoc]⟩

/-- A function is registered behind all others. -/
theorem register (functions : Registry) (function : HostFunction) :
    functions.Extends (functions.register function).2 := ⟨[function], rfl⟩

/-- A function is found where it was. -/
theorem lookup (h : before.Extends after) {index : Nat} {function : HostFunction}
    (hlookup : before.lookup index = some function) : after.lookup index = some function := by
  obtain ⟨added, hadded⟩ := h
  have hlt : index < before.functions.length := (List.getElem?_eq_some_iff.1 hlookup).1
  rw [Registry.lookup, hadded, List.getElem?_append_left hlt]
  exact hlookup

end Registry.Extends

namespace Binding

variable {binding : Binding} {functions after : Registry} {host last : Host}

/-- A call takes no function back. -/
theorem dispatch_extends {arguments : List UInt8} {answer : Except Trap (List UInt8)}
    (h : binding.dispatch functions arguments = .ok (answer, after)) :
    functions.Extends after := by
  unfold dispatch at h
  split at h
  · cases h
  · split at h
    · cases h
      exact .refl functions
    · cases h
      exact HostProgram.run_extends _ functions

/-- Whatever a host function does, it only adds to the table. -/
theorem callback_extends {arguments : Option (List UInt8)} {reply : Reply}
    (h : binding.callback host arguments = .ok (reply, last)) :
    host.functions.Extends last.functions := by
  cases hdispatch : binding.dispatch host.functions (arguments.getD []) with
  | error breach =>
    unfold callback at h
    rw [hdispatch] at h
    cases h
  | ok done =>
    obtain ⟨answer, functions⟩ := done
    obtain ⟨reply', last', hcallback, hfunctions, -⟩ := exists_callback hdispatch
    rw [h] at hcallback
    cases hcallback
    exact hfunctions ▸ dispatch_extends hdispatch

end Binding

/-! ## Collected imports -/

/-- Imports that may have been collected over a table of functions, which may grow by others as
well. -/
inductive Imports.Collected : Imports → Registry → Prop where
  | empty (functions : Registry) : Collected .empty functions
  /-- The imports are to be offered in another namespace. -/
  | within (space : Option String) {imports : Imports} {functions : Registry} :
    Collected imports functions → Collected { imports with space := space } functions
  | register (name : String) (params returns : List ValueType) (implementation : HostFunction)
    {imports after : Imports} {functions grown : Registry} {index : Nat} :
    Collected imports functions →
    imports.register functions name params returns implementation = .ok (index, after, grown) →
    Collected after grown
  | elsewhere {imports : Imports} {functions grown : Registry} :
    Collected imports functions → functions.Extends grown → Collected imports grown

namespace Imports.Collected

variable {imports : Imports} {functions : Registry}

/-- What an import that was accepted adds. -/
theorem register_eq_ok {name : String} {params returns : List ValueType}
    {implementation : HostFunction} {index : Nat} {after : Imports} {grown : Registry}
    (h : imports.register functions name params returns implementation =
      .ok (index, after, grown)) :
    (name ≠ "" ∧ name ∉ imports.names) ∧ index = functions.size ∧
      grown = (functions.register implementation).2 ∧
      after.entries = imports.entries ++ [⟨⟨index, name, params, returns⟩, implementation⟩] ∧
      after.names = name :: imports.names := by
  unfold Imports.register at h
  split at h
  · cases h
  · next hempty =>
    split at h
    · cases h
    · next hname =>
      cases h
      exact ⟨⟨fun heq => hempty (heq ▸ rfl), hname⟩, rfl, rfl, rfl, rfl⟩

/-- An import is refused for its name alone. -/
theorem register_eq_error_iff {name : String} {params returns : List ValueType}
    {implementation : HostFunction} {error : ImportError} :
    imports.register functions name params returns implementation = .error error ↔
      name = "" ∧ error = .emptyName ∨
        name ≠ "" ∧ name ∈ imports.names ∧ error = .duplicate name := by
  unfold Imports.register
  split
  · next hempty =>
    have hname : name = "" := String.isEmpty_iff.1 hempty
    simp [hname, eq_comm]
  · next hempty =>
    have hname : name ≠ "" := fun heq => hempty (heq ▸ rfl)
    split
    · next hmem => simp [hname, hmem, eq_comm]
    · next hmem => simp [hname, hmem]

/-- The names that are taken are those of the imports. -/
theorem names_perm (h : Collected imports functions) :
    imports.names.Perm (imports.entries.map (·.binding.name)) := by
  induction h with
  | empty _ => exact .refl _
  | within space _ ih => exact ih
  | register name params returns implementation _ hregister ih =>
    obtain ⟨-, -, -, hentries, hnames⟩ := register_eq_ok hregister
    rw [hnames, hentries, List.map_append]
    exact (ih.cons name).trans (List.perm_append_singleton ..).symm
  | elsewhere _ _ ih => exact ih

/-- No import has an empty name. -/
theorem name_ne_empty (h : Collected imports functions) :
    "" ∉ imports.entries.map (·.binding.name) := by
  induction h with
  | empty _ => exact List.not_mem_nil
  | within space _ ih => exact ih
  | register name params returns implementation _ hregister ih =>
    obtain ⟨⟨hempty, -⟩, -, -, hentries, -⟩ := register_eq_ok hregister
    rw [hentries, List.map_append]
    intro hmem
    rcases List.mem_append.1 hmem with hmem | hmem
    · exact ih hmem
    · exact hempty (List.mem_singleton.1 hmem).symm
  | elsewhere _ _ ih => exact ih

/-- No two imports have the same name. -/
theorem nodup_names (h : Collected imports functions) :
    (imports.entries.map (·.binding.name)).Nodup := by
  refine h.names_perm.nodup_iff.1 ?_
  induction h with
  | empty _ => exact List.nodup_nil
  | within space _ ih => exact ih
  | register name params returns implementation _ hregister ih =>
    obtain ⟨⟨-, hname⟩, -, -, -, hnames⟩ := register_eq_ok hregister
    rw [hnames]
    exact List.nodup_cons.2 ⟨hname, ih⟩
  | elsewhere _ _ ih => exact ih

/-- The index of an import leads to its function. -/
theorem lookup (h : Collected imports functions) {entry : Import}
    (hmem : entry ∈ imports.entries) :
    functions.lookup entry.binding.index = some entry.implementation := by
  induction h with
  | empty _ => cases hmem
  | within space _ ih => exact ih hmem
  | register name params returns implementation _ hregister ih =>
    obtain ⟨-, rfl, rfl, hentries, -⟩ := register_eq_ok hregister
    rw [hentries] at hmem
    obtain hmem | hmem := List.mem_append.1 hmem
    · exact (Registry.Extends.register _ _).lookup (ih hmem)
    · obtain rfl := List.mem_singleton.1 hmem
      exact Registry.lookup_register _ implementation
  | elsewhere _ hextends ih => exact hextends.lookup (ih hmem)

/-- The indices of the imports come from the table. -/
theorem index_lt (h : Collected imports functions) {entry : Import}
    (hmem : entry ∈ imports.entries) : entry.binding.index < functions.size :=
  (List.getElem?_eq_some_iff.1 (h.lookup hmem)).1

/-- The indices of the imports grow. -/
theorem pairwise_index (h : Collected imports functions) :
    imports.entries.Pairwise (·.binding.index < ·.binding.index) := by
  induction h with
  | empty _ => exact .nil
  | within space _ ih => exact ih
  | register name params returns implementation hcollected hregister ih =>
    obtain ⟨-, rfl, -, hentries, -⟩ := register_eq_ok hregister
    rw [hentries]
    refine List.pairwise_append.2 ⟨ih, List.pairwise_singleton .., ?_⟩
    intro entry hmem added hadded
    rcases List.mem_singleton.1 hadded with rfl
    exact hcollected.index_lt hmem
  | elsewhere _ _ ih => exact ih

end Imports.Collected

end HostBridge
