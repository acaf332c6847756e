import HostBridge.Proofs.Host.Imports

/-!
# Imports but for their indices

Which index an import has depends on all that was registered before it, by whomever. Two imports
that differ in nothing else (`Import.bare`) answer alike (`dispatch_bare`), provided that how their
function ends depends on the arguments alone (`HostFunction.Steady`).
-/

namespace HostBridge

/-- How a call ends depends on its arguments alone. The function may register others meanwhile. -/
def HostFunction.Steady (function : HostFunction) : Prop :=
  ∀ functions functions', Binding.ending function functions = Binding.ending function functions'

/-- An import, but for its index. -/
def Import.bare (entry : Import) : Import :=
  { entry with binding := { entry.binding with index := 0 } }

/-- The imports, but for their indices. -/
def Imports.bare (imports : Imports) : Imports :=
  { imports with entries := imports.entries.map Import.bare }

section bare

variable {imports imports' : Imports} {entry entry' : Import} {functions functions' : Registry}

/-- What becomes of a registration does not depend on the indices before it. -/
theorem Imports.register_bare (imports : Imports) (functions : Registry) (name : String)
    (params returns : List ValueType) (implementation : HostFunction) :
    (imports.register functions name params returns implementation).map
        (fun (_, after, _) => after.bare) =
      (imports.bare.register .empty name params returns implementation).map
        fun (_, after, _) => after.bare := by
  have hnames : imports.bare.names = imports.names := rfl
  unfold register
  rw [hnames]
  split
  · rfl
  · split
    · rfl
    · simp [Except.map, bare, Import.bare, Function.comp_def]

/-- An import that is called answers as its bare form has it. -/
theorem dispatch_bare (hlookup : functions.lookup entry.binding.index = some entry.implementation)
    (arguments : List UInt8) :
    (entry.binding.dispatch functions arguments).map Prod.fst =
      .ok (entry.bare.binding.answer (Binding.ending entry.bare.implementation functions)
        arguments) := by
  rw [Binding.dispatch_eq_dispatchBy hlookup]
  have hread : entry.bare.binding.readArguments arguments =
      entry.binding.readArguments arguments := rfl
  unfold Binding.dispatchBy Binding.answer
  rw [hread]
  cases entry.binding.readArguments arguments <;> rfl

/-- Imports that differ in their indices alone answer alike, on whatever hosts they are. -/
theorem dispatch_alike (hbare : entry.bare = entry'.bare) (hsteady : entry.implementation.Steady)
    (hlookup : functions.lookup entry.binding.index = some entry.implementation)
    (hlookup' : functions'.lookup entry'.binding.index = some entry'.implementation)
    (arguments : List UInt8) :
    (entry.binding.dispatch functions arguments).map Prod.fst =
      (entry'.binding.dispatch functions' arguments).map Prod.fst := by
  rw [dispatch_bare hlookup, dispatch_bare hlookup', ← hbare]
  have hending : Binding.ending entry.bare.implementation functions =
      Binding.ending entry.bare.implementation functions' := hsteady functions functions'
  rw [hending]

/-- The first import of a name is found wherever it stands in the table. -/
theorem find?_alike (hbare : imports.bare = imports'.bare) (name : String) :
    (imports.entries.find? (·.binding.name == name)).map Import.bare =
      (imports'.entries.find? (·.binding.name == name)).map Import.bare := by
  have hfind : ∀ entries : List Import, (entries.find? (·.binding.name == name)).map Import.bare =
      (entries.map Import.bare).find? (·.binding.name == name) := by
    intro entries
    rw [List.find?_map]
    rfl
  have hentries : imports.entries.map Import.bare = imports'.entries.map Import.bare :=
    congrArg Imports.entries hbare
  rw [hfind, hfind, hentries]

end bare

end HostBridge
