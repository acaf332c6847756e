import HostBridge.Host.Stock
import HostBridge.Proofs.Host.Imports
import HostBridge.Proofs.Session.Idle
import HostBridge.Proofs.Text.Utf8
import HostBridge.Vm.Scripted
import HostBridge.Vm.Small

/-!
# What imports are offered by

An import is offered to the VM by a namespace and a name. The name is never empty, for no import is
collected without one (`Imports.Collected.name_ne_empty`). The namespace is that of the imports if
they have one and that of the settings if not, and only the latter is checked. So an import is
offered without a namespace just if the imports were given the empty one (`start_introduces`).

That a VM is not offered something is said in two ways. Where the opening comes to an end, there is
no such offer in its record (`Established.identified`). And the VM may do what it likes on such an
offer, and nothing changes (`start_congr`). This also covers an opening during which the VM ends the
process, of which there is no record.
-/

namespace HostBridge

/-- An offer has a name, and it has a namespace unless the imports were given the empty one. -/
structure Imports.Identified (imports : Imports) (space name : List UInt8) : Prop where
  name_ne_nil : name ≠ []
  space_eq_nil_iff : space = [] ↔ imports.space = some ""

variable {imports : Imports} {config : Config} {functions : Registry}

/-- With settings that make sense, the namespace is empty only if it is the imports' own. -/
theorem Imports.getD_space_eq_empty_iff (h : config.check = .ok ()) :
    imports.space.getD config.importSpace = "" ↔ imports.space = some "" := by
  have hsettings : config.importSpace ≠ "" := by
    intro hempty
    have hfilled := ((Config.check_eq_ok_iff config).1 h).2
    rw [hempty] at hfilled
    cases hfilled
  cases imports.space with
  | none => simp [hsettings]
  | some space => simp

namespace Session

/-- The namespace and the name by which an import is offered. -/
def introduction (space : String) (entry : Import) : List UInt8 × List UInt8 :=
  (Utf8.encode space, Utf8.encode entry.binding.name)

/-- The namespace and the name of each offer in a record. -/
def introduced (calls : List Vm.Call) : List (List UInt8 × List UInt8) :=
  calls.filterMap fun
    | .addImport space name _ _ => some (space, name)
    | _ => none

/-- Whether the VM is offered anything: there are imports, they are not too many, and the first of
them is not too long. -/
def Offerable (space : String) (entries : List Import) : Prop :=
  entries.length ≤ RawBuffer.maxLength ∧
    ∃ entry ∈ entries.head?, tooLong? (offerOf space entry) = none

/-- What a collected import is offered by is what it should be. -/
theorem identified_introduction (hcollected : imports.Collected functions)
    (hcheck : config.check = .ok ()) {entry : Import} (hmem : entry ∈ imports.entries) :
    imports.Identified (Utf8.encode (imports.space.getD config.importSpace))
      (Utf8.encode entry.binding.name) where
  name_ne_nil := by
    intro hname
    have hempty := Utf8.encode_eq_nil_iff.1 hname
    exact hcollected.name_ne_empty (hempty ▸ List.mem_map_of_mem hmem)
  space_eq_nil_iff := Utf8.encode_eq_nil_iff.trans (Imports.getD_space_eq_empty_iff hcheck)

/-! ## Records -/

section records

variable {σ : Type} {vm : Vm σ} {world after : World σ} {space : String} {entries : List Import}
  {calls rest : List Vm.Call}

/-- What is introduced in two records is introduced in the first and in the second. -/
theorem introduced_append :
    introduced (calls ++ rest) = introduced calls ++ introduced rest :=
  List.filterMap_append

/-- An offer introduces its import. -/
theorem introduced_offerCall (entry : Import) :
    introduced (offerCall space entry :: calls) = introduction space entry :: introduced calls :=
  rfl

/-- An answer introduces nothing. -/
theorem introduced_answer (answer : Vm.Answer) : introduced answer.calls = [] := by
  have hdestroyed : ∀ raw, introduced (Vm.destroyed raw) = [] := by
    intro raw
    unfold Vm.destroyed
    split <;> rfl
  change introduced (Vm.destroyed _ ++ Vm.destroyed _) = []
  rw [introduced_append, hdestroyed, hdestroyed]
  rfl

/-- To give the table back introduces nothing. -/
theorem introduced_tableGivenBack (hasTable : Bool) :
    introduced (tableGivenBack hasTable) = [] := by
  cases hasTable <;> rfl

/-- The creation of a runtime introduces nothing. -/
theorem Created.introduced_eq_nil {result : Except SessionError Bool}
    (h : Created vm world result after calls) : introduced calls = [] := by
  cases h with
  | made => exact introduced_answer _
  | failed => exact introduced_answer _

/-- Imports are offered in order, up to one that is rejected or too long. -/
theorem Offered.introduced_isPrefix {result : Except SessionError Unit}
    (h : Offered vm space world entries result after calls) :
    introduced calls <+: entries.map (introduction space) := by
  induction h with
  | done => exact List.nil_prefix
  | accepted _ _ _ _ ih =>
    rw [introduced_offerCall, introduced_append, introduced_answer, List.nil_append]
    exact (List.prefix_cons_inj _).2 ih
  | rejected =>
    rw [introduced_offerCall, introduced_answer]
    exact (List.prefix_cons_inj _).2 List.nil_prefix
  | tooLong => exact List.nil_prefix

/-- The first import is offered unless it is too long. -/
theorem Offered.introduced_ne_nil_iff {result : Except SessionError Unit}
    (h : Offered vm space world entries result after calls) :
    introduced calls ≠ [] ↔ ∃ entry ∈ entries.head?, tooLong? (offerOf space entry) = none := by
  cases h with
  | done => simp [introduced]
  | accepted hlong => simp [introduced_offerCall, hlong]
  | rejected hlong => simp [introduced_offerCall, hlong]
  | tooLong hlong => simp [introduced, hlong]

/-- Nothing is offered but by offering the imports. -/
theorem Furnished.exists_offered {result : Except SessionError Bool}
    (h : Furnished vm space world entries result after calls) :
    ∃ outcome between offered, Offered vm space world entries outcome between offered ∧
      introduced calls = introduced offered := by
  cases h with
  | refused hoffered => exact ⟨_, _, _, hoffered, rfl⟩
  | asked hoffered hcreated =>
    refine ⟨_, _, _, hoffered, ?_⟩
    rw [introduced_append, hcreated.introduced_eq_nil, List.append_nil]

/-- Nothing is offered on the way to the first call of a session but by offering the imports. -/
theorem Established.exists_offered {result : Except SessionError (Bool × Bool)}
    (h : Established vm space world entries result after calls) :
    RawBuffer.maxLength < entries.length ∧ introduced calls = [] ∨
      entries.length ≤ RawBuffer.maxLength ∧ ∃ first outcome last offered,
        Offered vm space first entries outcome last offered ∧
          introduced calls = introduced offered := by
  cases h with
  | tooMany hlt => exact .inl ⟨hlt, rfl⟩
  | failed hle _ hfurnished =>
    obtain ⟨outcome, last, offered, hoffered, hintroduced⟩ := hfurnished.exists_offered
    refine .inr ⟨hle, _, outcome, last, offered, hoffered, ?_⟩
    change introduced (_ ++ _) = _
    rw [introduced_append, introduced_tableGivenBack, List.append_nil, hintroduced]
  | made hle _ hfurnished => exact .inr ⟨hle, _, hfurnished.exists_offered⟩

/-- Nothing is offered that is not one of the imports. -/
theorem Established.introduced_isPrefix {result : Except SessionError (Bool × Bool)}
    (h : Established vm space world entries result after calls) :
    introduced calls <+: entries.map (introduction space) := by
  obtain ⟨-, hnil⟩ | ⟨-, _, _, _, _, hoffered, hintroduced⟩ := h.exists_offered
  · exact hnil ▸ List.nil_prefix
  · exact hintroduced ▸ hoffered.introduced_isPrefix

/-- The VM is offered something just if there is something that it can be offered. -/
theorem Established.introduced_ne_nil_iff {result : Except SessionError (Bool × Bool)}
    (h : Established vm space world entries result after calls) :
    introduced calls ≠ [] ↔ Offerable space entries := by
  obtain ⟨hlt, hnil⟩ | ⟨hle, _, _, _, _, hoffered, hintroduced⟩ := h.exists_offered
  · simp [hnil, Offerable, Nat.not_le.2 hlt]
  · rw [hintroduced, hoffered.introduced_ne_nil_iff, Offerable, and_iff_right hle]

/-- Imports that were collected are offered by what they should be. -/
theorem Established.identified (hcollected : imports.Collected functions)
    (hcheck : config.check = .ok ()) {result : Except SessionError (Bool × Bool)}
    (h : Established vm (imports.space.getD config.importSpace) world imports.entries result after
      calls)
    {space name : List UInt8} (hmem : (space, name) ∈ introduced calls) :
    imports.Identified space name := by
  obtain ⟨entry, hentry, heq⟩ := List.mem_map.1 (h.introduced_isPrefix.subset hmem)
  obtain ⟨rfl, rfl⟩ := Prod.mk.inj heq
  exact identified_introduction hcollected hcheck hentry

/-- Imports are offered without a namespace if they have the empty one and are offered at all. -/
theorem Established.exists_mem_introduced_iff (hcollected : imports.Collected functions)
    (hcheck : config.check = .ok ()) {result : Except SessionError (Bool × Bool)}
    (h : Established vm (imports.space.getD config.importSpace) world imports.entries result after
      calls) :
    (∃ name, ([], name) ∈ introduced calls) ↔
      imports.space = some "" ∧ Offerable "" imports.entries := by
  have hofferable := h.introduced_ne_nil_iff
  constructor
  · rintro ⟨name, hmem⟩
    have hspace := (h.identified hcollected hcheck hmem).space_eq_nil_iff.1 rfl
    rw [hspace] at hofferable
    exact ⟨hspace, hofferable.1 (List.ne_nil_of_mem hmem)⟩
  · rintro ⟨hspace, hoffer⟩
    rw [hspace] at hofferable
    obtain ⟨⟨space, name⟩, hmem⟩ := List.exists_mem_of_ne_nil _ (hofferable.2 hoffer)
    have hempty := (h.identified hcollected hcheck hmem).space_eq_nil_iff.2 hspace
    exact ⟨name, hempty ▸ hmem⟩

end records

/-! ## What the VM would do -/

section VM

variable {σ : Type} {vm : Vm σ} {other : Vm.Offer → VmProgram σ Vm.Reply} {space : String}
  {entries : List Import}

/-- An import is offered alike by VMs that answer the offer alike. -/
theorem offerImport_congr {entry : Import}
    (h : other (offerOf space entry) = vm.addImport (offerOf space entry)) :
    offerImport { vm with addImport := other } space entry = offerImport vm space entry := by
  unfold offerImport
  dsimp only
  rw [h]

/-- Imports are offered alike to VMs that answer these offers alike. -/
theorem offerImports_congr
    (h : ∀ entry ∈ entries, other (offerOf space entry) = vm.addImport (offerOf space entry)) :
    offerImports { vm with addImport := other } space entries = offerImports vm space entries := by
  induction entries with
  | nil => rfl
  | cons entry entries ih =>
    have hentry := h entry List.mem_cons_self
    have hentries := ih fun entry hmem => h entry (List.mem_cons_of_mem _ hmem)
    unfold offerImports
    rw [offerImport_congr hentry, hentries]

/-- The VM is asked to add no import but those that there are. -/
theorem establish_congr
    (h : ∀ entry ∈ entries, other (offerOf space entry) = vm.addImport (offerOf space entry)) :
    establish { vm with addImport := other } space entries = establish vm space entries := by
  have hfurnish :
      furnish { vm with addImport := other } space entries = furnish vm space entries := by
    unfold furnish
    rw [offerImports_congr h]
    rfl
  unfold establish
  rw [hfurnish]
  rfl

/-- What the VM would do with an offer that lacks what it should have makes no difference. -/
theorem start_congr {host : Host} (hcollected : imports.Collected host.functions) (state : σ)
    (config : Config)
    (h : ∀ offer : Vm.Offer, imports.Identified offer.space offer.name →
      other offer = vm.addImport offer) :
    start { vm with addImport := other } state imports config host =
      start vm state imports config host := by
  cases hcheck : config.check with
  | error error => rw [start_of_check_error hcheck, start_of_check_error hcheck]
  | ok _ =>
    rw [start_of_check hcheck, start_of_check hcheck, establish_congr]
    exact fun entry hmem => h _ (identified_introduction hcollected hcheck hmem)

/-! ## Opening -/

/-- With settings that make no sense the VM is offered nothing, with others the imports in their
namespace. -/
theorem established_of_start {host : Host} (hsound : host.boundary.Sound) {state : σ}
    {opening : Opening σ} (h : start vm state imports config host = .ok opening) :
    config.check ≠ .ok () ∧ opening.calls = [] ∨
      config.check = .ok () ∧ ∃ result after,
        Established vm (imports.space.getD config.importSpace) (outset state host)
          imports.entries result after opening.calls := by
  have hstarted := started hsound vm state imports config
  rw [h] at hstarted
  cases hstarted with
  | invalid hcheck => exact .inl ⟨by rw [hcheck]; nofun, rfl⟩
  | failed hcheck hestablished => exact .inr ⟨hcheck, _, _, hestablished⟩
  | opened hcheck hestablished => exact .inr ⟨hcheck, _, _, hestablished⟩

/-- How imports are introduced to a VM while a session is opened. -/
structure Introduces (vm : Vm σ) (state : σ) (imports : Imports) (config : Config) (host : Host) :
    Prop where
  /-- The VM may do anything on other offers, and nothing changes. -/
  start_eq : ∀ other : Vm.Offer → VmProgram σ Vm.Reply,
    (∀ offer, imports.Identified offer.space offer.name → other offer = vm.addImport offer) →
    start { vm with addImport := other } state imports config host =
      start vm state imports config host
  /-- No other offer is in the record. -/
  identified : ∀ opening : Opening σ, start vm state imports config host = .ok opening →
    ∀ space name, (space, name) ∈ introduced opening.calls → imports.Identified space name
  /-- An offer without a namespace is made just if the imports have the empty one and are offered at
  all. -/
  exists_iff : ∀ opening : Opening σ, start vm state imports config host = .ok opening →
    ((∃ name, ([], name) ∈ introduced opening.calls) ↔
      imports.space = some "" ∧ config.check = .ok () ∧ Offerable "" imports.entries)

/-- **Imports are offered by a name and a namespace, unless they were given the empty namespace.**
No offer lacks a name, and offers lack a namespace just if the imports have the empty one of their
own, which nothing checks. This holds for all settings, and whatever the VM answers. -/
theorem start_introduces {host : Host} (hsound : host.boundary.Sound)
    (hcollected : imports.Collected host.functions) (vm : Vm σ) (state : σ) (config : Config) :
    Introduces vm state imports config host := by
  constructor
  case start_eq => exact fun other h => start_congr hcollected state config h
  case identified =>
    intro opening hstart space name hmem
    obtain ⟨-, hnil⟩ | ⟨hcheck, _, _, hestablished⟩ := established_of_start hsound hstart
    · rw [hnil] at hmem
      cases hmem
    · exact hestablished.identified hcollected hcheck hmem
  case exists_iff =>
    intro opening hstart
    obtain ⟨hcheck, hnil⟩ | ⟨hcheck, _, _, hestablished⟩ := established_of_start hsound hstart
    · simp [hnil, hcheck, introduced]
    · rw [hestablished.exists_mem_introduced_iff hcollected hcheck, and_iff_right hcheck]

/-- A function that returns its arguments, as an import, on a host that has it. -/
def echoImport : Import := ⟨⟨0, "echo", [], []⟩, Stock.echo⟩

/-- That import was collected, whatever namespace it is to be offered in. -/
theorem collected_echo (space : Option String) :
    Imports.Collected ⟨space, [echoImport], ["echo"]⟩ ⟨[Stock.echo]⟩ :=
  .within space (.register "echo" [] [] Stock.echo (.empty .empty) rfl)

/-- An import in a namespace of its own, and the small VM. -/
theorem introduces_echo : ∃ opening,
    (Boundary.new .ascending).Sound ∧
    Imports.Collected ⟨some "custom", [echoImport], ["echo"]⟩ ⟨[Stock.echo]⟩ ∧
    start SmallVm.vm .initial ⟨some "custom", [echoImport], ["echo"]⟩ .standard
      ⟨⟨[Stock.echo]⟩, .new .ascending⟩ = .ok opening ∧
    introduced opening.calls = [introduction "custom" echoImport] ∧
    Introduces SmallVm.vm .initial ⟨some "custom", [echoImport], ["echo"]⟩ .standard
      ⟨⟨[Stock.echo]⟩, .new .ascending⟩ := by
  have hsound : (Boundary.new .ascending).Sound := (Boundary.owes_new .ascending).toSound
  have hcollected := collected_echo (some "custom")
  refine ⟨_, hsound, hcollected, rfl, rfl, ?_⟩
  exact start_introduces hsound hcollected SmallVm.vm .initial .standard

/-- An import that was given the empty namespace is offered without one, though the settings have a
namespace, and a VM that takes what it gets makes a runtime over it. -/
theorem introduced_without_space :
    Imports.Collected ⟨some "", [echoImport], ["echo"]⟩ ⟨[Stock.echo]⟩ ∧
    Config.standard.importSpace = "host" ∧ Config.standard.check = .ok () ∧
    ∃ session calls host,
      start ScriptedVm.vm (.initial (some SmallVm.accept) none []) ⟨some "", [echoImport], ["echo"]⟩ .standard
        ⟨⟨[Stock.echo]⟩, .new .ascending⟩ = .ok ⟨.ok session, calls, host⟩ ∧
      introduced calls = [([], Utf8.encode "echo")] :=
  ⟨collected_echo (some ""), rfl, rfl, _, _, _, rfl, rfl⟩

end VM

end Session

end HostBridge
