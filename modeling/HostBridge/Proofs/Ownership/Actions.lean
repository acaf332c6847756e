import HostBridge.Proofs.Ownership.Holdings

/-!
# What is done, and what is refused

An action can be done just where what it needs is at hand (`Holdings.Feasible`). Everywhere else it
is refused and changes nothing (`Holdings.perform_of_not_feasible`). Where it can be done it takes
effect (`Holdings.Effect`) and keeps the invariant, which is `Holdings.Done`, with one lemma for each
action. Refused or done, the invariant is kept (`Kept.perform`), and so it holds after every run
(`Holdings.kept_run`).
-/

namespace HostBridge

/-- The bytes that the host can write to: a buffer in its hands, or a copy. -/
def Holding.open? (boundary : Boundary) : Holding → Option (List UInt8)
  | .held buffer => some (buffer.contents boundary)
  | .copy bytes => some bytes
  | _ => none

/-- What is not on the other side is open to the host, unless it was released. -/
theorem Holding.Stands.open?_eq {boundary : Boundary} {item : Holding}
    {told : Option (List UInt8)} (h : item.Stands boundary told)
    (haway : ∀ buffer, item ≠ .away buffer) : item.open? boundary = told := by
  cases h with
  | held hbacks => exact congrArg some hbacks.contents_eq
  | away hbacks => exact absurd rfl (haway _)
  | copy bytes => rfl
  | gone => rfl

namespace Holdings

variable {history : List Event} {holdings : Holdings} {action : Action} {number offset : Nat}
  {buffer : Buffer} {raw : RawBuffer} {bytes : List UInt8} {result : Outcome × Holdings}

/-- What an action needs to be done: something of the right kind under the number that it names, and
no more bytes than fit. -/
def Feasible (holdings : Holdings) : Action → Prop
  | .zeros _ length => length ≤ RawBuffer.maxLength
  | .ofBytes _ bytes => bytes.length ≤ RawBuffer.maxLength
  | .cloneInto number _ => ∃ buffer, holdings.item number = .held buffer ∧
      (buffer.contents holdings.boundary).length ≤ RawBuffer.maxLength
  | .copy number => ∃ buffer, holdings.item number = .held buffer
  | .view number => ∃ buffer, holdings.item number = .held buffer
  | .write number offset bytes => ∃ before,
      (holdings.item number).open? holdings.boundary = some before ∧
        offset + bytes.length ≤ before.length
  | .intoRaw number => ∃ buffer, holdings.item number = .held buffer
  | .adopt number => ∃ raw, holdings.item number = .away ⟨.vm, raw⟩
  | .adoptNull _ _ => True
  | .drop number => ∃ buffer, holdings.item number = .held buffer
  | .vmAllocate _ _ => True
  | .release number => ∃ buffer, holdings.item number = .away buffer

/-- What an action does when it is done: something new stands under the next number, or something
else under the number that it names, and everything under other numbers stays where it was. -/
inductive Effect (holdings : Holdings) : Action → Outcome × Holdings → Prop where
  | zeros {side : Side} {length : Nat} {raw : RawBuffer} {after : Boundary} :
      Effect holdings (.zeros side length) (holdings.add after (.held ⟨side, raw⟩))
  | ofBytes {side : Side} {bytes : List UInt8} {raw : RawBuffer} {after : Boundary} :
      Effect holdings (.ofBytes side bytes) (holdings.add after (.held ⟨side, raw⟩))
  | cloneInto {number : Nat} {side : Side} {raw : RawBuffer} {after : Boundary} :
      Effect holdings (.cloneInto number side) (holdings.add after (.held ⟨side, raw⟩))
  | copy {number : Nat} {buffer : Buffer} : holdings.item number = .held buffer →
      Effect holdings (.copy number)
        (holdings.add holdings.boundary (.copy (buffer.contents holdings.boundary)))
  | view {number : Nat} {buffer : Buffer} : holdings.item number = .held buffer →
      Effect holdings (.view number)
        (.done, { holdings with views := (number, buffer.raw) :: holdings.views })
  | write {number offset : Nat} {bytes : List UInt8} {buffer : Buffer} {after : Boundary} :
      holdings.item number = .held buffer →
      Effect holdings (.write number offset bytes) (holdings.replace number after (.held buffer))
  | writeCopy {number offset : Nat} {bytes before : List UInt8} :
      holdings.item number = .copy before →
      Effect holdings (.write number offset bytes)
        (holdings.replace number holdings.boundary (.copy (overlaid before offset bytes)))
  | intoRaw {number : Nat} {buffer : Buffer} {after : Boundary} :
      holdings.item number = .held buffer →
      Effect holdings (.intoRaw number) (holdings.replace number after (.away buffer))
  | adopt {number : Nat} {raw : RawBuffer} {after : Boundary} :
      holdings.item number = .away ⟨.vm, raw⟩ →
      Effect holdings (.adopt number) (holdings.replace number after (.held ⟨.vm, raw⟩))
  | adoptNull {length capacity : Nat} :
      Effect holdings (.adoptNull length capacity)
        (holdings.add holdings.boundary (.held ⟨.vm, ⟨0, length, capacity⟩⟩))
  | drop {number : Nat} {after : Boundary} :
      Effect holdings (.drop number) (holdings.replace number after .gone)
  | vmAllocate {bytes : List UInt8} {capacity : Nat} {raw : RawBuffer} {after : Boundary} :
      Effect holdings (.vmAllocate bytes capacity) (holdings.add after (.away ⟨.vm, raw⟩))
  | release {number : Nat} {after : Boundary} :
      Effect holdings (.release number) (holdings.replace number after .gone)

/-- A write that takes effect is done. -/
theorem Effect.outcome_write (h : Effect holdings (.write number offset bytes) result) :
    result.1 = .done := by
  cases h with
  | write _ => rfl
  | writeCopy _ => rfl

/-! ### Refusals -/

/-- Bytes that are too long are not put into a buffer. -/
theorem hold_of_lt (h : RawBuffer.maxLength < bytes.length) (side : Side) :
    holdings.hold (Buffer.ofBytes holdings.boundary side bytes) = (.refused, holdings) := by
  rw [Buffer.ofBytes_of_lt h]
  rfl

/-- A write past the end is refused, and so is one to what the host has no hand on. -/
theorem write_of_not_feasible (h : ¬ holdings.Feasible (.write number offset bytes)) :
    holdings.write number offset bytes (holdings.item number) = (.refused, holdings) := by
  have hend : ∀ before, (holdings.item number).open? holdings.boundary = some before →
      ¬ offset + bytes.length ≤ before.length := fun before hopen hle => h ⟨before, hopen, hle⟩
  cases hitem : holdings.item number with
  | held buffer =>
    rw [hitem] at hend
    have hnone : buffer.write holdings.boundary offset bytes = none :=
      Boundary.overwrite_eq_none_iff.2 (Nat.lt_of_not_le (hend _ rfl))
    simp only [write, hnone]
  | copy before =>
    rw [hitem] at hend
    simp only [write, if_neg (hend _ rfl)]
  | away buffer => rfl
  | gone => rfl

/-- What cannot be done is refused, and nothing changes. -/
theorem perform_of_not_feasible (h : ¬ holdings.Feasible action) :
    holdings.perform action = (.refused, holdings) := by
  cases action with
  | zeros side length =>
    have hlength : RawBuffer.maxLength < (List.replicate length (0 : UInt8)).length := by
      simpa [Feasible] using h
    simp only [perform, Buffer.zeros_eq]
    exact hold_of_lt hlength side
  | ofBytes side bytes => exact hold_of_lt (Nat.lt_of_not_le h) side
  | cloneInto number side =>
    simp only [perform]
    cases hitem : holdings.item number with
    | held buffer => exact hold_of_lt (Nat.lt_of_not_le fun hle => h ⟨buffer, hitem, hle⟩) side
    | _ => rfl
  | write number offset bytes => exact write_of_not_feasible h
  | adopt number =>
    simp only [perform]
    cases hitem : holdings.item number with
    | away buffer =>
      obtain ⟨side, raw⟩ := buffer
      cases side with
      | host => rfl
      | vm => exact absurd ⟨raw, hitem⟩ h
    | _ => rfl
  | release number =>
    simp only [perform]
    cases hitem : holdings.item number with
    | away buffer => exact absurd ⟨buffer, hitem⟩ h
    | _ => rfl
  | adoptNull length capacity => exact absurd trivial h
  | vmAllocate bytes capacity => exact absurd trivial h
  -- the others need a buffer in the host's hands
  | copy number | view number | intoRaw number | drop number =>
    simp only [perform]
    cases hitem : holdings.item number with
    | held buffer => exact absurd ⟨buffer, hitem⟩ h
    | _ => rfl

/-! ### Effects -/

/-- An action is done: it takes effect, and the invariant is kept. -/
structure Done (history : List Event) (holdings : Holdings) (action : Action) : Prop where
  effect : Effect holdings action (holdings.perform action)
  kept : Kept ((action, (holdings.perform action).1) :: history) (holdings.perform action).2

/-- It is enough to look at what the action comes to. -/
theorem Done.of_eq (hperform : holdings.perform action = result)
    (heffect : Effect holdings action result) (hkept : Kept ((action, result.1) :: history) result.2) :
    Done history holdings action := by
  subst hperform
  exact ⟨heffect, hkept⟩

namespace Kept

/-- A buffer is made of bytes that are not too long. -/
theorem done_hold (h : Kept history holdings) (side : Side)
    (hlength : bytes.length ≤ RawBuffer.maxLength) (hfirst : action.first (told history) = bytes)
    (hperform : holdings.perform action =
      holdings.hold (Buffer.ofBytes holdings.boundary side bytes))
    (heffect : ∀ raw after, Effect holdings action (holdings.add after (.held ⟨side, raw⟩))) :
    Done history holdings action := by
  rw [Buffer.ofBytes_of_le hlength] at hperform
  exact .of_eq hperform (heffect _ _) (h.provide side hfirst)

/-- `allocate_in`: a buffer of zeros. -/
theorem done_zeros (h : Kept history holdings) {side : Side} {length : Nat}
    (hlength : length ≤ RawBuffer.maxLength) : Done history holdings (.zeros side length) := by
  have hzeros : (List.replicate length (0 : UInt8)).length ≤ RawBuffer.maxLength := by
    simpa using hlength
  have hperform : holdings.perform (.zeros side length) =
      holdings.hold (Buffer.ofBytes holdings.boundary side (List.replicate length 0)) := by
    simp only [Holdings.perform, Buffer.zeros_eq]
  exact h.done_hold side hzeros rfl hperform fun _ _ => .zeros

/-- `clone_into`: a buffer of the same bytes, on either side. -/
theorem done_cloneInto (h : Kept history holdings) (hitem : holdings.item number = .held buffer)
    (hlength : (buffer.contents holdings.boundary).length ≤ RawBuffer.maxLength) (side : Side) :
    Done history holdings (.cloneInto number side) := by
  obtain ⟨bytes, hbytes, hbacks⟩ := (h.stands number).backs (buffer?_of_item hitem)
  have hperform : holdings.perform (.cloneInto number side) = holdings.hold
      (Buffer.ofBytes holdings.boundary side (buffer.contents holdings.boundary)) := by
    simp only [Holdings.perform, hitem]
    rfl
  refine h.done_hold side hlength ?_ hperform fun _ _ => .cloneInto
  rw [Action.first, hbytes]
  exact hbacks.contents_eq.symm

/-- `to_vec`: a copy of the bytes of a buffer. -/
theorem done_copy (h : Kept history holdings) (hitem : holdings.item number = .held buffer) :
    Done history holdings (.copy number) := by
  obtain ⟨bytes, hbytes, hbacks⟩ := (h.stands number).backs (buffer?_of_item hitem)
  have hperform : holdings.perform (.copy number) =
      holdings.add holdings.boundary (.copy (buffer.contents holdings.boundary)) := by
    simp only [Holdings.perform, hitem]
  refine .of_eq hperform (.copy hitem) ?_
  refine h.add (.copy number) (.copy _) (.refl ..) (fun hmem => h.owes.ne_zero _ hmem rfl) h.owes ?_
    nofun
  rw [Action.first, hbytes, Buffer.contents, hbacks.contents_eq]
  exact .copy bytes

/-- `alias` and `raw`: a view is noted, and all else stays. -/
theorem done_view (h : Kept history holdings) (hitem : holdings.item number = .held buffer) :
    Done history holdings (.view number) := by
  have hperform : holdings.perform (.view number) =
      (.done, { holdings with views := (number, buffer.raw) :: holdings.views }) := by
    simp only [Holdings.perform, hitem]
  refine .of_eq hperform (.view hitem)
    { owes := h.owes
      stands := h.stands
      apart := h.apart
      null_length := fun other own hown hzero =>
        (h.null_length other own hown hzero).imp_right (.tail _)
      view_lt := fun view hmem => ?_
      view_eq := fun view hmem own hown => ?_
      unbroken := unbroken_cons nofun h.unbroken }
  · rcases List.mem_cons.1 hmem with rfl | hmem
    · have hlive : holdings.item number ≠ .gone := by simp [hitem]
      exact lt_of_item_ne hlive
    · exact h.view_lt view hmem
  · rcases List.mem_cons.1 hmem with rfl | hmem
    · cases (buffer?_of_item hitem).symm.trans hown
      rfl
    · exact h.view_eq view hmem own hown

/-- `write`: bytes are put over those of a buffer, unless they run past its end. -/
theorem done_write (h : Kept history holdings) (hitem : holdings.item number = .held buffer)
    (hle : offset + bytes.length ≤ (buffer.contents holdings.boundary).length) :
    Done history holdings (.write number offset bytes) := by
  obtain ⟨before, hbefore, hbacks⟩ := (h.stands number).backs (buffer?_of_item hitem)
  cases hwrite : buffer.write holdings.boundary offset bytes with
  | none => exact absurd hle (Nat.not_le_of_lt (Boundary.overwrite_eq_none_iff.1 hwrite))
  | some after =>
    have hperform : holdings.perform (.write number offset bytes) =
        holdings.replace number after (.held buffer) := by
      simp only [Holdings.perform, hitem, Holdings.write, hwrite]
    refine .of_eq hperform (.write hitem) ?_
    have howes := ((h.owes_front hitem nofun).overwrite hwrite).1
    refine h.replace hitem nofun rfl (Boundary.changesOnly_overwrite hwrite) howes ?_
      fun twin htwin => ⟨buffer, rfl, ?_⟩
    · rw [hbefore, Option.map_some, overlaid_eq (hbacks.le_of_overwrite hwrite)]
      exact .held (hbacks.overwrite hwrite)
    · cases htwin
      rfl

/-- Bytes are put over those of a copy, unless they run past its end. -/
theorem done_writeCopy (h : Kept history holdings) {before : List UInt8}
    (hitem : holdings.item number = .copy before)
    (hle : offset + bytes.length ≤ before.length) :
    Done history holdings (.write number offset bytes) := by
  have hbefore : told history number = some before := by
    rw [← (h.stands number).bytes?_eq, hitem]
    rfl
  have hperform : holdings.perform (.write number offset bytes) =
      holdings.replace number holdings.boundary (.copy (overlaid before offset bytes)) := by
    simp only [Holdings.perform, hitem, Holdings.write, if_pos hle, overlaid_eq hle]
  have hfront := h.owes_front hitem nofun
  refine .of_eq hperform (.writeCopy hitem) (h.replace hitem nofun rfl (.refl ..) hfront ?_ nofun)
  rw [hbefore, Option.map_some]
  exact .copy _

/-- `into_raw`: a buffer goes to the other side. -/
theorem done_intoRaw (h : Kept history holdings) (hitem : holdings.item number = .held buffer) :
    Done history holdings (.intoRaw number) := by
  obtain ⟨after, hinto, howes, -⟩ := (h.owes_front hitem nofun).intoRaw
  obtain ⟨-, ledger, rfl⟩ := Boundary.intoRaw_eq_ok hinto
  have hperform : holdings.perform (.intoRaw number) =
      holdings.replace number { holdings.boundary with vm := ledger } (.away buffer) := by
    simp only [Holdings.perform, hitem, hinto]
    rfl
  refine .of_eq hperform (.intoRaw hitem) (h.pass hitem rfl rfl rfl ?_)
  obtain ⟨side, raw⟩ := buffer
  cases side with
  | host => exact howes
  | vm => exact howes

/-- `adopt`: a buffer of the VM's is taken over from the other side. -/
theorem done_adopt (h : Kept history holdings) (hitem : holdings.item number = .away ⟨.vm, raw⟩) :
    Done history holdings (.adopt number) := by
  obtain ⟨bytes, -, hbacks⟩ := (h.stands number).backs (buffer?_of_item hitem)
  have hperform : holdings.perform (.adopt number) =
      holdings.replace number (holdings.boundary.adopt raw) (.held ⟨.vm, raw⟩) := by
    simp only [Holdings.perform, hitem]
    rfl
  refine .of_eq hperform (.adopt hitem) ?_
  -- it is the VM's and in nobody's hands, which is what the ledger asks for
  refine h.pass hitem rfl rfl rfl ((h.owes_front hitem nofun).adopt ?_)
  cases hbacks with
  | null hzero => exact .inl hzero
  | block hnull _ _ hblock => exact .inr ⟨hblock rfl, h.not_mem_dues hitem hnull⟩

/-- `adopt` of a null buffer: no ledger has it, so the boundary is as it was. -/
theorem done_adoptNull (h : Kept history holdings) (length capacity : Nat) :
    Done history holdings (.adoptNull length capacity) := by
  have howes : (holdings.boundary.adopt ⟨0, length, capacity⟩).Owes _ := h.owes.adopt (.inl rfl)
  refine .of_eq rfl .adoptNull (h.add (.adoptNull length capacity) (.held ⟨.vm, _⟩) (.refl ..)
    (fun hmem => h.owes.ne_zero _ hmem rfl) howes (.held (.null rfl))
    fun buffer hbuffer _ => .inr ?_)
  cases hbuffer
  rfl

/-- A buffer that is held is dropped. -/
theorem done_drop (h : Kept history holdings) (hitem : holdings.item number = .held buffer) :
    Done history holdings (.drop number) := by
  obtain ⟨after, hdrop, hkept⟩ := h.release (.drop number) hitem rfl rfl
  have hperform : holdings.perform (.drop number) = holdings.replace number after .gone := by
    simp only [Holdings.perform, hitem, hdrop]
    rfl
  exact .of_eq hperform .drop hkept

/-- The VM puts bytes into a new block of its own. -/
theorem done_vmAllocate (h : Kept history holdings) (bytes : List UInt8) (capacity : Nat) :
    Done history holdings (.vmAllocate bytes capacity) := by
  refine .of_eq rfl .vmAllocate (h.add (.vmAllocate bytes capacity) (.away ⟨.vm, _⟩)
    (Boundary.changesOnly_vmAllocateBlock ..) (holdings.boundary.placement.place_not_mem _)
    (h.owes.vmAllocateBlock bytes) (.away (.vmAllocateBlock ..)) fun buffer hbuffer hzero => ?_)
  cases hbuffer
  exact absurd (RawBuffer.isNull_iff.1 hzero) (holdings.boundary.placement.place_ne_zero _)

/-- A buffer of the host's is given back by the other side, and released. -/
theorem done_release_host (h : Kept history holdings)
    (hitem : holdings.item number = .away ⟨.host, raw⟩) :
    Done history holdings (.release number) := by
  obtain ⟨after, hdrop, hkept⟩ := h.release (.release number) hitem rfl rfl
  rw [Buffer.drop] at hdrop
  have hperform : holdings.perform (.release number) = holdings.replace number after .gone := by
    simp only [Holdings.perform, hitem, hdrop]
    rfl
  exact .of_eq hperform .release hkept

/-- The VM frees a buffer of its own, which nobody else holds. -/
theorem done_release_vm (h : Kept history holdings)
    (hitem : holdings.item number = .away ⟨.vm, raw⟩) :
    Done history holdings (.release number) := by
  have hfree : raw.isNull = true ∨ raw.address ∉
      dues .vm ((holdings.items.eraseIdx number).filterMap Holding.owed?) := by
    cases hnull : raw.isNull with
    | true => exact .inl rfl
    | false => exact .inr (h.not_mem_dues hitem hnull)
  have hperform : holdings.perform (.release number) =
      holdings.replace number (holdings.boundary.vmDestroy raw) .gone := by
    simp only [Holdings.perform, hitem]
  have howes := (h.owes_front hitem nofun).vmDestroy hfree
  exact .of_eq hperform .release
    (h.replace hitem nofun rfl (Boundary.changesOnly_vmDestroy ..) howes .gone nofun)

/-- **What can be done is done.** -/
theorem done (h : Kept history holdings) (hfeasible : holdings.Feasible action) :
    Done history holdings action := by
  cases action with
  | zeros side length => exact h.done_zeros hfeasible
  | ofBytes side bytes => exact h.done_hold side hfeasible rfl rfl fun _ _ => .ofBytes
  | cloneInto number side =>
    obtain ⟨buffer, hitem, hlength⟩ := hfeasible
    exact h.done_cloneInto hitem hlength side
  | copy number => exact h.done_copy hfeasible.choose_spec
  | view number => exact h.done_view hfeasible.choose_spec
  | write number offset bytes =>
    obtain ⟨before, hopen, hle⟩ := hfeasible
    cases hitem : holdings.item number with
    | held buffer =>
      rw [hitem] at hopen
      cases hopen
      exact h.done_write hitem hle
    | copy own =>
      rw [hitem] at hopen
      cases hopen
      exact h.done_writeCopy hitem hle
    | away buffer => simp [hitem, Holding.open?] at hopen
    | gone => simp [hitem, Holding.open?] at hopen
  | intoRaw number => exact h.done_intoRaw hfeasible.choose_spec
  | adopt number => exact h.done_adopt hfeasible.choose_spec
  | adoptNull length capacity => exact h.done_adoptNull length capacity
  | drop number => exact h.done_drop hfeasible.choose_spec
  | vmAllocate bytes capacity => exact h.done_vmAllocate bytes capacity
  | release number =>
    obtain ⟨⟨side, raw⟩, hitem⟩ := hfeasible
    cases side with
    | host => exact h.done_release_host hitem
    | vm => exact h.done_release_vm hitem

/-- Whatever is tried, the invariant is kept. -/
theorem perform (h : Kept history holdings) (action : Action) :
    Kept ((action, (holdings.perform action).1) :: history) (holdings.perform action).2 := by
  by_cases hfeasible : holdings.Feasible action
  · exact (h.done hfeasible).kept
  · rw [perform_of_not_feasible hfeasible]
    exact h.refused action

/-- A write is done just where it can be. -/
theorem write_done_iff (h : Kept history holdings) :
    (holdings.perform (.write number offset bytes)).1 = .done ↔
      holdings.Feasible (.write number offset bytes) := by
  refine ⟨fun hdone => by_contra fun hnot => ?_, fun hfeasible => ?_⟩
  · rw [perform_of_not_feasible hnot] at hdone
    cases hdone
  · exact (h.done hfeasible).effect.outcome_write

end Kept

/-- The invariant holds after every run. -/
theorem kept_run (placement : Placement) (actions : List Action) :
    Kept (run placement actions).1 (run placement actions).2 := by
  induction actions using List.reverseRecOn with
  | nil => exact kept_new placement
  | append_singleton actions action ih =>
    rw [run, List.foldl_append]
    exact ih.perform action

end Holdings

end HostBridge
