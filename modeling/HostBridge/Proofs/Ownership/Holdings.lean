import HostBridge.Ownership.Holdings
import HostBridge.Proofs.Ownership.Backing
import Mathlib.Data.List.Induction
import Mathlib.Logic.Function.Basic

/-!
# What stands under each number

What should stand under each number follows from what happened, as if every buffer and every copy
were a list of bytes of its own (`Holdings.told`): it comes up with some bytes, a write that is done
puts others over them, and nothing else touches them.

`Holdings.Kept` is the invariant of all runs: no two buffers share a block, and behind each stands
what was told of it. A step puts something new under the next number (`Kept.add`) or changes what
stands under one number (`Kept.replace`). In both cases the block at one address is touched, where no
other buffer is (`Kept.put`).
-/

namespace HostBridge

/-- Bytes with others put over them from `offset` on. -/
def overlaid (bytes : List UInt8) (offset : Nat) (patch : List UInt8) : List UInt8 :=
  bytes.mapIdx fun index byte =>
    if offset ≤ index then (patch[index - offset]?).getD byte else byte

/-- If they do not run past the end, they stand between what is before them and what is behind. -/
theorem overlaid_eq {bytes patch : List UInt8} {offset : Nat}
    (h : offset + patch.length ≤ bytes.length) :
    overlaid bytes offset patch =
      bytes.take offset ++ patch ++ bytes.drop (offset + patch.length) := by
  refine List.ext_getElem (by simp [overlaid]; omega) fun index hindex _ => ?_
  have hlt : index < bytes.length := by simpa [overlaid] using hindex
  simp only [overlaid, List.getElem_mapIdx, List.getElem_append, List.length_append,
    List.length_take, Nat.min_eq_left (show offset ≤ bytes.length by omega)]
  rcases Nat.lt_or_ge index offset with hbefore | hafter
  · have hwithin : index < offset + patch.length := by omega
    simp [hbefore, hwithin, Nat.not_le.2 hbefore]
  rcases Nat.lt_or_ge index (offset + patch.length) with hwithin | hbehind
  · have hpatch : index - offset < patch.length := by omega
    simp [hafter, hwithin, hpatch, Nat.not_lt.2 hafter]
  · have hpatch : ¬ index - offset < patch.length := by omega
    simp [hafter, hpatch, Nat.not_lt.2 hbehind, Nat.add_sub_cancel' hbehind]

namespace Holdings

/-! ## What is told -/

/-- The bytes that something comes up with. -/
def Action.first (told : Nat → Option (List UInt8)) : Action → List UInt8
  | .zeros _ length => List.replicate length 0
  | .ofBytes _ bytes => bytes
  | .cloneInto number _ => (told number).getD []
  | .copy number => (told number).getD []
  | .vmAllocate bytes _ => bytes
  | _ => []

/-- What is told after an event. -/
def tell (told : Nat → Option (List UInt8)) : Event → Nat → Option (List UInt8)
  | (action, .taken number) => Function.update told number (some (action.first told))
  | (.write number offset bytes, .done) =>
    Function.update told number ((told number).map (overlaid · offset bytes))
  | (.drop number, .done) => Function.update told number none
  | (.release number, .done) => Function.update told number none
  | _ => told

/-- The bytes that should stand under each number, by what happened. -/
def told : List Event → Nat → Option (List UInt8)
  | [] => fun _ => none
  | event :: past => tell (told past) event

end Holdings

/-! ## The invariant -/

namespace Holding

/-- The buffer that the host must have released. -/
def owed? : Holding → Option Buffer
  | .held buffer => some buffer
  | .away ⟨.host, raw⟩ => some ⟨.host, raw⟩
  | _ => none

/-- What must be released is a buffer. -/
theorem buffer?_of_owed? {item : Holding} {buffer : Buffer} (h : item.owed? = some buffer) :
    item.buffer? = some buffer := by
  unfold owed? at h
  split at h
  · exact h
  · exact h
  · cases h

/-- The address of its block, which is null where there is none. -/
def address (item : Holding) : Nat := item.buffer?.elim 0 (·.raw.address)

/-- Something that is a buffer is at the address of this buffer. -/
theorem address_eq {item : Holding} {buffer : Buffer} (h : item.buffer? = some buffer) :
    item.address = buffer.raw.address := by
  rw [address, h]
  rfl

/-- What is told of something stands behind it. -/
inductive Stands (boundary : Boundary) : Holding → Option (List UInt8) → Prop where
  | held {buffer : Buffer} {bytes : List UInt8} :
      boundary.Backs buffer bytes → Stands boundary (.held buffer) (some bytes)
  | away {buffer : Buffer} {bytes : List UInt8} :
      boundary.Backs buffer bytes → Stands boundary (.away buffer) (some bytes)
  | copy (bytes : List UInt8) : Stands boundary (.copy bytes) (some bytes)
  | gone : Stands boundary .gone none

variable {before after boundary : Boundary} {item : Holding} {told : Option (List UInt8)}
  {buffer : Buffer} {address : Nat}

namespace Stands

/-- The bytes that are there to read are those that were told. -/
theorem bytes?_eq (h : item.Stands boundary told) : item.bytes? boundary = told := by
  cases h with
  | held hbacks => exact congrArg some hbacks.contents_eq
  | away hbacks => exact congrArg some hbacks.contents_eq
  | copy bytes => rfl
  | gone => rfl

/-- A buffer has the bytes behind it that were told of it. -/
theorem backs (h : item.Stands boundary told) (hbuffer : item.buffer? = some buffer) :
    ∃ bytes, told = some bytes ∧ boundary.Backs buffer bytes := by
  cases h with
  | held hbacks =>
    cases hbuffer
    exact ⟨_, rfl, hbacks⟩
  | away hbacks =>
    cases hbuffer
    exact ⟨_, rfl, hbacks⟩
  | copy bytes => cases hbuffer
  | gone => cases hbuffer

/-- It still stands there after something was done elsewhere. -/
theorem of_changesOnly (h : item.Stands before told)
    (hchanges : Boundary.ChangesOnly address before after)
    (hne : ∀ buffer, item.buffer? = some buffer → buffer.raw.isNull = false →
      buffer.raw.address ≠ address) : item.Stands after told := by
  cases h with
  | held hbacks => exact .held (hbacks.of_changesOnly hchanges (hne _ rfl))
  | away hbacks => exact .away (hbacks.of_changesOnly hchanges (hne _ rfl))
  | copy bytes => exact .copy bytes
  | gone => exact .gone

end Stands

end Holding

namespace Holdings

variable {history : List Event} {holdings : Holdings} {action : Action} {after : Boundary}
  {item : Holding} {number other address : Nat} {buffer : Buffer}

/-- Behind everything stands what was told of it, and no two buffers share a block. -/
structure Kept (history : List Event) (holdings : Holdings) : Prop where
  owes : holdings.boundary.Owes (holdings.items.filterMap Holding.owed?)
  stands : ∀ number, (holdings.item number).Stands holdings.boundary (told history number)
  apart : ∀ number other buffer twin, holdings.buffer? number = some buffer →
    holdings.buffer? other = some twin → buffer.raw.isNull = false →
    twin.raw.address = buffer.raw.address → other = number
  /-- Only a null buffer that was taken over claims bytes that it does not have. -/
  null_length : ∀ number buffer, holdings.buffer? number = some buffer →
    buffer.raw.isNull = true → buffer.raw.length = 0 ∨
      (.adoptNull buffer.raw.length buffer.raw.capacity, .taken number) ∈ history
  view_lt : ∀ view ∈ holdings.views, view.1 < holdings.items.length
  /-- A view of a buffer that is not released is still one of it. -/
  view_eq : ∀ view ∈ holdings.views, ∀ buffer, holdings.buffer? view.1 = some buffer →
    buffer.raw = view.2
  unbroken : ∀ action violation, (action, .breach violation) ∉ history

/-- The invariant holds where nothing has come up yet. -/
theorem kept_new (placement : Placement) : Kept [] (new placement) where
  owes := Boundary.owes_new placement
  stands _ := .gone
  apart _ _ _ _ h := nomatch h
  null_length _ _ h := nomatch h
  view_lt _ h := absurd h List.not_mem_nil
  view_eq _ h := absurd h List.not_mem_nil
  unbroken _ _ := List.not_mem_nil

/-! ### Numbers -/

/-- Only what stands under a number can be under it. -/
theorem lt_of_item_ne (h : holdings.item number ≠ .gone) : number < holdings.items.length := by
  by_contra hle
  exact h (by rw [item, List.getElem?_eq_none (by omega)]; rfl)

/-- What is added stands under the next number, and all else where it stood. -/
theorem item_add : (holdings.add after item).2.item number =
    if number = holdings.items.length then item else holdings.item number := by
  simp only [add, Holdings.item]
  rcases Nat.lt_trichotomy number holdings.items.length with hlt | heq | hgt
  · rw [if_neg (by omega), List.getElem?_append_left hlt]
  · simp [heq]
  · rw [if_neg (by omega), List.getElem?_eq_none (by simp; omega),
      List.getElem?_eq_none (by omega)]

/-- What is replaced stands under its number, and all else where it stood. -/
theorem item_replace (h : number < holdings.items.length) :
    (holdings.replace number after item).2.item other =
      if other = number then item else holdings.item other := by
  simp only [replace, Holdings.item]
  split
  · next heq => simp [heq, h]
  · next hne => rw [List.getElem?_set_ne (Ne.symm hne)]

/-- Under a number that was given out stands what the list has in its place. -/
theorem item_eq_getElem (h : number < holdings.items.length) :
    holdings.item number = holdings.items[number] := by
  rw [item, List.getElem?_eq_getElem h]
  rfl

/-- What stands under a number decides which buffer is there. -/
theorem buffer?_of_item (h : holdings.item number = item) :
    holdings.buffer? number = item.buffer? :=
  congrArg Holding.buffer? h

/-- What is owed, with what stands under a number in front. -/
theorem owed_perm (h : number < holdings.items.length) (item : Holding) :
    ((holdings.items.set number item).filterMap Holding.owed?).Perm
      (item.owed?.toList ++ (holdings.items.eraseIdx number).filterMap Holding.owed?) := by
  refine ((List.set_perm_cons_eraseIdx h item).filterMap _).trans (.of_eq ?_)
  rw [List.filterMap_cons]
  cases item.owed? <;> rfl

/-! ### Steps -/

/-- No violation was raised so far, and none is raised by an event that tells of none. -/
theorem unbroken_cons {event : Event} (hevent : ∀ violation, event.2 ≠ .breach violation)
    (h : ∀ action violation, (action, .breach violation) ∉ history) (action : Action)
    (violation : Violation) : (action, .breach violation) ∉ event :: history := by
  intro hmem
  rcases List.mem_cons.1 hmem with heq | hmem
  · exact hevent violation (by rw [← heq])
  · exact h action violation hmem

namespace Kept

/-- A buffer with a block is somewhere in memory. -/
theorem mem_memory (h : Kept history holdings) (hbuffer : holdings.buffer? number = some buffer)
    (hnull : buffer.raw.isNull = false) :
    buffer.raw.address ∈ holdings.boundary.memory.addresses := by
  obtain ⟨bytes, -, hbacks⟩ := (h.stands number).backs hbuffer
  cases hbacks with
  | null hzero => simp [hnull] at hzero
  | block _ hblock => exact Memory.mem_addresses_of_block? hblock

/-- An action that is refused changes nothing, and tells nothing. -/
theorem refused (h : Kept history holdings) (action : Action) :
    Kept ((action, .refused) :: history) holdings := by
  have htold : told ((action, .refused) :: history) = told history := by
    cases action <;> rfl
  exact
    { h with
      stands := fun number => htold ▸ h.stands number
      null_length := fun number buffer hbuffer hnull =>
        (h.null_length number buffer hbuffer hnull).imp_right (.tail _)
      unbroken := unbroken_cons nofun h.unbroken }

/-- Something else stands under one number, and for that the block at one address was changed, where
no other buffer is. -/
theorem put (h : Kept history holdings) (number : Nat) (item : Holding) {event : Event}
    {items : List Holding} {fact : Option (List UInt8)}
    (hitem : ∀ other, { holdings with boundary := after, items := items }.item other =
      if other = number then item else holdings.item other)
    (hlength : holdings.items.length ≤ items.length)
    (htold : told (event :: history) = Function.update (told history) number fact)
    (hevent : ∀ violation, event.2 ≠ .breach violation)
    (howes : after.Owes (items.filterMap Holding.owed?))
    (hchanges : Boundary.ChangesOnly address holdings.boundary after)
    (helse : ∀ other buffer, other ≠ number → holdings.buffer? other = some buffer →
      buffer.raw.isNull = false → buffer.raw.address ≠ address)
    (hstands : item.Stands after fact)
    (haddress : ∀ buffer, item.buffer? = some buffer → buffer.raw.address = address)
    (hnull : ∀ buffer, item.buffer? = some buffer → buffer.raw.isNull = true →
      buffer.raw.length = 0 ∨
        (.adoptNull buffer.raw.length buffer.raw.capacity, .taken number) ∈ event :: history)
    (hview : ∀ view ∈ holdings.views, view.1 = number → ∀ buffer, item.buffer? = some buffer →
      buffer.raw = view.2) :
    Kept (event :: history) { holdings with boundary := after, items := items } := by
  have hbuffer : ∀ other, { holdings with boundary := after, items := items }.buffer? other =
      if other = number then item.buffer? else holdings.buffer? other := by
    intro other
    rw [buffer?, hitem, buffer?]
    split <;> rfl
  refine
    { owes := howes
      stands := fun other => ?_
      apart := fun one other buffer twin hone hother hblock haddr => ?_
      null_length := fun other buffer hother hzero => ?_
      view_lt := fun view hmem => Nat.lt_of_lt_of_le (h.view_lt view hmem) hlength
      view_eq := fun view hmem buffer hother => ?_
      unbroken := unbroken_cons hevent h.unbroken }
  · rw [hitem, htold]
    by_cases heq : other = number
    · subst heq
      simpa using hstands
    · rw [if_neg heq, Function.update_of_ne heq]
      exact (h.stands other).of_changesOnly hchanges fun buffer => helse other buffer heq
  · have htwin : twin.raw.isNull = false := by
      rw [RawBuffer.isNull_eq_false_iff] at hblock ⊢
      rwa [haddr]
    rw [hbuffer] at hone hother
    -- what is put there has the one block that no other has
    split at hone <;> split at hother
    · next hone' hother' => exact hother'.trans hone'.symm
    · next hne =>
      have := helse other twin hne hother htwin
      exact absurd (haddr.trans (haddress buffer hone)) this
    · next hne _ =>
      have := helse one buffer hne hone hblock
      exact absurd (haddr.symm.trans (haddress twin hother)) this
    · exact h.apart one other buffer twin hone hother hblock haddr
  · rw [hbuffer] at hother
    split at hother
    · next heq => exact heq ▸ hnull buffer hother hzero
    · exact (h.null_length other buffer hother hzero).imp_right (.tail _)
  · rw [hbuffer] at hother
    split at hother
    · next heq => exact hview view hmem heq buffer hother
    · exact h.view_eq view hmem buffer hother

/-- Something new comes up, in a place where nothing was. -/
theorem add (h : Kept history holdings) (action : Action) (item : Holding)
    (hchanges : Boundary.ChangesOnly item.address holdings.boundary after)
    (hfresh : item.address ∉ holdings.boundary.memory.addresses)
    (howes : after.Owes (item.owed?.toList ++ holdings.items.filterMap Holding.owed?))
    (hstands : item.Stands after (some (action.first (told history))))
    (hnull : ∀ buffer, item.buffer? = some buffer → buffer.raw.isNull = true →
      buffer.raw.length = 0 ∨ action = .adoptNull buffer.raw.length buffer.raw.capacity) :
    Kept ((action, (holdings.add after item).1) :: history) (holdings.add after item).2 := by
  refine h.put _ item (fun other => item_add) (by simp) rfl nofun (howes.perm ?_)
    hchanges (fun other buffer _ hbuffer hblock => ?_) hstands
    (fun buffer hbuffer => (Holding.address_eq hbuffer).symm) (fun buffer hbuffer hzero => ?_)
    (fun view hmem heq => ?_)
  · rw [List.filterMap_append]
    refine List.perm_append_comm.trans (.of_eq (congrArg _ ?_))
    cases hitem : item.owed? <;> simp [hitem]
  · exact ne_of_mem_of_not_mem (h.mem_memory hbuffer hblock) hfresh
  · refine (hnull buffer hbuffer hzero).imp_right fun heq => ?_
    rw [heq]
    exact .head _
  · exact absurd (h.view_lt view hmem) (heq ▸ Nat.lt_irrefl _)

/-- What stands under a number is replaced. If it is a buffer, it stays the same raw buffer. -/
theorem replace (h : Kept history holdings) {old : Holding} {fact : Option (List UInt8)}
    (hold : holdings.item number = old) (hlive : old ≠ .gone)
    (htold : told ((action, .done) :: history) = Function.update (told history) number fact)
    (hchanges : Boundary.ChangesOnly old.address holdings.boundary after)
    (howes : after.Owes
      (item.owed?.toList ++ (holdings.items.eraseIdx number).filterMap Holding.owed?))
    (hstands : item.Stands after fact)
    (hraw : ∀ twin, item.buffer? = some twin → ∃ buffer, old.buffer? = some buffer ∧
      buffer.raw = twin.raw) :
    Kept ((action, (holdings.replace number after item).1) :: history)
      (holdings.replace number after item).2 := by
  have hlt := lt_of_item_ne (hold ▸ hlive)
  have hbuffer := buffer?_of_item hold
  refine h.put number item (fun other => item_replace hlt) (by simp) htold nofun
    (howes.perm (owed_perm hlt item).symm) hchanges (fun other buffer hne hother hblock heq => ?_)
    hstands (fun twin htwin => ?_) (fun twin htwin hzero => ?_)
    (fun view hmem heq twin htwin => ?_)
  · cases hown : old.buffer? with
    | none =>
      rw [Holding.address, hown] at heq
      exact RawBuffer.isNull_eq_false_iff.1 hblock heq
    | some own =>
      have hsame := (Holding.address_eq hown).symm.trans heq.symm
      exact hne (h.apart other number buffer own hother (hbuffer.trans hown) hblock hsame).symm
  · obtain ⟨buffer, hown, hsame⟩ := hraw twin htwin
    rw [← hsame, Holding.address_eq hown]
  · obtain ⟨buffer, hown, hsame⟩ := hraw twin htwin
    rw [← hsame] at hzero ⊢
    exact (h.null_length number buffer (hbuffer.trans hown) hzero).imp_right (.tail _)
  · obtain ⟨buffer, hown, hsame⟩ := hraw twin htwin
    exact hsame ▸ h.view_eq view hmem buffer (heq ▸ hbuffer.trans hown)

/-- What is owed for one number, and for the others. -/
theorem owes_front (h : Kept history holdings) (hitem : holdings.item number = item)
    (hlive : item ≠ .gone) :
    holdings.boundary.Owes
      (item.owed?.toList ++ (holdings.items.eraseIdx number).filterMap Holding.owed?) := by
  have hlt := lt_of_item_ne (hitem ▸ hlive)
  have hperm := owed_perm hlt item
  rw [← hitem, item_eq_getElem hlt, List.set_getElem_self] at hperm
  rw [← hitem, item_eq_getElem hlt]
  exact h.owes.perm hperm

/-- The host need not release what is the VM's and on the other side. -/
theorem not_mem_dues (h : Kept history holdings) {raw : RawBuffer}
    (hitem : holdings.item number = .away ⟨.vm, raw⟩) (hnull : raw.isNull = false) :
    raw.address ∉ dues .vm ((holdings.items.eraseIdx number).filterMap Holding.owed?) := by
  intro hdue
  obtain ⟨buffer, hbuffer, hdue⟩ := List.mem_filterMap.1 hdue
  obtain ⟨found, hfound, howed⟩ := List.mem_filterMap.1 hbuffer
  obtain ⟨other, hlt, rfl⟩ := List.getElem_of_mem (List.mem_of_mem_eraseIdx hfound)
  rw [← item_eq_getElem hlt] at howed
  have hother : holdings.buffer? other = some buffer := Holding.buffer?_of_owed? howed
  have haddress : buffer.raw.address = raw.address := by
    unfold Buffer.due? at hdue
    split at hdue <;> simp_all
  obtain rfl := h.apart number other _ buffer (buffer?_of_item hitem) hother hnull haddress
  rw [hitem] at howed
  cases howed

/-- A buffer that a side provides is held. -/
theorem provide (h : Kept history holdings) (side : Side) {bytes : List UInt8}
    (hfirst : action.first (told history) = bytes) :
    Kept ((action, .taken holdings.items.length) :: history)
      (holdings.add (holdings.boundary.provide side bytes).2
        (.held ⟨side, (holdings.boundary.provide side bytes).1⟩)).2 := by
  refine h.add action (.held _) (Boundary.changesOnly_provide ..)
    (h.owes.provide_not_mem side bytes) (h.owes.provide side bytes)
    (.held (hfirst ▸ .provide ..)) fun buffer hbuffer hzero => .inl ?_
  cases hbuffer
  exact congrArg RawBuffer.length (Boundary.provide_eq_empty hzero)

/-- A buffer that the host must have released is dropped, or given back by the other side. The
allocator has no objection. -/
theorem release (h : Kept history holdings) (action : Action) {buffer : Buffer}
    (hitem : holdings.item number = item) (howed : item.owed? = some buffer)
    (htold : told ((action, .done) :: history) = Function.update (told history) number none) :
    ∃ after, buffer.drop holdings.boundary = .ok after ∧
      Kept ((action, .done) :: history) (holdings.replace number after .gone).2 := by
  have hlive : item ≠ .gone := fun hgone => by simp [hgone, Holding.owed?] at howed
  have hfront := h.owes_front hitem hlive
  rw [howed] at hfront
  obtain ⟨after, hdrop, howes, -⟩ := hfront.drop
  have hchanges : Boundary.ChangesOnly item.address holdings.boundary after := by
    rw [Holding.address_eq (Holding.buffer?_of_owed? howed)]
    exact Boundary.changesOnly_release hdrop
  exact ⟨after, hdrop, h.replace hitem hlive htold hchanges howes .gone nofun⟩

/-- A buffer changes hands, and nothing behind it changes. -/
theorem pass (h : Kept history holdings) {old item : Holding} {ledger : Ledger}
    (hitem : holdings.item number = old) (hbuffer : old.buffer? = some buffer)
    (hsame : item.buffer? = some buffer)
    (htold : told ((action, .done) :: history) = told history)
    (howes : { holdings.boundary with vm := ledger }.Owes
      (item.owed?.toList ++ (holdings.items.eraseIdx number).filterMap Holding.owed?)) :
    Kept ((action, .done) :: history)
      (holdings.replace number { holdings.boundary with vm := ledger } item).2 := by
  have hlive : old ≠ .gone := fun hgone => by simp [hgone, Holding.buffer?] at hbuffer
  obtain ⟨bytes, hbytes, hbacks⟩ := (h.stands number).backs ((buffer?_of_item hitem).trans hbuffer)
  have hstands : item.Stands { holdings.boundary with vm := ledger } (told history number) := by
    rw [hbytes]
    cases item with
    | held own => cases hsame; exact .held (hbacks.of_vm ledger)
    | away own => cases hsame; exact .away (hbacks.of_vm ledger)
    | copy own => cases hsame
    | gone => cases hsame
  refine h.replace hitem hlive (htold.trans (Function.update_eq_self ..).symm)
    (Boundary.changesOnly_vm ..) howes hstands fun twin htwin => ⟨buffer, hbuffer, ?_⟩
  rw [Option.some.inj (hsame.symm.trans htwin)]

end Kept

/-! ## Null buffers -/

/-- A null buffer was taken over that claims bytes, though no allocator has made any. -/
def Hollow (history : List Event) (number : Nat) : Prop :=
  ∃ length capacity, 0 < length ∧ (.adoptNull length capacity, .taken number) ∈ history

/-- A buffer that is not hollow is as long as what stands behind it. -/
theorem Kept.length_eq (h : Kept history holdings) (hbuffer : holdings.buffer? number = some buffer)
    (hhollow : ¬ Hollow history number) {bytes : List UInt8}
    (hbacks : holdings.boundary.Backs buffer bytes) : buffer.raw.length = bytes.length := by
  refine hbacks.length_eq fun hnull => ?_
  rcases h.null_length number buffer hbuffer hnull with hzero | hevent
  · exact hzero
  · by_contra hne
    exact hhollow ⟨_, _, Nat.pos_of_ne_zero hne, hevent⟩

end Holdings

end HostBridge
