import Mathlib.Data.Set.Card
import HostBridge.Proofs.Ledger.History

/-!
# A ledger follows its history

Main statement: `run_followsHistory`. After any entries in a new ledger, refused ones included,
every answer and both counts of the ledger are those that its history calls for
(`FollowsHistory`). The proof carries `Simulates` along the run.
-/

namespace HostBridge

/-- The size of a book is the count of the addresses that are found in it. -/
theorem Book.encard_getElem? {α : Type} (book : Book α) :
    {address : Nat | book[address]?.isSome}.encard = book.size := by
  have hset : {address : Nat | book[address]?.isSome} = (book.keys.toFinset : Set Nat) := by
    ext address
    simp
  rw [hset, Set.encard_coe_eq_coe_finsetCard,
    List.toFinset_card_of_nodup Std.ExtTreeMap.nodup_keys, Std.ExtTreeMap.length_keys]

namespace Ledger

/-! ## The simulation -/

/-- The ledger of a side and its history agree on what is live and on what is remembered. -/
structure Simulates (side : Side) (ledger : Ledger) (past : List Entry) : Prop where
  side : ledger.side = side
  live : ∀ address, ledger.capacity? address = capacityOf? past address
  remembers : Remembers ledger past
  /-- The null buffer was never released. -/
  null : ∀ raw, latest? past 0 ≠ some (.release raw)

@[simp] theorem capacityOf?_zero (past : List Entry) : capacityOf? past 0 = none := by
  unfold capacityOf?
  split <;> rfl

/-- What is live was not released lately. -/
theorem numberOf?_of_capacityOf? {past : List Entry} {address capacity : Nat}
    (h : capacityOf? past address = some capacity) : numberOf? past address = none := by
  unfold capacityOf? at h
  unfold numberOf?
  split at h
  · next hlatest => rw [hlatest]
  · cases h

namespace Simulates

variable {side : Side} {ledger : Ledger} {past : List Entry}

/-- The null buffer has no number. -/
theorem numberOf?_zero (h : Simulates side ledger past) : numberOf? past 0 = none := by
  unfold numberOf?
  split
  · next raw hlatest => exact absurd hlatest (h.null raw)
  · rfl

/-- A new ledger and an empty history agree. -/
theorem new (side : Side) : Simulates side (new side) [] where
  side := rfl
  live _ := rfl
  remembers := .new side
  null _ h := nomatch h

/-- An entry of the null buffer changes nothing, also for the history. -/
theorem of_null (h : Simulates side ledger past) {entry : Entry} (hentry : entry.isRelease = false)
    (hnull : entry.raw.address = 0) : Simulates side ledger (entry :: past) where
  side := h.side
  live address := by
    rw [capacityOf?_cons, hnull]
    split
    · next haddress =>
      subst haddress
      rw [h.live, capacityOf?_zero]
      cases entry <;> rfl
    · exact h.live address
  remembers := h.remembers.of_not_release hentry rfl rfl fun address => by
    rw [hnull]
    split
    · next haddress => rw [← haddress, h.remembers.released, h.numberOf?_zero]
    · rfl
  null raw := by
    rw [latest?_cons, if_pos hnull]
    rintro heq
    rw [Option.some.injEq] at heq
    subst heq
    cases hentry

/-- They agree after a buffer was handed out. -/
theorem track (h : Simulates side ledger past) (raw : RawBuffer) :
    Simulates side (ledger.track raw) (.track raw :: past) := by
  unfold Ledger.track
  split
  · next hnull => exact h.of_null rfl (RawBuffer.isNull_iff.1 hnull)
  · next hnull =>
    have hne : raw.address ≠ 0 := fun hzero => hnull (RawBuffer.isNull_iff.2 hzero)
    refine ⟨h.side, fun address => ?_, h.remembers.of_not_release rfl rfl rfl fun address => ?_, ?_⟩
    · rw [capacityOf?_cons]
      simp only [capacity?, Std.ExtTreeMap.getElem?_insert, Std.compare_eq_iff_eq, Entry.raw, ← h.live]
      by_cases haddress : address = raw.address
      · simp [haddress, hne]
      · simp [Ne.symm haddress]
    · exact Std.ExtTreeMap.getElem?_erase.trans (if_congr Std.compare_eq_iff_eq rfl rfl)
    · intro other
      rw [latest?_cons, Entry.raw, if_neg hne]
      exact h.null other

/-- They agree after a live buffer was forgotten. -/
theorem forget (h : Simulates side ledger past) {raw : RawBuffer} {capacity : Nat}
    (hlive : ledger.capacity? raw.address = some capacity) :
    Simulates side { ledger with live := ledger.live.erase raw.address } (.forget raw :: past) := by
  have hnumber := numberOf?_of_capacityOf? ((h.live _).symm.trans hlive)
  refine ⟨h.side, fun address => ?_, h.remembers.of_not_release rfl rfl rfl fun address => ?_, ?_⟩
  · rw [capacityOf?_cons]
    simp only [capacity?, Std.ExtTreeMap.getElem?_erase,
      Std.compare_eq_iff_eq, Entry.raw, ← h.live]
  · rw [Entry.raw, h.remembers.released]
    split
    · next haddress => rw [← haddress, hnumber]
    · rfl
  · intro other
    rw [latest?_cons]
    split
    · simp
    · exact h.null other

/-- They agree after a live buffer was released. -/
theorem release (h : Simulates side ledger past) {raw : RawBuffer} {capacity : Nat}
    (hlive : ledger.capacity? raw.address = some capacity) :
    Simulates side ({ ledger with live := ledger.live.erase raw.address }.remember raw.address)
      (.release raw :: past) := by
  have hne : raw.address ≠ 0 := by
    intro hzero
    rw [h.live, hzero, capacityOf?_zero] at hlive
    cases hlive
  have hremembers : Remembers { ledger with live := ledger.live.erase raw.address } past :=
    ⟨h.remembers.released, h.remembers.history, h.remembers.sequence⟩
  refine ⟨h.side, fun address => ?_, hremembers.remember raw, fun other => ?_⟩
  · rw [capacityOf?_cons]
    simp only [Ledger.remember, capacity?, Std.ExtTreeMap.getElem?_erase,
      Std.compare_eq_iff_eq, Entry.raw, ← h.live]
  · rw [latest?_cons, Entry.raw, if_neg hne]
    exact h.null other

/-- One step of the simulation. -/
theorem record {state : Ledger × List Entry} (h : Simulates side state.1 state.2)
    (entry : Entry) : Simulates side (record state entry).1 (record state entry).2 := by
  obtain ⟨ledger, past⟩ := state
  cases entry with
  | track raw => exact h.track raw
  | forget raw =>
    cases hraw : raw.isNull with
    | true =>
      simp only [Ledger.record, enter, forget_of_isNull hraw, Except.map]
      exact h.of_null rfl (RawBuffer.isNull_iff.1 hraw)
    | false =>
      cases hlive : ledger.capacity? raw.address with
      | some capacity =>
        simp only [Ledger.record, enter, forget_of_some hraw hlive, Except.map]
        exact h.forget hlive
      | none =>
        simp only [Ledger.record, enter, forget_of_none hraw hlive, Except.map]
        exact h
  | release raw =>
    cases hlive : ledger.capacity? raw.address with
    | some capacity =>
      simp only [Ledger.record, enter, release_of_some hlive, Except.map]
      exact h.release hlive
    | none =>
      simp only [Ledger.record, enter, release_of_none hlive, Except.map]
      exact h

end Simulates

/-- A run that keeps its history is a run of the ledger. -/
theorem foldl_record_fst (side : Side) (entries : List Entry) :
    (entries.foldl record (Ledger.new side, [])).1 = (Ledger.new side).run entries := by
  induction entries using List.reverseRecOn with
  | nil => rfl
  | append_singleton entries entry ih =>
    rw [List.foldl_concat, run_append, ← ih]
    generalize (entries.foldl record (Ledger.new side, [])) = state
    simp only [Ledger.record, run, List.foldl_cons, List.foldl_nil]
    split <;> simp [*]

/-- The simulation along a run. -/
theorem simulates_run (side : Side) (entries : List Entry) :
    Simulates side ((Ledger.new side).run entries) (past side entries) := by
  rw [← foldl_record_fst, past]
  induction entries using List.reverseRecOn with
  | nil => exact .new side
  | append_singleton entries entry ih =>
    rw [List.foldl_concat]
    exact ih.record entry

/-! ## The refinement -/

/-- What a ledger of a side answers and counts is what a history calls for. -/
structure FollowsHistory (side : Side) (ledger : Ledger) (past : List Entry) : Prop where
  /-- What the ledger takes for live was handed out last. -/
  isSome_capacity?_iff : ∀ address, (ledger.capacity? address).isSome ↔ Live past address
  /-- A release succeeds exactly if the buffer is live. It tells the capacity with which the buffer
  was handed out last, whatever size the released buffer claims. -/
  release_eq_ok_iff : ∀ raw capacity, (ledger.release raw).1 = .ok capacity ↔
    raw.address ≠ 0 ∧ ∃ handedOut, latest? past raw.address = some (.track handedOut) ∧
      handedOut.capacity = capacity
  /-- A release is a double free exactly if the buffer was released lately. -/
  release_eq_doubleFree_iff : ∀ raw,
    (ledger.release raw).1 = .error (.doubleFree raw.address side) ↔ ReleasedLately past raw.address
  /-- A release that is neither due nor a double free is one of a foreign buffer. -/
  release_eq_notAllocated_iff : ∀ raw,
    (ledger.release raw).1 = .error (.notAllocated raw.address side) ↔
      ¬ Live past raw.address ∧ ¬ ReleasedLately past raw.address
  /-- The null buffer is forgotten without a look. -/
  forget_eq_ok_iff : ∀ raw,
    (ledger.forget raw).1 = .ok () ↔ raw.address = 0 ∨ Live past raw.address
  /-- To forget any other buffer that is not live is to forget a foreign one. -/
  forget_eq_notAllocated_iff : ∀ raw, raw.address ≠ 0 →
    ((ledger.forget raw).1 = .error (.notAllocated raw.address side) ↔ ¬ Live past raw.address)
  /-- An entry that is refused changes nothing at all. -/
  enter_of_error : ∀ entry violation,
    (ledger.enter entry).1 = .error violation → (ledger.enter entry).2 = ledger
  /-- The live buffers are counted. -/
  liveCount_eq : (ledger.liveCount : ℕ∞) = {address | Live past address}.encard
  /-- The buffers whose release would be a double free are counted. -/
  rememberedCount_eq : (ledger.rememberedCount : ℕ∞) =
    {address | ∃ raw : RawBuffer, raw.address = address ∧
      (ledger.release raw).1 = .error (.doubleFree address side)}.encard
  rememberedCount_le : ledger.rememberedCount ≤ historyLength

namespace Simulates

variable {side : Side} {ledger : Ledger} {past : List Entry}

/-- What the ledger takes for live is what was handed out last. -/
theorem isSome_capacity?_iff (h : Simulates side ledger past) (address : Nat) :
    (ledger.capacity? address).isSome ↔ Live past address := by
  rw [h.live, isSome_capacityOf?_iff]

/-- What the ledger remembers is what was released lately. -/
theorem isSome_released_iff (h : Simulates side ledger past) (address : Nat) :
    ledger.released[address]?.isSome ↔ ReleasedLately past address := by
  rw [h.remembers.released, isSome_numberOf?_iff]

/-- A release succeeds just if the buffer is live, and tells the capacity that is on record. -/
theorem release_eq_ok_iff (h : Simulates side ledger past) (raw : RawBuffer) (capacity : Nat) :
    (ledger.release raw).1 = .ok capacity ↔
      raw.address ≠ 0 ∧ ∃ handedOut, latest? past raw.address = some (.track handedOut) ∧
        handedOut.capacity = capacity := by
  rw [← capacityOf?_eq_some_iff, ← h.live]
  cases hcapacity : ledger.capacity? raw.address with
  | some own => simp [release_of_some hcapacity]
  | none => simp [release_of_none hcapacity]

/-- A release is a double free just if the buffer was released lately. A live one was not. -/
theorem release_eq_doubleFree_iff (h : Simulates side ledger past) (raw : RawBuffer) :
    (ledger.release raw).1 = .error (.doubleFree raw.address side) ↔
      ReleasedLately past raw.address := by
  rw [← h.isSome_released_iff]
  cases hcapacity : ledger.capacity? raw.address with
  | some capacity =>
    have hnumber := numberOf?_of_capacityOf? ((h.live _).symm.trans hcapacity)
    simp [release_of_some hcapacity, h.remembers.released, hnumber]
  | none =>
    rw [release_of_none hcapacity, h.side]
    split <;> simp_all

/-- A release is one of a foreign buffer just if nothing is known of the buffer. -/
theorem release_eq_notAllocated_iff (h : Simulates side ledger past) (raw : RawBuffer) :
    (ledger.release raw).1 = .error (.notAllocated raw.address side) ↔
      ¬ Live past raw.address ∧ ¬ ReleasedLately past raw.address := by
  rw [← h.isSome_capacity?_iff, ← h.isSome_released_iff]
  cases hcapacity : ledger.capacity? raw.address with
  | some capacity => simp [release_of_some hcapacity]
  | none =>
    rw [release_of_none hcapacity, h.side]
    split <;> simp_all

/-- The null buffer can always be forgotten, and any other just if it is live. -/
theorem forget_eq_ok_iff (h : Simulates side ledger past) (raw : RawBuffer) :
    (ledger.forget raw).1 = .ok () ↔ raw.address = 0 ∨ Live past raw.address := by
  rw [← h.isSome_capacity?_iff]
  cases hraw : raw.isNull with
  | true => simp [forget_of_isNull hraw, RawBuffer.isNull_iff.1 hraw]
  | false =>
    have hne := RawBuffer.isNull_eq_false_iff.1 hraw
    cases hcapacity : ledger.capacity? raw.address with
    | some capacity => simp [forget_of_some hraw hcapacity]
    | none => simp [forget_of_none hraw hcapacity, hne]

/-- To forget a buffer that is not live is to forget a foreign one. -/
theorem forget_eq_notAllocated_iff (h : Simulates side ledger past) {raw : RawBuffer}
    (hraw : raw.address ≠ 0) :
    (ledger.forget raw).1 = .error (.notAllocated raw.address side) ↔ ¬ Live past raw.address := by
  have hnull := RawBuffer.isNull_eq_false_iff.2 hraw
  rw [← h.isSome_capacity?_iff]
  cases hcapacity : ledger.capacity? raw.address with
  | some capacity => simp [forget_of_some hnull hcapacity]
  | none => simp [forget_of_none hnull hcapacity, h.side]

/-- The live buffers are counted. -/
theorem liveCount_eq (h : Simulates side ledger past) :
    (ledger.liveCount : ℕ∞) = {address | Live past address}.encard := by
  have hset : {address | Live past address} = {address | ledger.live[address]?.isSome} :=
    Set.ext fun address => (h.isSome_capacity?_iff address).symm
  rw [hset, Book.encard_getElem?]
  rfl

/-- The buffers whose release would be a double free are counted. -/
theorem rememberedCount_eq (h : Simulates side ledger past) :
    (ledger.rememberedCount : ℕ∞) =
      {address | ∃ raw : RawBuffer, raw.address = address ∧
        (ledger.release raw).1 = .error (.doubleFree address side)}.encard := by
  have hset : {address | ∃ raw : RawBuffer, raw.address = address ∧
        (ledger.release raw).1 = .error (.doubleFree address side)} =
      {address | ledger.released[address]?.isSome} := by
    ext address
    simp only [Set.mem_ofPred_eq, h.isSome_released_iff]
    constructor
    · rintro ⟨raw, rfl, hraw⟩
      exact (h.release_eq_doubleFree_iff raw).1 hraw
    · exact fun hlately =>
        ⟨⟨address, 0, 0⟩, rfl, (h.release_eq_doubleFree_iff ⟨address, 0, 0⟩).2 hlately⟩
  rw [hset, Book.encard_getElem?]
  rfl

/-- What is remembered of releases is still queued, so there is never more of it than the queue
holds. -/
theorem rememberedCount_le (h : Simulates side ledger past) :
    ledger.rememberedCount ≤ historyLength := by
  have hsubset : ledger.released.keys ⊆ (queue past).map (·.1) := by
    intro address hmem
    rw [← Book.isSome_getElem?_iff, h.remembers.released, isSome_numberOf?_iff] at hmem
    exact mem_queue hmem
  calc ledger.rememberedCount = ledger.released.keys.length :=
        Std.ExtTreeMap.length_keys.symm
    _ ≤ ((queue past).map (·.1)).length :=
        (List.subperm_of_subset Std.ExtTreeMap.nodup_keys hsubset).length_le
    _ ≤ historyLength := by
        rw [List.length_map, length_queue]
        exact Nat.min_le_left ..

/-- A ledger that is simulated by a history follows it. -/
theorem followsHistory (h : Simulates side ledger past) : FollowsHistory side ledger past where
  isSome_capacity?_iff := h.isSome_capacity?_iff
  release_eq_ok_iff := h.release_eq_ok_iff
  release_eq_doubleFree_iff := h.release_eq_doubleFree_iff
  release_eq_notAllocated_iff := h.release_eq_notAllocated_iff
  forget_eq_ok_iff := h.forget_eq_ok_iff
  forget_eq_notAllocated_iff _ := h.forget_eq_notAllocated_iff
  enter_of_error _ _ := enter_of_error
  liveCount_eq := h.liveCount_eq
  rememberedCount_eq := h.rememberedCount_eq
  rememberedCount_le := h.rememberedCount_le

end Simulates

/-- **A ledger follows its history.** After any run of entries in a new ledger, what it answers and
what it counts is what the history of the run calls for. -/
theorem run_followsHistory (side : Side) (entries : List Entry) :
    FollowsHistory side ((Ledger.new side).run entries) (past side entries) :=
  (simulates_run side entries).followsHistory

end Ledger

end HostBridge
