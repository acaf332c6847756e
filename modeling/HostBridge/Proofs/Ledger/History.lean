import HostBridge.Ownership.Ledger

/-!
# Histories of a ledger

A history is a list of the entries that a ledger did not refuse, latest first. `capacityOf?` and
`numberOf?` say from a history alone which buffers are live and which are remembered as released:
a buffer is live if it was handed out last, and remembered if it was released last and fewer than
`historyLength` releases of any buffers came after.

`Simulates` is the relation between a ledger and its history, and `Simulates.enter` is one step of
it. The step that carries weight is a release into a full queue (`Remembers.remember`): the release
that leaves the queue takes its buffer out of `released` exactly if no later release of that buffer
is queued, since the number found there is then still the one that leaves.
-/

namespace HostBridge.Ledger

/-! ## What a history says -/

/-- The buffer that an entry is about. -/
def Entry.raw : Entry → RawBuffer
  | .track raw | .forget raw | .release raw => raw

/-- Whether an entry is a release. -/
def Entry.isRelease : Entry → Bool
  | .release _ => true
  | _ => false

/-- Makes an entry, and puts it in front of the history unless it is refused. -/
def record (state : Ledger × List Entry) (entry : Entry) : Ledger × List Entry :=
  match state.1.enter entry with
  | (.ok _, after) => (after, entry :: state.2)
  | (.error _, after) => (after, state.2)

/-- The history of a new ledger: the entries that were not refused, latest first. -/
def past (side : Side) (entries : List Entry) : List Entry :=
  (entries.foldl record (new side, [])).2

/-- The latest entry about an address. -/
def latest? (past : List Entry) (address : Nat) : Option Entry :=
  past.find? fun entry => entry.raw.address = address

/-- How many releases there were in all. -/
def releaseCount (past : List Entry) : Nat := past.countP Entry.isRelease

/-- How many releases there were after the latest entry about an address. -/
def releasesSince (past : List Entry) (address : Nat) : Nat :=
  releaseCount (past.takeWhile fun entry => entry.raw.address ≠ address)

/-- A buffer is live if it was handed out last. The null buffer never is. -/
def Live (past : List Entry) (address : Nat) : Prop :=
  address ≠ 0 ∧ ∃ raw, latest? past address = some (.track raw)

/-- A buffer was released lately if it was released last, not too many releases ago. -/
def ReleasedLately (past : List Entry) (address : Nat) : Prop :=
  (∃ raw, latest? past address = some (.release raw)) ∧
    releasesSince past address < historyLength

/-- The capacity with which a live buffer was handed out. -/
def capacityOf? (past : List Entry) (address : Nat) : Option Nat :=
  match latest? past address with
  | some (.track raw) => if address = 0 then none else some raw.capacity
  | _ => none

/-- The number of the latest release of a buffer that was released lately. -/
def numberOf? (past : List Entry) (address : Nat) : Option UInt64 :=
  match latest? past address with
  | some (.release _) =>
    if releasesSince past address < historyLength then
      some (.ofNat (releaseCount past - releasesSince past address))
    else none
  | _ => none

/-- All releases with their numbers, latest first. -/
def numbered : List Entry → List (Nat × UInt64)
  | [] => []
  | .release raw :: past => (raw.address, .ofNat (releaseCount past + 1)) :: numbered past
  | _ :: past => numbered past

/-- The releases that are still queued, oldest first. -/
def queue (past : List Entry) : List (Nat × UInt64) :=
  ((numbered past).take historyLength).reverse

/-! ## One more entry -/

section
variable {past : List Entry} {address : Nat} {entry : Entry} {raw : RawBuffer}

@[simp] theorem latest?_cons :
    latest? (entry :: past) address =
      if entry.raw.address = address then some entry else latest? past address := by
  simp only [latest?, List.find?_cons]
  split <;> simp_all

@[simp] theorem releaseCount_cons :
    releaseCount (entry :: past) = releaseCount past + if entry.isRelease then 1 else 0 :=
  List.countP_cons ..

@[simp] theorem releasesSince_cons :
    releasesSince (entry :: past) address =
      if entry.raw.address = address then 0
      else releasesSince past address + if entry.isRelease then 1 else 0 := by
  simp only [releasesSince, List.takeWhile_cons]
  split
  · next h => rw [if_neg (of_decide_eq_true h), releaseCount_cons]
  · next h => rw [if_pos (by simpa using h)]; rfl

/-- What is live after one more entry. -/
theorem capacityOf?_cons :
    capacityOf? (entry :: past) address =
      if entry.raw.address = address then
        match entry with
        | .track raw => if address = 0 then none else some raw.capacity
        | _ => none
      else capacityOf? past address := by
  by_cases h : entry.raw.address = address
  · cases entry <;> simp [capacityOf?, h]
  · simp [capacityOf?, h]

/-- An entry that is no release only ends what is remembered of its own buffer. -/
theorem numberOf?_cons_of_not_release (h : entry.isRelease = false) :
    numberOf? (entry :: past) address =
      if entry.raw.address = address then none else numberOf? past address := by
  by_cases haddress : entry.raw.address = address
  · cases entry <;> simp_all [numberOf?, Entry.isRelease]
  · simp [numberOf?, haddress, h]

/-- An entry that is no release gets no number. -/
theorem numbered_cons_of_not_release (h : entry.isRelease = false) :
    numbered (entry :: past) = numbered past := by
  cases entry <;> first | rfl | simp [Entry.isRelease] at h

/-- There are as many numbers as there were releases. -/
theorem length_numbered (past : List Entry) : (numbered past).length = releaseCount past := by
  induction past with
  | nil => rfl
  | cons entry past ih => cases entry <;> simp [numbered, Entry.isRelease, ih]

/-- Since a buffer was released there were no more releases than there were at all. -/
theorem releasesSince_le (past : List Entry) (address : Nat) :
    releasesSince past address ≤ releaseCount past :=
  (List.takeWhile_sublist _).countP_le

/-- The latest release of a buffer stands behind the releases since, with its own number. -/
theorem getElem?_numbered (h : latest? past address = some (.release raw)) :
    (numbered past)[releasesSince past address]? =
      some (address, .ofNat (releaseCount past - releasesSince past address)) := by
  induction past with
  | nil => simp [latest?] at h
  | cons entry past ih =>
    by_cases haddress : entry.raw.address = address
    · rw [latest?_cons, if_pos haddress, Option.some.injEq] at h
      subst h
      have hraw : raw.address = address := haddress
      simp [numbered, hraw, Entry.raw, Entry.isRelease]
    · rw [latest?_cons, if_neg haddress] at h
      have hle := releasesSince_le past address
      have hnumbered := ih h
      cases entry with
      | track | forget => simpa [numbered, haddress, Entry.isRelease] using hnumbered
      | release other =>
        rw [releasesSince_cons, if_neg haddress, releaseCount_cons]
        have hsub : releaseCount past + 1 - (releasesSince past address + 1) =
            releaseCount past - releasesSince past address := by omega
        simpa [numbered, Entry.isRelease, hsub] using hnumbered

/-- Releases are numbered in turn. -/
theorem number_of_getElem?_numbered {index : Nat} {number : UInt64}
    (h : (numbered past)[index]? = some (address, number)) :
    number = .ofNat (releaseCount past - index) := by
  induction past generalizing index with
  | nil => simp [numbered] at h
  | cons entry past ih =>
    cases entry with
    | track | forget => simpa [Entry.isRelease] using ih h
    | release raw =>
      cases index with
      | zero =>
        simp only [numbered, List.getElem?_cons_zero, Option.some.injEq, Prod.mk.injEq] at h
        simp [Entry.isRelease, h.2]
      | succ index => simpa [Entry.isRelease] using ih h

/-- Numbers of releases that are both queued differ, although numbers wrap around. -/
theorem eq_of_ofNat_eq {count since since' : Nat} (h : since ≤ count) (h' : since' ≤ count)
    (hlt : since < UInt64.size) (hlt' : since' < UInt64.size)
    (heq : UInt64.ofNat (count - since) = UInt64.ofNat (count - since')) : since = since' := by
  have hmod := congrArg UInt64.toNat heq
  simp only [UInt64.toNat_ofNat', UInt64.size] at hmod hlt hlt'
  omega

/-- A buffer that was released last has a number among all releases. -/
theorem releasesSince_lt (h : latest? past address = some (.release raw)) :
    releasesSince past address < releaseCount past := by
  obtain ⟨hlt, -⟩ := List.getElem?_eq_some_iff.1 (getElem?_numbered h)
  rwa [length_numbered] at hlt

/-- A buffer has a number just if it was released lately, and it is the one of its latest
release. -/
theorem numberOf?_eq_some_iff {number : UInt64} :
    numberOf? past address = some number ↔
      ReleasedLately past address ∧
        number = .ofNat (releaseCount past - releasesSince past address) := by
  unfold numberOf? ReleasedLately
  split
  · next raw h =>
    split
    · next hlt => simp [h, hlt, eq_comm]
    · next hlt => simp [hlt]
  · next h =>
    simp only [reduceCtorEq, false_iff, not_and]
    rintro ⟨⟨raw, hraw⟩, -⟩
    exact absurd hraw (h raw)

/-- The buffers with a number are those that were released lately. -/
theorem isSome_numberOf?_iff : (numberOf? past address).isSome ↔ ReleasedLately past address := by
  rw [Option.isSome_iff_exists]
  exact ⟨fun ⟨_, h⟩ => (numberOf?_eq_some_iff.1 h).1, fun h => ⟨_, numberOf?_eq_some_iff.2 ⟨h, rfl⟩⟩⟩

/-- A buffer has a capacity just if it was handed out last, and it is the one it was handed out
with. -/
theorem capacityOf?_eq_some_iff {capacity : Nat} :
    capacityOf? past address = some capacity ↔
      address ≠ 0 ∧ ∃ raw, latest? past address = some (.track raw) ∧ raw.capacity = capacity := by
  unfold capacityOf?
  split
  · next raw h => by_cases haddress : address = 0 <;> simp [h, haddress]
  · next h =>
    simp only [reduceCtorEq, false_iff, not_and]
    rintro - ⟨raw, hraw, -⟩
    exact h raw hraw

/-- The buffers with a capacity are the live ones. -/
theorem isSome_capacityOf?_iff : (capacityOf? past address).isSome ↔ Live past address := by
  rw [Option.isSome_iff_exists]
  constructor
  · rintro ⟨capacity, h⟩
    obtain ⟨hne, raw, hraw, -⟩ := capacityOf?_eq_some_iff.1 h
    exact ⟨hne, raw, hraw⟩
  · rintro ⟨hne, raw, hraw⟩
    exact ⟨_, capacityOf?_eq_some_iff.2 ⟨hne, raw, hraw, rfl⟩⟩

/-- A release is remembered itself, and ends what is remembered of the buffer whose latest release
has then `historyLength` releases behind it. -/
theorem numberOf?_release :
    numberOf? (.release raw :: past) address =
      if raw.address = address then some (.ofNat (releaseCount past + 1))
      else if releasesSince past address + 1 = historyLength then none
      else numberOf? past address := by
  have hpos : 0 < historyLength := by decide
  by_cases h : raw.address = address
  · simp [numberOf?, Entry.raw, Entry.isRelease, h, hpos]
  · simp only [numberOf?, latest?_cons, Entry.raw, h, if_false, releasesSince_cons, Entry.isRelease,
      if_true, releaseCount_cons, Nat.add_sub_add_right]
    split
    · by_cases hlast : releasesSince past address + 1 = historyLength
      · rw [if_pos hlast, if_neg (by omega)]
      · have hiff : releasesSince past address + 1 < historyLength ↔
            releasesSince past address < historyLength := by omega
        simp only [hiff, if_neg hlast]
    · rw [ite_self]

end

/-! ## The queue of releases -/

/-- A queue that is short enough stays as it is. -/
theorem trim_of_length_le {released : Book UInt64} {history : List (Nat × UInt64)}
    (h : history.length ≤ historyLength) : trim released history = (released, history) := by
  cases history with
  | nil => rfl
  | cons oldest rest =>
    rw [List.length_cons] at h
    rw [trim, if_neg (by omega)]

/-- A queue with one release too many loses its oldest one. -/
theorem trim_cons {released : Book UInt64} {address : Nat} {number : UInt64}
    {rest : List (Nat × UInt64)} (h : rest.length = historyLength) :
    trim released ((address, number) :: rest) =
      (if released[address]? = some number then released.erase address else released,
        rest) := by
  rw [trim, if_pos (by omega), trim_of_length_le (Nat.le_of_eq h)]

section
variable {past : List Entry}

/-- All releases are queued up to the length of the queue. -/
theorem length_queue (past : List Entry) :
    (queue past).length = min historyLength (releaseCount past) := by
  simp [queue, length_numbered]

/-- A buffer that was released lately is still queued. -/
theorem mem_queue {address : Nat} (h : ReleasedLately past address) :
    address ∈ (queue past).map (·.1) := by
  obtain ⟨⟨raw, hraw⟩, hlt⟩ := h
  have hget := getElem?_numbered hraw
  rw [← List.getElem?_take_of_lt hlt] at hget
  rw [queue, List.map_reverse, List.mem_reverse]
  exact List.mem_map.2 ⟨_, List.mem_of_getElem? hget, rfl⟩

/-- A queue with room left takes another release. -/
theorem queue_release_of_lt (raw : RawBuffer) (h : releaseCount past < historyLength) :
    queue (.release raw :: past) =
      queue past ++ [(raw.address, .ofNat (releaseCount past + 1))] := by
  have hlen := length_numbered past
  simp only [queue, numbered]
  rw [List.take_of_length_le (by rw [List.length_cons]; omega),
    List.take_of_length_le (by omega), List.reverse_cons]

/-- Another release drives the oldest one out of a full queue. -/
theorem queue_release_of_le (raw : RawBuffer) (h : historyLength ≤ releaseCount past) :
    ∃ oldest rest, (numbered past)[historyLength - 1]? = some oldest ∧
      queue past = oldest :: rest ∧
      queue (.release raw :: past) = rest ++ [(raw.address, .ofNat (releaseCount past + 1))] := by
  have hpos : 0 < historyLength := by decide
  have hsucc : historyLength - 1 + 1 = historyLength := by omega
  have hlt : historyLength - 1 < (numbered past).length := by rw [length_numbered]; omega
  obtain ⟨oldest, holdest⟩ : ∃ oldest, (numbered past)[historyLength - 1]? = some oldest :=
    ⟨_, List.getElem?_eq_getElem hlt⟩
  have htake : (numbered past).take historyLength =
      (numbered past).take (historyLength - 1) ++ [oldest] := by
    rw [← hsucc, List.take_add_one, Nat.add_sub_cancel, holdest]
    rfl
  refine ⟨oldest, ((numbered past).take (historyLength - 1)).reverse, holdest, ?_, ?_⟩
  · rw [queue, htake, List.reverse_append]
    rfl
  · rw [queue, numbered, ← hsucc, List.take_succ_cons, List.reverse_cons, Nat.add_sub_cancel]

/-- What is found after a note was struck out if it still was the given one. -/
theorem getElem?_ite_erase (book : Book UInt64) (address other : Nat) (number : UInt64) :
    (if book[address]? = some number then book.erase address else book)[other]? =
      if other = address ∧ book[other]? = some number then none else book[other]? := by
  by_cases h : other = address
  · subst h
    split <;> simp_all
  · split <;> simp [Std.ExtTreeMap.getElem?_erase, h, Ne.symm h]

/-- The next number is not the one that leaves a full queue. -/
theorem next_ne_oldest {oldest : Nat} {number : UInt64} (hfull : historyLength ≤ releaseCount past)
    (holdest : (numbered past)[historyLength - 1]? = some (oldest, number)) :
    UInt64.ofNat (releaseCount past + 1) ≠ number := by
  intro heq
  have hlen : historyLength = 1024 := rfl
  have hback : releaseCount past - (historyLength - 1) =
      releaseCount past + 1 - historyLength := by omega
  rw [number_of_getElem?_numbered holdest, hback, ← Nat.sub_zero (releaseCount past + 1)] at heq
  have hzero := eq_of_ofNat_eq (Nat.zero_le _) (by omega) (by decide) (by decide) heq
  omega

/-- With room in the queue, no remembered buffer is driven out. -/
theorem numberOf?_release_of_lt {address : Nat} (raw : RawBuffer)
    (hroom : releaseCount past < historyLength) :
    numberOf? (.release raw :: past) address =
      if raw.address = address then some (.ofNat (releaseCount past + 1))
      else numberOf? past address := by
  rw [numberOf?_release]
  congr 1
  split
  · next hlast =>
    -- A buffer with so many releases behind its own would have been released once too often.
    cases hnumber : numberOf? past address with
    | none => rfl
    | some number =>
      obtain ⟨⟨⟨other, hother⟩, -⟩, -⟩ := numberOf?_eq_some_iff.1 hnumber
      have hlt := releasesSince_lt hother
      omega
  · rfl

/-- From a full queue, the oldest release drives out its buffer exactly if that buffer's number is
still the one that leaves. -/
theorem numberOf?_release_of_oldest {address : Nat} (raw : RawBuffer) {oldest : Nat}
    {number : UInt64} (hfull : historyLength ≤ releaseCount past)
    (holdest : (numbered past)[historyLength - 1]? = some (oldest, number))
    (hne : raw.address ≠ address) :
    numberOf? (.release raw :: past) address =
      if address = oldest ∧ numberOf? past address = some number then none
      else numberOf? past address := by
  have hlen : historyLength = 1024 := rfl
  have hnumber := number_of_getElem?_numbered holdest
  rw [numberOf?_release, if_neg hne]
  cases hfind : numberOf? past address with
  | none => simp
  | some other =>
    obtain ⟨⟨⟨last, hlast⟩, hlt⟩, hother⟩ := numberOf?_eq_some_iff.1 hfind
    congr 1
    rw [Option.some.injEq, eq_iff_iff]
    constructor
    · intro hsince
      have hget := getElem?_numbered hlast
      rw [show releasesSince past address = historyLength - 1 by omega, holdest,
        Option.some.injEq, Prod.mk.injEq] at hget
      refine ⟨hget.1.symm, ?_⟩
      rw [hother, hget.2, show releasesSince past address = historyLength - 1 by omega]
    · rintro ⟨-, rfl⟩
      have hsince : releasesSince past address = historyLength - 1 :=
        eq_of_ofNat_eq (releasesSince_le past address) (by omega)
          (by simp only [UInt64.size]; omega) (by decide) (hother.symm.trans hnumber)
      omega

end

/-- What a ledger remembers of its releases is what its history says of them. -/
structure Remembers (ledger : Ledger) (past : List Entry) : Prop where
  released : ∀ address, ledger.released[address]? = numberOf? past address
  history : ledger.history = queue past
  sequence : ledger.sequence = .ofNat (releaseCount past)

namespace Remembers

variable {ledger : Ledger} {past : List Entry} {entry : Entry}

/-- A new ledger remembers nothing, and nothing has happened. -/
theorem new (side : Side) : Remembers (new side) [] := ⟨fun _ => rfl, rfl, rfl⟩

/-- An entry that is no release keeps the queue and the count. -/
theorem of_not_release (h : Remembers ledger past) (hentry : entry.isRelease = false)
    {after : Ledger} (hhistory : after.history = ledger.history)
    (hsequence : after.sequence = ledger.sequence)
    (hreleased : ∀ address, after.released[address]? =
      if entry.raw.address = address then none else ledger.released[address]?) :
    Remembers after (entry :: past) where
  released address := by
    rw [hreleased, numberOf?_cons_of_not_release hentry, h.released]
  history := by rw [hhistory, h.history, queue, queue, numbered_cons_of_not_release hentry]
  sequence := by rw [hsequence, h.sequence, releaseCount_cons, hentry]; rfl

/-- The next release gets the number that the history has for it. -/
theorem sequence_add_one (h : Remembers ledger past) :
    ledger.sequence + 1 = .ofNat (releaseCount past + 1) := by
  rw [h.sequence, UInt64.ofNat_add]
  rfl

/-- What is found once the next number is noted, before anything leaves the queue. -/
theorem getElem?_noted (h : Remembers ledger past) (raw : RawBuffer) (address : Nat) :
    (ledger.released.insert raw.address (ledger.sequence + 1))[address]? =
      if raw.address = address then some (.ofNat (releaseCount past + 1))
      else numberOf? past address := by
  rw [Std.ExtTreeMap.getElem?_insert, h.released, h.sequence_add_one]
  simp only [Std.compare_eq_iff_eq]

/-- A release for which there is room is remembered under the next number. -/
theorem remember_of_lt (h : Remembers ledger past) (raw : RawBuffer)
    (hroom : releaseCount past < historyLength) :
    Remembers (ledger.remember raw.address) (.release raw :: past) := by
  have hshort : (ledger.history ++ [(raw.address, ledger.sequence + 1)]).length ≤
      historyLength := by
    rw [h.history, List.length_append, length_queue, List.length_singleton]
    omega
  simp only [Ledger.remember, trim_of_length_le hshort]
  refine ⟨fun address => ?_, ?_, h.sequence_add_one.trans (by simp [Entry.isRelease])⟩
  · rw [h.getElem?_noted, numberOf?_release_of_lt raw hroom]
  · rw [h.history, h.sequence_add_one, queue_release_of_lt raw hroom]

/-- A release into a full queue is remembered under the next number, and what it drives out is
remembered no longer, unless it was out of date already. -/
theorem remember_of_le (h : Remembers ledger past) (raw : RawBuffer)
    (hfull : historyLength ≤ releaseCount past) :
    Remembers (ledger.remember raw.address) (.release raw :: past) := by
  obtain ⟨⟨oldest, number⟩, rest, holdest, hqueue, hqueue'⟩ := queue_release_of_le raw hfull
  have hrest : (rest ++ [(raw.address, ledger.sequence + 1)]).length = historyLength := by
    have hlen := length_queue past
    rw [hqueue, List.length_cons] at hlen
    rw [List.length_append, List.length_singleton]
    omega
  simp only [Ledger.remember, h.history, hqueue, List.cons_append, trim_cons hrest]
  refine ⟨fun address => ?_, ?_, h.sequence_add_one.trans (by simp [Entry.isRelease])⟩
  · rw [getElem?_ite_erase, h.getElem?_noted]
    by_cases hraw : raw.address = address
    · -- The new number is not the one that leaves, so the note just made stays.
      have hnew : some (UInt64.ofNat (releaseCount past + 1)) ≠ some number := fun heq =>
        next_ne_oldest hfull holdest (Option.some.inj heq)
      rw [numberOf?_release, if_pos hraw, if_pos hraw, if_neg fun hstruck => hnew hstruck.2]
    · rw [if_neg hraw, numberOf?_release_of_oldest raw hfull holdest hraw]
  · rw [h.sequence_add_one, hqueue']

/-- A release is remembered, whether there is room in the queue or not. -/
theorem remember (h : Remembers ledger past) (raw : RawBuffer) :
    Remembers (ledger.remember raw.address) (.release raw :: past) :=
  (Nat.lt_or_ge (releaseCount past) historyLength).elim (h.remember_of_lt raw)
    (h.remember_of_le raw)

end Remembers

end HostBridge.Ledger
