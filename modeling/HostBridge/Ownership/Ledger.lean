import HostBridge.Ownership.Book
import HostBridge.Ownership.Raw

/-!
# Ledgers

The ledger of one allocator: which buffers it must still release, and which it released lately. A
release that is not due is told apart as a double free or as a foreign buffer; older double frees
are still caught, but only as foreign buffers.

Releases are numbered. `released` has the number of the latest release of each buffer, and
`history` queues all recent releases. A queued release whose number is no longer the buffer's own
is out of date: the buffer was released again since, or handed out again. Leaving the queue, it
takes nothing out of `released`.
-/

namespace HostBridge

/-- The ledger of one allocator. -/
structure Ledger where
  /-- The side whose allocator this is. -/
  side : Side
  /-- The live buffers, each with its capacity. -/
  live : Book Nat
  /-- The buffers released lately, each with the number of its latest release. -/
  released : Book UInt64
  /-- The latest releases with their numbers, oldest first. -/
  history : List (Nat × UInt64)
  /-- The number of the latest release. -/
  sequence : UInt64
  deriving DecidableEq, Repr

namespace Ledger

/-- How many releases are remembered. -/
def historyLength : Nat := 1024

/-- The ledger of an allocator that has handed out nothing yet. -/
def new (side : Side) : Ledger := ⟨side, ∅, ∅, [], 0⟩

/-- The capacity of the live buffer at an address. -/
def capacity? (ledger : Ledger) (address : Nat) : Option Nat := ledger.live[address]?

/-- Enters a buffer that the allocator now owes a release (`track`). The null buffer is never
entered. -/
def track (ledger : Ledger) (raw : RawBuffer) : Ledger :=
  if raw.isNull then ledger
  else
    { ledger with
      released := ledger.released.erase raw.address
      live := ledger.live.insert raw.address raw.capacity }

/-- Strikes a buffer out of the live ones, and tells the capacity that it was entered with. -/
def strikeLive (ledger : Ledger) (address : Nat) : Option Nat × Ledger :=
  (ledger.capacity? address, { ledger with live := ledger.live.erase address })

/-- Strikes out a buffer that the other side will release (`forget`). -/
def forget (ledger : Ledger) (raw : RawBuffer) : Except Violation Unit × Ledger :=
  if raw.isNull then (.ok (), ledger)
  else
    match ledger.strikeLive raw.address with
    | (some _, after) => (.ok (), after)
    | (none, after) => (.error (.notAllocated raw.address ledger.side), after)

/-- Takes the oldest releases out of the queue until it is short enough. -/
def trim (released : Book UInt64) : List (Nat × UInt64) → Book UInt64 × List (Nat × UInt64)
  | [] => (released, [])
  | (address, number) :: rest =>
    if historyLength < rest.length + 1 then
      trim (if released[address]? = some number then released.erase address else released)
        rest
    else (released, (address, number) :: rest)

/-- Remembers a release (`remember_release`). -/
def remember (ledger : Ledger) (address : Nat) : Ledger :=
  let number := ledger.sequence + 1
  let (released, history) :=
    trim (ledger.released.insert address number) (ledger.history ++ [(address, number)])
  { ledger with released, history, sequence := number }

/-- Enters a release and tells the capacity that the buffer was entered with (`release`). -/
def release (ledger : Ledger) (raw : RawBuffer) : Except Violation Nat × Ledger :=
  match ledger.strikeLive raw.address with
  | (some capacity, after) => (.ok capacity, after.remember raw.address)
  | (none, after) =>
    if after.released[raw.address]?.isSome then
      (.error (.doubleFree raw.address ledger.side), after)
    else (.error (.notAllocated raw.address ledger.side), after)

/-- How many buffers are live (`live`). -/
def liveCount (ledger : Ledger) : Nat := ledger.live.size

/-- How many released buffers are remembered (`remembered_releases`). -/
def rememberedCount (ledger : Ledger) : Nat := ledger.released.size

/-! ## Runs -/

/-- What an allocator enters into its ledger. -/
inductive Entry where
  | track (raw : RawBuffer)
  | forget (raw : RawBuffer)
  | release (raw : RawBuffer)
  deriving DecidableEq, Repr

/-- Makes an entry. A release answers with a capacity. -/
def enter (ledger : Ledger) : Entry → Except Violation (Option Nat) × Ledger
  | .track raw => (.ok none, ledger.track raw)
  | .forget raw =>
    let (answer, after) := ledger.forget raw
    (answer.map fun _ => none, after)
  | .release raw =>
    let (answer, after) := ledger.release raw
    (answer.map some, after)

/-- The ledger after a series of entries. -/
def run (ledger : Ledger) (entries : List Entry) : Ledger :=
  entries.foldl (fun ledger entry => (ledger.enter entry).2) ledger

/-- The entries by which `count` buffers, `stride` apart, are handed out and released in turn. -/
def churn (address count stride : Nat) : List Entry :=
  (List.range count).flatMap fun index =>
    let raw : RawBuffer := ⟨address + index * stride, 1, 1⟩
    [.track raw, .release raw]

/-- Makes entries up to the first that is refused. -/
def enterAll (ledger : Ledger) : List Entry → Except Violation Unit × Ledger
  | [] => (.ok (), ledger)
  | entry :: entries =>
    match ledger.enter entry with
    | (.ok _, after) => after.enterAll entries
    | (.error violation, after) => (.error violation, after)

@[simp] theorem run_nil (ledger : Ledger) : ledger.run [] = ledger := rfl

@[simp] theorem run_append (ledger : Ledger) (front back : List Entry) :
    ledger.run (front ++ back) = (ledger.run front).run back := by
  simp [run]

/-! ## Refusals -/

/-- Striking out a buffer that is not live changes nothing. -/
theorem strikeLive_of_none {ledger : Ledger} {address : Nat}
    (h : ledger.capacity? address = none) : ledger.strikeLive address = (none, ledger) := by
  have herase : ledger.live.erase address = ledger.live := Book.erase_of_getElem?_eq_none h
  rw [strikeLive, h, herase]

/-- The null buffer is forgotten without a look into the ledger. -/
theorem forget_of_isNull {ledger : Ledger} {raw : RawBuffer} (hraw : raw.isNull = true) :
    ledger.forget raw = (.ok (), ledger) := by
  simp [forget, hraw]

/-- A buffer that is not live is not forgotten, and nothing has changed. -/
theorem forget_of_none {ledger : Ledger} {raw : RawBuffer} (hraw : raw.isNull = false)
    (h : ledger.capacity? raw.address = none) :
    ledger.forget raw = (.error (.notAllocated raw.address ledger.side), ledger) := by
  simp [forget, hraw, strikeLive_of_none h]

/-- A live buffer that is forgotten is struck out, and not remembered as released. -/
theorem forget_of_some {ledger : Ledger} {raw : RawBuffer} {capacity : Nat}
    (hraw : raw.isNull = false) (h : ledger.capacity? raw.address = some capacity) :
    ledger.forget raw = (.ok (), { ledger with live := ledger.live.erase raw.address }) := by
  simp [forget, hraw, strikeLive, h]

/-- A buffer that is not live is not released, and nothing has changed. -/
theorem release_of_none {ledger : Ledger} {raw : RawBuffer}
    (h : ledger.capacity? raw.address = none) :
    ledger.release raw =
      (.error (if ledger.released[raw.address]?.isSome then
        .doubleFree raw.address ledger.side else .notAllocated raw.address ledger.side), ledger) :=
  by
  simp only [release, strikeLive_of_none h]
  split <;> simp_all

/-- A live buffer that is released is struck out and remembered, and its capacity is told. -/
theorem release_of_some {ledger : Ledger} {raw : RawBuffer} {capacity : Nat}
    (h : ledger.capacity? raw.address = some capacity) :
    ledger.release raw =
      (.ok capacity,
        { ledger with live := ledger.live.erase raw.address }.remember raw.address) := by
  simp [release, strikeLive, h]

/-- An entry that is refused leaves the ledger as it is. -/
theorem enter_of_error {ledger : Ledger} {entry : Entry} {violation : Violation}
    (h : (ledger.enter entry).1 = .error violation) : (ledger.enter entry).2 = ledger := by
  cases entry with
  | track raw => simp [enter] at h
  | forget raw =>
    cases hraw : raw.isNull with
    | true => simp [enter, forget_of_isNull hraw, Except.map] at h
    | false =>
      cases hfind : ledger.capacity? raw.address with
      | some capacity => simp [enter, forget_of_some hraw hfind, Except.map] at h
      | none => simp [enter, forget_of_none hraw hfind]
  | release raw =>
    cases hfind : ledger.capacity? raw.address with
    | some capacity => simp [enter, release_of_some hfind, Except.map] at h
    | none => simp [enter, release_of_none hfind]

end Ledger

end HostBridge
