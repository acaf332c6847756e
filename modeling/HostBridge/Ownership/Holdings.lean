import HostBridge.Ownership.Buffer

/-!
# Holdings

Everything that came up at the boundary, under numbers that are never given out again: buffers in
the host's hands, buffers on the other side, copies in the host's own memory. A buffer keeps its
number when it goes across and comes back. Views of buffers are noted with the number of what they
show.

An action that names something of the wrong kind is refused and does nothing, so a buffer is taken
over by the host only when it is the VM's and nobody holds it, and is released once.
-/

namespace HostBridge

/-- Where something is that came up at the boundary. -/
inductive Holding where
  /-- A buffer in the host's hands. -/
  | held (buffer : Buffer)
  /-- A buffer on the other side. -/
  | away (buffer : Buffer)
  /-- A copy in the host's own memory. -/
  | copy (bytes : List UInt8)
  /-- It was released. -/
  | gone
  deriving DecidableEq

/-- The buffer that is held or away. -/
def Holding.buffer? : Holding → Option Buffer
  | .held buffer => some buffer
  | .away buffer => some buffer
  | .copy _ => none
  | .gone => none

/-- The bytes that are there to read, unless they were released. -/
def Holding.bytes? (boundary : Boundary) : Holding → Option (List UInt8)
  | .held buffer => some (buffer.contents boundary)
  | .away buffer => some (buffer.contents boundary)
  | .copy bytes => some bytes
  | .gone => none

/-- What came up at a boundary. -/
structure Holdings where
  boundary : Boundary
  /-- Everything there ever was, each at the place of its number. -/
  items : List Holding
  /-- The views that were taken, each behind the number of what it shows. -/
  views : List (Nat × RawBuffer)

namespace Holdings

/-- Nothing has come up yet. -/
def new (placement : Placement) : Holdings := ⟨.new placement, [], []⟩

/-- What stands under a number. A number that was not given out is like one that was released. -/
def item (holdings : Holdings) (number : Nat) : Holding := holdings.items[number]?.getD .gone

/-- The buffer under a number, as long as it is not released. -/
def buffer? (holdings : Holdings) (number : Nat) : Option Buffer := (holdings.item number).buffer?

/-- The bytes under a number, as long as they are not released. -/
def bytes? (holdings : Holdings) (number : Nat) : Option (List UInt8) :=
  (holdings.item number).bytes? holdings.boundary

/-- What is done with holdings. -/
inductive Action where
  | zeros (side : Side) (length : Nat)
  | ofBytes (side : Side) (bytes : List UInt8)
  | cloneInto (number : Nat) (side : Side)
  /-- Copies the bytes into the host's own memory. -/
  | copy (number : Nat)
  /-- Takes a view of a buffer, as an alias or as the raw buffer. -/
  | view (number : Nat)
  | write (number offset : Nat) (bytes : List UInt8)
  | intoRaw (number : Nat)
  /-- Takes over a buffer of the VM's. -/
  | adopt (number : Nat)
  /-- Takes over a null buffer, which may claim any length. -/
  | adoptNull (length capacity : Nat)
  | drop (number : Nat)
  /-- The VM puts bytes into a buffer of its own. -/
  | vmAllocate (bytes : List UInt8) (capacity : Nat)
  /-- A buffer on the other side is released there, or given back to the host. -/
  | release (number : Nat)
  deriving DecidableEq

/-- What becomes of an action. -/
inductive Outcome where
  /-- Something new came up under this number. -/
  | taken (number : Nat)
  | done
  /-- It cannot be done, and nothing has changed. -/
  | refused
  /-- An allocator raised a violation. -/
  | breach (violation : Violation)
  deriving DecidableEq

/-- Puts something under the next number. -/
def add (holdings : Holdings) (boundary : Boundary) (item : Holding) : Outcome × Holdings :=
  (.taken holdings.items.length,
    { holdings with boundary := boundary, items := holdings.items ++ [item] })

/-- Holds a new buffer, if it could be had. -/
def hold (holdings : Holdings) : Except EncodeError (Buffer × Boundary) → Outcome × Holdings
  | .ok (buffer, boundary) => holdings.add boundary (.held buffer)
  | .error _ => (.refused, holdings)

/-- Puts something in the place of what stands under a number. -/
def replace (holdings : Holdings) (number : Nat) (boundary : Boundary) (item : Holding) :
    Outcome × Holdings :=
  (.done, { holdings with boundary := boundary, items := holdings.items.set number item })

/-- Puts something in the place of what stands under a number, if the allocator had no objection. -/
def move (holdings : Holdings) (number : Nat) (item : Holding) :
    Except Violation Boundary → Outcome × Holdings
  | .ok boundary => holdings.replace number boundary item
  | .error violation => (.breach violation, holdings)

/-- Writes into what stands under a number, if the bytes do not run past its end. -/
def write (holdings : Holdings) (number offset : Nat) (bytes : List UInt8) :
    Holding → Outcome × Holdings
  | .held buffer =>
    match buffer.write holdings.boundary offset bytes with
    | some boundary => holdings.replace number boundary (.held buffer)
    | none => (.refused, holdings)
  | .copy before =>
    if offset + bytes.length ≤ before.length then
      let after := before.take offset ++ bytes ++ before.drop (offset + bytes.length)
      holdings.replace number holdings.boundary (.copy after)
    else (.refused, holdings)
  | _ => (.refused, holdings)

/-- Does something. -/
def perform (holdings : Holdings) (action : Action) : Outcome × Holdings :=
  let boundary := holdings.boundary
  match action with
  | .zeros side length => holdings.hold (Buffer.zeros boundary side length)
  | .ofBytes side bytes => holdings.hold (Buffer.ofBytes boundary side bytes)
  | .cloneInto number side =>
    match holdings.item number with
    | .held buffer => holdings.hold (buffer.cloneInto boundary side)
    | _ => (.refused, holdings)
  | .copy number =>
    match holdings.item number with
    | .held buffer => holdings.add boundary (.copy (buffer.contents boundary))
    | _ => (.refused, holdings)
  | .view number =>
    match holdings.item number with
    | .held buffer => (.done, { holdings with views := (number, buffer.raw) :: holdings.views })
    | _ => (.refused, holdings)
  | .write number offset bytes => holdings.write number offset bytes (holdings.item number)
  | .intoRaw number =>
    match holdings.item number with
    | .held buffer => holdings.move number (.away buffer) ((buffer.intoRaw boundary).map Prod.snd)
    | _ => (.refused, holdings)
  | .adopt number =>
    match holdings.item number with
    | .away ⟨.vm, raw⟩ =>
      let (buffer, after) := Buffer.adopt boundary raw
      holdings.replace number after (.held buffer)
    | _ => (.refused, holdings)
  | .adoptNull length capacity =>
    let (buffer, after) := Buffer.adopt boundary ⟨0, length, capacity⟩
    holdings.add after (.held buffer)
  | .drop number =>
    match holdings.item number with
    | .held buffer => holdings.move number .gone (buffer.drop boundary)
    | _ => (.refused, holdings)
  | .vmAllocate bytes capacity =>
    let (raw, after) := boundary.vmAllocateBlock bytes
    holdings.add after (.away ⟨.vm, { raw with capacity := capacity }⟩)
  | .release number =>
    match holdings.item number with
    | .away ⟨.vm, raw⟩ => holdings.replace number (boundary.vmDestroy raw) .gone
    | .away ⟨.host, raw⟩ => holdings.move number .gone (boundary.release .host raw)
    | _ => (.refused, holdings)

/-- An action with what became of it. -/
abbrev Event := Action × Outcome

/-- Does one thing more. The latest event comes first. -/
def step (past : List Event × Holdings) (action : Action) : List Event × Holdings :=
  let (outcome, after) := past.2.perform action
  ((action, outcome) :: past.1, after)

/-- Does one thing after the other, from the start. -/
def run (placement : Placement) (actions : List Action) : List Event × Holdings :=
  actions.foldl step ([], new placement)

end Holdings

end HostBridge
