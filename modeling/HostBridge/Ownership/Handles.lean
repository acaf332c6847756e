import HostBridge.Ownership.Buffer

/-!
# Handles

A table of buffers, raw buffers and views under the numbers in which they came up, and commands on
them. A handle that was dropped stays in the table as `gone`, also if its release was refused, and
may be dropped again; any other command on a handle of the wrong kind is refused and does nothing.
-/

namespace HostBridge

/-- What a handle stands for. -/
inductive Handle where
  | owned (buffer : Buffer)
  /-- A raw buffer; nobody answers for it. -/
  | raw (raw : RawBuffer)
  /-- A view that reads through to a buffer's memory. -/
  | view (raw : RawBuffer)
  | gone
  deriving DecidableEq, Repr

/-- A table of handles at the boundary. -/
structure Handles where
  boundary : Boundary
  table : List Handle

namespace Handles

/-- A command on the table. -/
inductive Command where
  | zeros (side : Side) (length : Nat)
  | ofBytes (side : Side) (bytes : List UInt8)
  | cloneInto (handle : Nat) (side : Side)
  /-- The VM allocates zeros without telling the host. -/
  | vmAllocate (length : Nat)
  /-- A raw buffer without a block that claims a length. -/
  | nullRaw (length : Nat)
  | adopt (handle : Nat)
  /-- The raw buffer of an owned one, which stays owned. -/
  | lend (handle : Nat)
  | view (handle : Nat)
  | intoRaw (handle : Nat)
  | drop (handle : Nat)
  | write (handle offset : Nat) (bytes : List UInt8)
  | read (handle : Nat)
  | look (handle index : Nat)
  | release (handle : Nat) (side : Side)
  | relinquish (handle : Nat) (side : Side)
  | vmDestroy (handle : Nat)
  /-- The VM hands a host buffer back. -/
  | hostDestroy (handle : Nat)
  /-- The VM's allocator as listings show it. -/
  | describeVm
  deriving DecidableEq, Repr

/-- What a command answers. -/
inductive Answer where
  | done
  /-- The number of a new handle. -/
  | handle (index : Nat)
  | owned (buffer : Buffer) (contents : List UInt8)
  | raw (raw : RawBuffer) (contents : List UInt8)
  /-- A view, its bytes in one piece, and the same bytes seen one by one. -/
  | view (raw : RawBuffer) (contents seen : List UInt8)
  | sight (sight : Boundary.Sight)
  | text (text : String)
  deriving DecidableEq, Repr

/-- Why a command was refused. -/
inductive Refusal where
  | wrongHandle
  | outOfRange
  | tooLong (error : EncodeError)
  | violation (violation : Violation)
  deriving DecidableEq, Repr

/-- An empty table. -/
def new : Handles := ⟨.new .ascending, []⟩

/-- What stands under a number. -/
def at? (handles : Handles) (index : Nat) : Handle := (handles.table[index]?).getD .gone

/-- Puts something under a number that is taken. -/
def set (handles : Handles) (index : Nat) (handle : Handle) : Handles :=
  { handles with table := handles.table.set index handle }

/-- Puts something under the next number. -/
def add (handles : Handles) (boundary : Boundary) (handle : Handle) :
    Except Refusal Answer × Handles :=
  (.ok (.handle handles.table.length), ⟨boundary, handles.table ++ [handle]⟩)

/-- Puts a new buffer under the next number, if it could be had. -/
def addBuffer (handles : Handles) :
    Except EncodeError (Buffer × Boundary) → Except Refusal Answer × Handles
  | .ok (buffer, boundary) => handles.add boundary (.owned buffer)
  | .error error => (.error (.tooLong error), handles)

/-- Goes on with another boundary, if the contract was kept. -/
def cross (handles : Handles) : Except Violation Boundary → Except Refusal Answer × Handles
  | .ok boundary => (.ok .done, { handles with boundary := boundary })
  | .error violation => (.error (.violation violation), handles)

/-- Drops what stands under a number. That nothing is left there is no mistake, but a number that
was never given out is. -/
def dropAt (handles : Handles) (index : Nat) : Except Refusal Answer × Handles :=
  match handles.table[index]? with
  | none => (.error .wrongHandle, handles)
  | some (.owned buffer) => (handles.set index .gone).cross (buffer.drop handles.boundary)
  | some _ => (.ok .done, handles.set index .gone)

/-- Carries out a command. -/
def perform (handles : Handles) (command : Command) : Except Refusal Answer × Handles :=
  let boundary := handles.boundary
  match command with
  | .zeros side length => handles.addBuffer (Buffer.zeros boundary side length)
  | .ofBytes side bytes => handles.addBuffer (Buffer.ofBytes boundary side bytes)
  | .vmAllocate length =>
    let (raw, after) := boundary.vmAllocate (List.replicate length 0)
    handles.add after (.raw raw)
  | .nullRaw length => handles.add boundary (.raw ⟨0, length, 0⟩)
  | .drop index => handles.dropAt index
  | .describeVm =>
    (.ok (.text ("ExternAllocator \x7b live: " ++ toString boundary.vm.liveCount ++ " \x7d vm")),
      handles)
  | .cloneInto index side =>
    match handles.at? index with
    | .owned buffer => handles.addBuffer (buffer.cloneInto boundary side)
    | _ => (.error .wrongHandle, handles)
  | .adopt index =>
    match handles.at? index with
    | .raw raw =>
      let (buffer, after) := Buffer.adopt boundary raw
      handles.add after (.owned buffer)
    | _ => (.error .wrongHandle, handles)
  | .lend index =>
    match handles.at? index with
    | .owned buffer => handles.add boundary (.raw buffer.raw)
    | _ => (.error .wrongHandle, handles)
  | .view index =>
    match handles.at? index with
    | .owned buffer => handles.add boundary (.view buffer.raw)
    | _ => (.error .wrongHandle, handles)
  | .intoRaw index =>
    match handles.at? index with
    | .owned buffer =>
      match buffer.intoRaw boundary with
      | .ok (raw, after) =>
        (.ok .done, { handles with boundary := after }.set index (.raw raw))
      | .error violation => (.error (.violation violation), handles)
    | _ => (.error .wrongHandle, handles)
  | .write index offset bytes =>
    match handles.at? index with
    | .owned buffer =>
      match buffer.write boundary offset bytes with
      | some after => (.ok .done, { handles with boundary := after })
      | none => (.error .outOfRange, handles)
    | _ => (.error .wrongHandle, handles)
  | .read index =>
    match handles.at? index with
    | .owned buffer => (.ok (.owned buffer (buffer.contents boundary)), handles)
    | .raw raw => (.ok (.raw raw (boundary.contents raw)), handles)
    | .view raw => (.ok (.view raw (boundary.contents raw) (boundary.lookAll raw)), handles)
    | .gone => (.error .wrongHandle, handles)
  | .look index place =>
    match handles.at? index with
    | .owned buffer => (.ok (.sight (boundary.look buffer.raw place)), handles)
    | .view raw => (.ok (.sight (boundary.look raw place)), handles)
    | _ => (.error .wrongHandle, handles)
  | .release index side =>
    match handles.at? index with
    | .raw raw => handles.cross (boundary.release side raw)
    | _ => (.error .wrongHandle, handles)
  | .relinquish index side =>
    match handles.at? index with
    | .raw raw => handles.cross (boundary.relinquish side raw)
    | _ => (.error .wrongHandle, handles)
  | .vmDestroy index =>
    match handles.at? index with
    | .raw raw => handles.cross (.ok (boundary.vmDestroy raw))
    | _ => (.error .wrongHandle, handles)
  | .hostDestroy index =>
    match handles.at? index with
    | .raw raw => handles.cross (boundary.release .host raw)
    | _ => (.error .wrongHandle, handles)

/-- Carries out commands in turn. Beside each answer stands the boundary behind it. -/
def performAll (handles : Handles) :
    List Command → List (Except Refusal Answer × Boundary) × Handles
  | [] => ([], handles)
  | command :: commands =>
    let (answer, after) := handles.perform command
    let (answers, last) := after.performAll commands
    ((answer, after.boundary) :: answers, last)

/-- Drops the buffers that are still held, in the order of their numbers. The violations are those
of the drops that were refused. -/
def close (handles : Handles) : List Violation × Boundary :=
  handles.table.foldl (fun (violations, boundary) handle =>
    match handle with
    | .owned buffer =>
      match buffer.drop boundary with
      | .ok after => (violations, after)
      | .error violation => (violations ++ [violation], boundary)
    | _ => (violations, boundary)) ([], handles.boundary)

end Handles

end HostBridge
