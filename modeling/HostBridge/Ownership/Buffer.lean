import HostBridge.Ownership.Boundary

/-!
# Owned buffers

A raw buffer together with the side whose allocator must release it. Whoever holds one releases it
exactly once, by dropping it, or hands it across the boundary.
-/

namespace HostBridge

/-- A buffer and the side whose allocator must release it (`ForeignBuffer`). -/
structure Buffer where
  side : Side
  raw : RawBuffer
  deriving DecidableEq, Repr

namespace Buffer

/-- A buffer of zeros (`allocate_in`). Its length is checked before anything is allocated. -/
def zeros (boundary : Boundary) (side : Side) (length : Nat) :
    Except EncodeError (Buffer × Boundary) := do
  let length ← RawBuffer.checkedLength length
  let (raw, after) := boundary.provide side (List.replicate length 0)
  return (⟨side, raw⟩, after)

/-- A buffer that holds a copy of `bytes` (`clone_from_slice`). -/
def ofBytes (boundary : Boundary) (side : Side) (bytes : List UInt8) :
    Except EncodeError (Buffer × Boundary) := do
  let _ ← RawBuffer.checkedLength bytes.length
  let (raw, after) := boundary.provide side bytes
  return (⟨side, raw⟩, after)

/-- Takes over a buffer that the VM handed out (`adopt`). -/
def adopt (boundary : Boundary) (raw : RawBuffer) : Buffer × Boundary :=
  (⟨.vm, raw⟩, boundary.adopt raw)

/-- The bytes of a buffer (`as_slice`). -/
def contents (buffer : Buffer) (boundary : Boundary) : List UInt8 :=
  boundary.contents buffer.raw

/-- A deep copy on a side (`clone_into`). -/
def cloneInto (buffer : Buffer) (boundary : Boundary) (side : Side) :
    Except EncodeError (Buffer × Boundary) :=
  ofBytes boundary side (buffer.contents boundary)

/-- Overwrites bytes, if they do not run past the end (`write`). -/
def write (buffer : Buffer) (boundary : Boundary) (offset : Nat) (bytes : List UInt8) :
    Option Boundary :=
  boundary.overwrite buffer.raw offset bytes

/-- Hands the buffer across the boundary without releasing it (`into_raw`). -/
def intoRaw (buffer : Buffer) (boundary : Boundary) : Except Violation (RawBuffer × Boundary) :=
  do return (buffer.raw, ← boundary.relinquish buffer.side buffer.raw)

/-- Releases the buffer (`drop`). -/
def drop (buffer : Buffer) (boundary : Boundary) : Except Violation Boundary :=
  boundary.release buffer.side buffer.raw

/-- A buffer as listings show it. -/
def label (buffer : Buffer) : String :=
  "ForeignBuffer \x7b provenance: " ++ buffer.side.label ++ ", length: "
    ++ toString buffer.raw.length ++ " \x7d"

/-- A buffer of bytes that are not too long can be had, and its side provides it. -/
theorem ofBytes_of_le {bytes : List UInt8} (h : bytes.length ≤ RawBuffer.maxLength)
    (boundary : Boundary) (side : Side) :
    ofBytes boundary side bytes =
      .ok (⟨side, (boundary.provide side bytes).1⟩, (boundary.provide side bytes).2) := by
  simp only [ofBytes, RawBuffer.checkedLength, if_pos h]
  rfl

/-- Bytes that are too long are refused, with their length and the greatest one. -/
theorem ofBytes_of_lt {bytes : List UInt8} (h : RawBuffer.maxLength < bytes.length)
    (boundary : Boundary) (side : Side) :
    ofBytes boundary side bytes = .error (.bytesTooLong bytes.length RawBuffer.maxLength) := by
  simp only [ofBytes, RawBuffer.checkedLength, if_neg (Nat.not_le.2 h)]
  rfl

/-- A buffer of bytes that could be had was provided by its side. -/
theorem ofBytes_eq_ok {boundary after : Boundary} {side : Side} {bytes : List UInt8}
    {buffer : Buffer} (h : ofBytes boundary side bytes = .ok (buffer, after)) :
    buffer = ⟨side, (boundary.provide side bytes).1⟩ ∧ after = (boundary.provide side bytes).2 := by
  rcases Nat.lt_or_ge RawBuffer.maxLength bytes.length with hlt | hle
  · cases (ofBytes_of_lt hlt boundary side).symm.trans h
  · cases (ofBytes_of_le hle boundary side).symm.trans h
    exact ⟨rfl, rfl⟩

/-- A buffer of zeros is one that holds a copy of zeros. -/
theorem zeros_eq (boundary : Boundary) (side : Side) (length : Nat) :
    zeros boundary side length = ofBytes boundary side (List.replicate length 0) := by
  unfold zeros ofBytes RawBuffer.checkedLength
  rw [List.length_replicate]
  split <;> rfl

end Buffer

end HostBridge
