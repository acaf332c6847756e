import HostBridge.Wire.Request

/-!
# Cursors

A reader that is moved in place. It keeps all its bytes and counts those that were read. A move that
fails does not undo itself: the cursor is left where the move had come to. So a move of several
steps has to go back before it gives up.
-/

namespace HostBridge

/-- Bytes under reading, those that were read included (`ByteReader`). -/
structure Cursor where
  buffer : List UInt8
  /-- How many of the bytes have been read. -/
  position : Nat
  deriving DecidableEq, Repr

namespace Cursor

open Reader (Found)

/-- A cursor in front of `bytes`. -/
def ofBytes (bytes : List UInt8) : Cursor := ⟨bytes, 0⟩

/-- How many bytes are left. -/
def remaining (cursor : Cursor) : Nat := cursor.buffer.length - cursor.position

/-- Whether any byte is left. -/
def hasMore (cursor : Cursor) : Bool := decide (cursor.position < cursor.buffer.length)

/-- A move: what it found, or why there is nothing to find, and in either case where it left the
cursor. -/
abbrev Move (α : Type) := ExceptT DecodeError (StateM Cursor) α

namespace Move

variable {α : Type}

/-- The next `count` bytes (`read_bytes`). -/
def bytes (count : Nat) : Move (List UInt8) := do
  let cursor ← get
  if cursor.remaining < count then
    throw (.unexpectedEof count cursor.remaining)
  else
    set { cursor with position := cursor.position + count }
    return (cursor.buffer.drop cursor.position).take count

/-- The next `width` bytes as a big-endian number (`read_be_uint`). -/
def nat (width : Nat) : Move Nat :=
  return BigEndian.ofBytes (← bytes width)

/-- A byte. -/
def u8 : Move UInt8 := return UInt8.ofNat (← nat 1)

/-- Two bytes as a big-endian number. -/
def u16 : Move UInt16 := return UInt16.ofNat (← nat 2)

/-- Four bytes as a big-endian number. -/
def u32 : Move UInt32 := return UInt32.ofNat (← nat 4)

/-- Eight bytes as a big-endian number. -/
def u64 : Move UInt64 := return UInt64.ofNat (← nat 8)

/-- The next `size` bytes as a byte string of that size. -/
def octets (size : Nat) : Move (Octets size) :=
  return Octets.ofBytes (← bytes size)

/-- The move, and back to where it started if it fails. -/
def orBack (move : Move α) : Move α := fun cursor =>
  match move cursor with
  | (.ok value, behind) => (.ok value, behind)
  | (.error error, behind) => (.error error, { behind with position := cursor.position })

/-- The text of bytes that were read. Text that is not UTF-8 is reported at the offset `start`. -/
def spelled (start : Nat) (bytes : List UInt8) : Move String :=
  match Utf8.decode? bytes with
  | some text => return text
  | none => throw (.invalidUtf8 start)

/-- A text behind its length in two bytes (`read_string`). It starts at the offset of its length. -/
def string : Move String := orBack do
  let start := (← get).position
  let length ← u16
  spelled start (← bytes length.toNat)

/-- Nothing, at the end of the bytes (`finish`). -/
def finish : Move Unit := do
  let cursor ← get
  if cursor.hasMore then throw (.trailingBytes cursor.position cursor.buffer.length)

/-- The move that serves a request. -/
def answer : Reader.Request → Move Found
  | .u8 => return .number (← u8).toNat
  | .u16 => return .number (← u16).toNat
  | .u32 => return .number (← u32).toNat
  | .u64 => return .number (← u64).toNat
  | .number width => return .number (← nat width)
  | .bytes count => return .bytes (← bytes count)
  | .octets size => return .bytes (← octets size).toList
  | .string => return .text (← string)
  | .finish => do finish; return .nothing

end Move

/-- Serves one request. -/
def serve (cursor : Cursor) (request : Reader.Request) : Except DecodeError Found × Cursor :=
  Id.run ((Move.answer request).run.run cursor)

/-- Serves the requests in turn, whatever has failed before. Beside each answer stands the cursor
behind it. -/
def serveAll (cursor : Cursor) : List Reader.Request → List (Except DecodeError Found × Cursor)
  | [] => []
  | request :: requests =>
    let served := cursor.serve request
    served :: served.2.serveAll requests

end Cursor

end HostBridge
