import HostBridge.Wire.Reader

/-!
# Requests to a reader

A reader that serves one request after another and goes on behind those that fail. `serve` leaves
the reader where it was when a request fails.
-/

namespace HostBridge

namespace Reader

/-- What can be asked of a reader. -/
inductive Request where
  | u8 | u16 | u32 | u64
  /-- A big-endian number of this many bytes. -/
  | number (width : Nat)
  /-- This many bytes. -/
  | bytes (count : Nat)
  /-- A byte string of this fixed size. -/
  | octets (size : Nat)
  /-- A text behind its length. -/
  | string
  /-- The end of the bytes. -/
  | finish
  deriving DecidableEq, Repr

/-- What a reader hands back. -/
inductive Found where
  | number (value : Nat)
  | bytes (bytes : List UInt8)
  | text (text : String)
  | nothing
  deriving DecidableEq, Repr

/-- The read that serves a request. -/
def Request.read : Request → Read Found
  | .u8 => return .number (← Read.u8).toNat
  | .u16 => return .number (← Read.u16).toNat
  | .u32 => return .number (← Read.u32).toNat
  | .u64 => return .number (← Read.u64).toNat
  | .number width => return .number (← Read.nat width)
  | .bytes count => return .bytes (← Read.bytes count)
  | .octets size => return .bytes (← Read.octets size).toList
  | .string => return .text (← Read.string)
  | .finish => do Read.finish; return .nothing

/-- Serves one request. -/
def serve (reader : Reader) (request : Request) : Except DecodeError Found × Reader :=
  match request.read reader with
  | .ok (found, behind) => (.ok found, behind)
  | .error err => (.error err, reader)

/-- Serves the requests in turn. Beside each answer stands the reader behind it. -/
def serveAll (reader : Reader) : List Request → List (Except DecodeError Found × Reader)
  | [] => []
  | request :: requests =>
    let served := reader.serve request
    served :: served.2.serveAll requests

end Reader

end HostBridge
