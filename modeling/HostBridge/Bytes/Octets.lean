import HostBridge.Bytes.Hex
import HostBridge.Text.Utf8
import HostBridge.Text.Quoted

/-!
# Byte strings of a fixed size

Addresses and state roots: byte strings whose type fixes their length. They are written as
lower-case hex and read from hex of either case, with or without a leading `0x`.
-/

namespace HostBridge

/-- A string of exactly `size` bytes. -/
structure Octets (size : Nat) where
  toList : List UInt8
  length_toList : toList.length = size
  deriving DecidableEq

/-- The address of an account, a template or an app. -/
abbrev Address := Octets 20

instance : LawfulBEq Address := inferInstance

/-- The root of an app's state. -/
abbrev StateRoot := Octets 32

namespace Octets

variable {size : Nat}

/-- The first `size` of `bytes`, with zeros in place of those that are missing. -/
def ofBytes (bytes : List UInt8) : Octets size where
  toList := bytes.take size ++ List.replicate (size - bytes.length) 0
  length_toList := by simp; omega

/-- All bytes zero. -/
def zero : Octets size where
  toList := List.replicate size 0
  length_toList := List.length_replicate

/-- Whether all bytes are zero. -/
def isZero (octets : Octets size) : Bool := octets.toList.all (· == 0)

/-- Byte by byte, the first difference decides. -/
instance : Ord (Octets size) where
  compare a b := compare a.toList b.toList

/-- The bytes of a string of the right length are kept as they are. -/
@[simp] theorem ofBytes_toList (octets : Octets size) : ofBytes octets.toList = octets := by
  obtain ⟨bytes, rfl⟩ := octets
  simp [ofBytes]

/-- Bytes of the right number are kept as they are. -/
theorem toList_ofBytes_of_length {bytes : List UInt8} (h : bytes.length = size) :
    (ofBytes bytes : Octets size).toList = bytes := by
  subst h
  simp [ofBytes]

/-- Why a text is not the hex of a byte string of the wanted size. -/
inductive HexError where
  /-- Digits come in pairs. -/
  | oddLength
  /-- The digits make another number of bytes. -/
  | wrongLength
  /-- The byte at this offset of the text is no digit. -/
  | badDigit (byte : UInt8) (position : Nat)
  deriving DecidableEq, Repr

/-- What is said about a text that is not hex. A byte is shown as the character of its code. -/
def HexError.message : HexError → String
  | .oddLength => "Odd number of digits"
  | .wrongLength => "Invalid string length"
  | .badDigit byte position =>
    "Invalid character " ++ Quoted.char (Char.ofNat byte.toNat) ++ " at position "
      ++ toString position

/-- The bytes that `codes` spell, two digits a byte. The first of them stands at `position` of the
text. -/
def ofDigits : Nat → List UInt8 → Except HexError (List UInt8)
  | position, high :: low :: rest =>
    match Hex.digit? high with
    | none => .error (.badDigit high position)
    | some h =>
      match Hex.digit? low with
      | none => .error (.badDigit low (position + 1))
      | some l => (ofDigits (position + 2) rest).map (UInt8.ofNat (h * 16 + l) :: ·)
  | _, _ => .ok []

/-- A text without the marker `0x` in front, if it has one. -/
def unmarked : List UInt8 → List UInt8
  | 0x30 :: 0x78 :: rest => rest
  | codes => codes

/-- The byte string that `codes` spell. An odd count of digits is found first, then a wrong count,
then the first byte that is no digit. -/
def ofCodes (size : Nat) (codes : List UInt8) : Except HexError (Octets size) :=
  if codes.length % 2 ≠ 0 then .error .oddLength
  else if codes.length ≠ 2 * size then .error .wrongLength
  else (ofDigits 0 codes).map ofBytes

/-- What hexadecimal text is written and read with. -/
structure HexLibrary where
  /-- Bytes as text. -/
  encode : List UInt8 → String
  /-- Text, given by its bytes, as a byte string of a known size. -/
  decode : (size : Nat) → List UInt8 → Except HexError (Octets size)

/-- Lower-case digits, two a byte, and digits of either case read back. -/
def HexLibrary.stock : HexLibrary where
  encode := Hex.encode
  decode := ofCodes

/-- A byte string as text. -/
def display (library : HexLibrary) (octets : Octets size) : String :=
  library.encode octets.toList

/-- The byte string of a text, with or without the marker `0x` in front. -/
def parse (library : HexLibrary) (text : String) : Except HexError (Octets size) :=
  library.decode size (unmarked (Utf8.encode text))

/-- Lower-case hex, two digits a byte. -/
def toHex (octets : Octets size) : String := display .stock octets

/-- The byte string of a hex text. -/
def ofHex? (text : String) : Except HexError (Octets size) := parse .stock text

end Octets

end HostBridge
