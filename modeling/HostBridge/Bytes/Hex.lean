/-!
# Hexadecimal text

Bytes as pairs of lower-case digits, and digits of either case read back.
-/

namespace HostBridge.Hex

/-- The two digits of a byte, high half first. -/
def digits (byte : UInt8) : List Char :=
  [(byte.toNat / 16).digitChar, (byte.toNat % 16).digitChar]

/-- Bytes as text, two digits a byte. -/
def encode (bytes : List UInt8) : String :=
  String.ofList (bytes.flatMap digits)

/-- The value of a digit that is given by its ASCII code. -/
def digit? (code : UInt8) : Option Nat :=
  if 0x30 ≤ code ∧ code ≤ 0x39 then some (code.toNat - 0x30)
  else if 0x41 ≤ code ∧ code ≤ 0x46 then some (code.toNat - 0x37)
  else if 0x61 ≤ code ∧ code ≤ 0x66 then some (code.toNat - 0x57)
  else none

@[simp] theorem length_digits (byte : UInt8) : (digits byte).length = 2 := rfl

/-- Every byte is written with two digits. -/
theorem length_encode (bytes : List UInt8) : (encode bytes).length = 2 * bytes.length := by
  induction bytes with
  | nil => rfl
  | cons byte rest ih =>
    simp only [encode, String.length_ofList, List.flatMap_cons, List.length_append,
      length_digits, List.length_cons] at ih ⊢
    omega

end HostBridge.Hex
