/-!
# UTF-8

Text as bytes and bytes read as text. `pieces` cuts any byte string into the characters it spells
and the stretches that spell none: each longest stretch that could still have become a character
is one ill-formed piece. Strict reading refuses ill-formed pieces, lossy reading writes U+FFFD for
each.
-/

namespace HostBridge.Utf8

/-- The bytes of a text. -/
def encode (text : String) : List UInt8 :=
  text.toList.flatMap String.utf8EncodeChar

/-- Where a reader stands between two bytes. -/
inductive Progress where
  /-- Between characters. -/
  | between
  /-- Inside a character that still lacks `more + 1` bytes, the next of them from `low` to `high`;
  `bits` are the bits of it read so far. -/
  | inside (more : Nat) (low high : UInt8) (bits : Nat)

/-- A reading under way: the pieces found so far, latest first. An ill-formed piece is `none`. -/
structure Scan where
  found : List (Option Char)
  progress : Progress

namespace Scan

/-- Reads a byte that starts a character. The bytes C0, C1 and those above F4 start none, and the
second byte is bounded so that no character has two spellings and no surrogate has one. -/
def first (found : List (Option Char)) (byte : UInt8) : Scan :=
  if byte < 0x80 then ⟨some (Char.ofNat byte.toNat) :: found, .between⟩
  else if byte < 0xC2 then ⟨none :: found, .between⟩
  else if byte < 0xE0 then ⟨found, .inside 0 0x80 0xBF (byte.toNat - 0xC0)⟩
  else if byte < 0xF0 then
    let low := if byte = 0xE0 then 0xA0 else 0x80
    let high := if byte = 0xED then 0x9F else 0xBF
    ⟨found, .inside 1 low high (byte.toNat - 0xE0)⟩
  else if byte < 0xF5 then
    let low := if byte = 0xF0 then 0x90 else 0x80
    let high := if byte = 0xF4 then 0x8F else 0xBF
    ⟨found, .inside 2 low high (byte.toNat - 0xF0)⟩
  else ⟨none :: found, .between⟩

/-- Reads one byte. A byte that cannot continue the character under way ends it as an ill-formed
piece and starts the next one. -/
def step (scan : Scan) (byte : UInt8) : Scan :=
  match scan.progress with
  | .between => first scan.found byte
  | .inside more low high bits =>
    if low ≤ byte ∧ byte ≤ high then
      let bits := bits * 64 + (byte.toNat - 0x80)
      match more with
      | 0 => ⟨some (Char.ofNat bits) :: scan.found, .between⟩
      | more + 1 => ⟨scan.found, .inside more 0x80 0xBF bits⟩
    else first (none :: scan.found) byte

/-- The pieces of a reading that has come to its end. -/
def finish (scan : Scan) : List (Option Char) :=
  match scan.progress with
  | .between => scan.found.reverse
  | .inside .. => (none :: scan.found).reverse

end Scan

/-- The characters and ill-formed stretches (`none`) of a byte string, in order. -/
def pieces (bytes : List UInt8) : List (Option Char) :=
  (bytes.foldl Scan.step ⟨[], .between⟩).finish

/-- The text that `bytes` spell, if all of them are well formed. -/
def decode? (bytes : List UInt8) : Option String :=
  let found := pieces bytes
  if found.all Option.isSome then some (String.ofList (found.filterMap id)) else none

/-- The text that `bytes` spell, with U+FFFD in place of each ill-formed piece. -/
def decodeLossy (bytes : List UInt8) : String :=
  String.ofList ((pieces bytes).map (·.getD '\uFFFD'))

end HostBridge.Utf8
