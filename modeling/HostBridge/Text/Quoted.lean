import HostBridge.Text.Unicode

/-!
# Quoted text

A text or a character between quotes, with escapes for whatever would not show or would end the
quotation. A text stands between double quotes and a character between single ones, and each
escapes only its own quote.
-/

namespace HostBridge.Quoted

/-- The escape that names a character by its code point, in lower-case hex. -/
def byCode (c : Char) : List Char :=
  '\x5c' :: 'u' :: '\x7b' :: Nat.toDigits 16 c.toNat ++ ['\x7d']

/-- A character as it is written between two `quote`s. -/
def escape (quote c : Char) : List Char :=
  if c = '\x00' then ['\x5c', '0']
  else if c = '\t' then ['\x5c', 't']
  else if c = '\r' then ['\x5c', 'r']
  else if c = '\n' then ['\x5c', 'n']
  else if c = '\x5c' ∨ c = quote then ['\x5c', c]
  else if Unicode.extendsGrapheme c || !Unicode.isVisible c then byCode c
  else [c]

/-- A text between double quotes. -/
def string (text : String) : String :=
  String.ofList ('\x22' :: text.toList.flatMap (escape '\x22') ++ ['\x22'])

/-- A character between single quotes. -/
def char (c : Char) : String :=
  String.ofList ('\x27' :: escape '\x27' c ++ ['\x27'])

end HostBridge.Quoted
