import HostBridge.Toml.Text

/-!
# Numbers

Integers of 64 bits with a sign, in decimal or, without a sign, in hex, octal or binary; and
numbers with a fraction or an exponent. A single underscore may stand between two digits. No
setting has a fraction, so of such a number only the form and the range are checked.
-/

namespace HostBridge.Toml

open Scanner

/-- A digit of a base. -/
def digitOf (base : Nat) : Scanner Nat := do
  let digit ← hexDigit
  if digit < base then return digit else failure

/-- Digits of a base, with an underscore between two of them or none. -/
def digits (base : Nat) : Scanner (List Nat) := do
  let first ← digitOf base
  let rest ← many (do
    let _ ← maybe (char '_')
    digitOf base)
  return first :: rest

/-- The number that digits of a base spell. -/
def spelled (base : Nat) (digits : List Nat) : Nat :=
  digits.foldl (fun number digit => number * base + digit) 0

/-- A sign. The answer tells whether it is a minus. -/
def sign : Scanner Bool := (do char '+'; return false) <|> (do char '-'; return true)

/-- Decimal digits without a needless zero in front. -/
def decimalDigits : Scanner (List Nat) := fun
  | '0' :: rest => some ([0], rest)
  | text => digits 10 text

/-- An integer, if it has at most 64 bits. -/
def ranged (number : Int) : Scanner Int :=
  if Int64.minValue.toInt ≤ number ∧ number ≤ Int64.maxValue.toInt then return number else failure

/-- An integer in a base that a letter marks. -/
def markedInteger : Scanner Int := do
  let marked (letter : Char) (base : Nat) : Scanner Int := do
    word ['0', letter]
    ranged (spelled base (← digits base))
  marked 'x' 16 <|> marked 'o' 8 <|> marked 'b' 2

/-- A decimal integer. -/
def decimalInteger : Scanner Int := do
  let negative := (← maybe sign).getD false
  let number := spelled 10 (← decimalDigits)
  ranged (if negative then -(number : Int) else number)

/-- An integer. -/
def integer : Scanner Int := markedInteger <|> decimalInteger

/-- Whether `digits * 10 ^ exponent` lies beyond the greatest floating-point number of 64 bits, and
so far that it does not round to it. -/
def exceedsFloat (digits : Nat) (exponent : Int) : Bool :=
  let bound := (1 <<< 54 - 1) <<< 970
  let places := (Nat.toDigits 10 digits).length + exponent
  if digits = 0 ∨ places < 309 then false
  else if 310 < places then true
  else bound * Nat.pow 10 (-exponent).toNat ≤ digits * Nat.pow 10 exponent.toNat

/-- A fraction, from the point on. -/
def fraction : Scanner (List Nat) := do
  char '.'
  digits 10

/-- An exponent, from its letter on. -/
def exponent : Scanner Int := do
  char 'e' <|> char 'E'
  let negative := (← maybe sign).getD false
  let number := spelled 10 (← digits 10)
  return if negative then -(number : Int) else number

/-- A number with a fraction or an exponent. One that is too great is refused, one that is too
small is not. -/
def float : Scanner Unit := do
  let negative := (← maybe sign).getD false
  let whole ← decimalDigits
  let part ← maybe fraction
  let power ← maybe exponent
  if part.isNone ∧ power.isNone then failure
  let digits := whole ++ part.getD []
  let power := power.getD 0 - (part.getD []).length
  if !negative ∧ exceedsFloat (spelled 10 digits) power then failure

/-- Infinity, or what is no number. -/
def specialFloat : Scanner Unit := do
  let _ ← maybe sign
  word ['i', 'n', 'f'] <|> word ['n', 'a', 'n']

end HostBridge.Toml
