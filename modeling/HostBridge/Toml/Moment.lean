import HostBridge.Toml.Number

/-!
# Dates and times

A date, a time of day, or both, with or without an offset from universal time. No setting is one,
so only their form is checked, and that there is such a date.
-/

namespace HostBridge.Toml

open Scanner

/-- A number in exactly `count` decimal digits. -/
def fixedNumber (count : Nat) : Scanner Nat := do
  let found ← (List.replicate count ()).mapM fun _ => digitOf 10
  return spelled 10 found

/-- A number in two decimal digits, from `least` to `greatest`. -/
def twoDigits (least greatest : Nat) : Scanner Nat := do
  let number ← fixedNumber 2
  if least ≤ number ∧ number ≤ greatest then return number else failure

/-- The count of days in a month. -/
def daysIn (year month : Nat) : Nat :=
  let isLeap := year % 4 = 0 ∧ (year % 100 ≠ 0 ∨ year % 400 = 0)
  match month with
  | 2 => if isLeap then 29 else 28
  | 4 | 6 | 9 | 11 => 30
  | _ => 31

/-- A date. -/
def date : Scanner Unit := do
  let year ← fixedNumber 4
  char '-'
  let month ← twoDigits 1 12
  char '-'
  let _ ← twoDigits 1 (daysIn year month)

/-- A time of day. A minute may have a leap second. -/
def time : Scanner Unit := do
  let _ ← twoDigits 0 23
  char ':'
  let _ ← twoDigits 0 59
  char ':'
  let _ ← twoDigits 0 60
  let _ ← maybe (do
    char '.'
    let _ ← run1 Char.isDigit)

/-- An offset from universal time. -/
def timeOffset : Scanner Unit := do
  char 'Z' <|> char 'z' <|> do
    let _ ← sign
    let _ ← twoDigits 0 23
    char ':'
    let _ ← twoDigits 0 59

/-- A date, a time, or a date with a time. -/
def moment : Scanner Unit := do
  let dated : Scanner Unit := do
    date
    let _ ← maybe (do
      char 'T' <|> char 't' <|> char ' '
      time
      let _ ← maybe timeOffset)
  dated <|> time

end HostBridge.Toml
