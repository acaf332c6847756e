import HostBridge.Toml.Moment
import HostBridge.Toml.Table

/-!
# Values

The values of a document as they are written. Arrays may run over lines and hold values of any
kind; an inline table stands on one line and grows by the same rules as the others.
-/

namespace HostBridge.Toml

open Scanner

/-- A truth value. -/
def boolean : Scanner Bool :=
  (do word ['t', 'r', 'u', 'e']; return true) <|> (do word ['f', 'a', 'l', 's', 'e']; return false)

/-- A value that holds no others. -/
def scalar : Scanner Value :=
  (.string <$> string) <|> (.boolean <$> boolean) <|> (do moment; return .other)
    <|> (do float; return .other) <|> (do specialFloat; return .other) <|> (.integer <$> integer)

/-- An array of items. A comma may follow the last. -/
def array (item : Scanner Value) : Scanner Value := do
  char '['
  let items ← separated (char ',') (do
    gap
    let _ ← item
    gap)
  if !items.isEmpty then
    let _ ← maybe (char ',')
  gap
  char ']'
  return .other

/-- A key and its value. -/
def pair (value : Scanner Value) : Scanner (List String × Value) := do
  let keys ← path
  char '='
  blanks
  return (keys, ← value)

/-- Puts a value under a path of keys. -/
def Entries.assignPath? (keys : List String) (value : Value) (entries : Entries) :
    Option Entries := do
  assign? keys.dropLast (← keys.getLast?) value entries

/-- A table on one line. -/
def inlineTable (item : Scanner Value) : Scanner Value := do
  char '\x7b'
  let pairs ← separated (char ',') (do
    let found ← pair item
    blanks
    return found)
  blanks
  char '\x7d'
  let grown := pairs.foldlM (fun entries (keys, value) => Entries.assignPath? keys value entries) []
  if grown.isSome then return .other else failure

/-- A value in which arrays and tables nest at most `depth` deep. -/
def value : (depth : Nat) → Scanner Value
  | 0 => scalar
  | depth + 1 => scalar <|> array (value depth) <|> inlineTable (value depth)

end HostBridge.Toml
