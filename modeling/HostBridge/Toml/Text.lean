import HostBridge.Toml.Blank
import HostBridge.Bytes.Hex

/-!
# Strings and keys

A string stands between double quotes, where a backslash escapes, or between single quotes, where
nothing does; with three quotes on each side it may run over lines. Next to the closing quotes of
such a string may stand one or two that belong to it. A key is a string on one line or a bare word,
and keys with dots between them are a path.
-/

namespace HostBridge.Toml

open Scanner

/-- One hex digit. -/
def hexDigit : Scanner Nat := fun
  | c :: rest => if c.toNat < 0x80 then (Hex.digit? (UInt8.ofNat c.toNat)).map (·, rest) else none
  | [] => none

/-- The character whose code is given in exactly `count` hex digits. -/
def codePoint (count : Nat) : Scanner Char := do
  let digits ← (List.replicate count ()).mapM fun _ => hexDigit
  let code := digits.foldl (fun code digit => code * 16 + digit) 0
  if code.isValidChar then return Char.ofNat code else failure

/-- An escape, from the backslash on. -/
def escape : Scanner Char := do
  char '\x5c'
  match ← satisfying fun _ => true with
  | 'b' => return '\x08'
  | 't' => return '\t'
  | 'n' => return '\n'
  | 'f' => return '\x0c'
  | 'r' => return '\r'
  | '\x22' => return '\x22'
  | '\x5c' => return '\x5c'
  | 'u' => codePoint 4
  | 'U' => codePoint 8
  | _ => failure

/-- Characters that stand for themselves between double quotes. -/
def basicRun : Scanner (List Char) := run1 fun c => isPlain c && c != '\x22' && c != '\x5c'

/-- Characters that stand for themselves between single quotes. -/
def literalRun : Scanner (List Char) := run1 fun c => isPlain c && c != '\x27'

/-- A string between double quotes, on one line. -/
def basicString : Scanner (List Char) := do
  char '\x22'
  let pieces ← many (basicRun <|> (do return [← escape]))
  char '\x22'
  return pieces.flatten

/-- A string between single quotes, on one line. -/
def literalString : Scanner (List Char) := do
  char '\x27'
  let content ← maybe literalRun
  char '\x27'
  return content.getD []

/-- One or two quotes within a string over lines. -/
def innerQuotes (quote : Char) : Scanner (List Char) := do
  let quotes ← run1 (· == quote)
  if quotes.length ≤ 2 then return quotes else failure

/-- The quotes that close a string over lines, and before them up to two that belong to it. -/
def closingQuotes (quote : Char) : Scanner (List Char) := do
  let quotes ← run (· == quote)
  if 3 ≤ quotes.length ∧ quotes.length ≤ 5 then return quotes.drop 3 else failure

/-- The end of a line within a string. However it is written, it counts as one character. -/
def lineBreak : Scanner (List Char) := do
  newline
  return ['\n']

/-- A backslash at the end of a line, which hides all blanks and line ends up to what follows. -/
def hiddenBreak : Scanner (List Char) := do
  char '\x5c'
  blanks
  newline
  let _ ← many ((do let _ ← run1 fun c => c == ' ' || c == '\t') <|> newline)
  return []

/-- A string over lines between `quote`s, made up of pieces. A line end right behind the opening
quotes is no part of it. -/
def longString (quote : Char) (piece : Scanner (List Char)) : Scanner (List Char) := do
  word [quote, quote, quote]
  let _ ← maybe newline
  let pieces ← many (piece <|> innerQuotes quote)
  let rest ← closingQuotes quote
  return pieces.flatten ++ rest

/-- A string of any kind. -/
def string : Scanner String := do
  let escaped : Scanner (List Char) := do return [← escape]
  let characters ← longString '\x22' (basicRun <|> hiddenBreak <|> escaped <|> lineBreak)
    <|> basicString
    <|> longString '\x27' (literalRun <|> lineBreak)
    <|> literalString
  return String.ofList characters

/-- A key without dots. -/
def simpleKey : Scanner String := do
  let bare := run1 fun c => c.isAlphanum || c == '-' || c == '_'
  return String.ofList (← basicString <|> literalString <|> bare)

/-- The depth to which arrays and tables may nest, and the parts that a path may have. -/
def nestingLimit : Nat := 79

/-- A path of keys, with blanks around each. -/
def path : Scanner (List String) := do
  let part : Scanner String := do
    blanks
    let key ← simpleKey
    blanks
    return key
  let keys ← separated (char '.') part
  if keys.isEmpty ∨ keys.length > nestingLimit then failure else return keys

end HostBridge.Toml
