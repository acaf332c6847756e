import HostBridge.Toml.Scanner

/-!
# Blanks, comments and ends of lines

What may stand between the forms of a document without a meaning of its own. Control characters,
the tabulator apart, stand nowhere.
-/

namespace HostBridge.Toml

open Scanner

/-- Whether a character may stand in a comment or in a string as it is. -/
def isPlain (c : Char) : Bool := c == '\t' || (0x20 ≤ c.toNat && c.toNat != 0x7F)

/-- Blanks within a line. There may be none. -/
def blanks : Scanner Unit := do let _ ← run fun c => c == ' ' || c == '\t'

/-- The end of a line that is not the last. -/
def newline : Scanner Unit := char '\n' <|> word ['\r', '\n']

/-- A comment, up to the end of its line. -/
def comment : Scanner Unit := do
  char '#'
  let _ ← run isPlain

/-- What may follow on a line: blanks, a comment, and the end of the line or of the text. -/
def lineEnd : Scanner Unit := do
  blanks
  let _ ← maybe comment
  newline <|> ending

/-- Blanks, comments and ends of lines, as they may stand between the items of an array. -/
def gap : Scanner Unit := do
  let blank : Scanner Unit := do let _ ← run1 fun c => c == ' ' || c == '\t'
  let _ ← many (blank <|> newline <|> comment)

end HostBridge.Toml
