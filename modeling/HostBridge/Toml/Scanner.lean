/-!
# Scanners

A scanner takes a form from the front of a text and leaves the rest, or finds that the text does
not begin with that form. An alternative is tried from where the one before it started.
-/

namespace HostBridge.Toml

/-- Something that is read from the front of a text. -/
abbrev Scanner (α : Type) := StateT (List Char) Option α

namespace Scanner

variable {α : Type}

/-- One character that has a property. -/
def satisfying (property : Char → Bool) : Scanner Char
  | c :: rest => if property c then some (c, rest) else none
  | [] => none

/-- One character that is given. -/
def char (c : Char) : Scanner Unit := do let _ ← satisfying (· == c)

/-- The characters of a word, in order. -/
def word (characters : List Char) : Scanner Unit := characters.forM char

/-- The longest run of characters that have a property. It may be empty. -/
def run (property : Char → Bool) : Scanner (List Char) := fun text =>
  some (text.takeWhile property, text.dropWhile property)

/-- The longest run of characters that have a property, if it is not empty. -/
def run1 (property : Char → Bool) : Scanner (List Char) := do
  let found ← run property
  if found.isEmpty then failure else return found

/-- The end of the text. -/
def ending : Scanner Unit
  | [] => some ((), [])
  | _ :: _ => none

/-- What is there if it is there. -/
def maybe (scanner : Scanner α) : Scanner (Option α) := (some <$> scanner) <|> pure none

/-- As many as there are one after the other, at most `bound`. They are put before `found`, the last
one first. -/
def collect (scanner : Scanner α) : (bound : Nat) → (found : List α) → List Char →
    List α × List Char
  | 0, found, text => (found, text)
  | bound + 1, found, text =>
    match scanner text with
    | none => (found, text)
    | some (item, rest) => collect scanner bound (item :: found) rest

/-- As many as there are one after the other. Each takes a character at least, so a text holds no
more of them than it has characters. -/
def many (scanner : Scanner α) : Scanner (List α) := fun text =>
  let (found, rest) := collect scanner text.length [] text
  some (found.reverse, rest)

/-- As many as there are, with separators between them. There may be none. -/
def separated (separator : Scanner Unit) (scanner : Scanner α) : Scanner (List α) := do
  match ← maybe scanner with
  | none => return []
  | some first => return first :: (← many (do separator; scanner))

end Scanner

end HostBridge.Toml
